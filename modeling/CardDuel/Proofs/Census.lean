import CardDuel.Table.Audit
import Mathlib.Data.List.Perm.Basic

/-!
# Where the cards lie

Whatever happens on a table, cards only change places.  This file follows them:
first over one side, then over the whole table.

* `shuffle_perm`: a shuffle only changes the order.
* `Side.remove_perm`, `Side.push_perm` and their neighbours: what each change of a side
  does to the list of all its cards.
* `Table.Owned`: every card lies on the side of its owner.
* `Table.Rearranged`: the same physical cards lie about, possibly in other places.
  It is a preorder, and `moveToPile_rearranged` and its neighbours show that the changes
  which effects are made of are of this kind.
* `Table.Placed`: every physical card lies in one place, apart from some loose cards that
  have been lifted out of their zones and not been put anywhere yet.
-/

namespace CardDuel

/-! ## Random order -/

theorem Rng.exchange_perm {α : Type} (items : Array α) (last : Nat) (rng : Rng) :
    (exchange items last rng).1.Perm items := by
  induction last generalizing items rng with
  | zero => exact .refl _
  | succ last ih =>
    rw [exchange]
    refine (ih _ _).trans ?_
    rw [Array.swapIfInBounds_def]
    split
    · split
      · exact Array.swap_perm _ _
      · exact .refl _
    · exact .refl _

/-- A shuffle only changes the order. -/
theorem Rng.shuffle_perm {α : Type} (items : List α) (rng : Rng) :
    (rng.shuffle items).1.Perm items := by
  have h := Rng.exchange_perm items.toArray (items.length - 1) rng
  simpa [Rng.shuffle, Array.perm_iff_toList_perm] using h

/-! ## One side -/

namespace Side

variable {side other : Side} {zone : Zone} {card : CardRef}

theorem holds_iff : side.holds zone card ↔ card ∈ side.cardsIn zone := by simp [holds]

theorem mem_cards : card ∈ side.cards ↔ ∃ zone, card ∈ side.cardsIn zone := by
  simp only [cards, List.mem_flatMap]
  exact ⟨fun ⟨zone, _, h⟩ => ⟨zone, h⟩, fun ⟨zone, h⟩ => ⟨zone, zone.mem_all, h⟩⟩

theorem mem_cards_of_mem (h : card ∈ side.cardsIn zone) : card ∈ side.cards :=
  mem_cards.2 ⟨zone, h⟩

theorem mem_of_zoneOf? (h : side.zoneOf? card = some zone) : card ∈ side.cardsIn zone :=
  holds_iff.1 (List.find?_some (p := fun zone => side.holds zone card) h)

theorem zoneOf?_eq_none : side.zoneOf? card = none ↔ card ∉ side.cards := by
  simp only [zoneOf?, List.find?_eq_none, holds_iff, mem_cards, not_exists]
  exact ⟨fun h zone => h zone zone.mem_all, fun h zone _ => h zone⟩

theorem count_cards (card : CardRef) :
    side.cards.count card = (side.cardsIn .hand).count card + (side.cardsIn .deck).count card +
      (side.cardsIn .graveyard).count card + (side.cardsIn .banished).count card +
      (side.cardsIn .board).count card + (side.cardsIn .spellTrap).count card := by
  simp only [cards, Zone.all, List.flatMap_cons, List.flatMap_nil, List.count_append,
    List.count_nil]
  omega

/-- Two sides that differ in one zone differ as a whole by as many cards as in that
zone. -/
theorem cards_perm (xs ys : List CardRef) (zone : Zone)
    (same : ∀ z, z ≠ zone → side.cardsIn z = other.cardsIn z)
    (h : (xs ++ side.cardsIn zone).Perm (ys ++ other.cardsIn zone)) :
    (xs ++ side.cards).Perm (ys ++ other.cards) := by
  rw [List.perm_iff_count]
  intro card
  have hz := h.count_eq card
  simp only [List.count_append, count_cards] at hz ⊢
  have hs : ∀ z, z ≠ zone → (side.cardsIn z).count card = (other.cardsIn z).count card :=
    fun z hne => by rw [same z hne]
  have h1 := hs .hand
  have h2 := hs .deck
  have h3 := hs .graveyard
  have h4 := hs .banished
  have h5 := hs .board
  have h6 := hs .spellTrap
  cases zone <;> simp at h1 h2 h3 h4 h5 h6 <;> omega

theorem cardsIn_remove (side : Side) (zone z : Zone) (card : CardRef) :
    (side.remove zone card).cardsIn z =
      if z = zone then (side.cardsIn z).erase card else side.cardsIn z := by
  have board : (side.board.eraseP (·.card == card)).map (·.card) =
      (side.board.map (·.card)).erase card := by
    rw [List.erase_eq_eraseP', List.eraseP_map]
    rfl
  have spellTrap : (side.spellTraps.eraseP (·.card == card)).map (·.card) =
      (side.spellTraps.map (·.card)).erase card := by
    rw [List.erase_eq_eraseP', List.eraseP_map]
    rfl
  cases zone <;> cases z <;> simp [remove, cardsIn, board, spellTrap]

/-- A card taken out of a zone that holds it is the only one that goes. -/
theorem remove_perm (h : card ∈ side.cardsIn zone) :
    (card :: (side.remove zone card).cards).Perm side.cards := by
  refine cards_perm [card] [] zone ?_ ?_
  · intro z hne
    rw [cardsIn_remove, if_neg hne]
  · rw [cardsIn_remove, if_pos rfl]
    exact (List.perm_cons_erase h).symm

theorem cardsIn_setPile (side : Side) (pile : Pile) (cards : List CardRef) (z : Zone) :
    (side.setPile pile cards).cardsIn z = if z = pile.zone then cards else side.cardsIn z := by
  cases pile <;> cases z <;> rfl

theorem cardsIn_pile (side : Side) (pile : Pile) : side.cardsIn pile.zone = side.pile pile := by
  cases pile <;> rfl

theorem setPile_perm {pile : Pile} {cards : List CardRef} (xs ys : List CardRef)
    (h : (xs ++ cards).Perm (ys ++ side.pile pile)) :
    (xs ++ (side.setPile pile cards).cards).Perm (ys ++ side.cards) := by
  refine cards_perm xs ys pile.zone ?_ ?_
  · intro z hne
    rw [cardsIn_setPile, if_neg hne]
  · rw [cardsIn_setPile, if_pos rfl, cardsIn_pile]
    exact h

/-- A push is a new order of the pile with one more card in it. -/
theorem push_eq (side : Side) (pile : Pile) (card : CardRef) (place : DeckPlace) (rng : Rng) :
    ∃ cards, (side.push pile card place rng).1 = side.setPile pile cards ∧
      cards.Perm (card :: side.pile pile) := by
  have append : (side.pile pile ++ [card]).Perm (card :: side.pile pile) :=
    List.perm_append_singleton _ _
  cases pile with
  | deck =>
    cases place with
    | top => exact ⟨_, rfl, .refl _⟩
    | bottom => exact ⟨_, rfl, append⟩
    | shuffled => exact ⟨_, rfl, (Rng.shuffle_perm _ _).trans append⟩
  | hand => cases place <;> exact ⟨_, rfl, append⟩
  | graveyard => cases place <;> exact ⟨_, rfl, append⟩
  | banished => cases place <;> exact ⟨_, rfl, append⟩

theorem push_perm (side : Side) (pile : Pile) (card : CardRef) (place : DeckPlace) (rng : Rng) :
    (side.push pile card place rng).1.cards.Perm (card :: side.cards) := by
  obtain ⟨cards, hside, hperm⟩ := side.push_eq pile card place rng
  rw [hside]
  exact setPile_perm [] [card] hperm

theorem placeMonster_perm (side : Side) (monster : Monster) :
    (side.placeMonster monster).cards.Perm (monster.card :: side.cards) := by
  refine cards_perm [] [monster.card] .board ?_ ?_
  · intro z hne
    cases z <;> first | rfl | exact absurd rfl hne
  · simp only [placeMonster, cardsIn, List.map_append, List.map_cons, List.map_nil]
    exact List.perm_append_singleton _ _

theorem placeSpellTrap_perm (side : Side) (laid : SetCard) :
    (side.placeSpellTrap laid).cards.Perm (laid.card :: side.cards) := by
  refine cards_perm [] [laid.card] .spellTrap ?_ ?_
  · intro z hne
    cases z <;> first | rfl | exact absurd rfl hne
  · simp only [placeSpellTrap, cardsIn, List.map_append, List.map_cons, List.map_nil]
    exact List.perm_append_singleton _ _

/-- Cards that go from the top of the deck to another pile stay on the side. -/
theorem turnOver_perm (side : Side) (count : Nat) (pile : Pile) :
    (side.turnOver count pile).cards.Perm side.cards := by
  let rest : Side := { side with deck := side.deck.drop count }
  have taken : (side.deck.take count ++ rest.cards).Perm side.cards := by
    refine cards_perm _ [] .deck ?_ ?_
    · intro z hne
      cases z <;> first | rfl | exact absurd rfl hne
    · simp [rest, cardsIn]
  have put : (rest.setPile pile (rest.pile pile ++ side.deck.take count)).cards.Perm
      (side.deck.take count ++ rest.cards) := by
    refine setPile_perm [] _ ?_
    rw [List.nil_append]
    exact List.perm_append_comm
  exact put.trans taken

theorem map_updateFirst {α β : Type} {property : α → Bool} {change : α → α} {f : α → β}
    (h : ∀ x, f (change x) = f x) (xs : List α) :
    (updateFirst property change xs).map f = xs.map f := by
  induction xs with
  | nil => rfl
  | cons x xs ih =>
    rw [updateFirst]
    split
    · simp [h]
    · simp [ih]

/-- A change to a monster moves no card. -/
theorem cardsIn_modifyMonster {change : Monster → Monster} (h : ∀ m, (change m).card = m.card)
    (side : Side) (card : CardRef) (z : Zone) :
    (side.modifyMonster card change).cardsIn z = side.cardsIn z := by
  cases z <;> first | rfl | exact map_updateFirst h _

theorem cards_congr (h : ∀ z, side.cardsIn z = other.cardsIn z) : side.cards = other.cards := by
  simp only [cards, funext h]

end Side

/-! ## The whole table -/

namespace Table

variable {t t' t'' : Table} {seat : Seat} {zone : Zone} {card : CardRef}

@[simp] theorem side_modifySide_self (t : Table) (seat : Seat) (change : Side → Side) :
    (t.modifySide seat change).side seat = change (t.side seat) := by
  simp [side, modifySide]

theorem side_modifySide_of_ne (t : Table) {seat seat' : Seat} (change : Side → Side)
    (h : seat' ≠ seat) : (t.modifySide seat change).side seat' = t.side seat' := by
  simp [side, modifySide, Seats.get_modify_of_ne _ _ h]

theorem side_modifySide (t : Table) (seat seat' : Seat) (change : Side → Side) :
    (t.modifySide seat change).side seat' =
      if seat' = seat then change (t.side seat') else t.side seat' := by
  split
  · next same =>
    rw [same]
    exact side_modifySide_self t seat change
  · next other => exact side_modifySide_of_ne t change other

theorem push_eq (t : Table) (seat : Seat) (pile : Pile) (card : CardRef) (place : DeckPlace) :
    t.push seat pile card place =
      { t.modifySide seat fun side => (side.push pile card place t.rng).1 with
        rng := ((t.side seat).push pile card place t.rng).2 } := rfl

theorem moveToPile?_eq_some {pile : Pile} {place : DeckPlace} :
    t.moveToPile? card pile place = some (zone, t') ↔
      ∃ owner holder, t.owner? card = some owner ∧ t.locate? card = some (holder, zone) ∧
        t' = (t.modifySide holder (·.remove zone card)).push owner pile card place := by
  simp only [moveToPile?, Option.bind_eq_bind, Option.pure_def, Option.bind_eq_some_iff]
  constructor
  · rintro ⟨owner, howner, ⟨holder, z⟩, hplace, heq⟩
    obtain ⟨rfl, rfl⟩ := Prod.mk.inj (Option.some.inj heq)
    exact ⟨owner, holder, howner, hplace, rfl⟩
  · rintro ⟨owner, holder, howner, hplace, rfl⟩
    exact ⟨owner, howner, (holder, zone), hplace, rfl⟩

theorem mem_of_locate? (h : t.locate? card = some (seat, zone)) :
    card ∈ (t.side seat).cardsIn zone := by
  obtain ⟨s, _, hs⟩ := List.exists_of_findSome?_eq_some h
  obtain ⟨z, hz, heq⟩ := Option.map_eq_some_iff.1 hs
  obtain ⟨rfl, rfl⟩ := Prod.mk.inj heq
  exact Side.mem_of_zoneOf? hz

theorem locate?_eq_none :
    t.locate? card = none ↔ ∀ seat, card ∉ (t.side seat).cards := by
  simp only [locate?, List.findSome?_eq_none_iff, Option.map_eq_none_iff, Side.zoneOf?_eq_none]
  exact ⟨fun h seat => h seat (by cases seat <;> simp [Seat.all]), fun h seat _ => h seat⟩

theorem census_eq (t : Table) :
    t.census = (t.side .host).cards ++ (t.side .opponent).cards ++ t.chained.toList := rfl

theorem count_census (t : Table) (card : CardRef) :
    t.census.count card = (t.side .host).cards.count card +
      (t.side .opponent).cards.count card + t.chained.toList.count card := by
  simp only [census_eq, List.count_append]

/-- A change of one side changes the cards of the table by as many cards as those of the
side. -/
theorem census_modifySide {change : Side → Side} (xs ys : List CardRef)
    (h : (xs ++ (change (t.side seat)).cards).Perm (ys ++ (t.side seat).cards)) :
    (xs ++ (t.modifySide seat change).census).Perm (ys ++ t.census) := by
  rw [List.perm_iff_count]
  intro card
  have hc := h.count_eq card
  have chained : (t.modifySide seat change).chained = t.chained := rfl
  simp only [List.count_append, count_census, chained] at hc ⊢
  have other := t.side_modifySide_of_ne change seat.other_ne
  have self := t.side_modifySide_self seat change
  cases seat <;> simp only [Seat.other] at other <;> rw [other, self] <;> omega

/-- Every card lies on the side of its owner. -/
def Owned (t : Table) : Prop :=
  ∀ seat zone card, card ∈ (t.side seat).cardsIn zone → t.owner? card = some seat

theorem owned_iff :
    t.Owned ↔ ∀ seat, ∀ card ∈ (t.side seat).cards, t.owner? card = some seat := by
  simp only [Owned, Side.mem_cards]
  exact ⟨fun h seat card ⟨zone, hz⟩ => h seat zone card hz,
    fun h seat zone card hz => h seat card ⟨zone, hz⟩⟩

/-- A change of one side keeps every card with its owner if all the cards it adds are
those of the seat. -/
theorem Owned.modifySide {change : Side → Side} (h : t.Owned)
    (hc : ∀ card ∈ (change (t.side seat)).cards,
      card ∈ (t.side seat).cards ∨ t.owner? card = some seat) :
    (t.modifySide seat change).Owned := by
  rw [owned_iff] at h ⊢
  intro seat' card hcard
  rw [side_modifySide] at hcard
  split at hcard
  · next same =>
    subst same
    rcases hc card hcard with hm | ho
    · exact h seat' card hm
    · exact ho
  · exact h seat' card hcard

/-! ## Rearranging -/

/-- The same physical cards lie about, possibly in other places, and each still on the
side of its owner. -/
structure Rearranged (t t' : Table) : Prop where
  copies : t'.copies = t.copies
  census : t'.census.Perm t.census
  owned : t.Owned → t'.Owned

theorem Rearranged.refl (t : Table) : Rearranged t t := ⟨rfl, .refl _, id⟩

theorem Rearranged.trans (h : Rearranged t t') (h' : Rearranged t' t'') : Rearranged t t'' :=
  ⟨h'.copies.trans h.copies, h'.census.trans h.census, h'.owned ∘ h.owned⟩

/-- Moving cards about on one side. -/
theorem rearranged_modifySide {change : Side → Side}
    (h : (change (t.side seat)).cards.Perm (t.side seat).cards) :
    Rearranged t (t.modifySide seat change) where
  copies := rfl
  census := census_modifySide [] [] h
  owned ho := ho.modifySide fun _ hc => .inl (h.mem_iff.1 hc)

/-- A change of a side that moves no card. -/
theorem rearranged_of_cardsIn {change : Side → Side}
    (h : ∀ z, (change (t.side seat)).cardsIn z = (t.side seat).cardsIn z) :
    Rearranged t (t.modifySide seat change) :=
  rearranged_modifySide (by rw [Side.cards_congr h])

theorem rearranged_shuffleDeck (t : Table) (seat : Seat) :
    Rearranged t (t.shuffleDeck seat) := by
  have h : ((t.side seat).setPile .deck (t.rng.shuffle (t.side seat).deck).1).cards.Perm
      (t.side seat).cards :=
    Side.setPile_perm [] [] (Rng.shuffle_perm _ _)
  exact ⟨rfl, (rearranged_modifySide h).census, (rearranged_modifySide h).owned⟩

/-- A push puts one card more on the table. -/
theorem census_push (t : Table) (seat : Seat) (pile : Pile) (card : CardRef)
    (place : DeckPlace) : (t.push seat pile card place).census.Perm (card :: t.census) := by
  let change (side : Side) : Side := (side.push pile card place t.rng).1
  have h : (change (t.side seat)).cards.Perm (card :: (t.side seat).cards) :=
    (t.side seat).push_perm pile card place t.rng
  exact census_modifySide [] [card] h

theorem Owned.push {pile : Pile} {place : DeckPlace} (h : t.Owned)
    (ho : t.owner? card = some seat) : (t.push seat pile card place).Owned := by
  let change (side : Side) : Side := (side.push pile card place t.rng).1
  have hchange : (t.modifySide seat change).Owned := by
    refine h.modifySide ?_
    intro c hc
    rcases List.mem_cons.1 ((Side.push_perm _ _ _ _ _).mem_iff.1 hc) with rfl | hm
    · exact .inr ho
    · exact .inl hm
  exact hchange

theorem Owned.remove (h : t.Owned) (hm : card ∈ (t.side seat).cardsIn zone) :
    (t.modifySide seat (·.remove zone card)).Owned :=
  h.modifySide fun _ hc => .inl ((Side.remove_perm hm).mem_iff.1 (List.mem_cons_of_mem _ hc))

/-- A card that a zone holds lies one time less on the table when it is taken out. -/
theorem census_remove (hm : card ∈ (t.side seat).cardsIn zone) :
    (card :: (t.modifySide seat (·.remove zone card)).census).Perm t.census :=
  census_modifySide [card] [] (Side.remove_perm hm)

theorem rearranged_moveToPile? {pile : Pile} {place : DeckPlace}
    (h : t.moveToPile? card pile place = some (zone, t')) : Rearranged t t' := by
  obtain ⟨owner, holder, howner, hplace, rfl⟩ := moveToPile?_eq_some.1 h
  have hm := mem_of_locate? hplace
  refine ⟨rfl, ?_, fun ho => ?_⟩
  · exact (census_push _ _ _ _ _).trans (census_remove hm)
  · exact (ho.remove hm).push howner

end Table

end CardDuel
