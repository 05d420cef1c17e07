import CardDuel.Proofs.Census

/-!
# Cards that stay where they are

A change of the table moves few cards, mostly one.  This file says that all others stay.

* `Side.Stays` and `Table.Stays`: a card lies in the zones in which it lay before, and is on
  the chain if it was.
* `stays_remove`, `stays_push`, `stays_moveToPile?` and their neighbours: a change that moves
  one card leaves every other card where it is.
* `Stays.locate?`: a card that stays is found where it was found before.
-/

namespace CardDuel

namespace Side

variable {side side' side'' : Side} {zone : Zone} {card moved : CardRef}

/-- A card lies in the same zones of a side as before. -/
def Stays (card : CardRef) (side side' : Side) : Prop :=
  ∀ zone, card ∈ side'.cardsIn zone ↔ card ∈ side.cardsIn zone

theorem Stays.trans (h : Stays card side side') (h' : Stays card side' side'') :
    Stays card side side'' :=
  fun zone => (h' zone).trans (h zone)

/-- A change of a side that moves no card. -/
theorem stays_of_cardsIn (h : ∀ zone, side'.cardsIn zone = side.cardsIn zone) :
    Stays card side side' :=
  fun zone => by rw [h zone]

theorem stays_remove (zone : Zone) (h : card ≠ moved) :
    Stays card side (side.remove zone moved) := by
  intro z
  rw [cardsIn_remove]
  split
  · exact List.mem_erase_of_ne h
  · exact .rfl

/-- A pile that is replaced by one with the same cards, apart from those that move. -/
theorem stays_setPile {pile : Pile} {cards : List CardRef}
    (h : card ∈ cards ↔ card ∈ side.pile pile) : Stays card side (side.setPile pile cards) := by
  intro z
  rw [cardsIn_setPile]
  split
  · next there =>
    rw [there, cardsIn_pile]
    exact h
  · exact .rfl

theorem mem_iff_of_perm_cons {xs ys : List CardRef} (h : xs.Perm (moved :: ys))
    (hne : card ≠ moved) : card ∈ xs ↔ card ∈ ys := by
  rw [h.mem_iff, List.mem_cons]
  exact ⟨fun hm => hm.resolve_left hne, .inr⟩

theorem stays_push (pile : Pile) (place : DeckPlace) (rng : Rng) (h : card ≠ moved) :
    Stays card side (side.push pile moved place rng).1 := by
  obtain ⟨cards, hside, hperm⟩ := side.push_eq pile moved place rng
  rw [hside]
  exact stays_setPile (mem_iff_of_perm_cons hperm h)

theorem stays_placeMonster {monster : Monster} (h : card ≠ monster.card) :
    Stays card side (side.placeMonster monster) := by
  intro z
  cases z <;> simp [placeMonster, cardsIn, h]

theorem stays_placeSpellTrap {laid : SetCard} (h : card ≠ laid.card) :
    Stays card side (side.placeSpellTrap laid) := by
  intro z
  cases z <;> simp [placeSpellTrap, cardsIn, h]

/-- Only the cards on top of the deck go to the other pile. -/
theorem stays_turnOver {count : Nat} {pile : Pile} (h : card ∉ side.deck.take count) :
    Stays card side (side.turnOver count pile) := by
  have rest : card ∈ side.deck.drop count ↔ card ∈ side.deck := by
    conv_rhs => rw [← List.take_append_drop count side.deck, List.mem_append]
    exact ⟨.inr, fun hm => hm.resolve_left h⟩
  have taken : Stays card side { side with deck := side.deck.drop count } := by
    intro z
    cases z <;> first | exact rest | exact .rfl
  refine taken.trans (stays_setPile ?_)
  rw [List.mem_append]
  exact ⟨fun hm => hm.resolve_right h, .inl⟩

theorem stays_modifyMonster {change : Monster → Monster} (h : ∀ m, (change m).card = m.card)
    (moved : CardRef) : Stays card side (side.modifyMonster moved change) :=
  stays_of_cardsIn (cardsIn_modifyMonster h side moved)

end Side

namespace Table

variable {t t' t'' : Table} {seat : Seat} {zone : Zone} {card moved : CardRef} {pile : Pile}
  {place : DeckPlace}

/-- A card is in the same place as before. -/
structure Stays (card : CardRef) (t t' : Table) : Prop where
  zones : ∀ seat, Side.Stays card (t.side seat) (t'.side seat)
  chained : card ∈ t'.chained ↔ card ∈ t.chained

theorem Stays.refl (card : CardRef) (t : Table) : Stays card t t := ⟨fun _ _ => .rfl, .rfl⟩

theorem Stays.symm (h : Stays card t t') : Stays card t' t :=
  ⟨fun seat zone => (h.zones seat zone).symm, h.chained.symm⟩

theorem Stays.trans (h : Stays card t t') (h' : Stays card t' t'') : Stays card t t'' :=
  ⟨fun seat => (h.zones seat).trans (h'.zones seat), h'.chained.trans h.chained⟩

/-- A card that stays is found where it was found before. -/
theorem Stays.locate? (h : Stays card t t') : t'.locate? card = t.locate? card := by
  have held (seat : Seat) (zone : Zone) :
      (t'.side seat).holds zone card = (t.side seat).holds zone card := by
    rw [Bool.eq_iff_iff, Side.holds_iff, Side.holds_iff]
    exact h.zones seat zone
  have zoneOf (seat : Seat) : (t'.side seat).zoneOf? card = (t.side seat).zoneOf? card := by
    unfold Side.zoneOf?
    simp only [held]
  unfold Table.locate?
  simp only [zoneOf]

/-- The piles and the chain are as they were. -/
theorem stays_of_side (sides : ∀ seat, t'.side seat = t.side seat)
    (chained : t'.chained = t.chained) : Stays card t t' :=
  ⟨fun seat => by rw [sides seat]; exact fun _ => .rfl, by rw [chained]⟩

theorem stays_modifySide {change : Side → Side}
    (h : Side.Stays card (t.side seat) (change (t.side seat))) :
    Stays card t (t.modifySide seat change) := by
  refine ⟨fun seat' => ?_, .rfl⟩
  rw [side_modifySide]
  split
  · next same =>
    rw [same]
    exact h
  · exact fun _ => .rfl

theorem stays_push (t : Table) (seat : Seat) (pile : Pile) (place : DeckPlace)
    (h : card ≠ moved) : Stays card t (t.push seat pile moved place) := by
  have put : Stays card t (t.modifySide seat fun side => (side.push pile moved place t.rng).1) :=
    stays_modifySide (Side.stays_push pile place t.rng h)
  rw [push_eq]
  exact ⟨put.zones, put.chained⟩

theorem stays_moveToPile? (there : t.moveToPile? moved pile place = some (zone, t'))
    (h : card ≠ moved) : Stays card t t' := by
  obtain ⟨owner, holder, -, -, rfl⟩ := moveToPile?_eq_some.1 there
  have taken : Stays card t (t.modifySide holder (·.remove zone moved)) :=
    stays_modifySide (Side.stays_remove zone h)
  exact taken.trans (stays_push _ owner pile place h)

theorem stays_moveToPile (t : Table) (pile : Pile) (place : DeckPlace) (h : card ≠ moved) :
    Stays card t (t.moveToPile moved pile place) := by
  rw [moveToPile]
  split
  · next there => exact stays_moveToPile? there h
  · exact .refl card t

theorem stays_placeInPile (t : Table) (pile : Pile) (place : DeckPlace) (h : card ≠ moved) :
    Stays card t (t.placeInPile moved pile place) := by
  unfold placeInPile placeInPile?
  split
  · exact stays_push t _ pile place h
  · exact .refl card t

theorem stays_shuffleDeck (t : Table) (seat : Seat) : Stays card t (t.shuffleDeck seat) := by
  let deck := (t.rng.shuffle (t.side seat).deck).1
  have mixed : Side.Stays card (t.side seat) ((t.side seat).setPile .deck deck) :=
    Side.stays_setPile (Rng.shuffle_perm _ _).mem_iff
  have put : Stays card t (t.modifySide seat (·.setPile .deck deck)) :=
    stays_modifySide mixed
  exact ⟨put.zones, put.chained⟩

theorem stays_modifyMonster {change : Monster → Monster} (h : ∀ m, (change m).card = m.card)
    (t : Table) (moved : CardRef) : Stays card t (t.modifyMonster moved change) := by
  rw [modifyMonster]
  split
  · exact stays_modifySide (Side.stays_modifyMonster h moved)
  · exact .refl card t

/-- A card that is put on the chain leaves the others off it. -/
theorem stays_chain (t : Table) (h : card ≠ moved) :
    Stays card t { t with chained := t.chained.insert moved } :=
  ⟨fun _ _ => .rfl, CardSet.mem_insert.trans ⟨fun hm => hm.resolve_left h, .inr⟩⟩

theorem stays_unchain (t : Table) (h : card ≠ moved) :
    Stays card t { t with chained := t.chained.erase moved } :=
  ⟨fun _ _ => .rfl, CardSet.mem_erase.trans ⟨And.left, fun hm => ⟨hm, h⟩⟩⟩

end Table

end CardDuel
