import CardDuel.Proofs.Census

/-!
# Every card in its place

A table is in order when every physical card lies in exactly one place, a zone or the
chain, and in a zone of its owner if it lies in a zone.  In the middle of a move some cards
may be loose: they have been lifted out of their zone and not been put anywhere yet.

* `Table.Placed`: the table is in order, apart from a list of loose cards.
* `Placed.remove`, `Placed.placeInPile`, `Placed.chain` and `Placed.unchain`: lifting a
  card and putting it down again.
* `Placed.count_census` and `Placed.misplaced?`: what this means for a count of the cards,
  and for the audit.
* `not_mem_moveToPile`: a card that is moved to a pile leaves its zone.
-/

namespace CardDuel

namespace CardMap

variable {α : Type}

theorem mem_keys {m : CardMap α} {card : CardRef} : card ∈ m.keys ↔ (m.get? card).isSome := by
  simp only [keys, get?, List.mem_map, Option.isSome_map, List.find?_isSome, beq_iff_eq]

end CardMap

namespace CardSet

theorem erase_perm {s : CardSet} {card : CardRef} (h : card ∈ s) :
    (card :: (s.erase card).toList).Perm s.toList := by
  have hn : card ∉ (s.erase card).toList := fun hm => (mem_erase.1 hm).2 rfl
  rw [List.perm_ext_iff_of_nodup (List.nodup_cons.2 ⟨hn, nodup _⟩) s.nodup]
  intro x
  rw [List.mem_cons]
  constructor
  · rintro (rfl | hx)
    · exact h
    · exact (mem_erase.1 hx).1
  · intro hx
    by_cases hxc : x = card
    · exact .inl hxc
    · exact .inr (mem_erase.2 ⟨hx, hxc⟩)

theorem mem_ofList {cards : List CardRef} {card : CardRef} :
    card ∈ ofList cards ↔ card ∈ cards := by
  have general : ∀ (cards : List CardRef) (s : CardSet),
      card ∈ cards.foldl insert s ↔ card ∈ s ∨ card ∈ cards := by
    intro cards
    induction cards with
    | nil => simp
    | cons c cs ih =>
      intro s
      rw [List.foldl_cons, ih, mem_insert, List.mem_cons]
      tauto
  simpa [ofList] using general cards empty

end CardSet

/-- A card that lies on a side once lies in one zone. -/
theorem Side.zone_unique {side : Side} {zone zone' : Zone} {card : CardRef}
    (once : side.cards.count card ≤ 1) (there : card ∈ side.cardsIn zone)
    (there' : card ∈ side.cardsIn zone') : zone = zone' := by
  rw [Side.count_cards] at once
  have pos := List.count_pos_iff.2 there
  have pos' := List.count_pos_iff.2 there'
  cases zone <;> cases zone' <;> first | rfl | omega

namespace Table

variable {t t' : Table} {loose : List CardRef} {seat : Seat} {zone : Zone} {card : CardRef}

/-- Every physical card is loose or lies in one place, and nothing else lies anywhere.
Whatever lies on a side belongs to its player. -/
structure Placed (loose : List CardRef) (t : Table) : Prop where
  once : (loose ++ t.census).Perm t.copies.keys
  owned : t.Owned

theorem mem_keys_iff : card ∈ t.copies.keys ↔ t.knows card := CardMap.mem_keys

theorem exists_owner (h : t.knows card) : ∃ owner, t.owner? card = some owner := by
  obtain ⟨copy, hc⟩ := Option.isSome_iff_exists.1 h
  exact ⟨copy.owner, by rw [owner?, hc]; rfl⟩

namespace Placed

theorem rearranged (h : t.Placed loose) (hr : Rearranged t t') : t'.Placed loose where
  once := by
    rw [hr.copies]
    exact (hr.census.append_left loose).trans h.once
  owned := hr.owned h.owned

theorem nodup (h : t.Placed loose) : (loose ++ t.census).Nodup :=
  h.once.nodup_iff.2 t.copies.nodup_keys

theorem knows (h : t.Placed loose) (hm : card ∈ loose ++ t.census) : t.knows card :=
  mem_keys_iff.1 (h.once.mem_iff.1 hm)

theorem count_census (h : t.Placed []) (card : CardRef) :
    t.census.count card = if t.knows card then 1 else 0 := by
  have hc : t.census.count card = t.copies.keys.count card := h.once.count_eq card
  rw [hc, t.copies.nodup_keys.count]
  simp only [mem_keys_iff]

theorem mem_census_of_mem_cards (h : card ∈ (t.side seat).cards) : card ∈ t.census := by
  rw [census_eq]
  cases seat
  · exact List.mem_append_left _ (List.mem_append_left _ h)
  · exact List.mem_append_left _ (List.mem_append_right _ h)

/-- A card that lies in a zone is known. -/
theorem knows_of_held (h : t.Placed []) (held : card ∈ (t.side seat).cardsIn zone) :
    t.knows card :=
  h.knows (mem_census_of_mem_cards (Side.mem_cards_of_mem held))

/-- A loose card lies in no zone. -/
theorem locate?_of_loose (h : t.Placed (card :: loose)) : t.locate? card = none := by
  rw [locate?_eq_none]
  intro seat hm
  have hn := (List.nodup_cons.1 h.nodup).1
  exact hn (List.mem_append_right _ (mem_census_of_mem_cards hm))

/-- A card on the chain lies in no zone. -/
theorem locate?_of_chained (h : t.Placed loose) (hc : card ∈ t.chained) :
    t.locate? card = none := by
  rw [locate?_eq_none]
  intro seat hm
  have hn := (List.nodup_append.1 h.nodup).2.1
  rw [census_eq] at hn
  have hside : card ∈ (t.side .host).cards ++ (t.side .opponent).cards := by
    cases seat
    · exact List.mem_append_left _ hm
    · exact List.mem_append_right _ hm
  exact (List.nodup_append.1 hn).2.2 card hside card hc rfl

theorem count_cards_le (h : t.Placed loose) (seat : Seat) (card : CardRef) :
    (t.side seat).cards.count card ≤ 1 := by
  have hn := (List.nodup_append.1 h.nodup).2.1
  have hc := List.nodup_iff_count.1 hn card
  rw [Table.count_census] at hc
  cases seat <;> omega

/-- A card lies in one zone at most. -/
theorem zone_unique {zone' : Zone} (h : t.Placed loose)
    (hm : card ∈ (t.side seat).cardsIn zone) (hm' : card ∈ (t.side seat).cardsIn zone') :
    zone = zone' :=
  Side.zone_unique (h.count_cards_le seat card) hm hm'

/-- A card lies in one zone of one side at most. -/
theorem place_unique {seat' : Seat} {zone' : Zone} (h : t.Placed loose)
    (there : card ∈ (t.side seat).cardsIn zone) (there' : card ∈ (t.side seat').cardsIn zone') :
    seat = seat' ∧ zone = zone' := by
  obtain rfl : seat = seat' :=
    Option.some.inj ((h.owned seat zone card there).symm.trans (h.owned seat' zone' card there'))
  exact ⟨rfl, h.zone_unique there there'⟩

/-- In a table that is in order a card is found where it lies. -/
theorem locate?_of_mem (h : t.Placed loose) (hm : card ∈ (t.side seat).cardsIn zone) :
    t.locate? card = some (seat, zone) := by
  cases found : t.locate? card with
  | none => exact absurd (Side.mem_cards_of_mem hm) (locate?_eq_none.1 found seat)
  | some place =>
    obtain ⟨rfl, rfl⟩ := h.place_unique (mem_of_locate? found) hm
    rfl

theorem nodup_cardsIn (h : t.Placed loose) (seat : Seat) (zone : Zone) :
    ((t.side seat).cardsIn zone).Nodup := by
  refine List.nodup_iff_count.2 fun card => ?_
  have once := h.count_cards_le seat card
  rw [Side.count_cards] at once
  cases zone <;> omega

/-- Lifting a card out of its zone. -/
theorem remove (h : t.Placed loose) (hm : card ∈ (t.side seat).cardsIn zone) :
    (t.modifySide seat (·.remove zone card)).Placed (card :: loose) where
  once := by
    have hc := census_remove hm
    have hl : (card :: (loose ++ (t.modifySide seat (·.remove zone card)).census)).Perm
        (loose ++ (card :: (t.modifySide seat (·.remove zone card)).census)) :=
      List.perm_middle.symm
    exact hl.trans ((hc.append_left loose).trans h.once)
  owned := h.owned.remove hm

/-- Putting a loose card on a pile of its owner. -/
theorem placeInPile? (h : t.Placed (card :: loose)) (pile : Pile) (place : DeckPlace) :
    ∃ owner, t.owner? card = some owner ∧
      t.placeInPile? card pile place = some (t.push owner pile card place) ∧
      (t.push owner pile card place).Placed loose := by
  obtain ⟨owner, ho⟩ := exists_owner (h.knows (List.mem_append_left _ List.mem_cons_self))
  refine ⟨owner, ho, ?_, ?_, ?_⟩
  · rw [Table.placeInPile?, h.locate?_of_loose, ho]
  · have hp := t.census_push owner pile card place
    have hl : (loose ++ (card :: t.census)).Perm (card :: loose ++ t.census) := List.perm_middle
    exact (hp.append_left loose).trans (hl.trans h.once)
  · exact h.owned.push ho

theorem placeInPile (h : t.Placed (card :: loose)) (pile : Pile) (place : DeckPlace) :
    (t.placeInPile card pile place).Placed loose := by
  obtain ⟨owner, -, hp, hplaced⟩ := h.placeInPile? pile place
  rw [Table.placeInPile, hp]
  exact hplaced

/-- Putting a loose card on the chain. -/
theorem chain (h : t.Placed (card :: loose)) :
    ({ t with chained := t.chained.insert card } : Table).Placed loose where
  once := by
    have hn : card ∉ t.chained := by
      intro hc
      have hm : card ∈ t.census := List.mem_append_right _ hc
      exact (List.nodup_cons.1 h.nodup).1 (List.mem_append_right _ hm)
    refine List.Perm.trans ?_ h.once
    rw [List.perm_iff_count]
    intro x
    have hx := (CardSet.insert_perm hn).count_eq x
    simp only [List.count_append, census_eq, List.count_cons, side] at hx ⊢
    omega
  owned := h.owned

/-- Taking a card off the chain. -/
theorem unchain (h : t.Placed loose) (hc : card ∈ t.chained) :
    ({ t with chained := t.chained.erase card } : Table).Placed (card :: loose) where
  once := by
    refine List.Perm.trans ?_ h.once
    rw [List.perm_iff_count]
    intro x
    have hx := (CardSet.erase_perm hc).count_eq x
    simp only [List.count_append, census_eq, List.count_cons, side] at hx ⊢
    omega
  owned := h.owned

/-- The audit finds nothing. -/
theorem misplaced? (h : t.Placed []) : t.misplaced? = none := by
  rw [Table.misplaced?, Option.map_eq_none_iff, List.find?_eq_none]
  intro card hm
  have hk : t.knows card := by
    rcases List.mem_append.1 (CardSet.mem_ofList.1 hm) with hm | hm
    · exact mem_keys_iff.1 hm
    · exact h.knows hm
  rw [h.count_census, if_pos hk]
  decide

end Placed

/-! ## Cards that leave a zone -/

section

variable {owner : Seat} {moved : CardRef} {pile : Pile} {place : DeckPlace}

/-- Only the pile that a card is put on takes it in. -/
theorem cardsIn_push (t : Table) (owner seat : Seat) (card : CardRef) (place : DeckPlace)
    (other : zone ≠ pile.zone) :
    ((t.push owner pile card place).side seat).cardsIn zone = (t.side seat).cardsIn zone := by
  obtain ⟨cards, same, -⟩ := (t.side owner).push_eq pile card place t.rng
  show ((t.modifySide owner fun side => (side.push pile card place t.rng).1).side seat).cardsIn
    zone = _
  rw [side_modifySide]
  split
  · next here => rw [here, same, Side.cardsIn_setPile, if_neg other]
  · rfl

/-- A card that is moved to a pile lies no more in the zone in which it lay. -/
theorem not_mem_moveToPile (h : t.Placed loose) (there : card ∈ (t.side seat).cardsIn zone)
    (other : zone ≠ pile.zone) :
    card ∉ ((t.moveToPile card pile place).side seat).cardsIn zone := by
  let taken : Table := t.modifySide seat (·.remove zone card)
  have moved : t.moveToPile? card pile place = some (zone, taken.push seat pile card place) :=
    moveToPile?_eq_some.2 ⟨seat, seat, h.owned seat zone card there, h.locate?_of_mem there, rfl⟩
  rw [moveToPile, moved]
  show card ∉ ((taken.push seat pile card place).side seat).cardsIn zone
  rw [cardsIn_push _ _ _ _ _ other, side_modifySide_self, Side.cardsIn_remove, if_pos rfl,
    (h.nodup_cardsIn seat zone).mem_erase_iff]
  exact fun still => still.1 rfl

/-- No other zone takes a card in. -/
theorem mem_of_mem_moveToPile (other : zone ≠ pile.zone)
    (there : card ∈ ((t.moveToPile moved pile place).side seat).cardsIn zone) :
    card ∈ (t.side seat).cardsIn zone := by
  rw [moveToPile] at there
  split at there
  · next found =>
    obtain ⟨owner, holder, -, -, rfl⟩ := moveToPile?_eq_some.1 found
    rw [cardsIn_push _ _ _ _ _ other, side_modifySide] at there
    split at there
    · rw [Side.cardsIn_remove] at there
      split at there
      · exact List.mem_of_mem_erase there
      · exact there
    · exact there
  · exact there

end

end Table

end CardDuel
