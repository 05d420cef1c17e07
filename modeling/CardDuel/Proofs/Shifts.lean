import CardDuel.Proofs.Stages

/-!
# The field, and what changes it

A field is legal when it has no more cards than it has room for, and everything that lies on it
lies there as its card says.  Most changes of the table take cards off the field, if they touch
it at all.  There are few others that are made without a word about the turn or the life points:
a monster comes into play, a monster in play is altered, or a card is laid.

* `Monster.Proper` and `SetCard.Proper`: a card lies on the field as it is printed.
* `Table.Legal`: the field of both players is legal.
* `Table.Pared`: cards have left the field, and none has come onto it.  `pared_moveToPile`,
  `pared_liftCard`, `pared_cleared` and their neighbours: the changes that do no more than this.
* `Table.Shift`: the changes that touch neither the turn nor the life points, and
  `Table.SameCourse`: what they all leave alone.
* `Shift.legal`: they all keep a legal field legal.
-/

namespace CardDuel

open Resolution

/-! ## A legal field -/

/-- A monster is a creature and has the protection and the DEF that are printed on its card.  It
did not come from a later turn, and it is in defense while it is hidden. -/
structure Monster.Proper (setup : Setup) (t : Table) (monster : Monster) : Prop where
  printed : ∃ printed, setup.card? t monster.card = some printed ∧ printed.type = .creature ∧
    monster.protection = printed.ability.protection ∧ monster.defense = printed.defense
  entered : monster.enteredOn ≤ t.turn
  hidden : monster.facing = .down → monster.stance = .defense

/-- A card in the spell and trap zone is no creature.  It did not come from a later turn, is hidden
and has not been activated. -/
structure SetCard.Proper (setup : Setup) (t : Table) (laid : SetCard) : Prop where
  printed : ∃ printed, setup.card? t laid.card = some printed ∧ printed.type ≠ .creature
  entered : laid.setOn ≤ t.turn
  hidden : laid.facing = .down
  idle : laid.activated = false

namespace Table

/-- No side has more cards in play than it has room for, and each of them is as it should be. -/
structure Legal (setup : Setup) (t : Table) : Prop where
  boardRoom : ∀ seat, (t.side seat).board.length ≤ setup.rules.monsterZones
  spellTrapRoom : ∀ seat, (t.side seat).spellTraps.length ≤ setup.rules.spellTrapZones
  monsters : ∀ seat, ∀ monster ∈ (t.side seat).board, monster.Proper setup t
  setCards : ∀ seat, ∀ laid ∈ (t.side seat).spellTraps, laid.Proper setup t

end Table

section

variable {setup : Setup} {t t' : Table}

/-- A monster stays proper when time goes on. -/
theorem Monster.Proper.later {monster : Monster} (h : monster.Proper setup t)
    (copies : t'.copies = t.copies) (turn : t.turn ≤ t'.turn) : monster.Proper setup t' where
  printed := by
    rw [Setup.card?_of_copies copies]
    exact h.printed
  entered := Nat.le_trans h.entered turn
  hidden := h.hidden

theorem SetCard.Proper.later {laid : SetCard} (h : laid.Proper setup t)
    (copies : t'.copies = t.copies) (turn : t.turn ≤ t'.turn) : laid.Proper setup t' where
  printed := by
    rw [Setup.card?_of_copies copies]
    exact h.printed
  entered := Nat.le_trans h.entered turn
  hidden := h.hidden
  idle := h.idle

/-- A monster that is played or summoned is as it is printed. -/
theorem Monster.proper_arrival {card : CardRef} {printed : Card} (stance : Stance)
    (known : setup.card? t card = some printed) (monster : printed.type.isMonster) :
    (arrival setup card printed stance t.turn).Proper setup t where
  printed := ⟨printed, known, by simpa [CardType.isMonster] using monster,
    congrArg Ability.protection (Setup.ability_of_card? known), rfl⟩
  entered := Nat.le_refl _
  hidden := nofun

theorem Monster.proper_faceDown {card : CardRef} {printed : Card}
    (known : setup.card? t card = some printed) (monster : printed.type.isMonster) :
    (Monster.faceDown card printed.attack printed.defense t.turn
      (setup.catalog.ability printed.id).protection).Proper setup t where
  printed := ⟨printed, known, by simpa [CardType.isMonster] using monster,
    congrArg Ability.protection (Setup.ability_of_card? known), rfl⟩
  entered := Nat.le_refl _
  hidden _ := rfl

/-- A legal field stays legal with more marks on it, in whatever turn and phase. -/
theorem Table.Legal.congr (h : t.Legal setup) (sides : ∀ seat, t'.side seat = t.side seat)
    (copies : t'.copies = t.copies) (turn : t.turn ≤ t'.turn) : t'.Legal setup where
  boardRoom seat := by
    rw [sides]
    exact h.boardRoom seat
  spellTrapRoom seat := by
    rw [sides]
    exact h.spellTrapRoom seat
  monsters seat monster hm := (h.monsters seat monster (sides seat ▸ hm)).later copies turn
  setCards seat laid hm := (h.setCards seat laid (sides seat ▸ hm)).later copies turn

end

/-! ## Cards that leave the field -/

namespace Side

variable {side side' side'' : Side}

/-- Cards may have left the field, and none has come onto it.  The life points are as they were,
and the Normal Summon of the turn is used up if it was. -/
structure Pared (side side' : Side) : Prop where
  life : side'.life = side.life
  hasSummoned : side'.hasSummoned = side.hasSummoned
  board : side'.board.Sublist side.board
  spellTraps : side'.spellTraps.Sublist side.spellTraps

theorem Pared.refl (side : Side) : Pared side side := ⟨rfl, rfl, .refl _, .refl _⟩

theorem Pared.trans (h : Pared side side') (h' : Pared side' side'') : Pared side side'' :=
  ⟨h'.life.trans h.life, h'.hasSummoned.trans h.hasSummoned, h'.board.trans h.board,
    h'.spellTraps.trans h.spellTraps⟩

theorem pared_remove (side : Side) (zone : Zone) (card : CardRef) :
    Pared side (side.remove zone card) := by
  cases zone with
  | board => exact ⟨rfl, rfl, List.eraseP_sublist, .refl _⟩
  | spellTrap => exact ⟨rfl, rfl, .refl _, List.eraseP_sublist⟩
  | _ => exact ⟨rfl, rfl, .refl _, .refl _⟩

theorem pared_setPile (side : Side) (pile : Pile) (cards : List CardRef) :
    Pared side (side.setPile pile cards) := by
  cases pile <;> exact ⟨rfl, rfl, .refl _, .refl _⟩

theorem pared_push (side : Side) (pile : Pile) (card : CardRef) (place : DeckPlace) (rng : Rng) :
    Pared side (side.push pile card place rng).1 := by
  obtain ⟨cards, hside, -⟩ := side.push_eq pile card place rng
  rw [hside]
  exact pared_setPile side pile cards

theorem pared_turnOver (side : Side) (count : Nat) (pile : Pile) :
    Pared side (side.turnOver count pile) :=
  (pared_setPile side .deck _).trans (pared_setPile _ pile _)

theorem pared_trimHand (side : Side) (limit : Nat) : Pared side (Match.trimHand limit side) :=
  (pared_setPile side .hand _).trans (pared_setPile _ .graveyard _)

end Side

namespace Table

variable {setup : Setup} {t t' t'' : Table} {seat : Seat} {card : CardRef} {pile : Pile}
  {place : DeckPlace}

/-- Nothing has happened that is of any account for the turn or for the life points. -/
structure SameCourse (t t' : Table) : Prop where
  turn : t'.turn = t.turn
  current : t'.current = t.current
  phase : t'.phase = t.phase
  copies : t'.copies = t.copies
  life : ∀ seat, (t'.side seat).life = (t.side seat).life
  hasSummoned : ∀ seat, (t'.side seat).hasSummoned = (t.side seat).hasSummoned

theorem sameCourse_modifySide (t : Table) (seat : Seat) {change : Side → Side}
    (life : (change (t.side seat)).life = (t.side seat).life)
    (hasSummoned : (change (t.side seat)).hasSummoned = (t.side seat).hasSummoned) :
    SameCourse t (t.modifySide seat change) := by
  refine ⟨rfl, rfl, rfl, rfl, fun seat' => ?_, fun seat' => ?_⟩
  all_goals
    rw [side_modifySide]
    split
    · next same => simpa only [same]
    · rfl

/-- Cards may have left the field of both sides, and none has come onto it. -/
structure Pared (t t' : Table) : Prop where
  turn : t'.turn = t.turn
  current : t'.current = t.current
  phase : t'.phase = t.phase
  copies : t'.copies = t.copies
  sides : ∀ seat, Side.Pared (t.side seat) (t'.side seat)

theorem Pared.refl (t : Table) : Pared t t := ⟨rfl, rfl, rfl, rfl, fun _ => .refl _⟩

theorem Pared.trans (h : Pared t t') (h' : Pared t' t'') : Pared t t'' :=
  ⟨h'.turn.trans h.turn, h'.current.trans h.current, h'.phase.trans h.phase,
    h'.copies.trans h.copies, fun seat => (h.sides seat).trans (h'.sides seat)⟩

theorem Pared.course (h : Pared t t') : SameCourse t t' :=
  ⟨h.turn, h.current, h.phase, h.copies, fun seat => (h.sides seat).life,
    fun seat => (h.sides seat).hasSummoned⟩

theorem Pared.legal (h : Pared t t') (legal : t.Legal setup) : t'.Legal setup where
  boardRoom seat := Nat.le_trans (h.sides seat).board.length_le (legal.boardRoom seat)
  spellTrapRoom seat :=
    Nat.le_trans (h.sides seat).spellTraps.length_le (legal.spellTrapRoom seat)
  monsters seat monster hm :=
    (legal.monsters seat monster ((h.sides seat).board.subset hm)).later h.copies
      (Nat.le_of_eq h.turn.symm)
  setCards seat laid hm :=
    (legal.setCards seat laid ((h.sides seat).spellTraps.subset hm)).later h.copies
      (Nat.le_of_eq h.turn.symm)

theorem pared_modifySide {change : Side → Side} (t : Table) (seat : Seat)
    (h : ∀ side, Side.Pared side (change side)) : Pared t (t.modifySide seat change) := by
  refine ⟨rfl, rfl, rfl, rfl, fun seat' => ?_⟩
  rw [side_modifySide]
  split
  · exact h _
  · exact .refl _

theorem pared_push (t : Table) (seat : Seat) (pile : Pile) (card : CardRef)
    (place : DeckPlace) : Pared t (t.push seat pile card place) := by
  have put := t.pared_modifySide seat fun side => side.pared_push pile card place t.rng
  exact ⟨put.turn, put.current, put.phase, put.copies, put.sides⟩

theorem pared_moveToPile (t : Table) (card : CardRef) (pile : Pile) (place : DeckPlace) :
    Pared t (t.moveToPile card pile place) := by
  rw [moveToPile]
  split
  · next there =>
    obtain ⟨owner, holder, -, -, rfl⟩ := moveToPile?_eq_some.1 there
    exact (t.pared_modifySide holder fun side => side.pared_remove _ card).trans
      (pared_push _ owner pile card place)
  · exact .refl t

theorem pared_placeInPile (t : Table) (card : CardRef) (pile : Pile) (place : DeckPlace) :
    Pared t (t.placeInPile card pile place) := by
  unfold placeInPile placeInPile?
  split
  · exact pared_push t _ pile card place
  · exact .refl t

theorem pared_shuffleDeck (t : Table) (seat : Seat) : Pared t (t.shuffleDeck seat) := by
  let deck := (t.rng.shuffle (t.side seat).deck).1
  have mixed := t.pared_modifySide seat fun side => side.pared_setPile .deck deck
  exact ⟨mixed.turn, mixed.current, mixed.phase, mixed.copies, mixed.sides⟩

/-- What is on the chain is not on the field. -/
theorem pared_chained (t : Table) (chained : CardSet) : Pared t { t with chained := chained } :=
  ⟨rfl, rfl, rfl, rfl, fun _ => .refl _⟩

theorem pared_liftCard (t : Table) (seat : Seat) (card : CardRef) (zone : Zone) :
    Pared t (Match.liftCard seat card zone t) := by
  unfold Match.liftCard
  split
  · exact .refl t
  · exact (t.pared_modifySide seat fun side => side.pared_remove zone card).trans
      (pared_chained _ _)

/-- A card on the chain is put away. -/
theorem pared_unchain (t : Table) (card : CardRef) :
    Pared t ({ t with chained := t.chained.erase card }.placeInPile card .graveyard .top) :=
  (pared_chained t _).trans (pared_placeInPile _ card .graveyard .top)

theorem pared_cleared (chain : Chain) (t : Table) : Pared t (chain.cleared t) := by
  have drop (t : Table) (link : Link) : Pared t (Chain.dropLink t link) := by
    unfold Chain.dropLink
    split
    · exact pared_unchain t link.card
    · exact .refl t
  unfold Chain.cleared
  induction chain.links generalizing t with
  | nil => exact .refl t
  | cons link links ih => exact (drop t link).trans (ih _)

/-! ## All changes between two events -/

/-- A change of the table that touches neither the turn nor the life points. -/
inductive Shift (setup : Setup) (t : Table) : Table → Prop where
  | pare {t' : Table} (pared : Pared t t') : Shift setup t t'
  /-- A monster comes onto a board that has room for it. -/
  | arrive {seat : Seat} {left : Zone} {monster : Monster}
      (room : (t.side seat).board.length < setup.rules.monsterZones)
      (proper : monster.Proper setup t) :
      Shift setup t (t.modifySide seat fun side =>
        (side.remove left monster.card).placeMonster monster)
  | alter {seat : Seat} {card : CardRef} {change : Monster → Monster}
      (kept : ∀ monster, (t.side seat).monster? card = some monster → monster.Proper setup t →
        (change monster).Proper setup t) :
      Shift setup t (t.modifySide seat (·.modifyMonster card change))
  | lay {seat : Seat} {laid : SetCard}
      (room : (t.side seat).spellTraps.length < setup.rules.spellTrapZones)
      (proper : laid.Proper setup t) :
      Shift setup t (t.modifySide seat fun side =>
        (side.remove .hand laid.card).placeSpellTrap laid)

theorem Shift.course (shift : Shift setup t t') : SameCourse t t' := by
  cases shift with
  | pare pared => exact pared.course
  | @arrive seat left monster room proper =>
    have taken := (t.side seat).pared_remove left monster.card
    exact sameCourse_modifySide t seat taken.life taken.hasSummoned
  | alter kept => exact sameCourse_modifySide t _ rfl rfl
  | lay room proper => exact sameCourse_modifySide t _ rfl rfl

/-- A change of one side that keeps its field legal. -/
theorem Legal.modifySide {change : Side → Side} (h : t.Legal setup)
    (boardRoom : (change (t.side seat)).board.length ≤ setup.rules.monsterZones)
    (spellTrapRoom : (change (t.side seat)).spellTraps.length ≤ setup.rules.spellTrapZones)
    (monsters : ∀ monster ∈ (change (t.side seat)).board, monster.Proper setup t)
    (setCards : ∀ laid ∈ (change (t.side seat)).spellTraps, laid.Proper setup t) :
    (t.modifySide seat change).Legal setup := by
  have each {P : Side → Prop} (changed : P (change (t.side seat)))
      (others : ∀ seat', P (t.side seat')) (seat' : Seat) :
      P ((t.modifySide seat change).side seat') := by
    rw [side_modifySide]
    split
    · next same =>
      rw [same]
      exact changed
    · exact others seat'
  refine ⟨each (P := fun side => side.board.length ≤ _) boardRoom h.boardRoom,
    each (P := fun side => side.spellTraps.length ≤ _) spellTrapRoom h.spellTrapRoom,
    each (P := fun side => ∀ monster ∈ side.board, monster.Proper setup _) ?_ ?_,
    each (P := fun side => ∀ laid ∈ side.spellTraps, laid.Proper setup _) ?_ ?_⟩
  · exact fun monster hm => (monsters monster hm).later rfl (Nat.le_refl _)
  · exact fun seat' monster hm => (h.monsters seat' monster hm).later rfl (Nat.le_refl _)
  · exact fun laid hm => (setCards laid hm).later rfl (Nat.le_refl _)
  · exact fun seat' laid hm => (h.setCards seat' laid hm).later rfl (Nat.le_refl _)

section

variable {α : Type} {property : α → Bool} {change : α → α}

theorem length_updateFirst (xs : List α) : (updateFirst property change xs).length = xs.length := by
  induction xs with
  | nil => rfl
  | cons x xs ih =>
    rw [updateFirst]
    split
    · rfl
    · rw [List.length_cons, ih, List.length_cons]

/-- After the first item of a property is changed, the list has what came of it, and the others. -/
theorem mem_updateFirst {xs : List α} {x : α} (hx : x ∈ updateFirst property change xs) :
    x ∈ xs ∨ ∃ old, xs.find? property = some old ∧ x = change old := by
  induction xs with
  | nil => exact absurd hx List.not_mem_nil
  | cons y ys ih =>
    rw [updateFirst] at hx
    rw [List.find?_cons]
    cases hy : property y with
    | true =>
      rw [if_pos hy] at hx
      rcases List.mem_cons.1 hx with rfl | rest
      · exact .inr ⟨y, rfl, rfl⟩
      · exact .inl (List.mem_cons_of_mem _ rest)
    | false =>
      rw [if_neg (by simp [hy])] at hx
      rcases List.mem_cons.1 hx with rfl | rest
      · exact .inl List.mem_cons_self
      · exact (ih rest).imp_left (List.mem_cons_of_mem _)

end

/-- A change that touches neither the turn nor the life points keeps the field legal. -/
theorem Shift.legal (shift : Shift setup t t') (h : t.Legal setup) : t'.Legal setup := by
  cases shift with
  | pare pared => exact pared.legal h
  | @arrive seat left monster room proper =>
    have taken := (t.side seat).pared_remove left monster.card
    refine h.modifySide ?_ ?_ ?_ fun laid hm => h.setCards seat laid (taken.spellTraps.subset hm)
    · have fewer := taken.board.length_le
      rw [Side.placeMonster, List.length_append, List.length_singleton]
      omega
    · exact Nat.le_trans taken.spellTraps.length_le (h.spellTrapRoom seat)
    · intro other hm
      rcases List.mem_append.1 hm with old | new
      · exact h.monsters seat other (taken.board.subset old)
      · rw [List.mem_singleton.1 new]
        exact proper
  | @alter seat card change kept =>
    refine h.modifySide ?_ (h.spellTrapRoom seat) ?_ (h.setCards seat)
    · exact Nat.le_trans (Nat.le_of_eq (length_updateFirst _)) (h.boardRoom seat)
    · intro monster hm
      rcases mem_updateFirst hm with old | ⟨old, there, rfl⟩
      · exact h.monsters seat monster old
      · exact kept old there (h.monsters seat old (List.mem_of_find?_eq_some there))
  | @lay seat laid room proper =>
    refine h.modifySide (h.boardRoom seat) ?_ (h.monsters seat) ?_
    · show ((t.side seat).spellTraps ++ [laid]).length ≤ _
      rw [List.length_append, List.length_singleton]
      exact room
    · intro other hm
      rcases List.mem_append.1 hm with old | new
      · exact h.setCards seat other old
      · rw [List.mem_singleton.1 new]
        exact proper

end Table

end CardDuel
