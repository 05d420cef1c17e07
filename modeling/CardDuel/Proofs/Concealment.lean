import CardDuel.Proofs.Shifts
import Mathlib.Data.List.Nodup

/-!
# Hidden monsters

A monster that was set lies face-down on the board and hides what it is.  Only playing it in this
way hides a monster: effects never do, and no effect of a hidden monster happens by itself.

* `Table.Hides`: a card is a face-down monster.
* `Placed.shown` and its neighbours: in a table that is in order, a card that lies elsewhere or
  face-up is not hidden.
* `Deed.hides`: effects hide nothing.
* `OpenStep`: one step of an effect, which sets off no effect of a hidden monster, and
  `OpenSteps`: some of them.
* `fire_open`, `run_open` and `runAbility_open`: whatever is carried out consists of such steps.
-/

namespace CardDuel

open Resolution

/-! ## Cards that hide what they are -/

namespace Table

variable {t t' : Table} {loose : List CardRef} {seat : Seat} {zone : Zone} {card moved : CardRef}
  {monster : Monster}

/-- The card is a monster that lies face-down on a board. -/
def Hides (t : Table) (card : CardRef) : Prop :=
  ∃ seat, ∃ monster ∈ (t.side seat).board, monster.card = card ∧ monster.isFaceDown

instance (t : Table) (card : CardRef) : Decidable (t.Hides card) :=
  decidable_of_iff (Seat.all.any fun seat => (t.side seat).board.any fun monster =>
      monster.card == card && monster.isFaceDown) <| by
    have both (seat : Seat) : seat ∈ Seat.all := by cases seat <;> decide
    simp [Hides, both]

/-- A hidden card is on a board. -/
theorem Hides.onBoard (h : t.Hides card) : ∃ seat, card ∈ (t.side seat).cardsIn .board := by
  obtain ⟨seat, monster, there, same, -⟩ := h
  exact ⟨seat, List.mem_map.2 ⟨monster, there, same⟩⟩

/-- A hidden card was hidden before if no board has got another face-down monster. -/
theorem Hides.before (h : t'.Hides card)
    (boards : ∀ seat, ∀ monster ∈ (t'.side seat).board, monster.isFaceDown →
      ∃ old ∈ (t.side seat).board, old.card = monster.card ∧ old.isFaceDown) : t.Hides card := by
  obtain ⟨seat, monster, there, same, down⟩ := h
  obtain ⟨old, there', same', down'⟩ := boards seat monster there down
  exact ⟨seat, old, there', same'.trans same, down'⟩

theorem hides_of_side (sides : ∀ seat, t'.side seat = t.side seat) (h : t'.Hides card) :
    t.Hides card :=
  h.before fun seat monster there down => ⟨monster, sides seat ▸ there, rfl, down⟩

/-- Cards that leave the field hide no other. -/
theorem Pared.hides (pared : Pared t t') (h : t'.Hides card) : t.Hides card :=
  h.before fun seat monster there down =>
    ⟨monster, (pared.sides seat).board.subset there, rfl, down⟩

/-- A change of one side hides no card if it puts no face-down monster on the board. -/
theorem hides_modifySide {change : Side → Side}
    (board : ∀ monster ∈ (change (t.side seat)).board, monster.isFaceDown →
      ∃ old ∈ (t.side seat).board, old.card = monster.card ∧ old.isFaceDown)
    (h : (t.modifySide seat change).Hides card) : t.Hides card := by
  refine h.before fun seat' monster there down => ?_
  rw [side_modifySide] at there
  split at there
  · next here =>
    subst here
    exact board monster there down
  · exact ⟨monster, there, rfl, down⟩

/-- A change to a monster that turns it not face-down hides no card. -/
theorem hides_modifyMonster {change : Monster → Monster}
    (sameCard : ∀ monster, (change monster).card = monster.card)
    (shown : ∀ monster, (change monster).isFaceDown → monster.isFaceDown)
    (h : (t.modifySide seat (·.modifyMonster moved change)).Hides card) : t.Hides card := by
  refine hides_modifySide (fun monster there down => ?_) h
  rcases mem_updateFirst there with same | ⟨old, found, rfl⟩
  · exact ⟨monster, same, rfl, down⟩
  · exact ⟨old, List.mem_of_find?_eq_some found, (sameCard old).symm, shown old down⟩

namespace Placed

/-- A card in another zone is not hidden. -/
theorem shown (h : t.Placed loose) (there : card ∈ (t.side seat).cardsIn zone)
    (other : zone ≠ .board) : ¬ t.Hides card := by
  intro hidden
  obtain ⟨seat', onBoard⟩ := hidden.onBoard
  exact other (h.place_unique there onBoard).2

/-- A card that has been lifted out of its zone is not hidden. -/
theorem shown_of_loose (h : t.Placed (card :: loose)) : ¬ t.Hides card := by
  intro hidden
  obtain ⟨seat, onBoard⟩ := hidden.onBoard
  exact locate?_eq_none.1 h.locate?_of_loose seat (Side.mem_cards_of_mem onBoard)

/-- A monster that is face-up is not hidden. -/
theorem shown_of_faceUp (h : t.Placed loose) (there : monster ∈ (t.side seat).board)
    (faceUp : monster.isFaceDown = false) : ¬ t.Hides monster.card := by
  rintro ⟨seat', other, there', same, down⟩
  have onBoard : monster.card ∈ (t.side seat).cardsIn .board := List.mem_map_of_mem there
  have onBoard' : other.card ∈ (t.side seat').cardsIn .board := List.mem_map_of_mem there'
  obtain ⟨rfl, -⟩ := h.place_unique onBoard (same ▸ onBoard')
  obtain rfl : other = monster :=
    List.inj_on_of_nodup_map (h.nodup_cardsIn seat .board) there' there same
  rw [faceUp] at down
  cases down

/-- A card that is moved to a pile is not hidden. -/
theorem shown_moveToPile (h : t.Placed loose) (pile : Pile) (place : DeckPlace) :
    ¬ (t.moveToPile card pile place).Hides card := by
  have other : Zone.board ≠ pile.zone := by cases pile <;> simp [Pile.zone]
  intro hidden
  obtain ⟨seat, onBoard⟩ := hidden.onBoard
  exact not_mem_moveToPile h (mem_of_mem_moveToPile other onBoard) other onBoard

/-- A monster that has just been put on a board face-up is not hidden. -/
theorem shown_arrival {f : Side → Side}
    (h : (t.modifySide seat fun side => (f side).placeMonster monster).Placed loose)
    (faceUp : monster.isFaceDown = false) :
    ¬ (t.modifySide seat fun side => (f side).placeMonster monster).Hides monster.card := by
  have there : monster ∈ ((t.modifySide seat fun side =>
      (f side).placeMonster monster).side seat).board := by
    rw [side_modifySide_self]
    exact List.mem_append_right _ (List.mem_singleton_self monster)
  exact h.shown_of_faceUp there faceUp

end Placed

end Table

namespace Resolution

variable {setup : Setup} {s s' s'' : Scene} {loose : List CardRef} {card : CardRef}

/-! ## Effects hide nothing -/

theorem boosted_isFaceDown (value : Int) (untilEndOfTurn : Bool) (m : Monster) :
    (boosted m value untilEndOfTurn).isFaceDown = m.isFaceDown := by
  unfold boosted
  split <;> rfl

theorem hides_arrival {seat : Seat} {left : Zone} {arrived : CardRef} {printed : Card}
    {stance : Stance} {t : Table}
    (h : (t.modifySide seat fun side => (side.remove left arrived).placeMonster
      (arrival setup arrived printed stance t.turn)).Hides card) : t.Hides card := by
  refine Table.hides_modifySide (fun monster there down => ?_) h
  rcases List.mem_append.1 there with old | new
  · have left := ((t.side seat).pared_remove left arrived).board
    exact ⟨monster, left.subset old, rfl, down⟩
  · rw [List.mem_singleton.1 new] at down
    cases down

theorem Deed.hides (deed : Deed setup s s') (h : s'.table.Hides card) : s.table.Hides card := by
  cases deed with
  | nothing => exact h
  | mark rng used kept => exact Table.hides_of_side (fun _ => rfl) h
  | negate target kind told => exact Table.hides_of_side (fun _ => rfl) h
  | move kind about => exact (Table.pared_moveToPile _ _ _ _).hides h
  | turnOver kind names about =>
    exact (Table.pared_modifySide _ _ fun side => side.pared_turnOver _ _).hides h
  | shuffle seat kind about => exact (Table.pared_shuffleDeck _ seat).hides h
  | arrive held room known monster kind about => exact hides_arrival h
  | @boost target controller m now e there changed =>
    have there' : s.table.modifyMonster target (boosted · e.value e.untilEndOfTurn) =
        s.table.modifySide controller
          (·.modifyMonster target (boosted · e.value e.untilEndOfTurn)) := by
      rw [Table.modifyMonster, there]
    have h : (s.table.modifyMonster target (boosted · e.value e.untilEndOfTurn)).Hides card := h
    rw [there'] at h
    exact Table.hides_modifyMonster (boosted_card _ _)
      (fun m down => boosted_isFaceDown _ _ m ▸ down) h
  | life seat change =>
    exact Table.hides_modifySide (fun monster there down => ⟨monster, there, rfl, down⟩) h

/-! ## What happens by itself -/

/-- One step of an effect, in which no effect of a hidden monster is set off. -/
inductive OpenStep (setup : Setup) : Scene → Scene → Prop where
  | act {s s' : Scene} (act : Act setup s s') : OpenStep setup s s'
  | trigger {card : CardRef} {s : Scene} (shown : ¬ s.table.Hides card) (seat : Seat)
      (timing : Timing) (e : Effect) :
      OpenStep setup s (s.record (triggerNews setup s.table card seat timing e))

/-- Some such steps one after the other. -/
abbrev OpenSteps (setup : Setup) : Scene → Scene → Prop := Relation.ReflTransGen (OpenStep setup)

theorem OpenSteps.steps (h : OpenSteps setup s s') : Steps setup s s' := by
  refine Relation.ReflTransGen.mono (fun s s' step => ?_) _ _ h
  cases step with
  | act act => exact .act act
  | trigger shown seat timing e => exact .trigger _ seat timing e s

theorem Acts.openSteps (h : Acts setup s s') : OpenSteps setup s s' :=
  Relation.ReflTransGen.mono (fun _ _ => .act) _ _ h

theorem OpenSteps.placed (h : OpenSteps setup s s') (placed : s.table.Placed loose) :
    s'.table.Placed loose :=
  placed.rearranged h.steps.affected.table.toRearranged

theorem OpenSteps.hides (h : OpenSteps setup s s') (hidden : s'.table.Hides card) :
    s.table.Hides card := by
  induction h with
  | refl => exact hidden
  | tail _ step ih =>
    cases step with
    | act act => exact ih (act.deed.hides hidden)
    | trigger shown seat timing e => exact ih hidden

/-- What is done for each item consists of open steps if this holds wherever open steps lead. -/
theorem each_open {α β : Type} {act : α → Scene → β × Scene}
    (opens : ∀ x s', OpenSteps setup s s' → OpenSteps setup s' (act x s').2) (xs : List α) :
    OpenSteps setup s (s.each act xs).2 := by
  let Kept (s' : Scene) : Prop := OpenSteps setup s s'
  have step (x : α) (s' : Scene) (kept : Kept s') : Kept (act x s').2 :=
    kept.trans (opens x s' kept)
  exact Scene.each_keeps step xs .refl

theorem shown_destroyed {target : CardRef} {owner : Seat}
    (gone : destroyed setup target s = .ok (owner, s')) (placed : s.table.Placed loose) :
    ¬ s'.table.Hides target := by
  unfold destroyed at gone
  dsimp only at gone
  split at gone
  · cases gone
  · split at gone
    · cases gone
    · split at gone
      · cases gone
      · cases gone
        exact placed.shown_moveToPile .graveyard .top

theorem shown_specialSummoned {r : Request} {printed : Card}
    (there : specialSummoned setup r s = .ok (card, printed, s')) (placed : s.table.Placed loose) :
    ¬ s'.table.Hides card := by
  have arrived := placed.rearranged (deed_specialSummoned there).affected.table.toRearranged
  obtain ⟨-, -, -, -, left, -, rfl⟩ := specialSummoned_eq_ok.1 there
  exact Table.Placed.shown_arrival (f := (·.remove left card)) arrived rfl

section

variable {followUp : FollowUp} (follows : ∀ card seat timing s, s.table.Placed loose →
  ¬ s.table.Hides card → OpenSteps setup s (followUp card seat timing s).2)

include follows

theorem destroyCard_open (target : CardRef) (placed : s.table.Placed loose) :
    OpenSteps setup s (destroyCard setup followUp target s).2 := by
  unfold destroyCard
  cases gone : destroyed setup target s with
  | error fault => exact .refl
  | ok destruction =>
    obtain ⟨owner, after⟩ := destruction
    have first : OpenSteps setup s after := .single (.act (.destroy gone))
    exact first.trans (follows target owner .onDestroy after (first.placed placed)
      (shown_destroyed gone placed))

theorem summon_open (r : Request) (placed : s.table.Placed loose) :
    OpenSteps setup s (summon setup followUp r s).2 := by
  unfold summon
  cases there : specialSummoned setup r s with
  | error fault => exact .refl
  | ok summoning =>
    obtain ⟨card, printed, after⟩ := summoning
    have first : OpenSteps setup s after := .single (.act (.summon there))
    exact first.trans (follows card r.actor .onSummon after (first.placed placed)
      (shown_specialSummoned there placed))

theorem perform_open (r : Request) (placed : s.table.Placed loose) :
    OpenSteps setup s (perform setup followUp r s).2 := by
  cases kind : r.effect.kind with
  | destroy =>
    rw [perform, kind]
    show OpenSteps setup s (destroy setup followUp r s).2
    unfold destroy
    split
    · exact .refl
    · refine each_open (fun target _ steps => ?_) _
      exact destroyCard_open follows target (steps.placed placed)
  | summon =>
    rw [perform, kind]
    exact summon_open follows r placed
  | _ => exact (perform_acts setup followUp (by simp [kind]) (by simp [kind]) s).openSteps

theorem runWith_open (r : Request) (placed : s.table.Placed loose) :
    OpenSteps setup s (runWith setup followUp r s).2 := by
  unfold runWith
  split
  · exact .refl
  · have performed := perform_open follows r placed
    dsimp only
    split
    · exact performed.tail (.act (.use _ _))
    · exact performed

theorem trigger_open (shown : ¬ s.table.Hides card) (seat : Seat) (timing : Timing) (e : Effect)
    (placed : s.table.Placed loose) :
    OpenSteps setup s (trigger setup followUp card seat timing e s).2 :=
  .head (.trigger shown seat timing e) (runWith_open follows _ placed)

end

theorem fireWithin_open (depth : Nat) (card : CardRef) (seat : Seat) (timing : Timing)
    (placed : s.table.Placed loose) (shown : ¬ s.table.Hides card) :
    OpenSteps setup s (fireWithin setup depth card seat timing s).2 := by
  induction depth generalizing card seat timing s with
  | zero => exact .refl
  | succ depth ih =>
    have follows (card : CardRef) (seat : Seat) (timing : Timing) (s : Scene)
        (placed : s.table.Placed loose) (shown : ¬ s.table.Hides card) :
        OpenSteps setup s (fireWithin setup depth card seat timing s).2 :=
      ih card seat timing placed shown
    refine each_open (fun e s' steps => ?_) _
    have shown' : ¬ s'.table.Hides card := fun hidden => shown (steps.hides hidden)
    exact trigger_open follows shown' seat timing e (steps.placed placed)

/-- What the effects at a timing do of a card that is not hidden. -/
theorem fire_open (seat : Seat) (timing : Timing) (placed : s.table.Placed loose)
    (shown : ¬ s.table.Hides card) : OpenSteps setup s (fire setup card seat timing s).2 :=
  fireWithin_open _ card seat timing placed shown

/-- What an activated effect does. -/
theorem run_open (r : Request) (placed : s.table.Placed loose) :
    OpenSteps setup s (run setup r s).2 :=
  runWith_open (fun _ seat timing _ placed shown => fire_open seat timing placed shown) r placed

theorem runAbility_open (card : CardRef) (seat : Seat) (targets : List CardRef)
    (placed : s.table.Placed loose) :
    OpenSteps setup s (runAbility setup card seat targets s).2 :=
  each_open (fun _ _ steps => run_open _ (steps.placed placed)) _

end Resolution

end CardDuel
