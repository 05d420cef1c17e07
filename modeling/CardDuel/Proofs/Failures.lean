import CardDuel.Proofs.Histories
import CardDuel.Resolution.Run

/-!
# Effects that fail

An effect that cannot do what it says fails softly: it answers why, and the duel goes on.  Each
kind of effect looks at the table before it acts, so one that fails has done nothing yet.  Two
kinds are different.  Destruction and banishment go through their targets one after the other,
and fail as a whole if one of them fails.  A random discard shuffles the hand before it counts
how many cards to take.

* `Sparing`: what it means that a failure leaves the scene alone, with one lemma for each kind of
  effect.
* `IdleDiscard`: the random discard of no card, which has drawn its chances when it fails.
* `Resolution.failure_spares`: an effect that fails leaves the scene as it was unless it is an
  idle discard, and an idle discard does nothing but take words from the stream.
-/

namespace CardDuel

/-- A hand of one card or none is in order: no word is drawn to shuffle it. -/
theorem Rng.shuffle_short {α : Type} {items : List α} (short : items.length ≤ 1) (rng : Rng) :
    (rng.shuffle items).2 = rng := by
  have last : items.length - 1 = 0 := by omega
  simp [Rng.shuffle, last, Rng.exchange]

namespace Resolution

/-- If something fails, the scene is what it was before. -/
def Sparing (s : Scene) (made : Outcome × Scene) : Prop := made.1.success = false → made.2 = s

variable {setup : Setup} {followUp : FollowUp} {r : Request} {s : Scene}

theorem sparing_failed (message : String) : Sparing s (.failed message, s) := fun _ => rfl

theorem sparing_done (message : String) (after : Scene) : Sparing s (.done message, after) :=
  fun failed => nomatch failed

theorem sparing_ite {condition : Prop} [Decidable condition] {made made' : Outcome × Scene}
    (h : condition → Sparing s made) (h' : ¬ condition → Sparing s made') :
    Sparing s (if condition then made else made') := by
  split
  · next holds => exact h holds
  · next fails => exact h' fails

/-! ## The kinds of effects -/

theorem sparing_draw (seat : Seat) (count : Nat) : Sparing s (draw seat count s) :=
  sparing_ite (fun _ => sparing_done _ _) fun _ => sparing_done _ _

theorem sparing_mill (seat : Seat) (count : Nat) : Sparing s (mill setup seat count s) :=
  sparing_ite (fun _ => sparing_failed _) fun _ =>
    sparing_ite (fun _ => sparing_done _ _) fun _ => sparing_done _ _

theorem sparing_search : Sparing s (search setup r s) :=
  sparing_ite (fun _ => sparing_failed _) fun _ => sparing_done _ _

theorem sparing_toHand : Sparing s (toHand setup r s) :=
  sparing_ite (fun _ => sparing_failed _) fun _ =>
    sparing_ite (fun _ => sparing_failed _) fun _ => sparing_done _ _

theorem sparing_toGraveyard : Sparing s (toGraveyard setup r s) :=
  sparing_ite (fun _ => sparing_failed _) fun _ => sparing_done _ _

theorem sparing_notInPlace (expected : Zone) : Sparing s (notInPlace expected, s) := fun _ => rfl

theorem sparing_returnToDeck : Sparing s (returnToDeck setup r s) := by
  unfold returnToDeck
  dsimp only
  split
  · exact sparing_failed _
  · split
    · exact sparing_notInPlace _
    · exact sparing_ite (fun _ => sparing_done _ _) fun _ => sparing_notInPlace _

theorem sparing_modifyAttack : Sparing s (modifyAttack setup r s) := by
  refine sparing_ite (fun _ => sparing_done _ _) fun _ => ?_
  split
  · exact sparing_failed _
  · dsimp only
    split
    · exact sparing_failed _
    · exact sparing_done _ _

theorem sparing_negate : Sparing s (negate setup r s) := by
  unfold negate
  split
  · exact sparing_failed _
  · exact sparing_ite (fun _ => sparing_done _ _) fun _ => sparing_failed _

theorem sparing_withFollowUps (sentence : String) (parts : List Outcome) (after : Scene) :
    Sparing s (withFollowUps sentence parts, after) := by
  unfold withFollowUps
  split <;> exact sparing_done _ _

/-- What a summon sets off may fail, the summon itself has then worked. -/
theorem sparing_summon : Sparing s (summon setup followUp r s) := by
  unfold summon
  split
  · exact fun _ => rfl
  · exact sparing_withFollowUps _ _ _

theorem sparing_destroyCard (target : CardRef) :
    Sparing s (destroyCard setup followUp target s) := by
  unfold destroyCard
  split
  · exact fun _ => rfl
  · exact sparing_withFollowUps _ _ _

theorem sparing_banishCard (source : Option Zone) (target : CardRef) :
    Sparing s (banishCard setup source target s) := by
  unfold banishCard
  dsimp only
  split
  · exact sparing_failed _
  · split
    · exact sparing_failed _
    · exact sparing_done _ _

/-- A single part fails only if all of it fails. -/
theorem sparing_each {act : CardRef → Scene → Outcome × Scene}
    (spares : ∀ target, Sparing s (act target s)) {targets : List CardRef}
    (single : targets.length ≤ 1) :
    Sparing s (.allOf (s.each act targets).1, (s.each act targets).2) := by
  match targets, single with
  | [], _ => exact fun _ => rfl
  | [target], _ =>
    intro failed
    exact spares target (by simpa [Outcome.allOf, Scene.each_cons] using failed)

theorem sparing_destroy (single : r.limitedTargets.length ≤ 1) :
    Sparing s (destroy setup followUp r s) :=
  sparing_ite (fun _ => sparing_failed _) fun _ => sparing_each sparing_destroyCard single

theorem sparing_banish (single : r.limitedTargets.length ≤ 1) : Sparing s (banish setup r s) :=
  sparing_ite (fun _ => sparing_failed _) fun _ => sparing_each (sparing_banishCard _) single

/-! ## Discards -/

/-- No chance is drawn to choose among one card or none. -/
theorem change_shuffle_short {cards : List CardRef} (short : cards.length ≤ 1) :
    (s.change fun t => { t with rng := (t.rng.shuffle cards).2 }) = s := by
  rw [Scene.change, Rng.shuffle_short short]

/-- Chosen cards are counted before anything is done. -/
theorem sparing_discard_chosen (seat : Seat) (count : Nat) {targets : List CardRef}
    (chosen : targets ≠ []) : Sparing s (discard setup seat count targets s) := by
  have some : targets.isEmpty = false := by simpa using chosen
  unfold discard
  simp only [some, Bool.false_eq_true, ↓reduceIte]
  exact sparing_ite (fun _ => sparing_failed _) fun _ =>
    sparing_ite (fun _ => sparing_done _ _) fun _ => sparing_done _ _

/-- A random discard of one card or more fails only if the hand is empty, and nothing is drawn
to shuffle an empty hand. -/
theorem sparing_discard_random (seat : Seat) {count : Nat} (some : 0 < count) :
    Sparing s (discard setup seat count [] s) := by
  unfold discard
  simp only [List.isEmpty_nil, ↓reduceIte]
  refine sparing_ite (fun nobody => ?_) fun _ =>
    sparing_ite (fun _ => sparing_done _ _) fun _ => sparing_done _ _
  have none : (s.side seat).hand = [] := by
    have taken : ((s.table.rng.shuffle (s.side seat).hand).1.take count).length = 0 := by
      simpa using nobody
    have all : (s.table.rng.shuffle (s.side seat).hand).1.length = (s.side seat).hand.length :=
      (Rng.shuffle_perm _ _).length_eq
    rw [List.length_take, all] at taken
    exact List.length_eq_zero_iff.1 (by omega)
  intro _
  rw [none]
  exact change_shuffle_short (by simp)

/-- A random discard of no card always fails, and has shuffled the hand. -/
theorem discard_none (seat : Seat) :
    discard setup seat 0 [] s = (.failed "No cards in hand to discard",
      s.change fun t => { t with rng := (t.rng.shuffle (s.side seat).hand).2 }) := by
  simp [discard, Scene.change]

/-! ## All effects -/

/-- A random discard of no card out of two or more, which no rule for all effects forbids. -/
structure IdleDiscard (setup : Setup) (r : Request) (s : Scene) : Prop where
  kind : r.effect.kind = .discard
  nothing : r.effect.value ≤ 0
  random : r.targets = []
  allowed : fault? setup r s.table = none
  several : 2 ≤ (s.side r.affectedSeat).hand.length

/-- What an effect does that is carried out fails, if it fails, without a change. -/
theorem sparing_perform
    (single : r.effect.kind = .destroy ∨ r.effect.kind = .banish → r.limitedTargets.length ≤ 1)
    (allowed : fault? setup r s.table = none) (busy : ¬ IdleDiscard setup r s) :
    Sparing s (perform setup followUp r s) := by
  unfold perform
  split
  case h_1 => exact sparing_draw _ _
  case h_2 => exact sparing_mill _ _
  case h_3 kind =>
    by_cases random : r.targets = []
    · rw [random]
      by_cases nothing : r.count = 0
      · rw [nothing, discard_none]
        have short : (s.side r.affectedSeat).hand.length ≤ 1 := by
          by_contra several
          exact busy ⟨kind, Int.toNat_eq_zero.1 nothing, random, allowed, by omega⟩
        intro _
        exact change_shuffle_short short
      · exact sparing_discard_random _ (by omega)
    · exact sparing_discard_chosen _ _ random
  case h_4 kind => exact sparing_destroy (single (.inl kind))
  case h_5 kind => exact sparing_banish (single (.inr kind))
  case h_6 => exact sparing_done _ _
  case h_7 => exact sparing_done _ _
  case h_8 => exact sparing_toHand
  case h_9 => exact sparing_search
  case h_10 => exact sparing_toGraveyard
  case h_11 => exact sparing_returnToDeck
  case h_12 => exact sparing_modifyAttack
  case h_13 => exact sparing_summon
  case h_14 => exact sparing_negate
  case h_15 => exact sparing_done _ _

/-- An effect that a rule for all effects forbids fails at once. -/
theorem runWith_of_fault {fault : String} (forbidden : fault? setup r s.table = some fault) :
    runWith setup followUp r s = (.failed fault, s) := by
  simp [runWith, forbidden]

theorem runWith_of_allowed (allowed : fault? setup r s.table = none) :
    runWith setup followUp r s = ((perform setup followUp r s).1,
      if (perform setup followUp r s).1.success then markUsed r (perform setup followUp r s).2
      else (perform setup followUp r s).2) := by
  simp [runWith, allowed]

theorem sparing_runWith
    (single : r.effect.kind = .destroy ∨ r.effect.kind = .banish → r.limitedTargets.length ≤ 1)
    (busy : ¬ IdleDiscard setup r s) : Sparing s (runWith setup followUp r s) := by
  cases forbidden : fault? setup r s.table with
  | some fault =>
    rw [runWith_of_fault forbidden]
    exact sparing_failed fault
  | none =>
    rw [runWith_of_allowed forbidden]
    intro failed
    change (perform setup followUp r s).1.success = false at failed
    simp only [failed, Bool.false_eq_true, ↓reduceIte]
    exact sparing_perform single forbidden busy failed

theorem runWith_of_idle (idle : IdleDiscard setup r s) :
    runWith setup followUp r s = (.failed "No cards in hand to discard",
      s.change fun t => { t with rng := (t.rng.shuffle (s.side r.affectedSeat).hand).2 }) := by
  have none : r.count = 0 := Int.toNat_eq_zero.2 idle.nothing
  have made : perform setup followUp r s = discard setup r.affectedSeat 0 [] s := by
    rw [perform, idle.kind, ← idle.random, ← none]
  rw [runWith_of_allowed idle.allowed, made, discard_none]
  rfl

/-- An effect that fails, and that destroys or banishes not more than one target, leaves the whole
scene as it was: every zone, the life points, the monsters, the marks, the place in the stream of
chances and the log.  The one exception is the random discard of no card out of a hand of two or
more.  It always fails, and it leaves everything as it was but the place in the stream, which is
where a shuffle of that hand leaves it. -/
theorem failure_spares (setup : Setup) (r : Request) (s : Scene)
    (single : r.effect.kind = .destroy ∨ r.effect.kind = .banish →
      r.limitedTargets.length ≤ 1) :
    ((run setup r s).1.success = false → ¬ IdleDiscard setup r s → (run setup r s).2 = s) ∧
      (IdleDiscard setup r s → (run setup r s).1.success = false ∧
        (run setup r s).2 = s.change fun t =>
          { t with rng := (t.rng.shuffle (s.side r.affectedSeat).hand).2 }) := by
  refine ⟨fun failed busy => sparing_runWith single busy failed, fun idle => ?_⟩
  rw [run, runWith_of_idle idle]
  exact ⟨rfl, rfl⟩

end Resolution

namespace Sample

/-- The host has drawn both cards, and none is on the field. -/
def twoInHand : Scene := (Resolution.draw .host 2 dealt).2

/-- Both cards are to be destroyed, but the effect takes one target only. -/
def destruction : Request where
  effect := { kind := .destroy, value := 1 }
  actor := .host
  targets := [⟨0⟩, ⟨1⟩]

/-- No card is to be discarded. -/
def idleDiscard : Request where
  effect := { kind := .discard, value := 0 }
  actor := .host

end Sample

namespace Resolution

open Sample in
/-- Both effects fail.  The destruction leaves the scene alone, the discard has drawn chances. -/
theorem idle_discard_draws :
    (run setup destruction twoInHand).1.success = false ∧
      (run setup destruction twoInHand).2 = twoInHand ∧
      (run setup idleDiscard twoInHand).1.success = false ∧
      (run setup idleDiscard twoInHand).2.table.rng ≠ twoInHand.table.rng := by
  have failed : (run setup destruction twoInHand).1.success = false := by decide +kernel
  have several : ¬ IdleDiscard setup destruction twoInHand := fun idle => nomatch idle.kind
  have idle : IdleDiscard setup idleDiscard twoInHand :=
    ⟨rfl, by decide, rfl, by decide +kernel, by decide +kernel⟩
  have spared := failure_spares setup destruction twoInHand fun _ => by decide +kernel
  have drawn := failure_spares setup idleDiscard twoInHand fun other => by
    rcases other with other | other <;> cases other
  refine ⟨failed, spared.1 failed several, (drawn.2 idle).1, ?_⟩
  rw [(drawn.2 idle).2]
  decide +kernel

end Resolution

end CardDuel
