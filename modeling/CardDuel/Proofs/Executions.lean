import CardDuel.Proofs.Steps
import CardDuel.Match.Move

/-!
# What is carried out

Destruction and summons carry out further effects of the card that goes or comes, so one
effect may run inside another.  This file makes visible which effects run inside which:
beside each function that carries something out stands one that answers the executions in
the order in which they begin, each with those that ran inside it.

* `Execution`, `Execution.flat`: one execution with what ran inside it, and all executions
  at any depth.
* `runTrace`, `fireTrace` and so on: the executions of the functions of that name.
* `Course`: what lies between two scenes is a sequence of steps and executions.  `run_course`
  and `fire_course` show that effects are of this kind, so what is kept by steps and
  executions is kept by every effect.
-/

namespace CardDuel

/-- One execution of an effect, with the executions that ran inside it. -/
structure Execution where
  request : Request
  outcome : Outcome
  inside : List Execution

mutual

/-- The execution and all executions inside it, in the order in which they begin. -/
def Execution.tree : Execution → List Execution
  | ⟨request, outcome, inside⟩ => ⟨request, outcome, inside⟩ :: Execution.flat inside

/-- All executions at any depth, in the order in which they begin. -/
def Execution.flat : List Execution → List Execution
  | [] => []
  | e :: rest => e.tree ++ Execution.flat rest

end

@[simp] theorem Execution.flat_nil : flat [] = [] := rfl

theorem Execution.flat_cons (e : Execution) (rest : List Execution) :
    flat (e :: rest) = e :: (flat e.inside ++ flat rest) := by
  obtain ⟨request, outcome, inside⟩ := e
  rw [flat, tree, List.cons_append]

theorem Execution.flat_append (es es' : List Execution) :
    flat (es ++ es') = flat es ++ flat es' := by
  induction es with
  | nil => rw [List.nil_append, flat_nil, List.nil_append]
  | cons e es ih =>
    rw [List.cons_append, flat_cons, flat_cons, ih, List.cons_append, List.append_assoc]

namespace Resolution

/-! ## Traces -/

/-- The executions while something is done for each item in turn. -/
def traceEach {α β : Type} (act : α → Scene → β × Scene) (trace : α → Scene → List Execution) :
    List α → Scene → List Execution
  | [], _ => []
  | x :: xs, s => trace x s ++ traceEach act trace xs (act x s).2

/-- What answers the executions of the effects of a card at a timing. -/
abbrev FollowUpTrace := CardRef → Seat → Timing → Scene → List Execution

section

variable (setup : Setup) (followUp : FollowUp) (trace : FollowUpTrace)

def destroyCardTrace (target : CardRef) (s : Scene) : List Execution :=
  match destroyed setup target s with
  | .error _ => []
  | .ok (owner, gone) => trace target owner .onDestroy gone

def destroyTrace (r : Request) (s : Scene) : List Execution :=
  if r.targets.isEmpty then []
  else traceEach (destroyCard setup followUp) (destroyCardTrace setup trace) r.limitedTargets s

def summonTrace (r : Request) (s : Scene) : List Execution :=
  match specialSummoned setup r s with
  | .error _ => []
  | .ok (card, _, there) => trace card r.actor .onSummon there

/-- The executions inside one effect.  Only destruction and summons have any. -/
def performTrace (r : Request) (s : Scene) : List Execution :=
  match r.effect.kind with
  | .destroy => destroyTrace setup followUp trace r s
  | .summon => summonTrace setup trace r s
  | _ => []

/-- The execution of an effect. -/
def runWithTrace (r : Request) (s : Scene) : Execution where
  request := r
  outcome := (runWith setup followUp r s).1
  inside := if (fault? setup r s.table).isSome then [] else performTrace setup followUp trace r s

def triggerTrace (card : CardRef) (seat : Seat) (timing : Timing) (e : Effect) (s : Scene) :
    List Execution :=
  [runWithTrace setup followUp trace ⟨e, seat, some card, []⟩
    (s.record (triggerNews setup s.table card seat timing e))]

end

def fireWithinTrace (setup : Setup) : (depth : Nat) → FollowUpTrace
  | 0 => fun _ _ _ _ => []
  | depth + 1 => fun card seat timing s =>
    traceEach (trigger setup (fireWithin setup depth) card seat timing)
      (triggerTrace setup (fireWithin setup depth) (fireWithinTrace setup depth) card seat timing)
      ((setup.abilityOf s.table card).triggered timing) s

def fireTrace (setup : Setup) : FollowUpTrace := fireWithinTrace setup setup.rules.triggerDepth

/-- The execution of an effect that a player has activated. -/
def runTrace (setup : Setup) : Request → Scene → Execution :=
  runWithTrace setup (fire setup) (fireTrace setup)

def runAbilityTrace (setup : Setup) (card : CardRef) (seat : Seat) (targets : List CardRef)
    (s : Scene) : List Execution :=
  traceEach (fun e => run setup ⟨e, seat, some card, targets⟩)
    (fun e s => [runTrace setup ⟨e, seat, some card, targets⟩ s])
    (setup.abilityOf s.table card).onResolution s

/-! ## Courses -/

/-- What lies between two scenes, with the executions on the way. -/
inductive Course (setup : Setup) : Scene → List Execution → Scene → Prop where
  | done (s : Scene) : Course setup s [] s
  | step {s s' : Scene} (step : Step setup s s') : Course setup s [] s'
  /-- An effect that must not be carried out. -/
  | refused {r : Request} {s : Scene} {fault : String}
      (refusal : fault? setup r s.table = some fault) :
      Course setup s [⟨r, .failed fault, []⟩] s
  /-- An effect that is carried out, and marked as used if it works. -/
  | carried {r : Request} {s s' : Scene} {inside : List Execution} {outcome : Outcome}
      (allowed : fault? setup r s.table = none) (course : Course setup s inside s') :
      Course setup s [⟨r, outcome, inside⟩] (if outcome.success then markUsed r s' else s')
  | trans {s s' s'' : Scene} {es es' : List Execution} (first : Course setup s es s')
      (second : Course setup s' es' s'') : Course setup s (es ++ es') s''

variable {setup : Setup} {s s' s'' : Scene} {es es' : List Execution}

theorem Course.of_steps (h : Steps setup s s') : Course setup s [] s' := by
  induction h with
  | refl => exact .done s
  | tail _ step ih => exact ih.trans (.step step)

/-- Without what it answers, a course is a sequence of steps. -/
theorem Course.steps (h : Course setup s es s') : Steps setup s s' := by
  induction h with
  | done s => exact .refl
  | step step => exact .single step
  | refused refusal => exact .refl
  | carried allowed course ih =>
    split
    · exact ih.tail (.act (.use _ _))
    · exact ih
  | trans first second ih ih' => exact ih.trans ih'

theorem each_course {α β : Type} {act : α → Scene → β × Scene}
    {trace : α → Scene → List Execution}
    (h : ∀ x s, Course setup s (trace x s) (act x s).2) (xs : List α) (s : Scene) :
    Course setup s (traceEach act trace xs s) (s.each act xs).2 := by
  induction xs generalizing s with
  | nil => exact .done s
  | cons x xs ih =>
    rw [Scene.each_cons]
    exact (h x s).trans (ih (act x s).2)

section

variable {followUp : FollowUp} {trace : FollowUpTrace}
  (follows : ∀ card seat timing s,
    Course setup s (trace card seat timing s) (followUp card seat timing s).2)

include follows

theorem destroyCard_course (target : CardRef) (s : Scene) :
    Course setup s (destroyCardTrace setup trace target s)
      (destroyCard setup followUp target s).2 := by
  unfold destroyCard destroyCardTrace
  cases hd : destroyed setup target s with
  | error fault => exact .done s
  | ok gone =>
    exact (Course.step (.act (.destroy hd))).trans (follows target gone.1 .onDestroy gone.2)

theorem destroy_course (r : Request) (s : Scene) :
    Course setup s (destroyTrace setup followUp trace r s) (destroy setup followUp r s).2 := by
  unfold destroy destroyTrace
  split
  · exact .done s
  · exact each_course (destroyCard_course follows) _ s

theorem summon_course (r : Request) (s : Scene) :
    Course setup s (summonTrace setup trace r s) (summon setup followUp r s).2 := by
  unfold summon summonTrace
  cases hs : specialSummoned setup r s with
  | error fault => exact .done s
  | ok there =>
    obtain ⟨card, printed, there⟩ := there
    exact (Course.step (.act (.summon hs))).trans (follows card r.actor .onSummon there)

theorem perform_course (r : Request) (s : Scene) :
    Course setup s (performTrace setup followUp trace r s) (perform setup followUp r s).2 := by
  unfold performTrace
  cases kind : r.effect.kind with
  | destroy =>
    rw [perform, kind]
    exact destroy_course follows r s
  | summon =>
    rw [perform, kind]
    exact summon_course follows r s
  | _ => exact .of_steps (perform_acts setup followUp (by simp [kind]) (by simp [kind]) s).steps

theorem runWith_course (r : Request) (s : Scene) :
    Course setup s [runWithTrace setup followUp trace r s] (runWith setup followUp r s).2 := by
  unfold runWithTrace runWith
  cases hfault : fault? setup r s.table with
  | some fault => exact .refused hfault
  | none => exact .carried hfault (perform_course follows r s)

theorem trigger_course (card : CardRef) (seat : Seat) (timing : Timing) (e : Effect)
    (s : Scene) :
    Course setup s (triggerTrace setup followUp trace card seat timing e s)
      (trigger setup followUp card seat timing e s).2 :=
  (Course.step (.trigger card seat timing e s)).trans (runWith_course follows _ _)

end

theorem fireWithin_course (depth : Nat) (card : CardRef) (seat : Seat) (timing : Timing)
    (s : Scene) :
    Course setup s (fireWithinTrace setup depth card seat timing s)
      (fireWithin setup depth card seat timing s).2 := by
  induction depth generalizing card seat timing s with
  | zero => exact .done s
  | succ depth ih => exact each_course (trigger_course ih card seat timing) _ s

/-- What the effects of a card at a timing do. -/
theorem fire_course (card : CardRef) (seat : Seat) (timing : Timing) (s : Scene) :
    Course setup s (fireTrace setup card seat timing s) (fire setup card seat timing s).2 :=
  fireWithin_course _ card seat timing s

/-- What an activated effect does. -/
theorem run_course (r : Request) (s : Scene) :
    Course setup s [runTrace setup r s] (run setup r s).2 :=
  runWith_course fire_course r s

theorem runAbility_course (card : CardRef) (seat : Seat) (targets : List CardRef) (s : Scene) :
    Course setup s (runAbilityTrace setup card seat targets s)
      (runAbility setup card seat targets s).2 :=
  each_course (fun _ s => run_course _ s) _ s

/-! ## The trace tells what the program answers -/

theorem outcomes_traceEach {α β : Type} {act : α → Scene → β × Scene}
    {trace : α → Scene → List Execution} {tell : β → List Outcome}
    (h : ∀ x s, (trace x s).map (·.outcome) = tell (act x s).1) (xs : List α) (s : Scene) :
    (traceEach act trace xs s).map (·.outcome) = (s.each act xs).1.flatMap tell := by
  induction xs generalizing s with
  | nil => rfl
  | cons x xs ih =>
    rw [traceEach, List.map_append, h, ih, Scene.each_cons]
    rfl

theorem map_traceEach {α : Type} {act : α → Scene → Outcome × Scene}
    {trace : α → Scene → List Execution}
    (h : ∀ x s, (trace x s).map (·.outcome) = [(act x s).1]) (xs : List α) (s : Scene) :
    (traceEach act trace xs s).map (·.outcome) = (s.each act xs).1 := by
  have all : (traceEach act trace xs s).map (·.outcome) = (s.each act xs).1.flatMap ([·]) :=
    outcomes_traceEach h xs s
  rwa [List.flatMap_singleton'] at all

theorem outcomes_fireWithinTrace (depth : Nat) (card : CardRef) (seat : Seat) (timing : Timing)
    (s : Scene) :
    (fireWithinTrace setup depth card seat timing s).map (·.outcome) =
      (fireWithin setup depth card seat timing s).1 := by
  cases depth with
  | zero => rfl
  | succ depth => exact map_traceEach (fun _ _ => rfl) _ s

theorem outcomes_fireTrace (card : CardRef) (seat : Seat) (timing : Timing) (s : Scene) :
    (fireTrace setup card seat timing s).map (·.outcome) = (fire setup card seat timing s).1 :=
  outcomes_fireWithinTrace _ card seat timing s

theorem outcomes_runAbilityTrace (card : CardRef) (seat : Seat) (targets : List CardRef)
    (s : Scene) :
    (runAbilityTrace setup card seat targets s).map (·.outcome) =
      (runAbility setup card seat targets s).1 :=
  map_traceEach (fun _ _ => rfl) _ s

section

variable {followUp : FollowUp} {trace : FollowUpTrace} (tells : ∀ card seat timing s,
  (trace card seat timing s).map (·.outcome) = (followUp card seat timing s).1)

include tells

/-- The outcome of a destruction tells those of the executions inside it. -/
theorem destroyCard_tells {target : CardRef} {owner : Seat} {gone : Scene}
    (h : destroyed setup target s = .ok (owner, gone)) :
    (destroyCard setup followUp target s).1 =
      withFollowUps ("Destroyed " ++ setup.nameOf s.table target)
        ((destroyCardTrace setup trace target s).map (·.outcome)) := by
  unfold destroyCard destroyCardTrace
  simp only [h, tells]

/-- The outcome of a Special Summon tells those of the executions inside it. -/
theorem summon_tells {r : Request} {card : CardRef} {printed : Card} {there : Scene}
    (h : specialSummoned setup r s = .ok (card, printed, there)) :
    (summon setup followUp r s).1 =
      withFollowUps ("Special Summoned " ++ printed.name)
        ((summonTrace setup trace r s).map (·.outcome)) := by
  unfold summon summonTrace
  simp only [h, tells]

end

end Resolution

end CardDuel
