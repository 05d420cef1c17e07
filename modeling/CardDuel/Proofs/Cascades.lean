import CardDuel.Proofs.Executions
import CardDuel.Proofs.Histories

/-!
# Cascades come to an end

A card that is summoned may summon another, whose coming summons a third, and a destroyed card may
come back and fire again.  Nothing in the cards keeps such a cascade from going on for ever.  What
does is a counter of the firings that are under way: when there are as many as the rules allow,
nothing more is set off.  This file tells the story with the counter itself, which each firing
raises when it begins and lowers when it is over, and in which nothing but the counter stops the
recursion.

* `Cascade`: a scene, the counter, and the effects that have been set off so far, each with the
  counter at the moment in which it began.
* `Setup.run`, `Setup.fire` and so on: the functions of that name as one open recursion.  They
  have no answer where the recursion does not end.
* `Cascade.Ends`: the recursion ends, with the counter where it was, with a given answer, and with
  given executions, all of them above a floor and within the limit.
* `run_ends` and its neighbours: so does every effect, if everything it sets off does.
* `fire_ends`: so does everything that is set off, by induction on what the counter leaves.
-/

namespace CardDuel

open Resolution

/-- A scene in the course of a cascade. -/
structure Cascade where
  scene : Scene
  /-- How many firings are under way. -/
  depth : Nat
  /-- The effects that were set off so far, in the order in which they began, and how many firings
  were under way then. -/
  begun : List (Request × Nat)

/-- What happens in a cascade and answers something.  Without an answer it goes on for ever. -/
abbrev Cascading := StateT Cascade Option

namespace Cascade

/-- A change of the scene. -/
def change (f : Scene → Scene) : Cascading Unit := modify fun c => { c with scene := f c.scene }

/-- One firing more is under way. -/
def enter : Cascading Unit := modify fun c => { c with depth := c.depth + 1 }

/-- A firing is over. -/
def leave : Cascading Unit := modify fun c => { c with depth := c.depth - 1 }

/-- An effect that was set off begins. -/
def begin (r : Request) : Cascading Unit :=
  modify fun c => { c with begun := c.begun ++ [(r, c.depth)] }

end Cascade

/-! ## The open recursion -/

namespace Setup

open Cascade

mutual

/-- Carries out the effects of a card at a timing, if one more firing is allowed. -/
def fire (setup : Setup) (card : CardRef) (seat : Seat) (timing : Timing) :
    Cascading (List Outcome) := do
  let c ← get
  let effects := (setup.abilityOf c.scene.table card).triggered timing
  if effects.isEmpty ∨ setup.rules.triggerDepth ≤ c.depth then return []
  else
    enter
    let outcomes ← effects.mapM fun e => setup |>.trigger card seat timing e
    leave
    return outcomes
partial_fixpoint

/-- Carries out an effect of a card that happens by itself, with news of it. -/
def trigger (setup : Setup) (card : CardRef) (seat : Seat) (timing : Timing) (e : Effect) :
    Cascading Outcome := do
  change fun s => s.record (triggerNews setup s.table card seat timing e)
  begin ⟨e, seat, some card, []⟩
  setup |>.run ⟨e, seat, some card, []⟩
partial_fixpoint

/-- Carries an effect out, with the effects that it sets off. -/
def run (setup : Setup) (r : Request) : Cascading Outcome := do
  let c ← get
  match fault? setup r c.scene.table with
  | some fault => return .failed fault
  | none =>
    let outcome ← setup |>.perform r
    change fun s => if outcome.success then markUsed r s else s
    return outcome
partial_fixpoint

/-- Does what the kind of the effect says.  Only destruction and summons set anything off. -/
def perform (setup : Setup) (r : Request) : Cascading Outcome :=
  match r.effect.kind with
  | .destroy => setup |>.destroy r
  | .summon => setup |>.summon r
  | _ => do
    let c ← get
    let (outcome, after) := Resolution.perform setup (fireWithin setup 0) r c.scene
    change fun _ => after
    return outcome
partial_fixpoint

/-- Destroys targets on either side of the field. -/
def destroy (setup : Setup) (r : Request) : Cascading Outcome :=
  if r.targets.isEmpty then return noTarget
  else do
    let parts ← r.limitedTargets.mapM fun target => setup |>.destroyCard target
    return .allOf parts
partial_fixpoint

/-- Destroys one card on the field, and carries out what this sets off. -/
def destroyCard (setup : Setup) (target : CardRef) : Cascading Outcome := do
  let c ← get
  match destroyed setup target c.scene with
  | .error fault => return fault
  | .ok (owner, gone) =>
    change fun _ => gone
    let parts ← setup |>.fire target owner .onDestroy
    return withFollowUps ("Destroyed " ++ setup.nameOf c.scene.table target) parts
partial_fixpoint

/-- Summons a monster from a zone of the player, and carries out what this sets off. -/
def summon (setup : Setup) (r : Request) : Cascading Outcome := do
  let c ← get
  match specialSummoned setup r c.scene with
  | .error fault => return fault
  | .ok (card, printed, there) =>
    change fun _ => there
    let parts ← setup |>.fire card r.actor .onSummon
    return withFollowUps ("Special Summoned " ++ printed.name) parts
partial_fixpoint

end

end Setup

namespace Cascade

/-! ## Coming to an end -/

/-- What lies between two moments of a cascade between which no firing is left open: the executions
`es` of effects that were set off, each with more than `floor` firings under way, and with no more
than the rules allow. -/
structure Passes (setup : Setup) (floor : Nat) (es : List Execution) (before after : Cascade) :
    Prop where
  depth : after.depth = before.depth
  begun : ∃ more, after.begun = before.begun ++ more ∧
    more.map (·.1) = (Execution.flat es).map (·.request) ∧
    ∀ entry ∈ more, floor < entry.2 ∧ entry.2 ≤ setup.rules.triggerDepth

/-- What is begun in `c` ends, with the answer and the scene of `want`, and sets off the executions
`es` on the way. -/
def Ends {α : Type} (c : Cascade) (setup : Setup) (floor : Nat) (act : Cascading α)
    (es : List Execution) (want : α × Scene) : Prop :=
  ∃ after, act c = some (want.1, after) ∧ after.scene = want.2 ∧ Passes setup floor es c after

variable {setup : Setup} {floor depth : Nat} {c c' c'' : Cascade} {es es' : List Execution}

theorem Passes.of_scene (c : Cascade) (s : Scene) :
    Passes setup floor [] c { c with scene := s } where
  depth := rfl
  begun := ⟨[], (List.append_nil _).symm, rfl, List.forall_mem_nil _⟩

theorem Passes.trans (first : Passes setup floor es c c') (second : Passes setup floor es' c' c'') :
    Passes setup floor (es ++ es') c c'' := by
  obtain ⟨more, begun, told, within⟩ := first.begun
  obtain ⟨more', begun', told', within'⟩ := second.begun
  refine ⟨second.depth.trans first.depth, more ++ more', ?_, ?_, ?_⟩
  · rw [begun', begun, List.append_assoc]
  · rw [List.map_append, told, told', Execution.flat_append, List.map_append]
  · intro entry among
    rcases List.mem_append.1 among with earlier | later
    · exact within entry earlier
    · exact within' entry later

/-- An effect that was set off is passed when all that runs inside it is. -/
theorem Passes.begin {e : Execution} (above : floor < c.depth)
    (within : c.depth ≤ setup.rules.triggerDepth)
    (h : Passes setup c.depth e.inside { c with begun := c.begun ++ [(e.request, c.depth)] } c') :
    Passes setup floor [e] c c' := by
  obtain ⟨more, begun, told, inside⟩ := h.begun
  refine ⟨h.depth, (e.request, c.depth) :: more, ?_, ?_, ?_⟩
  · rw [begun, List.append_assoc, List.singleton_append]
  · rw [List.map_cons, told, Execution.flat_cons, Execution.flat_nil, List.append_nil,
      List.map_cons]
  · intro entry among
    rcases List.mem_cons.1 among with rfl | deeper
    · exact ⟨above, within⟩
    · have := inside entry deeper
      omega

section

variable {α β : Type}

theorem ends_pure (answer : α) (c : Cascade) :
    c.Ends setup floor (pure answer) [] (answer, c.scene) :=
  ⟨c, rfl, rfl, .of_scene c c.scene⟩

theorem Ends.after_get {next : Cascade → Cascading β} {want : β × Scene}
    (h : c.Ends setup floor (next c) es want) : c.Ends setup floor (get >>= next) es want := h

theorem Ends.after_change {f : Scene → Scene} {next : Unit → Cascading β} {want : β × Scene}
    (h : Ends { c with scene := f c.scene } setup floor (next ()) es want) :
    c.Ends setup floor (change f >>= next) es want := by
  obtain ⟨after, ran, scene, passes⟩ := h
  exact ⟨after, ran, scene, (Passes.of_scene c (f c.scene)).trans passes⟩

theorem Ends.bind {act : Cascading α} {next : α → Cascading β} {got : α × Scene}
    {want : β × Scene} (h : c.Ends setup floor act es got)
    (h' : ∀ c' : Cascade, c'.depth = c.depth → c'.scene = got.2 →
      c'.Ends setup floor (next got.1) es' want) :
    c.Ends setup floor (act >>= next) (es ++ es') want := by
  obtain ⟨c', ran, scene, passes⟩ := h
  obtain ⟨c'', ran', scene', passes'⟩ := h' c' passes.depth scene
  refine ⟨c'', ?_, scene', passes.trans passes'⟩
  show (act c >>= fun p => next p.1 p.2) = _
  rw [ran]
  exact ran'

/-- What ends still does so when its answer is changed, and the scene after it. -/
theorem Ends.map {act : Cascading α} {got : α × Scene} (h : c.Ends setup floor act es got)
    (f : α → β) (g : α → Scene → Scene) :
    c.Ends setup floor (act >>= fun answer => change (g answer) >>= fun _ => pure (f answer)) es
      (f got.1, g got.1 got.2) := by
  rw [← List.append_nil es]
  refine h.bind fun c' _ there => .after_change ?_
  rw [← there]
  exact ends_pure (f got.1) { c' with scene := g got.1 c'.scene }

theorem Ends.answer {act : Cascading α} {got : α × Scene} (h : c.Ends setup floor act es got)
    (f : α → β) :
    c.Ends setup floor (act >>= fun answer => pure (f answer)) es (f got.1, got.2) :=
  h.map f fun _ => id

/-- What ends inside a firing does so with the firing around it, which leaves the counter as it
was. -/
theorem Ends.firing {act : Cascading α} {want : α × Scene}
    (h : Ends { c with depth := c.depth + 1 } setup floor act es want) :
    c.Ends setup floor
      (enter >>= fun _ => act >>= fun answer => leave >>= fun _ => pure answer) es want := by
  obtain ⟨after, ran, scene, passes⟩ := h
  refine ⟨{ after with depth := after.depth - 1 }, ?_, scene, ?_, passes.begun⟩
  · show (act { c with depth := c.depth + 1 } >>= fun p =>
      some (p.1, { p.2 with depth := p.2.depth - 1 })) = _
    rw [ran]
    rfl
  · show after.depth - 1 = c.depth
    rw [passes.depth, Nat.add_sub_cancel]

/-- What ends for every item ends for all of them, one after the other. -/
theorem ends_mapM {act : α → Cascading β} {step : α → Scene → β × Scene}
    {trace : α → Scene → List Execution}
    (each : ∀ x (c : Cascade), c.depth = depth →
      c.Ends setup floor (act x) (trace x c.scene) (step x c.scene))
    (xs : List α) (c : Cascade) (level : c.depth = depth) :
    c.Ends setup floor (xs.mapM act) (traceEach step trace xs c.scene) (c.scene.each step xs) := by
  induction xs generalizing c with
  | nil => exact ends_pure [] c
  | cons x xs ih =>
    rw [List.mapM_cons, traceEach, Scene.each_cons]
    refine (each x c level).bind fun c' same there => ?_
    rw [← there]
    exact (ih c' (same.trans level)).answer _

end

/-! ## Every effect comes to an end if what it sets off does -/

section

variable {followUp : FollowUp} {trace : FollowUpTrace}
  (follows : ∀ card seat timing (c : Cascade), c.depth = depth →
    c.Ends setup depth (setup.fire card seat timing) (trace card seat timing c.scene)
      (followUp card seat timing c.scene))

include follows

theorem destroyCard_ends (target : CardRef) (c : Cascade) (level : c.depth = depth) :
    c.Ends setup depth (setup.destroyCard target) (destroyCardTrace setup trace target c.scene)
      (Resolution.destroyCard setup followUp target c.scene) := by
  rw [Setup.destroyCard, Resolution.destroyCard, destroyCardTrace]
  apply Ends.after_get
  cases destroyed setup target c.scene with
  | error fault => exact ends_pure fault c
  | ok gone =>
    obtain ⟨owner, gone⟩ := gone
    apply Ends.after_change
    exact (follows target owner .onDestroy { c with scene := gone } level).answer _

theorem destroy_ends (r : Request) (c : Cascade) (level : c.depth = depth) :
    c.Ends setup depth (setup.destroy r) (destroyTrace setup followUp trace r c.scene)
      (Resolution.destroy setup followUp r c.scene) := by
  rw [Setup.destroy, Resolution.destroy, destroyTrace]
  split
  · exact ends_pure noTarget c
  · exact (ends_mapM (destroyCard_ends follows) r.limitedTargets c level).answer _

theorem summon_ends (r : Request) (c : Cascade) (level : c.depth = depth) :
    c.Ends setup depth (setup.summon r) (summonTrace setup trace r c.scene)
      (Resolution.summon setup followUp r c.scene) := by
  rw [Setup.summon, Resolution.summon, summonTrace]
  apply Ends.after_get
  cases specialSummoned setup r c.scene with
  | error fault => exact ends_pure fault c
  | ok summoned =>
    obtain ⟨card, printed, there⟩ := summoned
    apply Ends.after_change
    exact (follows card r.actor .onSummon { c with scene := there } level).answer _

theorem perform_ends (r : Request) (c : Cascade) (level : c.depth = depth) :
    c.Ends setup depth (setup.perform r) (performTrace setup followUp trace r c.scene)
      (Resolution.perform setup followUp r c.scene) := by
  rw [Setup.perform, performTrace, Resolution.perform]
  cases kind : r.effect.kind with
  | destroy => exact destroy_ends follows r c level
  | summon => exact summon_ends follows r c level
  | _ =>
    dsimp only
    apply Ends.after_get
    rw [Resolution.perform, kind]
    exact Ends.after_change (ends_pure _ _)

theorem run_ends (r : Request) (c : Cascade) (level : c.depth = depth) :
    c.Ends setup depth (setup.run r) (runWithTrace setup followUp trace r c.scene).inside
      (runWith setup followUp r c.scene) := by
  rw [Setup.run, runWith, runWithTrace]
  apply Ends.after_get
  cases fault? setup r c.scene.table with
  | some fault => exact ends_pure _ c
  | none =>
    exact (perform_ends follows r c level).map id fun outcome s =>
      if outcome.success then markUsed r s else s

theorem trigger_ends {card : CardRef} {seat : Seat} {timing : Timing}
    (above : floor < depth) (within : depth ≤ setup.rules.triggerDepth)
    (e : Effect) (c : Cascade) (level : c.depth = depth) :
    c.Ends setup floor (setup.trigger card seat timing e)
      (triggerTrace setup followUp trace card seat timing e c.scene)
      (Resolution.trigger setup followUp card seat timing e c.scene) := by
  rw [Setup.trigger]
  apply Ends.after_change
  let told := c.scene.record (triggerNews setup c.scene.table card seat timing e)
  let r : Request := ⟨e, seat, some card, []⟩
  obtain ⟨after, ran, scene, passes⟩ :=
    run_ends follows r { c with scene := told, begun := c.begun ++ [(r, c.depth)] } level
  subst level
  exact ⟨after, ran, scene, .begin (c := { c with scene := told }) above within passes⟩

end

/-- With as many firings under way as the rules allow, nothing is set off. -/
theorem fire_of_full (full : setup.rules.triggerDepth ≤ c.depth) (card : CardRef) (seat : Seat)
    (timing : Timing) : setup.fire card seat timing c = some ([], c) := by
  rw [Setup.fire]
  show (if _ ∨ setup.rules.triggerDepth ≤ c.depth then pure [] else _ : Cascading _) c = _
  rw [if_pos (.inr full)]
  rfl

/-- Everything that is set off comes to an end, and does what the program does that counts the
levels that are left.  The induction is on these: a firing raises the counter, so what it sets off
has one level less, and with none left nothing happens at all. -/
theorem fire_ends (setup : Setup) (left depth : Nat)
    (counter : setup.rules.triggerDepth - depth = left) (card : CardRef) (seat : Seat)
    (timing : Timing) (c : Cascade) (level : c.depth = depth) :
    c.Ends setup depth (setup.fire card seat timing)
      (fireWithinTrace setup left card seat timing c.scene)
      (fireWithin setup left card seat timing c.scene) := by
  induction left generalizing depth card seat timing c with
  | zero =>
    have full : setup.rules.triggerDepth ≤ c.depth := by omega
    exact ⟨c, fire_of_full full card seat timing, rfl, .of_scene c c.scene⟩
  | succ left ih =>
    have below : depth < setup.rules.triggerDepth := by omega
    rw [Setup.fire, fireWithinTrace, fireWithin]
    apply Ends.after_get
    dsimp only
    split
    · next stop =>
      have idle : (setup.abilityOf c.scene.table card).triggered timing = [] :=
        List.isEmpty_iff.1 (stop.resolve_right (by omega))
      rw [idle]
      exact ends_pure [] c
    · have follows := ih (depth + 1) (by omega)
      have each : ∀ e (c' : Cascade), c'.depth = depth + 1 →
          c'.Ends setup depth (setup.trigger card seat timing e) _ _ :=
        trigger_ends follows (Nat.lt_succ_self depth) below
      subst level
      exact (ends_mapM each _ { c with depth := c.depth + 1 } rfl).firing

/-- From any moment of a cascade, whatever was set off before: every effect that is carried out
comes to an end, and so does everything that is set off at a timing.  On return the counter is
where it was, and what was set off in between ran with more firings under way than at the start,
but never more than the rules allow.  The outcome is that of the program that counts down the
levels left, the limit of the rules less the counter.  At the limit nothing is set off, and nothing
changes.  From the start the levels left are those of the rules. -/
theorem ends_within_limit (setup : Setup) (c : Cascade) :
    let left := setup.rules.triggerDepth - c.depth
    (∀ r, c.Ends setup c.depth (setup.run r)
        (runWithTrace setup (fireWithin setup left) (fireWithinTrace setup left) r c.scene).inside
        (runWith setup (fireWithin setup left) r c.scene)) ∧
      (∀ card seat timing, c.Ends setup c.depth (setup.fire card seat timing)
        (fireWithinTrace setup left card seat timing c.scene)
        (fireWithin setup left card seat timing c.scene)) ∧
      (setup.rules.triggerDepth ≤ c.depth →
        ∀ card seat timing, setup.fire card seat timing c = some ([], c)) ∧
      (c.depth = 0 → runWith setup (fireWithin setup left) = Resolution.run setup ∧
        fireWithin setup left = Resolution.fire setup) := by
  intro left
  have follows := fire_ends setup left c.depth rfl
  refine ⟨fun r => run_ends follows r c rfl, fun card seat timing => follows card seat timing c rfl,
    fire_of_full, fun start => ?_⟩
  have whole : left = setup.rules.triggerDepth := by
    show setup.rules.triggerDepth - c.depth = _
    rw [start, Nat.sub_zero]
  rw [whole]
  exact ⟨rfl, rfl⟩

end Cascade

namespace Sample

/-- A monster that calls another one when it comes. -/
def relay : Card where
  id := ⟨1⟩
  name := "Torch Relay"
  type := .creature
  attack := 300
  defense := 300
  level := 1
  text := some "When this card is summoned: Special Summon 1 monster from your hand."

def relaying : Ability :=
  ⟨[{ kind := .summon, value := 1, timing := some .onSummon, source := some .hand,
      text := "When this card is summoned: Special Summon 1 monster from your hand" }]⟩

theorem ability_relay : relaying = relay.ability := by decide +kernel

/-- A duel with this card, in which effects set off others two levels deep. -/
def torchlit : Setup where
  catalog := ⟨[⟨relay, relaying, ability_relay⟩]⟩
  rules := { triggerDepth := 2 }

/-- The host holds four relays. -/
def relays : Scene :=
  (draw .host 4 {
    table := (Table.start torchlit.rules 0).addCards .host (List.replicate 4 relay.id)
    log := .start lobby ⟨"game"⟩ players }).2

/-- One of them is to be summoned. -/
def lighting : Request where
  effect := { kind := .summon, value := 1 }
  actor := .host

end Sample

namespace Cascade

/-- Each relay calls the next one, until two firings are under way: then the third one comes and
calls nobody, though a fourth is in the hand. -/
theorem relay_ends_at_limit :
    (∃ outcome after,
      Sample.torchlit.run Sample.lighting ⟨Sample.relays, 0, []⟩ = some (outcome, after) ∧
        after.depth = 0 ∧ after.begun.length = 2 ∧ (∀ entry ∈ after.begun, entry.2 ≤ 2) ∧
        (after.scene.side .host).board.map (·.card) = [⟨0⟩, ⟨1⟩, ⟨2⟩] ∧
        (after.scene.side .host).hand = [⟨3⟩]) ∧
      Sample.torchlit.fire ⟨0⟩ .host .onSummon ⟨Sample.relays, 2, []⟩ =
        some ([], ⟨Sample.relays, 2, []⟩) := by
  obtain ⟨runs, -⟩ := ends_within_limit Sample.torchlit ⟨Sample.relays, 0, []⟩
  obtain ⟨-, -, full, -⟩ := ends_within_limit Sample.torchlit ⟨Sample.relays, 2, []⟩
  obtain ⟨after, ran, scene, passes⟩ := runs Sample.lighting
  obtain ⟨more, begun, told, within⟩ := passes.begun
  have begun : after.begun = more := begun
  refine ⟨⟨_, after, ran, passes.depth, ?_, ?_, ?_, ?_⟩, full (Nat.le_refl 2) ⟨0⟩ .host .onSummon⟩
  · rw [begun, ← List.length_map (·.1), told]
    decide +kernel
  · rw [begun]
    exact fun entry among => (within entry among).2
  · rw [scene]
    decide +kernel
  · rw [scene]
    decide +kernel

end Cascade

end CardDuel
