import CardDuel.Proofs.Beats
import CardDuel.Proofs.Conservation
import CardDuel.Proofs.Field

/-!
# From the scene before to the scene after

What an effect may do depends on the scene in which it is carried out, and inside a move there are
many: each effect begins where the one before it has ended, and one that is set off begins in the
middle of another.  This file lists all effects of a move, and everything that happens by itself,
with the scenes before and after.

* `Span`: an effect that is carried out or refused, or all effects of a card at a timing, with the
  scenes on both sides.
* `runWithSpans`, `fireSpans` and so on: the spans of the functions of that name, at any depth, in
  the order in which they begin.
* `Span.Genuine`: the scene after is what the program makes of the scene before.
* `Scene.Ordered`: the field is legal and every card is in its place or loose.
* `Play.spans_ordered`: each span of a move is genuine, and begins in a scene that is in order.
* `Match.tried_spans`: the effects among the spans are the executions of the move.
-/

namespace CardDuel

open Resolution

/-- A stretch of a match in which something is carried out. -/
inductive Span where
  /-- An effect is carried out or refused. -/
  | run (request : Request) (before : Scene) (outcome : Outcome) (after : Scene)
  /-- The effects of a card at a timing are set off. -/
  | firing (card : CardRef) (seat : Seat) (timing : Timing) (before : Scene)
      (outcomes : List Outcome) (after : Scene)

namespace Span

/-- The scene in which the span begins. -/
def before : Span → Scene
  | run _ before _ _ => before
  | firing _ _ _ before _ _ => before

/-- The scene after the span is what becomes of the scene before it, with what is set off on the
way up to some depth. -/
def Genuine (setup : Setup) : Span → Prop
  | run r before outcome after =>
    ∃ depth, runWith setup (fireWithin setup depth) r before = (outcome, after)
  | firing card seat timing before outcomes after =>
    ∃ depth, fireWithin setup depth card seat timing before = (outcomes, after)

/-- The effect that is carried out or refused, with its outcome. -/
def tried? : Span → Option (Request × Outcome)
  | run r _ outcome _ => some (r, outcome)
  | firing _ _ _ _ _ _ => none

end Span

/-- An execution as it is told: what was to be carried out, and what came of it. -/
def Execution.told (e : Execution) : Request × Outcome := (e.request, e.outcome)

namespace Resolution

/-! ## Spans of effects -/

/-- The spans while something is done for each item in turn. -/
def spansEach {α β : Type} (act : α → Scene → β × Scene) (spans : α → Scene → List Span) :
    List α → Scene → List Span
  | [], _ => []
  | x :: xs, s => spans x s ++ spansEach act spans xs (act x s).2

/-- What answers the spans of the effects of a card at a timing. -/
abbrev FollowUpSpans := CardRef → Seat → Timing → Scene → List Span

section

variable (setup : Setup) (followUp : FollowUp) (spans : FollowUpSpans)

def destroyCardSpans (target : CardRef) (s : Scene) : List Span :=
  match destroyed setup target s with
  | .error _ => []
  | .ok (owner, gone) => spans target owner .onDestroy gone

def destroySpans (r : Request) (s : Scene) : List Span :=
  if r.targets.isEmpty then []
  else spansEach (destroyCard setup followUp) (destroyCardSpans setup spans) r.limitedTargets s

def summonSpans (r : Request) (s : Scene) : List Span :=
  match specialSummoned setup r s with
  | .error _ => []
  | .ok (card, _, there) => spans card r.actor .onSummon there

/-- The spans inside one effect.  Only destruction and summons have any. -/
def performSpans (r : Request) (s : Scene) : List Span :=
  match r.effect.kind with
  | .destroy => destroySpans setup followUp spans r s
  | .summon => summonSpans setup spans r s
  | _ => []

/-- The span of an effect, and those inside it. -/
def runWithSpans (r : Request) (s : Scene) : List Span :=
  .run r s (runWith setup followUp r s).1 (runWith setup followUp r s).2 ::
    if (fault? setup r s.table).isSome then [] else performSpans setup followUp spans r s

def triggerSpans (card : CardRef) (seat : Seat) (timing : Timing) (e : Effect) (s : Scene) :
    List Span :=
  runWithSpans setup followUp spans ⟨e, seat, some card, []⟩
    (s.record (triggerNews setup s.table card seat timing e))

end

def fireWithinSpans (setup : Setup) : (depth : Nat) → FollowUpSpans
  | 0 => fun _ _ _ _ => []
  | depth + 1 => fun card seat timing s =>
    .firing card seat timing s (fireWithin setup (depth + 1) card seat timing s).1
        (fireWithin setup (depth + 1) card seat timing s).2 ::
      spansEach (trigger setup (fireWithin setup depth) card seat timing)
        (triggerSpans setup (fireWithin setup depth) (fireWithinSpans setup depth) card seat timing)
        ((setup.abilityOf s.table card).triggered timing) s

def fireSpans (setup : Setup) : FollowUpSpans := fireWithinSpans setup setup.rules.triggerDepth

/-- The spans of an effect that a player has activated. -/
def runSpans (setup : Setup) : Request → Scene → List Span :=
  runWithSpans setup (fire setup) (fireSpans setup)

def runAbilitySpans (setup : Setup) (card : CardRef) (seat : Seat) (targets : List CardRef)
    (s : Scene) : List Span :=
  spansEach (fun e => run setup ⟨e, seat, some card, targets⟩)
    (fun e => runSpans setup ⟨e, seat, some card, targets⟩)
    (setup.abilityOf s.table card).onResolution s

/-! ## Scenes along the way -/

/-- What holds in a scene and is kept by each item holds wherever a span of the items begins. -/
theorem spansEach_all {α β : Type} {act : α → Scene → β × Scene} {spans : α → Scene → List Span}
    {Keeps : Scene → Prop} {P : Span → Prop} (step : ∀ x s, Keeps s → Keeps (act x s).2)
    (all : ∀ x s, Keeps s → ∀ span ∈ spans x s, P span) (xs : List α) {s : Scene} (h : Keeps s) :
    ∀ span ∈ spansEach act spans xs s, P span := by
  induction xs generalizing s with
  | nil => exact List.forall_mem_nil _
  | cons x xs ih =>
    intro span hm
    rcases List.mem_append.1 hm with first | later
    · exact all x s h span first
    · exact ih (step x s h) span later

section

variable {setup : Setup} {Keeps : Scene → Prop}
  (kept : ∀ s s', Step setup s s' → Keeps s → Keeps s')

include kept

theorem keeps_steps {s s' : Scene} (steps : Steps setup s s') (h : Keeps s) : Keeps s' :=
  keeps_along steps kept h

/-- What every step keeps holds wherever something begins in the course of an effect. -/
theorem performSpans_keeps {depth : Nat} {P : Span → Prop}
    (follows : ∀ card seat timing s, Keeps s →
      ∀ span ∈ fireWithinSpans setup depth card seat timing s, P span) (r : Request) {s : Scene}
    (h : Keeps s) :
    ∀ span ∈ performSpans setup (fireWithin setup depth) (fireWithinSpans setup depth) r s,
      P span := by
  unfold performSpans
  split
  · unfold destroySpans
    split
    · exact List.forall_mem_nil _
    · refine spansEach_all (fun target s h => ?_) (fun target s h => ?_) _ h
      · exact keeps_steps kept (destroyCard_course (fireWithin_course depth) target s).steps h
      · unfold destroyCardSpans
        split
        · exact List.forall_mem_nil _
        · next owner gone there =>
          exact follows target owner .onDestroy gone (kept s gone (.act (.destroy there)) h)
  · unfold summonSpans
    split
    · exact List.forall_mem_nil _
    · next card _ there summoned =>
      exact follows card r.actor .onSummon there (kept s there (.act (.summon summoned)) h)
  · exact List.forall_mem_nil _

theorem runWithSpans_keeps {depth : Nat}
    (follows : ∀ card seat timing s, Keeps s →
      ∀ span ∈ fireWithinSpans setup depth card seat timing s,
        Keeps span.before ∧ span.Genuine setup) (r : Request) {s : Scene} (h : Keeps s) :
    ∀ span ∈ runWithSpans setup (fireWithin setup depth) (fireWithinSpans setup depth) r s,
      Keeps span.before ∧ span.Genuine setup := by
  intro span hm
  rcases List.mem_cons.1 hm with rfl | inside
  · exact ⟨h, depth, rfl⟩
  · split at inside
    · exact absurd inside List.not_mem_nil
    · exact performSpans_keeps kept follows r h span inside

theorem fireWithinSpans_keeps (depth : Nat) (card : CardRef) (seat : Seat) (timing : Timing)
    {s : Scene} (h : Keeps s) :
    ∀ span ∈ fireWithinSpans setup depth card seat timing s,
      Keeps span.before ∧ span.Genuine setup := by
  induction depth generalizing card seat timing s with
  | zero => exact List.forall_mem_nil _
  | succ depth ih =>
    have follows (card : CardRef) (seat : Seat) (timing : Timing) (s : Scene) (h : Keeps s) :
        ∀ span ∈ fireWithinSpans setup depth card seat timing s,
          Keeps span.before ∧ span.Genuine setup := ih card seat timing h
    intro span hm
    rcases List.mem_cons.1 hm with rfl | inside
    · exact ⟨h, depth + 1, rfl⟩
    · refine spansEach_all (P := fun span => Keeps span.before ∧ span.Genuine setup)
        (fun e s h => ?_) (fun e s h => ?_) _ h span inside
      · exact keeps_steps kept
          (trigger_course (fireWithin_course depth) card seat timing e s).steps h
      · exact runWithSpans_keeps kept follows _ (kept _ _ (.trigger card seat timing e s) h)

theorem fireSpans_keeps (card : CardRef) (seat : Seat) (timing : Timing) {s : Scene} (h : Keeps s) :
    ∀ span ∈ fireSpans setup card seat timing s, Keeps span.before ∧ span.Genuine setup :=
  fireWithinSpans_keeps kept _ card seat timing h

theorem runSpans_keeps (r : Request) {s : Scene} (h : Keeps s) :
    ∀ span ∈ runSpans setup r s, Keeps span.before ∧ span.Genuine setup :=
  runWithSpans_keeps kept (fun card seat timing _ h => fireSpans_keeps kept card seat timing h) r h

theorem runAbilitySpans_keeps (card : CardRef) (seat : Seat) (targets : List CardRef) {s : Scene}
    (h : Keeps s) :
    ∀ span ∈ runAbilitySpans setup card seat targets s,
      Keeps span.before ∧ span.Genuine setup :=
  spansEach_all (fun _ s h => keeps_steps kept (run_course _ s).steps h)
    (fun _ _ h => runSpans_keeps kept _ h) _ h

end

end Resolution

/-! ## Spans of moves -/

namespace Chain

def linkSpans (setup : Setup) (link : Link) (s : Scene) : List Span :=
  if link.card ∈ s.table.negated then []
  else runSpans setup ⟨link.effect, link.controller, some link.card, link.targets⟩ s

def resolveSpans (setup : Setup) (chain : Chain) (s : Scene) : List Span :=
  spansEach (settleLink setup) (linkSpans setup) chain.links.reverse s

end Chain

namespace Match

def boardSpans (setup : Setup) (seat : Seat) (timing : Timing) (s : Scene) : List Span :=
  spansEach (fireIfFaceUp setup seat timing)
    (fun card s => if isFaceUp s seat card then fireSpans setup card seat timing s else [])
    (((s.side seat).board.filter (!·.isFaceDown)).map (·.card)) s

def endPhaseSpans (setup : Setup) (seat : Seat) (m : Match) : List Span :=
  let there := m.atEndPhase seat
  let own := there.act (fireForBoard setup seat .onEnd)
  boardSpans setup seat .onEnd there.toScene ++ boardSpans setup seat.other .onEnd own.2.toScene

def activateSpans (setup : Setup) (seat : Seat) (card : CardRef) (targets : List CardRef)
    (m : Match) : List Span :=
  match setup.card? m.table card with
  | some printed =>
    match linkZone (m.side seat) card printed.type with
    | .ok zone => runAbilitySpans setup card seat targets (m.lifted seat card zone printed).toScene
    | .error _ => []
  | none => []

/-- The spans of a move that is made. -/
def spans (setup : Setup) (seat : Seat) (m : Match) : Move → List Span
  | .normalSummon card tributes stance =>
    match setup.card? m.table card with
    | some printed =>
      fireSpans setup card seat .onSummon (m.summoned setup seat card printed tributes stance).toScene
    | none => []
  | .flipSummon card stance =>
    match setup.card? m.table card with
    | some printed =>
      fireSpans setup card seat .onFlip (m.flipped seat card printed stance).toScene
    | none => []
  | .activateSpell card targets => m.activateSpans setup seat card targets
  | .activateTrap card targets => m.activateSpans setup seat card targets
  | .resolveChain => m.chain.resolveSpans setup m.toScene
  | .advancePhase =>
    match following m.table.phase with
    | .ok .battle => boardSpans setup seat .onBattleStart (m.enterPhase seat .battle).toScene
    | _ => []
  | .endTurn => m.endPhaseSpans setup seat
  | _ => []

end Match

/-- The spans of a move that was made. -/
def Play.spans (setup : Setup) (p : Play) : List Span :=
  match p.before.seatOf? p.user with
  | some seat => p.before.spans setup seat p.move
  | none => []

/-! ## Spans and executions -/

namespace Resolution

theorem tried_spansEach {α β : Type} {act : α → Scene → β × Scene} {spans : α → Scene → List Span}
    {trace : α → Scene → List Execution}
    (same : ∀ x s, (spans x s).filterMap (·.tried?) = (Execution.flat (trace x s)).map (·.told))
    (xs : List α) (s : Scene) :
    (spansEach act spans xs s).filterMap (·.tried?) =
      (Execution.flat (traceEach act trace xs s)).map (·.told) := by
  induction xs generalizing s with
  | nil => rfl
  | cons x xs ih =>
    rw [spansEach, traceEach, List.filterMap_append, Execution.flat_append, List.map_append, same,
      ih]

section

variable {setup : Setup} {followUp : FollowUp} {spans : FollowUpSpans} {trace : FollowUpTrace}
  (same : ∀ card seat timing s, (spans card seat timing s).filterMap (·.tried?) =
    (Execution.flat (trace card seat timing s)).map (·.told))

include same

theorem tried_performSpans (r : Request) (s : Scene) :
    (performSpans setup followUp spans r s).filterMap (·.tried?) =
      (Execution.flat (performTrace setup followUp trace r s)).map (·.told) := by
  unfold performSpans performTrace
  cases r.effect.kind with
  | destroy =>
    dsimp only [destroySpans, destroyTrace]
    split
    · rfl
    · refine tried_spansEach (fun target s => ?_) _ s
      unfold destroyCardSpans destroyCardTrace
      cases destroyed setup target s with
      | error fault => rfl
      | ok gone => exact same target gone.1 .onDestroy gone.2
  | summon =>
    dsimp only [summonSpans, summonTrace]
    cases specialSummoned setup r s with
    | error fault => rfl
    | ok there => exact same there.1 r.actor .onSummon there.2.2
  | _ => rfl

theorem tried_runWithSpans (r : Request) (s : Scene) :
    (runWithSpans setup followUp spans r s).filterMap (·.tried?) =
      (Execution.flat [runWithTrace setup followUp trace r s]).map (·.told) := by
  let run : Request × Outcome := (r, (runWith setup followUp r s).1)
  let inside := if (fault? setup r s.table).isSome then []
    else performSpans setup followUp spans r s
  rw [Execution.flat_cons, Execution.flat_nil, List.append_nil, List.map_cons]
  show run :: inside.filterMap (·.tried?) = run :: _
  refine congrArg (List.cons run) ?_
  dsimp only [inside, runWithTrace]
  split
  · rfl
  · exact tried_performSpans same r s

end

theorem tried_fireWithinSpans (setup : Setup) (depth : Nat) (card : CardRef) (seat : Seat)
    (timing : Timing) (s : Scene) :
    (fireWithinSpans setup depth card seat timing s).filterMap (·.tried?) =
      (Execution.flat (fireWithinTrace setup depth card seat timing s)).map (·.told) := by
  induction depth generalizing card seat timing s with
  | zero => rfl
  | succ depth ih =>
    rw [fireWithinSpans, List.filterMap_cons_none rfl]
    exact tried_spansEach (fun e s => tried_runWithSpans ih _ _) _ s

theorem tried_fireSpans (setup : Setup) (card : CardRef) (seat : Seat) (timing : Timing)
    (s : Scene) :
    (fireSpans setup card seat timing s).filterMap (·.tried?) =
      (Execution.flat (fireTrace setup card seat timing s)).map (·.told) :=
  tried_fireWithinSpans setup _ card seat timing s

theorem tried_runSpans (setup : Setup) (r : Request) (s : Scene) :
    (runSpans setup r s).filterMap (·.tried?) =
      (Execution.flat [runTrace setup r s]).map (·.told) :=
  tried_runWithSpans (tried_fireSpans setup) r s

theorem tried_runAbilitySpans (setup : Setup) (card : CardRef) (seat : Seat)
    (targets : List CardRef) (s : Scene) :
    (runAbilitySpans setup card seat targets s).filterMap (·.tried?) =
      (Execution.flat (runAbilityTrace setup card seat targets s)).map (·.told) :=
  tried_spansEach (fun _ s => tried_runSpans setup _ s) _ s

end Resolution

namespace Match

variable {setup : Setup}

theorem tried_boardSpans (seat : Seat) (timing : Timing) (s : Scene) :
    (boardSpans setup seat timing s).filterMap (·.tried?) =
      (Execution.flat (boardTrace setup seat timing s)).map (·.told) := by
  refine tried_spansEach (fun card s => ?_) _ s
  split
  · exact tried_fireSpans setup card seat timing s
  · rfl

/-- The effects among the spans of a move are all its executions, at any depth and in the order in
which they begin. -/
theorem tried_spans (setup : Setup) (seat : Seat) (m : Match) (move : Move) :
    (m.spans setup seat move).filterMap (·.tried?) =
      (Execution.flat (turnOf 0 (m.beats setup seat move))).map (·.told) := by
  have activated (card : CardRef) (targets : List CardRef) :
      (m.activateSpans setup seat card targets).filterMap (·.tried?) =
        (Execution.flat (m.activateTrace setup seat card targets)).map (·.told) := by
    unfold activateSpans activateTrace
    cases setup.card? m.table card with
    | none => rfl
    | some printed =>
      dsimp only
      cases linkZone (m.side seat) card printed.type with
      | error refusal => rfl
      | ok zone => exact tried_runAbilitySpans setup card seat targets _
  unfold spans beats
  cases move with
  | normalSummon card tributes stance =>
    dsimp only
    cases setup.card? m.table card with
    | none => rfl
    | some printed =>
      rw [turnOf_carried]
      exact tried_fireSpans setup card seat .onSummon _
  | flipSummon card stance =>
    dsimp only
    cases setup.card? m.table card with
    | none => rfl
    | some printed =>
      rw [turnOf_carried]
      exact tried_fireSpans setup card seat .onFlip _
  | activateSpell card targets =>
    rw [turnOf_carried]
    exact activated card targets
  | activateTrap card targets =>
    rw [turnOf_carried]
    exact activated card targets
  | resolveChain =>
    rw [turnOf_carried]
    refine tried_spansEach (fun link s => ?_) _ m.toScene
    unfold Chain.linkSpans Chain.linkTrace
    split
    · rfl
    · exact tried_runSpans setup _ s
  | advancePhase =>
    dsimp only
    cases following m.table.phase with
    | error refusal => rfl
    | ok entered =>
      cases entered with
      | battle =>
        dsimp only
        rw [turnOf_carried]
        exact tried_boardSpans seat .onBattleStart _
      | _ => rfl
  | endTurn =>
    have ended : turnOf 0 ((m.endPhaseTrace setup seat).map .carried ++
        if (m.endPhase setup seat).2.table.isActive then [.rest] else []) =
          m.endPhaseTrace setup seat := by
      rw [turnOf_zero_append]
      split <;> exact List.append_nil _
    rw [ended, endPhaseSpans, endPhaseTrace, List.filterMap_append, Execution.flat_append,
      List.map_append, tried_boardSpans, tried_boardSpans]
  | _ => rfl

end Match

/-! ## Scenes that are in order -/

/-- The field is legal, and every card lies in its place or is loose. -/
structure Scene.Ordered (setup : Setup) (s : Scene) : Prop where
  field : s.table.Legal setup
  placed : ∃ loose, s.table.Placed loose

/-- The field is legal, and every card lies in its place. -/
structure Scene.Tidy (setup : Setup) (s : Scene) : Prop where
  field : s.table.Legal setup
  placed : s.table.Placed []

section

variable {setup : Setup} {s s' : Scene}

theorem Scene.Tidy.ordered (h : s.Tidy setup) : s.Ordered setup := ⟨h.field, [], h.placed⟩

theorem legal_entries (entries : Entries setup s s') (h : s.table.Legal setup) :
    s'.table.Legal setup := by
  induction entries with
  | refl => exact h
  | tail _ entry ih => exact entry.legal ih

theorem Scene.Ordered.step (s s' : Scene) (step : Step setup s s') (h : s.Ordered setup) :
    s'.Ordered setup := by
  have steps : Steps setup s s' := .single step
  obtain ⟨loose, placed⟩ := h.placed
  exact ⟨legal_entries steps.entries h.field, loose,
    placed.rearranged steps.affected.table.toRearranged⟩

/-- Every span that begins in a scene which is in order is of this kind. -/
def Span.Ordered (setup : Setup) (span : Span) : Prop :=
  span.before.Ordered setup ∧ span.Genuine setup

theorem Chain.resolveSpans_ordered (chain : Chain) (h : s.Tidy setup) :
    ∀ span ∈ chain.resolveSpans setup s, span.Ordered setup := by
  refine spansEach_all (fun link s h => ?_) (fun link s h => ?_) _ h
  · have ran : Entries setup s (runLink setup link s).2 := (runLink_steps link s).entries
    exact ⟨legal_entries (ran.trans (clearing_spend setup link.card _).entries) h.field,
      (unchains_settleLink link h.placed).placed⟩
  · unfold linkSpans
    split
    · exact List.forall_mem_nil _
    · exact runSpans_keeps Scene.Ordered.step _ h.ordered

namespace Match

variable {m after : Match} {seat : Seat} {move : Move} {report : MoveReport}

theorem Motions.tidy {m' : Match} (motions : Motions setup m m') (h : m.toScene.Tidy setup) :
    m'.toScene.Tidy setup :=
  ⟨legal_entries (motions.entries h.placed) h.field,
    h.placed.rearranged (motions.calm h.placed).table⟩

theorem boardSpans_ordered (seat : Seat) (timing : Timing) (h : s.Ordered setup) :
    ∀ span ∈ boardSpans setup seat timing s, span.Ordered setup := by
  refine spansEach_all (fun card s h => ?_) (fun card s h => ?_) _ h
  · unfold fireIfFaceUp
    split
    · exact keeps_steps Scene.Ordered.step (fire_course card seat timing s).steps h
    · exact h
  · split
    · exact fireSpans_keeps Scene.Ordered.step card seat timing h
    · exact List.forall_mem_nil _

theorem endPhaseSpans_ordered (seat : Seat) (h : m.toScene.Tidy setup) :
    ∀ span ∈ m.endPhaseSpans setup seat, span.Ordered setup := by
  have there : (m.atEndPhase seat).toScene.Tidy setup :=
    (atEndPhase_motions setup seat m).tidy h
  have own := Motions.tidy (.single (motion_fireForBoard seat .onEnd there.placed)) there
  intro span hm
  rcases List.mem_append.1 hm with first | second
  · exact boardSpans_ordered seat .onEnd there.ordered span first
  · exact boardSpans_ordered seat.other .onEnd own.ordered span second

/-- The spans of a card that is activated begin when it has been lifted out of its zone. -/
theorem activateSpans_ordered {card : CardRef} {zone : Zone} {printed : Card}
    {targets : List CardRef} (ok : Activatable setup m seat card zone printed)
    (h : m.toScene.Tidy setup) :
    ∀ span ∈ m.activateSpans setup seat card targets, span.Ordered setup := by
  have lifted : (m.lifted seat card zone printed).toScene.Ordered setup :=
    ⟨legal_entries (clearing_lifted zone printed).entries h.field, [card], h.placed.remove ok.held⟩
  unfold activateSpans
  rw [ok.known]
  simp only [ok.zone]
  exact runAbilitySpans_keeps Scene.Ordered.step card seat targets lifted

theorem spans_ordered (h : m.toScene.Tidy setup)
    (onTurn : move.needsTurn = false ∨ m.table.current = seat)
    (made : m.make setup seat move = .ok (report, after)) :
    ∀ span ∈ m.spans setup seat move, span.Ordered setup := by
  cases move with
  | normalSummon card tributes stance =>
    obtain ⟨_, hmove, rfl⟩ := reported_eq_ok.1 made
    obtain ⟨printed, ok, -, -⟩ := normalSummon_ok hmove
    have summoned : Motion setup m (m.summoned setup seat card printed tributes stance) :=
      .summon ok (onTurn.resolve_left nofun) stance
    have there := Motions.tidy (.single summoned) h
    simp only [spans, ok.known]
    exact fireSpans_keeps Scene.Ordered.step card seat .onSummon there.ordered
  | flipSummon card stance =>
    obtain ⟨_, hmove, rfl⟩ := reported_eq_ok.1 made
    obtain ⟨printed, -, onBoard, known, -, -⟩ := flipSummon_ok hmove
    have there := Motions.tidy (.single (.flip onBoard printed stance)) h
    simp only [spans, known]
    exact fireSpans_keeps Scene.Ordered.step card seat .onFlip there.ordered
  | activateSpell card targets =>
    obtain ⟨_, hmove, rfl⟩ := reported_eq_ok.1 made
    obtain ⟨printed, zone, ok, -⟩ := activateSpell_ok hmove
    exact activateSpans_ordered ok h
  | activateTrap card targets =>
    obtain ⟨_, hmove, rfl⟩ := reported_eq_ok.1 made
    obtain ⟨printed, ok, -⟩ := activateTrap_ok hmove
    exact activateSpans_ordered ok h
  | resolveChain => exact m.chain.resolveSpans_ordered h
  | advancePhase =>
    obtain ⟨_, hmove, rfl⟩ := reported_eq_ok.1 made
    obtain ⟨entered, -, follows, -, -⟩ := advancePhase_ok hmove
    rw [spans, follows]
    cases entered with
    | battle =>
      have there := Motions.tidy (.single (.enter seat .battle fun _ => rfl)) h
      exact boardSpans_ordered seat .onBattleStart there.ordered
    | _ => exact List.forall_mem_nil _
  | endTurn => exact endPhaseSpans_ordered seat h
  | _ => exact List.forall_mem_nil _

end Match

/-- Every span of a move is genuine, and begins in a scene that is in order. -/
theorem Play.spans_ordered {p : Play} (h : p.before.toScene.Tidy setup)
    (legal : p.Legal setup) : ∀ span ∈ p.spans setup, span.Ordered setup := by
  obtain ⟨seat, made, seated, -, onTurn, hmade, -⟩ := Match.play_ok legal
  unfold Play.spans
  rw [seated]
  exact Match.spans_ordered h onTurn hmade

end

namespace Arena

variable {setup : Setup} {calls : List Call} {lobby : Lobby}

theorem tidy_of_live {m : Match}
    (live : ((start setup).serveAll calls).lobbies lobby = .live m) : m.toScene.Tidy setup where
  field := legal_of_live live
  placed := placed_of_live live

end Arena

end CardDuel
