import CardDuel.Proofs.Calm
import CardDuel.Proofs.Histories

/-!
# What happens in a move

A move carries out some effects, and the last move of a turn takes off the marks of the turn.
This file lists both in the order in which they happen, for a move and for all moves that an
arena has served.

* `Beat`: an execution, or the rest at the end of a turn.  `turnOf` picks the executions of a
  turn.
* `Match.beats`: what happens in a move, and `Arena.beats`: in all moves of a lobby.
* `MoveReport.Tells`, `Match.make_tells`: the report of a move tells the outcomes of exactly
  these executions.
-/

namespace CardDuel

open Resolution

/-! ## Beats -/

/-- What happens in a match as far as once-per-turn effects are concerned. -/
inductive Beat where
  | carried (e : Execution)
  /-- A turn ends, and its marks are taken off. -/
  | rest

/-- The executions in one turn, the first turn being `0`. -/
def turnOf : Nat → List Beat → List Execution
  | _, [] => []
  | 0, .carried e :: beats => e :: turnOf 0 beats
  | k + 1, .carried _ :: beats => turnOf (k + 1) beats
  | 0, .rest :: _ => []
  | k + 1, .rest :: beats => turnOf k beats

theorem turnOf_zero_append (es : List Execution) (beats : List Beat) :
    turnOf 0 (es.map .carried ++ beats) = es ++ turnOf 0 beats := by
  induction es with
  | nil => rfl
  | cons e es ih => rw [List.map_cons, List.cons_append, turnOf, ih, List.cons_append]

theorem turnOf_succ_append (k : Nat) (es : List Execution) (beats : List Beat) :
    turnOf (k + 1) (es.map .carried ++ beats) = turnOf (k + 1) beats := by
  induction es with
  | nil => rfl
  | cons e es ih => rw [List.map_cons, List.cons_append, turnOf, ih]

theorem turnOf_carried (es : List Execution) : turnOf 0 (es.map .carried) = es := by
  have all := turnOf_zero_append es []
  rwa [List.append_nil, turnOf, List.append_nil] at all

namespace Chain

def linkTrace (setup : Setup) (link : Link) (s : Scene) : List Execution :=
  if link.card ∈ s.table.negated then []
  else [runTrace setup ⟨link.effect, link.controller, some link.card, link.targets⟩ s]

def resolveTrace (setup : Setup) (chain : Chain) (s : Scene) : List Execution :=
  traceEach (settleLink setup) (linkTrace setup) chain.links.reverse s

end Chain

namespace Match

def boardTrace (setup : Setup) (seat : Seat) (timing : Timing) (s : Scene) : List Execution :=
  traceEach (fireIfFaceUp setup seat timing)
    (fun card s => if isFaceUp s seat card then fireTrace setup card seat timing s else [])
    (((s.side seat).board.filter (!·.isFaceDown)).map (·.card)) s

def endPhaseTrace (setup : Setup) (seat : Seat) (m : Match) : List Execution :=
  let there := m.atEndPhase seat
  let own := there.act (fireForBoard setup seat .onEnd)
  boardTrace setup seat .onEnd there.toScene ++ boardTrace setup seat.other .onEnd own.2.toScene

def activateTrace (setup : Setup) (seat : Seat) (card : CardRef) (targets : List CardRef)
    (m : Match) : List Execution :=
  match setup.card? m.table card with
  | some printed =>
    match linkZone (m.side seat) card printed.type with
    | .ok zone => runAbilityTrace setup card seat targets (m.lifted seat card zone printed).toScene
    | .error _ => []
  | none => []

/-- The executions of a move that is made, and the rest if it ends the turn. -/
def beats (setup : Setup) (seat : Seat) (m : Match) : Move → List Beat
  | .normalSummon card tributes stance =>
    match setup.card? m.table card with
    | some printed =>
      (fireTrace setup card seat .onSummon
        (m.summoned setup seat card printed tributes stance).toScene).map .carried
    | none => []
  | .flipSummon card stance =>
    match setup.card? m.table card with
    | some printed =>
      (fireTrace setup card seat .onFlip (m.flipped seat card printed stance).toScene).map .carried
    | none => []
  | .activateSpell card targets => (m.activateTrace setup seat card targets).map .carried
  | .activateTrap card targets => (m.activateTrace setup seat card targets).map .carried
  | .resolveChain => (m.chain.resolveTrace setup m.toScene).map .carried
  | .advancePhase =>
    match following m.table.phase with
    | .ok .battle =>
      (boardTrace setup seat .onBattleStart (m.enterPhase seat .battle).toScene).map .carried
    | _ => []
  | .endTurn =>
    (m.endPhaseTrace setup seat).map .carried ++
      if (m.endPhase setup seat).2.table.isActive then [.rest] else []
  | _ => []

end Match

/-! ## What reports tell of executions -/

variable {setup : Setup}

/-- The report tells these outcomes of the effects that were carried out.  Of a link whose card
was negated it tells a failure, though nothing was carried out. -/
def MoveReport.Tells (outcomes : List Outcome) : MoveReport → Prop
  | .summoned report => report.effect = Match.combined outcomes
  | .flipped report => report.effect = Match.combined outcomes
  | .activated report => report.outcome = Match.activationOutcome outcomes
  | .resolved links =>
    (links.map (·.outcome)).filter (·.success) = outcomes.filter (·.success)
  | .phaseEntered report => report.triggered = outcomes
  | .turnEnded report => report.effects = outcomes
  | _ => outcomes = []

/-- A link that is not carried out fails. -/
theorem Chain.resolveTrace_tells (chain : Chain) (s : Scene) :
    ((s.each (settleLink setup) chain.links.reverse).1.map (·.outcome)).filter (·.success) =
      ((chain.resolveTrace setup s).map (·.outcome)).filter (·.success) := by
  have one (link : Link) (s : Scene) :
      [(settleLink setup link s).1.outcome].filter (·.success) =
        ((linkTrace setup link s).map (·.outcome)).filter (·.success) := by
    have told : (settleLink setup link s).1.outcome = (runLink setup link s).1 := rfl
    rw [told]
    unfold runLink linkTrace
    split
    · rfl
    · rfl
  unfold resolveTrace
  induction chain.links.reverse generalizing s with
  | nil => rfl
  | cons link links ih =>
    rw [Scene.each_cons, traceEach, List.map_append, List.filter_append, ← one, ← ih]
    exact List.filter_append [_] _

namespace Match

variable {m after : Match} {seat : Seat} {move : Move} {report : MoveReport}

theorem outcomes_boardTrace (seat : Seat) (timing : Timing) (s : Scene) :
    (boardTrace setup seat timing s).map (·.outcome) = (fireForBoard setup seat timing s).1 := by
  have one (card : CardRef) (s : Scene) :
      (if isFaceUp s seat card then fireTrace setup card seat timing s else []).map (·.outcome) =
        (fireIfFaceUp setup seat timing card s).1 := by
    unfold fireIfFaceUp
    split
    · exact outcomes_fireTrace card seat timing s
    · rfl
  have all : (boardTrace setup seat timing s).map (·.outcome) =
      (s.each (fireIfFaceUp setup seat timing) _).1.flatMap id := outcomes_traceEach one _ s
  rw [List.flatMap_id] at all
  exact all

theorem outcomes_endPhaseTrace (seat : Seat) (m : Match) :
    (m.endPhaseTrace setup seat).map (·.outcome) = (m.endPhase setup seat).1 := by
  unfold endPhaseTrace
  rw [List.map_append, outcomes_boardTrace, outcomes_boardTrace]
  rfl

/-- The executions of a card that is activated. -/
theorem activateTrace_eq {c : CardRef} {zone : Zone} {printed : Card} {targets : List CardRef}
    (ok : Activatable setup m seat c zone printed) :
    m.activateTrace setup seat c targets =
      runAbilityTrace setup c seat targets (m.lifted seat c zone printed).toScene := by
  unfold activateTrace
  rw [ok.known]
  simp only [ok.zone]

theorem activateTrace_tells {c : CardRef} {zone : Zone} {printed : Card} {targets : List CardRef}
    (ok : Activatable setup m seat c zone printed) :
    (m.activate setup seat c zone printed targets).1.outcome =
      activationOutcome ((m.activateTrace setup seat c targets).map (·.outcome)) := by
  rw [activateTrace_eq ok, outcomes_runAbilityTrace]
  rfl

/-- The report of a move tells the outcomes of all effects that were carried out in it, apart
from what ran inside them. -/
theorem make_tells (made : m.make setup seat move = .ok (report, after)) :
    report.Tells ((turnOf 0 (m.beats setup seat move)).map (·.outcome)) := by
  cases move with
  | normalSummon c tributes stance =>
    obtain ⟨_, hmove, rfl⟩ := reported_eq_ok.1 made
    obtain ⟨printed, ok, told, -⟩ := normalSummon_ok hmove
    simp only [beats, ok.known, turnOf_carried, outcomes_fireTrace]
    exact told
  | setMonster c tributes =>
    obtain ⟨_, -, rfl⟩ := reported_eq_ok.1 made
    exact rfl
  | flipSummon c stance =>
    obtain ⟨_, hmove, rfl⟩ := reported_eq_ok.1 made
    obtain ⟨printed, -, -, known, told, -⟩ := flipSummon_ok hmove
    simp only [beats, known, turnOf_carried, outcomes_fireTrace]
    exact told
  | changePosition c =>
    obtain ⟨_, -, rfl⟩ := reported_eq_ok.1 made
    exact rfl
  | setSpellTrap c =>
    obtain ⟨_, -, rfl⟩ := reported_eq_ok.1 made
    exact rfl
  | activateSpell c targets =>
    obtain ⟨_, hmove, rfl⟩ := reported_eq_ok.1 made
    obtain ⟨printed, zone, ok, heq⟩ := activateSpell_ok hmove
    rw [beats, turnOf_carried]
    obtain ⟨rfl, -⟩ := Prod.mk.inj heq
    exact activateTrace_tells ok
  | activateTrap c targets =>
    obtain ⟨_, hmove, rfl⟩ := reported_eq_ok.1 made
    obtain ⟨printed, ok, heq⟩ := activateTrap_ok hmove
    rw [beats, turnOf_carried]
    obtain ⟨rfl, -⟩ := Prod.mk.inj heq
    exact activateTrace_tells ok
  | addToChain c targets =>
    obtain ⟨_, -, rfl⟩ := reported_eq_ok.1 made
    exact rfl
  | passPriority =>
    obtain ⟨_, -, rfl⟩ := reported_eq_ok.1 made
    exact rfl
  | resolveChain =>
    obtain ⟨_, hmove, rfl⟩ := reported_eq_ok.1 made
    obtain ⟨-, -, rfl, -⟩ := Chain.resolve_ok (resolveChain_ok hmove)
    rw [beats, turnOf_carried]
    exact m.chain.resolveTrace_tells m.toScene
  | advancePhase =>
    obtain ⟨_, hmove, rfl⟩ := reported_eq_ok.1 made
    obtain ⟨entered, -, hentered, told, -⟩ := advancePhase_ok hmove
    show _ = _
    rw [told, beats, hentered]
    cases entered with
    | battle =>
      simp only [turnOf_carried, outcomes_boardTrace]
      rfl
    | _ => rfl
  | endTurn =>
    obtain ⟨_, hmove, rfl⟩ := reported_eq_ok.1 made
    obtain ⟨-, told, -⟩ := endTurn_ok hmove
    show _ = _
    rw [told, beats, turnOf_zero_append, ← outcomes_endPhaseTrace, List.map_append]
    split
    · exact (List.append_nil _).symm
    · exact (List.append_nil _).symm
  | surrender =>
    cases pure_eq_ok.1 made
    exact rfl

end Match

/-- What happens in a move that was made. -/
def Play.beats (setup : Setup) (p : Play) : List Beat :=
  match p.before.seatOf? p.user with
  | some seat => p.before.beats setup seat p.move
  | none => []

namespace Arena

/-- All that happens in a lobby while an arena serves calls. -/
def beats (setup : Setup) (calls : List Call) (lobby : Lobby) : List Beat :=
  ((start setup).plays lobby calls).flatMap (·.beats setup)

end Arena

end CardDuel
