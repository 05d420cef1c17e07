import CardDuel.Match

/-!
# The course of turns

A player moves on from phase to phase, and in the end hands the turn over.  The
other player then draws a card, and loses if there is none.
-/

namespace CardDuel.Match

open Resolution

/-- Whether a card is a face-up monster of the player. -/
def isFaceUp (s : Scene) (seat : Seat) (card : CardRef) : Bool :=
  ((s.side seat).monster? card).any (!·.isFaceDown)

/-- Carries out the effects of a card at a timing if it is still a face-up monster of
the player. -/
def fireIfFaceUp (setup : Setup) (seat : Seat) (timing : Timing) (card : CardRef)
    (s : Scene) : List Outcome × Scene :=
  if isFaceUp s seat card then fire setup card seat timing s else ([], s)

/-- Carries out the effects at a timing of the monsters that are face-up on the board
of a player, in their order. -/
def fireForBoard (setup : Setup) (seat : Seat) (timing : Timing) (s : Scene) :
    List Outcome × Scene :=
  let faceUp := ((s.side seat).board.filter (!·.isFaceDown)).map (·.card)
  let (parts, after) := s.each (fireIfFaceUp setup seat timing) faceUp
  (parts.flatten, after)

/-- The step from one phase to the next, with the effects that it set off. -/
structure PhaseReport where
  left : Phase
  entered : Phase
  triggered : List Outcome
  deriving DecidableEq, Repr

/-- The match in another phase, with news of it. -/
def enterPhase (seat : Seat) (phase : Phase) (m : Match) : Match :=
  (m.change ({ · with phase := phase })).record (phaseNews seat phase)

/-- The phase that a player may move on to. -/
def following (phase : Phase) : Except Refusal Phase :=
  match phase.next? with
  | some next => .ok next
  | none => .error (.illegal .endPhaseOver)

/-- Moves on to the next phase.  At the beginning of the Battle Phase the effects of
the monsters happen that wait for it. -/
def advancePhase (setup : Setup) (seat : Seat) (m : Match) :
    Except Refusal (PhaseReport × Match) := do
  m.requireNoChain
  let left := m.table.phase
  let entered ← following left
  let there := m.enterPhase seat entered
  let (triggered, after) :=
    if entered = .battle then there.act (fireForBoard setup seat .onBattleStart)
    else ([], there)
  return (⟨left, entered, triggered⟩, after)

/-! ## The end of a turn -/

/-- The cards of a hand above a limit, the last one first. -/
def excess (limit : Nat) (side : Side) : List CardRef := (side.hand.drop limit).reverse

/-- The side with the cards above a limit put from the hand into the graveyard. -/
def trimHand (limit : Nat) (side : Side) : Side :=
  { side with
    hand := side.hand.take limit
    graveyard := side.graveyard ++ excess limit side }

/-- The news that cards were discarded to the hand limit. -/
def limitNews (seat : Seat) (limit : Nat) (cards : List CardRef) : News where
  type := .handLimitEnforced
  seat := some seat
  description := seat.title ++ " discarded " ++ toString cards.length ++
    " card(s) to the hand limit"
  details := [("limit", .nat limit),
    ("cards", .list (cards.map fun card => .nat card.number))]

/-- Discards from the end of the hand down to the hand limit, and answers the
cards. -/
def enforceHandLimit (setup : Setup) (seat : Seat) (m : Match) : List CardRef × Match :=
  let limit := setup.rules.handLimit
  let cards := excess limit (m.side seat)
  let trimmed := m.change (·.modifySide seat (trimHand limit))
  (cards, if cards.isEmpty then trimmed else trimmed.record (limitNews seat limit cards))

/-- A side at the end of a turn, without the marks of the turn. -/
def restSide (side : Side) : Side :=
  { side with hasSummoned := false, board := side.board.map (·.rested) }

/-- The table at the end of a turn, without the marks of the turn. -/
def restTable (t : Table) : Table :=
  (Seat.all.foldl (fun t seat => t.modifySide seat restSide) t).clearTurnMarks

/-- The news that a turn of a player ends. -/
def turnEndNews (seat : Seat) (turn : Nat) : News where
  type := .turnEnd
  seat := some seat
  description := "Turn " ++ toString turn ++ " ends"
  details := [("turnNumber", .nat turn)]

/-- The match with the turn handed over to `next`, in the Draw Phase. -/
def handOver (seat next : Seat) (m : Match) : Match :=
  let ended := (m.change restTable).record (turnEndNews seat m.table.turn)
  let turn := m.table.turn + 1
  let begun := (ended.change ({ · with current := next, turn := turn, phase := .draw })).record
    (turnNews next turn)
  begun.record (phaseNews next .draw)

/-- The Draw Phase of a player, with the number of cards drawn.  Whoever has no card
to draw has lost. -/
def drawPhase (next : Seat) (m : Match) : Nat × Match :=
  if (m.side next).deck.isEmpty then (0, m.finish next.other .deckOut)
  else
    let (_, drawn) := m.act (draw next 1)
    ((drawn.side next).hand.length - (m.side next).hand.length,
      drawn.enterPhase next .main1)

/-- The end of a turn and the beginning of the next. -/
structure TurnReport where
  next : Seat
  turn : Nat
  discarded : List CardRef
  drawn : Nat
  /-- The outcomes of the effects in the End Phase. -/
  effects : List Outcome
  /-- Who has won, if the match ended here. -/
  result : Option (Seat × WinReason)
  deriving DecidableEq, Repr

/-- The match in the End Phase of a player, which it may be in already. -/
def atEndPhase (seat : Seat) (m : Match) : Match :=
  if m.table.phase = .finish then m else m.enterPhase seat .finish

/-- The End Phase of a player: its effects happen, first those of the player's own
monsters. -/
def endPhase (setup : Setup) (seat : Seat) (m : Match) : List Outcome × Match :=
  let (own, after) := (m.atEndPhase seat).act (fireForBoard setup seat .onEnd)
  let (others, after) := after.act (fireForBoard setup seat.other .onEnd)
  (own ++ others, after.settleLife)

/-- Ends the turn.  If the End Phase does not end the match, cards above the hand
limit are discarded, the marks of the turn are taken off, and the other player takes
over and draws. -/
def endTurn (setup : Setup) (seat : Seat) (m : Match) : Except Refusal (TurnReport × Match) := do
  m.requireNoChain
  let next := seat.other
  let (effects, ended) := m.endPhase setup seat
  if ended.table.isActive then
    let (discarded, trimmed) := ended.enforceHandLimit setup seat
    let begun := trimmed.handOver seat next
    let (drawn, after) := begun.drawPhase next
    return (⟨next, begun.table.turn, discarded, drawn, effects, after.result?⟩, after)
  else return (⟨next, ended.table.turn, [], 0, effects, ended.result?⟩, ended)

/-- Gives the match up. -/
def surrender (seat : Seat) (m : Match) : Match := m.finish seat.other .surrender

end CardDuel.Match
