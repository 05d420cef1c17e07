import CardDuel.Match.Monsters
import CardDuel.Match.Responses
import CardDuel.Match.SpellTraps
import CardDuel.Match.Turns

/-!
# Moves

Everything that a player may do in a match, and what comes of it.  A move that is
refused changes nothing, and neither does one that is broken off because an effect asks
for too much room; a move that is made ends the match if it leaves a player without life
points.
-/

namespace CardDuel

/-- What a player may do. -/
inductive Move where
  | normalSummon (card : CardRef) (tributes : List CardRef) (stance : Stance)
  | setMonster (card : CardRef) (tributes : List CardRef)
  | flipSummon (card : CardRef) (stance : Stance)
  | changePosition (card : CardRef)
  | setSpellTrap (card : CardRef)
  | activateSpell (card : CardRef) (targets : List CardRef)
  | activateTrap (card : CardRef) (targets : List CardRef)
  | addToChain (card : CardRef) (targets : List CardRef)
  | passPriority
  | resolveChain
  | advancePhase
  | endTurn
  | surrender
  deriving DecidableEq, Repr

/-- Whether a move is for the player whose turn it is.  All others are open to both
players at any time. -/
def Move.needsTurn : Move → Bool
  | .activateTrap _ _ | .addToChain _ _ | .passPriority | .resolveChain | .surrender => false
  | _ => true

/-- What came of a move. -/
inductive MoveReport where
  | summoned (report : Match.SummonReport)
  | monsterSet (card : CardRef) (tributes : Nat)
  | flipped (report : Match.FlipReport)
  | positionChanged (card : CardRef) (stance : Stance)
  | spellTrapSet (card : CardRef) (type : CardType)
  | activated (report : Match.ActivationReport)
  | linked (id : LinkId)
  /-- The player who may answer now, if the chain is not ready. -/
  | passed (awaiting : Option Seat)
  | resolved (links : List LinkReport)
  | phaseEntered (report : Match.PhaseReport)
  | turnEnded (report : Match.TurnReport)
  | surrendered
  deriving DecidableEq, Repr

namespace Match

/-- Makes a move of a player whose turn for it has been checked. -/
def make (setup : Setup) (seat : Seat) (m : Match) : Move → Except Refusal (MoveReport × Match)
  | .normalSummon card tributes stance => do
    let (report, after) ← m.normalSummon setup seat card tributes stance
    return (.summoned report, after)
  | .setMonster card tributes => do
    let (paid, after) ← m.setMonster setup seat card tributes
    return (.monsterSet card paid, after)
  | .flipSummon card stance => do
    let (report, after) ← m.flipSummon setup seat card stance
    return (.flipped report, after)
  | .changePosition card => do
    let (stance, after) ← m.changePosition setup seat card
    return (.positionChanged card stance, after)
  | .setSpellTrap card => do
    let (type, after) ← m.setSpellTrap setup seat card
    return (.spellTrapSet card type, after)
  | .activateSpell card targets => do
    let (report, after) ← m.activateSpell setup seat card targets
    return (.activated report, after)
  | .activateTrap card targets => do
    let (report, after) ← m.activateTrap setup seat card targets
    return (.activated report, after)
  | .addToChain card targets => do
    let (id, after) ← m.addToChain setup seat card targets
    return (.linked id, after)
  | .passPriority => do
    let (awaiting, after) ← m.passPriority seat
    return (.passed awaiting, after)
  | .resolveChain => do
    let (links, after) ← m.resolveChain setup
    return (.resolved links, after)
  | .advancePhase => do
    let (report, after) ← m.advancePhase setup seat
    return (.phaseEntered report, after)
  | .endTurn => do
    let (report, after) ← m.endTurn setup seat
    return (.turnEnded report, after)
  | .surrender => return (.surrendered, m.surrender seat)

/-- Makes a move of a user, if the user plays in the match, the match goes on, and it
is the user's turn where that counts.  What is left of an overrun match is thrown away. -/
def play (setup : Setup) (user : User) (move : Move) (m : Match) :
    Except Refusal (MoveReport × Match) :=
  match m.seatOf? user with
  | none => .error .notAParticipant
  | some seat => do
    m.table.ensureActive
    require (move.needsTurn = false ∨ m.table.current = seat) .notYourTurn
    let (report, after) ← m.make setup seat move
    require (after.overrun = false) .overrun
    return (report, after.settleLife)

end Match

end CardDuel
