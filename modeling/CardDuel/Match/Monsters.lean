import CardDuel.Match

/-!
# Moves with monsters

A player may play one monster from the hand each turn, face-up by a Normal Summon
or face-down by a Set, and pays for a high level with tributes.  Monsters on the
board may be flipped face-up, and may change their stance once a turn.
-/

namespace CardDuel.Match

open Resolution

/-- Refuses tributes that are not different monsters of the player.  `paid` are the
tributes that have been looked at. -/
def checkTributes (m : Match) (seat : Seat) (paid : List CardRef) :
    List CardRef → Except Refusal Unit
  | [] => .ok ()
  | tribute :: rest => do
    require (tribute ∉ paid) (.illegal (.tributeTwice tribute))
    m.requireOwn seat tribute .board
    m.checkTributes seat (tribute :: paid) rest

/-- Refuses to play a monster against the rules, and answers what is printed on
it. -/
def checkSummon (setup : Setup) (m : Match) (seat : Seat) (card : CardRef)
    (tributes : List CardRef) (action : String) : Except Refusal Card := do
  m.requireMainPhase action
  m.requireNoChain
  require ((m.side seat).hasSummoned = false) .alreadySummoned
  m.requireOwn seat card .hand
  let printed ← m.printed setup card
  require printed.type.isMonster (.wrongCardType printed.name "monster")
  let owed := setup.rules.tributesFor printed.level
  require (tributes.length = owed) (.wrongTributes owed tributes.length)
  m.checkTributes seat [] tributes
  let limit := setup.rules.monsterZones
  require ((m.side seat).board.length - tributes.length < limit) (.zoneFull .board limit)
  return printed

/-- Sends a tribute to the graveyard. -/
def payTribute (setup : Setup) (seat : Seat) (tribute : CardRef) (s : Scene) : Unit × Scene :=
  ((), (s.change (·.moveToPile tribute .graveyard .top)).record {
    type := .tributePaid
    seat := some seat
    description := setup.nameOf s.table tribute ++ " was tributed"
    details := setup.cardDetails s.table tribute })

/-- The side with a monster played from the hand. -/
def playMonster (card : CardRef) (monster : Monster) (side : Side) : Side :=
  { (side.remove .hand card).placeMonster monster with hasSummoned := true }

/-- The combined outcome of effects, if there were any. -/
def combined (parts : List Outcome) : Option Outcome :=
  if parts.isEmpty then none else some (.someOf parts)

/-- The news of a Normal Summon, or of a Tribute Summon if tributes were paid. -/
def summonNews (seat : Seat) (card : CardRef) (name : String) (tributes : List CardRef)
    (stance : Stance) : News :=
  let verb := if tributes.isEmpty then " Normal Summoned " else " Tribute Summoned "
  { type := if tributes.isEmpty then .normalSummon else .tributeSummon
    seat := some seat
    description := seat.title ++ verb ++ name
    details := [("cardId", .nat card.number), ("cardName", .text name),
      ("position", .text stance.label),
      ("tributes", .list (tributes.map fun tribute => .nat tribute.number))] }

/-- A monster that has been summoned face-up from the hand. -/
structure SummonReport where
  card : CardRef
  name : String
  stance : Stance
  tributes : Nat
  /-- What came of the effects that the Summon set off, if it did. -/
  effect : Option Outcome
  deriving DecidableEq, Repr

/-- The match after tributes are paid and a monster is played from the hand for
them. -/
def played (setup : Setup) (seat : Seat) (tributes : List CardRef) (monster : Monster)
    (news : News) (m : Match) : Match :=
  let (_, paid) := m.act (Scene.each (payTribute setup seat) tributes)
  (paid.change (·.modifySide seat (playMonster monster.card monster))).record news

/-- The match after a monster is played face-up, before this sets anything off. -/
def summoned (setup : Setup) (seat : Seat) (card : CardRef) (printed : Card)
    (tributes : List CardRef) (stance : Stance) (m : Match) : Match :=
  m.played setup seat tributes (arrival setup card printed stance m.table.turn)
    (summonNews seat card printed.name tributes stance)

/-- Plays a monster face-up. -/
def normalSummon (setup : Setup) (seat : Seat) (card : CardRef) (tributes : List CardRef)
    (stance : Stance) (m : Match) : Except Refusal (SummonReport × Match) := do
  let printed ← m.checkSummon setup seat card tributes "Normal Summon"
  let (parts, after) := (m.summoned setup seat card printed tributes stance).act
    (fire setup card seat .onSummon)
  return (⟨card, printed.name, stance, tributes.length, combined parts⟩, after)

/-- The news that a monster was set.  They do not name it. -/
def setNews (seat : Seat) (card : CardRef) (tributes : Nat) : News where
  type := .monsterSet
  seat := some seat
  description := seat.title ++ " Set a monster"
  details := [("cardId", .nat card.number), ("tributes", .nat tributes)]

/-- Plays a monster face-down, in defense, and answers the number of tributes. -/
def setMonster (setup : Setup) (seat : Seat) (card : CardRef) (tributes : List CardRef)
    (m : Match) : Except Refusal (Nat × Match) := do
  let printed ← m.checkSummon setup seat card tributes "Set a monster"
  let protection := (setup.catalog.ability printed.id).protection
  let monster := .faceDown card printed.attack printed.defense m.table.turn protection
  return (tributes.length,
    m.played setup seat tributes monster (setNews seat card tributes.length))

/-- The monster that a card is on the board of a player. -/
def monsterOf (m : Match) (seat : Seat) (card : CardRef) : Except Refusal Monster :=
  match (m.side seat).monster? card with
  | some monster => .ok monster
  | none => .error (.cardNotInZone card .board)

/-- The news that a monster was flipped. -/
def flipNews (seat : Seat) (card : CardRef) (name : String) (stance : Stance) : News where
  type := .flipSummon
  seat := some seat
  description := seat.title ++ " Flip Summoned " ++ name
  details := [("cardId", .nat card.number), ("cardName", .text name),
    ("position", .text stance.label)]

/-- A monster that has been flipped face-up. -/
structure FlipReport where
  card : CardRef
  name : String
  stance : Stance
  /-- What came of the effects that the flip set off, if it did. -/
  effect : Option Outcome
  deriving DecidableEq, Repr

/-- The match after a monster is turned face-up, before this sets anything off. -/
def flipped (seat : Seat) (card : CardRef) (printed : Card) (stance : Stance) (m : Match) :
    Match :=
  let turned (monster : Monster) : Monster :=
    { monster with facing := .up, stance := stance, hasMoved := true }
  (m.change (·.modifySide seat (·.modifyMonster card turned))).record
    (flipNews seat card printed.name stance)

/-- Turns a face-down monster face-up. -/
def flipSummon (setup : Setup) (seat : Seat) (card : CardRef) (stance : Stance)
    (m : Match) : Except Refusal (FlipReport × Match) := do
  m.requireMainPhase "Flip Summon"
  m.requireNoChain
  m.requireOwn seat card .board
  let printed ← m.printed setup card
  let monster ← m.monsterOf seat card
  require monster.isFaceDown (.illegal (.alreadyFaceUp printed.name))
  let (parts, after) := (m.flipped seat card printed stance).act (fire setup card seat .onFlip)
  return (⟨card, printed.name, stance, combined parts⟩, after)

/-- The news that a monster changed its stance. -/
def stanceNews (seat : Seat) (card : CardRef) (name : String) (stance : Stance) : News where
  type := .positionChanged
  seat := some seat
  description := name ++ " changed to " ++ stance.label ++ " position"
  details := [("cardId", .nat card.number), ("cardName", .text name),
    ("position", .text stance.label)]

/-- Turns a face-up monster to its other stance, and answers that. -/
def changePosition (setup : Setup) (seat : Seat) (card : CardRef) (m : Match) :
    Except Refusal (Stance × Match) := do
  m.requireMainPhase "change battle position"
  m.requireOwn seat card .board
  let printed ← m.printed setup card
  let monster ← m.monsterOf seat card
  require (monster.isFaceDown = false) (.illegal (.faceDown printed.name))
  require (monster.hasMoved = false) (.illegal (.alreadyMoved printed.name))
  require (monster.enteredOn ≠ m.table.turn) (.illegal (.enteredThisTurn printed.name))
  let turned (monster : Monster) : Monster :=
    { monster with stance := monster.stance.toggled, hasMoved := true }
  let stance := monster.stance.toggled
  return (stance, (m.change (·.modifySide seat (·.modifyMonster card turned))).record
    (stanceNews seat card printed.name stance))

end CardDuel.Match
