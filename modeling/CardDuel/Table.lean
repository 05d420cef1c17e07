import CardDuel.CardMap
import CardDuel.CardSet
import CardDuel.Phase
import CardDuel.Refusal
import CardDuel.Rules
import CardDuel.Side

/-!
# The table

Everything there is to know about a duel at one moment, apart from how it came
about: whose turn it is, both sides, which physical cards there are, what has
been used up this turn, and the place in the stream of chances.
-/

namespace CardDuel

/-- A physical card: its number, what is printed on it, and whose it is. -/
structure Copy where
  card : CardRef
  definition : CardId
  owner : Seat
  deriving DecidableEq, Repr

/-- How a duel was won. -/
inductive WinReason where
  /-- The loser has no life points left. -/
  | lifePoints
  /-- The loser had to draw from an empty deck. -/
  | deckOut
  | surrender
  deriving DecidableEq, Repr

/-- All ways to win. -/
def WinReason.all : List WinReason := [lifePoints, deckOut, surrender]

/-- The name of the reason. -/
def WinReason.label : WinReason → String
  | lifePoints => "life_points"
  | deckOut => "deck_out"
  | surrender => "surrender"

/-- Different ways to win have different names. -/
theorem WinReason.label_injective {reason reason' : WinReason}
    (same : reason.label = reason'.label) : reason = reason' := by
  cases reason <;> cases reason' <;> first | rfl | exact absurd same (by decide)

/-- Whether a duel goes on. -/
inductive Status where
  | active
  | finished (winner : Seat) (reason : WinReason)
  deriving DecidableEq, Repr

/-- A duel at one moment. -/
structure Table where
  /-- The number of the turn, counted from 1. -/
  turn : Nat
  /-- Whose turn it is. -/
  current : Seat
  phase : Phase
  status : Status
  sides : Seats Side
  /-- Every physical card. -/
  copies : CardMap Copy
  /-- Cards whose once-per-turn effect has worked this turn. -/
  used : CardSet
  /-- Cards whose effects do nothing until the end of the turn. -/
  negated : CardSet
  /-- Spells and traps that are on the chain, and in no zone. -/
  chained : CardSet
  rng : Rng
  /-- The number of the next physical card. -/
  nextCard : Nat
  deriving DecidableEq

namespace Table

/-- An empty table on turn 1 of the host. -/
def start (rules : Rules) (seed : UInt64) : Table where
  turn := 1
  current := .host
  phase := .draw
  status := .active
  sides := .both (.start rules.startingLife)
  copies := .empty
  used := .empty
  negated := .empty
  chained := .empty
  rng := .ofSeed seed
  nextCard := 0

/-- The side of a seat. -/
def side (t : Table) (seat : Seat) : Side := t.sides.get seat

/-- The table with a change to one side. -/
def modifySide (t : Table) (seat : Seat) (change : Side → Side) : Table :=
  { t with sides := t.sides.modify seat change }

/-- A new physical card under the deck of its owner, and the table with it. -/
def addCard (t : Table) (owner : Seat) (definition : CardId) : CardRef × Table :=
  let card : CardRef := ⟨t.nextCard⟩
  let added := { t with
    nextCard := t.nextCard + 1
    copies := t.copies.insert card ⟨card, definition, owner⟩ }
  (card, added.modifySide owner fun side => { side with deck := side.deck ++ [card] })

/-- The table with new physical cards under the deck of their owner. -/
def addCards (t : Table) (owner : Seat) (definitions : List CardId) : Table :=
  definitions.foldl (fun t definition => (t.addCard owner definition).2) t

/-- What is printed on a card. -/
def definition? (t : Table) (card : CardRef) : Option CardId :=
  (t.copies.get? card).map (·.definition)

/-- Whose card it is. -/
def owner? (t : Table) (card : CardRef) : Option Seat := (t.copies.get? card).map (·.owner)

/-- Whether there is such a card. -/
def knows (t : Table) (card : CardRef) : Bool := (t.copies.get? card).isSome

/-- The seat and the zone that hold a card. -/
def locate? (t : Table) (card : CardRef) : Option (Seat × Zone) :=
  Seat.all.findSome? fun seat => ((t.side seat).zoneOf? card).map fun zone => (seat, zone)

/-- The monster that a card is, and whose board it is on. -/
def monster? (t : Table) (card : CardRef) : Option (Seat × Monster) :=
  Seat.all.findSome? fun seat => ((t.side seat).monster? card).map fun m => (seat, m)

/-- The table with a change to the monster that a card is. -/
def modifyMonster (t : Table) (card : CardRef) (change : Monster → Monster) : Table :=
  match t.monster? card with
  | some (seat, _) => t.modifySide seat (·.modifyMonster card change)
  | none => t

/-- The table with a card put on a pile of a seat. -/
def push (t : Table) (seat : Seat) (pile : Pile) (card : CardRef) (place : DeckPlace) :
    Table :=
  let (side, rng) := (t.side seat).push pile card place t.rng
  { t with sides := t.sides.set seat side, rng := rng }

/-- A card moved from wherever it is to a pile of its owner, with the zone that
it left.  A card that nobody knows or that is in no zone stays away. -/
def moveToPile? (t : Table) (card : CardRef) (pile : Pile) (place : DeckPlace) :
    Option (Zone × Table) := do
  let owner ← t.owner? card
  let (holder, zone) ← t.locate? card
  return (zone, (t.modifySide holder (·.remove zone card)).push owner pile card place)

/-- The table after `moveToPile?`, unchanged if the card stays away. -/
def moveToPile (t : Table) (card : CardRef) (pile : Pile) (place : DeckPlace) : Table :=
  match t.moveToPile? card pile place with
  | some (_, moved) => moved
  | none => t

/-- A card that is in no zone put on a pile of its owner. -/
def placeInPile? (t : Table) (card : CardRef) (pile : Pile) (place : DeckPlace) :
    Option Table :=
  match t.locate? card, t.owner? card with
  | none, some owner => some (t.push owner pile card place)
  | _, _ => none

/-- The table after `placeInPile?`, unchanged if the card cannot be put
there. -/
def placeInPile (t : Table) (card : CardRef) (pile : Pile) (place : DeckPlace) : Table :=
  (t.placeInPile? card pile place).getD t

/-- Putting a card on a pile changes the sides and uses up chances, and nothing else. -/
theorem placeInPile_frame (t : Table) (card : CardRef) (pile : Pile) (place : DeckPlace) :
    ∃ sides rng, t.placeInPile card pile place = { t with sides := sides, rng := rng } := by
  unfold placeInPile placeInPile?
  split
  · exact ⟨_, _, rfl⟩
  · exact ⟨_, _, rfl⟩

/-- The table with the deck of a seat shuffled. -/
def shuffleDeck (t : Table) (seat : Seat) : Table :=
  let (deck, rng) := t.rng.shuffle (t.side seat).deck
  { t.modifySide seat ({ · with deck := deck }) with rng := rng }

/-- Whether the duel goes on. -/
def isActive (t : Table) : Bool := t.status == .active

/-- Refuses to go on when the duel is over. -/
def ensureActive (t : Table) : Except Refusal Unit :=
  if t.isActive then .ok () else .error .gameOver

/-- The table without the once-per-turn uses and negations of the turn. -/
def clearTurnMarks (t : Table) : Table := { t with used := .empty, negated := .empty }

end Table

end CardDuel
