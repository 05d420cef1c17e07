import CardDuel.Monster
import CardDuel.Rng
import CardDuel.Zone

/-!
# One side of the table

The zones of one player, the life points, and whether the Normal Summon of the
turn is used up.  The first card of the deck is its top.
-/

namespace CardDuel

/-- What belongs to one player. -/
structure Side where
  hand : List CardRef
  deck : List CardRef
  graveyard : List CardRef
  banished : List CardRef
  board : List Monster
  spellTraps : List SetCard
  life : Int
  hasSummoned : Bool
  deriving DecidableEq, Repr

/-- The list with the first item that has the property changed. -/
def updateFirst {α : Type} (property : α → Bool) (change : α → α) : List α → List α
  | [] => []
  | x :: xs => if property x then change x :: xs else x :: updateFirst property change xs

namespace Side

/-- An empty side with a number of life points. -/
def start (life : Int) : Side where
  hand := []
  deck := []
  graveyard := []
  banished := []
  board := []
  spellTraps := []
  life := life
  hasSummoned := false

/-- The cards of a pile. -/
def pile (side : Side) : Pile → List CardRef
  | .hand => side.hand
  | .deck => side.deck
  | .graveyard => side.graveyard
  | .banished => side.banished

/-- The side with a pile replaced. -/
def setPile (side : Side) (pile : Pile) (cards : List CardRef) : Side :=
  match pile with
  | .hand => { side with hand := cards }
  | .deck => { side with deck := cards }
  | .graveyard => { side with graveyard := cards }
  | .banished => { side with banished := cards }

/-- The cards of a zone in their order. -/
def cardsIn (side : Side) : Zone → List CardRef
  | .hand => side.hand
  | .deck => side.deck
  | .graveyard => side.graveyard
  | .banished => side.banished
  | .board => side.board.map (·.card)
  | .spellTrap => side.spellTraps.map (·.card)

/-- All cards of the side, zone by zone. -/
def cards (side : Side) : List CardRef := Zone.all.flatMap side.cardsIn

/-- Whether a zone holds a card. -/
def holds (side : Side) (zone : Zone) (card : CardRef) : Bool := card ∈ side.cardsIn zone

/-- The first zone that holds a card. -/
def zoneOf? (side : Side) (card : CardRef) : Option Zone :=
  Zone.all.find? fun zone => side.holds zone card

/-- The number of cards in all zones. -/
def total (side : Side) : Nat := side.cards.length

/-- The monster that a card is on the board. -/
def monster? (side : Side) (card : CardRef) : Option Monster :=
  side.board.find? (·.card == card)

/-- What a card is in the spell and trap zone. -/
def setCard? (side : Side) (card : CardRef) : Option SetCard :=
  side.spellTraps.find? (·.card == card)

/-- Whether a card lies face-down in the spell and trap zone. -/
def hasSet (side : Side) (card : CardRef) : Bool := (side.setCard? card).any (·.isFaceDown)

/-- The side with a card taken out of a zone, once if the zone holds it more
often. -/
def remove (side : Side) (zone : Zone) (card : CardRef) : Side :=
  match zone with
  | .hand => { side with hand := side.hand.erase card }
  | .deck => { side with deck := side.deck.erase card }
  | .graveyard => { side with graveyard := side.graveyard.erase card }
  | .banished => { side with banished := side.banished.erase card }
  | .board => { side with board := side.board.eraseP (·.card == card) }
  | .spellTrap => { side with spellTraps := side.spellTraps.eraseP (·.card == card) }

/-- A card taken out of the first zone that holds it, with that zone. -/
def take? (side : Side) (card : CardRef) : Option (Zone × Side) :=
  (side.zoneOf? card).map fun zone => (zone, side.remove zone card)

/-- The side with a card put on a pile.  A deck takes it at a given place, every
other pile at its end. -/
def push (side : Side) (pile : Pile) (card : CardRef) (place : DeckPlace) (rng : Rng) :
    Side × Rng :=
  match pile, place with
  | .deck, .top => ({ side with deck := card :: side.deck }, rng)
  | .deck, .shuffled =>
    let (deck, after) := rng.shuffle (side.deck ++ [card])
    ({ side with deck := deck }, after)
  | pile, _ => (side.setPile pile (side.pile pile ++ [card]), rng)

/-- The side with a monster put on the board. -/
def placeMonster (side : Side) (m : Monster) : Side :=
  { side with board := side.board ++ [m] }

/-- The side with a card put in the spell and trap zone. -/
def placeSpellTrap (side : Side) (c : SetCard) : Side :=
  { side with spellTraps := side.spellTraps ++ [c] }

/-- The side with a change to the monster that a card is. -/
def modifyMonster (side : Side) (card : CardRef) (change : Monster → Monster) : Side :=
  { side with board := updateFirst (·.card == card) change side.board }

/-- The side with cards moved from the top of the deck to the end of a pile, as
far as there are any. -/
def turnOver (side : Side) (count : Nat) (pile : Pile) : Side :=
  let rest := { side with deck := side.deck.drop count }
  rest.setPile pile (rest.pile pile ++ side.deck.take count)

end Side

end CardDuel
