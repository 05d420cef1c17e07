/-!
# Zones

The places where a card can be.  Hand, deck, graveyard and banished pile hold
bare cards; the monster board and the spell and trap zone hold cards with a
state of their own.
-/

namespace CardDuel

/-- A place on one side of the table. -/
inductive Zone where
  | hand
  | deck
  | graveyard
  | banished
  | board
  | spellTrap
  deriving DecidableEq, Repr

namespace Zone

/-- All zones, in the order in which a card is looked for. -/
def all : List Zone := [hand, deck, graveyard, banished, board, spellTrap]

theorem mem_all (zone : Zone) : zone ∈ all := by cases zone <;> decide

/-- The name of the zone in event details. -/
def label : Zone → String
  | hand => "hand"
  | deck => "deck"
  | graveyard => "graveyard"
  | banished => "banished"
  | board => "board"
  | spellTrap => "spell_trap_zone"

/-- The name of the zone in sentences. -/
def title : Zone → String
  | hand => "Hand"
  | deck => "Deck"
  | graveyard => "Graveyard"
  | banished => "Banished Zone"
  | board => "Monster Zone"
  | spellTrap => "Spell/Trap Zone"

/-- The zone as the outcome of an effect calls it: both places for cards in
play are "field". -/
def phrase : Zone → String
  | board | spellTrap => "field"
  | hand => "hand"
  | graveyard => "graveyard"
  | deck => "deck"
  | banished => "banished zone"

end Zone

/-- A zone that holds bare cards. -/
inductive Pile where
  | hand
  | deck
  | graveyard
  | banished
  deriving DecidableEq, Repr

/-- All piles. -/
def Pile.all : List Pile := [hand, deck, graveyard, banished]

/-- The pile as a zone. -/
def Pile.zone : Pile → Zone
  | hand => .hand
  | deck => .deck
  | graveyard => .graveyard
  | banished => .banished

/-- Where a card enters a deck. -/
inductive DeckPlace where
  /-- It is drawn next. -/
  | top
  /-- It is drawn last. -/
  | bottom
  /-- It is put under the deck, which is then shuffled. -/
  | shuffled
  deriving DecidableEq, Repr

/-- All places where a card enters a deck. -/
def DeckPlace.all : List DeckPlace := [top, bottom, shuffled]

/-- The name of the place in event details. -/
def DeckPlace.label : DeckPlace → String
  | top => "top"
  | bottom => "bottom"
  | shuffled => "shuffle"

instance : Inhabited DeckPlace := ⟨.shuffled⟩

end CardDuel
