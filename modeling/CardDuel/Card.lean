import CardDuel.Names
import CardDuel.Text.Lowercase
import CardDuel.Text.Words

/-!
# Printed cards

What is printed on a card.  A condition of an effect, such as "dragon" or
"fire", is matched against it without regard to letter case.
-/

namespace CardDuel

/-- The printed type of a card. -/
inductive CardType where
  | creature
  | spell
  | trap
  | equipment
  deriving DecidableEq, Repr

namespace CardType

/-- All card types. -/
def all : List CardType := [creature, spell, trap, equipment]

/-- Creatures belong on the board, all other cards in the spell and trap
zone. -/
def isMonster (type : CardType) : Bool := type == creature

/-- Spells in the wide sense: the cards that are activated from the hand. -/
def isSpell (type : CardType) : Bool := type == spell || type == equipment

/-- The name of the type. -/
def label : CardType → String
  | creature => "creature"
  | spell => "spell"
  | trap => "trap"
  | equipment => "equipment"

end CardType

/-- The element of a card. -/
inductive Archetype where
  | fire
  | water
  | earth
  | wind
  | neutral
  deriving DecidableEq, Repr

namespace Archetype

/-- All elements. -/
def all : List Archetype := [fire, water, earth, wind, neutral]

/-- The name of the element. -/
def label : Archetype → String
  | fire => "fire"
  | water => "water"
  | earth => "earth"
  | wind => "wind"
  | neutral => "neutral"

instance : Inhabited Archetype := ⟨neutral⟩

end Archetype

/-- A printed card. -/
structure Card where
  id : CardId
  name : String
  type : CardType
  attack : Int := 0
  defense : Int := 0
  level : Nat := 1
  archetype : Archetype := default
  /-- The type line of a monster, such as "Dragon". -/
  monsterType : Option String := none
  /-- The ability in plain English. -/
  text : Option String := none
  deriving DecidableEq, Repr

namespace Card

/-- Whether the card meets a condition.  The condition is the monster type, the
element or the card type in any letter case, or a piece of the name; the blank
condition is met by every card. -/
def meets (card : Card) (condition : String) : Bool :=
  let wanted := Text.lower (Text.trim condition.toList)
  wanted.isEmpty ||
    card.monsterType.any (fun type => Text.lower type.toList == wanted) ||
    card.archetype.label.toList == wanted ||
    card.type.label.toList == wanted ||
    Text.mentions wanted (Text.lower card.name.toList)

end Card

end CardDuel
