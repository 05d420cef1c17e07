import CardDuel.Names

/-!
# Cards in play

A monster on the board has a battle stance and a facing, which are independent:
a monster that was set lies face-down in defense.  A card in the spell and trap
zone only has a facing.
-/

namespace CardDuel

/-- How a monster stands in battle. -/
inductive Stance where
  | attack
  | defense
  deriving DecidableEq, Repr

namespace Stance

/-- Both stances. -/
def all : List Stance := [attack, defense]

/-- The other stance. -/
def toggled : Stance → Stance
  | attack => defense
  | defense => attack

/-- The name of the stance in event details. -/
def label : Stance → String
  | attack => "attack"
  | defense => "defense"

/-- The stance as a sign: attack is positive. -/
def sign : Stance → Int
  | attack => 1
  | defense => -1

end Stance

/-- Whether a card in play shows what it is. -/
inductive Facing where
  | up
  | down
  deriving DecidableEq, Repr

/-- Both facings. -/
def Facing.all : List Facing := [up, down]

/-- The name of the facing. -/
def Facing.label : Facing → String
  | up => "face_up"
  | down => "face_down"

/-- What a monster is safe from. -/
structure Protection where
  fromBattle : Bool := false
  fromEffects : Bool := false
  fromTargeting : Bool := false
  deriving DecidableEq, Repr

namespace Protection

/-- Safe from nothing. -/
def none : Protection := {}

/-- Whether there is anything the monster is safe from. -/
def any (p : Protection) : Bool := p.fromBattle || p.fromEffects || p.fromTargeting

/-- Safe from what either of two protections covers. -/
def merge (p q : Protection) : Protection where
  fromBattle := p.fromBattle || q.fromBattle
  fromEffects := p.fromEffects || q.fromEffects
  fromTargeting := p.fromTargeting || q.fromTargeting

end Protection

/-- A monster on the board.  `attack` and `defense` start as printed and take up
lasting changes; `bonus` holds the changes that end with the turn.  What other
monsters add while they are in play is never stored. -/
structure Monster where
  card : CardRef
  stance : Stance
  facing : Facing
  attack : Int
  defense : Int
  bonus : Int
  hasAttacked : Bool
  hasMoved : Bool
  enteredOn : Nat
  protection : Protection
  deriving DecidableEq, Repr

namespace Monster

/-- A monster that enters the board face-up on turn `turn`. -/
def faceUp (card : CardRef) (stance : Stance) (attack defense : Int) (turn : Nat)
    (protection : Protection) : Monster where
  card := card
  stance := stance
  facing := .up
  attack := attack
  defense := defense
  bonus := 0
  hasAttacked := false
  hasMoved := false
  enteredOn := turn
  protection := protection

/-- A monster that enters the board face-down, and so in defense, on turn
`turn`. -/
def faceDown (card : CardRef) (attack defense : Int) (turn : Nat)
    (protection : Protection) : Monster :=
  { faceUp card .defense attack defense turn protection with facing := .down }

/-- Whether the monster hides what it is. -/
def isFaceDown (m : Monster) : Bool := m.facing == .down

/-- The monster at the end of a turn: the changes and marks of the turn are
gone. -/
def rested (m : Monster) : Monster :=
  { m with bonus := 0, hasAttacked := false, hasMoved := false }

end Monster

/-- A card in the spell and trap zone. -/
structure SetCard where
  card : CardRef
  facing : Facing
  activated : Bool
  setOn : Nat
  deriving DecidableEq, Repr

namespace SetCard

/-- A card that has just been set, face-down, on turn `turn`. -/
def laid (card : CardRef) (turn : Nat) : SetCard where
  card := card
  facing := .down
  activated := false
  setOn := turn

/-- Whether the card hides what it is. -/
def isFaceDown (c : SetCard) : Bool := c.facing == .down

end SetCard

end CardDuel
