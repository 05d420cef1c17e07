/-!
# Rules

The numbers that a duel is played by.  Every one of them is a choice of the
host; the defaults are the usual game.
-/

namespace CardDuel

/-- The tributes owed for monsters up to a level. -/
structure TributeTier where
  maxLevel : Nat
  tributes : Nat
  deriving DecidableEq, Repr

/-- The numbers that a duel is played by. -/
structure Rules where
  /-- Life points of each player at the start. -/
  startingLife : Int := 8000
  /-- Cards in each hand at the start. -/
  startingHand : Nat := 5
  /-- Monsters that fit on one side of the board. -/
  monsterZones : Nat := 5
  /-- Cards that fit in one spell and trap zone. -/
  spellTrapZones : Nat := 5
  /-- Cards that a player may keep at the end of a turn. -/
  handLimit : Nat := 6
  /-- Tributes owed by level, lowest levels first. -/
  tributeTiers : List TributeTier := [⟨4, 0⟩, ⟨6, 1⟩, ⟨0xFFFFFFFF, 2⟩]
  /-- Whether the player of turn 1 draws a card. -/
  firstPlayerDraws : Bool := false
  /-- How deep effects may set off further effects. -/
  triggerDepth : Nat := 8
  deriving DecidableEq, Repr

/-- The tributes owed for a monster of a level: those of the first tier that
reaches the level, or of the last tier if none does. -/
def Rules.tributesFor (rules : Rules) (level : Nat) : Nat :=
  match (rules.tributeTiers.find? (level ≤ ·.maxLevel)).or rules.tributeTiers.getLast? with
  | some tier => tier.tributes
  | none => 0

end CardDuel
