import CardDuel.Document
import CardDuel.Rules

/-!
# Reading rules

Rules are read from a document.  It names the numbers that differ from the
usual game, or lists them in the order of the fields of `Rules`; either way
what is left out has its usual value.  A number of the wrong kind or outside
its range makes the document unreadable.
-/

namespace CardDuel.Rules

/-- A whole number from `least` to `greatest`. -/
def readBetween? (least greatest : Int) (d : Document) : Option Int := do
  let value ← d.whole?
  if least ≤ value ∧ value ≤ greatest then some value else none

/-- A number of cards or of steps, below `2 ^ 64`. -/
def readSize? (d : Document) : Option Nat :=
  (readBetween? 0 0xFFFFFFFFFFFFFFFF d).map Int.toNat

/-- Life points, as a signed number of 64 bits. -/
def readLife? (d : Document) : Option Int :=
  readBetween? (-0x8000000000000000) 0x7FFFFFFFFFFFFFFF d

/-- A level, below `2 ^ 32`. -/
def readLevel? (d : Document) : Option Nat :=
  (readBetween? 0 0xFFFFFFFF d).map Int.toNat

/-- A tier of tributes: its greatest level and its tributes, by name or in this
order.  Neither may be left out. -/
def readTier? : Document → Option TributeTier
  | .record fields => do
    let level ← Details.get? fields "max_level"
    let tributes ← Details.get? fields "tributes"
    return ⟨← readLevel? level, ← readSize? tributes⟩
  | .list [level, tributes] => do return ⟨← readLevel? level, ← readSize? tributes⟩
  | _ => none

/-- A list of tiers. -/
def readTiers? (d : Document) : Option (List TributeTier) := do
  (← d.list?).mapM readTier?

/-- The names of the fields in their order. -/
def fieldNames : List String :=
  ["starting_life_points", "starting_hand_size", "max_monster_zones",
   "max_spell_trap_zones", "hand_limit", "tribute_tiers", "first_player_draws",
   "max_trigger_depth"]

/-- The fields of the document by name. -/
def namedFields? : Document → Option (List (String × Document))
  | .record fields => some fields
  | .list values =>
    if values.length ≤ fieldNames.length then some (fieldNames.zip values) else none
  | _ => none

/-- The rules that a document describes. -/
def ofDocument? (d : Document) : Option Rules := do
  let fields ← namedFields? d
  let usual : Rules := {}
  return {
    startingLife := ← field fields "starting_life_points" readLife? usual.startingLife
    startingHand := ← field fields "starting_hand_size" readSize? usual.startingHand
    monsterZones := ← field fields "max_monster_zones" readSize? usual.monsterZones
    spellTrapZones := ← field fields "max_spell_trap_zones" readSize? usual.spellTrapZones
    handLimit := ← field fields "hand_limit" readSize? usual.handLimit
    tributeTiers := ← field fields "tribute_tiers" readTiers? usual.tributeTiers
    firstPlayerDraws := ← field fields "first_player_draws" Document.truth?
      usual.firstPlayerDraws
    triggerDepth := ← field fields "max_trigger_depth" readSize? usual.triggerDepth }
where
  /-- A field that is read if it is there, and has its usual value if not. -/
  field {α : Type} (fields : List (String × Document)) (name : String)
      (read? : Document → Option α) (usual : α) : Option α :=
    match Details.get? fields name with
    | some value => read? value
    | none => some usual

end CardDuel.Rules
