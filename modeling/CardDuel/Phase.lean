/-!
# Phases of a turn
-/

namespace CardDuel

/-- A part of a turn, in the order in which a turn passes through them. -/
inductive Phase where
  | draw
  | standby
  | main1
  | battle
  | main2
  | finish
  deriving DecidableEq, Repr

namespace Phase

/-- All phases in order. -/
def all : List Phase := [draw, standby, main1, battle, main2, finish]

/-- The phase after this one; the End Phase is the last. -/
def next? : Phase → Option Phase
  | draw => some standby
  | standby => some main1
  | main1 => some battle
  | battle => some main2
  | main2 => some finish
  | finish => none

/-- Whether cards may be played freely. -/
def isMain : Phase → Bool
  | main1 | main2 => true
  | _ => false

/-- The name of the phase in event details. -/
def label : Phase → String
  | draw => "draw"
  | standby => "standby"
  | main1 => "main1"
  | battle => "battle"
  | main2 => "main2"
  | finish => "end"

/-- Different phases have different names. -/
theorem label_injective {p q : Phase} (same : p.label = q.label) : p = q := by
  cases p <;> cases q <;> first | rfl | exact absurd same (by decide)

/-- The name of the phase in sentences. -/
def title : Phase → String
  | draw => "Draw"
  | standby => "Standby"
  | main1 => "Main 1"
  | battle => "Battle"
  | main2 => "Main 2"
  | finish => "End"

/-- Every phase but the last is followed by the next one of the list. -/
theorem next?_eq_some_iff {p q : Phase} : p.next? = some q ↔ (p, q) ∈ all.zip all.tail := by
  cases p <;> cases q <;> decide

end Phase

end CardDuel
