/-!
# Outcomes of effects

An effect that cannot do what it says is no error: it reports a failure, and
the action that set it off goes on.
-/

namespace CardDuel

/-- How an effect ended, with a sentence about it. -/
structure Outcome where
  success : Bool
  message : String
  deriving DecidableEq, Repr

namespace Outcome

/-- An effect that was carried out. -/
def done (message : String) : Outcome := ⟨true, message⟩

/-- An effect that was not carried out. -/
def failed (message : String) : Outcome := ⟨false, message⟩

/-- The sentences of all parts. -/
def messages (parts : List Outcome) : String := "; ".intercalate (parts.map (·.message))

/-- The outcome of parts that count as a success if one of them does. -/
def someOf (parts : List Outcome) : Outcome :=
  ⟨parts.any (·.success), messages parts⟩

/-- The outcome of parts that count as a success only if all of them do. -/
def allOf (parts : List Outcome) : Outcome :=
  ⟨parts.all (·.success), messages parts⟩

end Outcome

end CardDuel
