import CardDuel.Amount
import CardDuel.Scene

/-!
# The strength of a monster

The ATK that a monster has in play is what it is marked with, and on top of it
what every face-up monster on either board adds to it or takes from it.  Nothing
of the latter is stored: it follows from the table alone.  Every sum on the way is wrapped
to an amount, and only the last one is cut off at zero.
-/

namespace CardDuel

/-- Whether a standing modifier of a monster of `sourceSeat` reaches a monster of
`seat`, on which `printed` is printed. -/
def Effect.reaches (e : Effect) (sourceSeat seat : Seat) (printed : Option Card) : Bool :=
  (e.reach == .field || sourceSeat == seat) &&
    match e.condition with
    | none => true
    | some condition => printed.any (·.meets condition)

/-- An ATK after some modifiers have been added to it one after the other. -/
def Effect.raise (attack : Int) : List Effect → Int
  | [] => attack
  | e :: es => raise (wrap (attack + e.value)) es

namespace Setup

/-- The standing modifiers in force that stem from a monster: those of its ability,
unless it is face-down or negated. -/
def modifiersOf (setup : Setup) (t : Table) (source : Monster) : List Effect :=
  if source.isFaceDown || source.card ∈ t.negated then []
  else (setup.abilityOf t source.card).modifiers

/-- The standing modifiers of the monsters of `sourceSeat` that reach a monster of `seat`, on
which `printed` is printed. -/
def supportFrom (setup : Setup) (t : Table) (seat : Seat) (printed : Option Card)
    (sourceSeat : Seat) : List Effect :=
  ((t.side sourceSeat).board.flatMap (setup.modifiersOf t)).filter
    (·.reaches sourceSeat seat printed)

/-- The ATK of a monster in play, which is never below zero. -/
def effectiveAttack? (setup : Setup) (t : Table) (card : CardRef) : Option Int :=
  (t.monster? card).map fun (seat, m) =>
    let support := setup.supportFrom t seat (setup.card? t card)
    max (Effect.raise (wrap (m.attack + m.bonus)) (support .host ++ support .opponent)) 0

end Setup

end CardDuel
