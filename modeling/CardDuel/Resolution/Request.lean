import CardDuel.Effect
import CardDuel.Scene

/-!
# Requests

An effect does nothing by itself: it is carried out for a player, mostly for a
card, and on targets that the player has chosen.  A request is an effect with
all of these.
-/

namespace CardDuel

/-- An effect that is to be carried out. -/
structure Request where
  effect : Effect
  /-- The player who controls the effect. -/
  actor : Seat
  /-- The card that the effect comes from. -/
  source : Option CardRef := none
  /-- The cards that the player has chosen. -/
  targets : List CardRef := []

namespace Request

/-- The player whose hand or deck the effect acts on. -/
def affectedSeat (r : Request) : Seat :=
  if r.effect.againstOpponent then r.actor.other else r.actor

/-- The value of the effect as a number of cards. -/
def count (r : Request) : Nat := r.effect.value.toNat

/-- The chosen targets that the effect takes into account, at most as many as
its limit. -/
def limitedTargets (r : Request) : List CardRef := r.targets.take r.effect.targetLimit

/-- Whether a card meets the condition of the effect.  A card that nobody has
printed meets none. -/
def accepts (r : Request) (setup : Setup) (t : Table) (card : CardRef) : Bool :=
  match r.effect.condition with
  | none => true
  | some condition => (setup.card? t card).any (·.meets condition)

/-- The cards in a zone of a player that the effect takes: the chosen ones that
are there or, without any choice, the first that meet its condition. -/
def candidates (r : Request) (setup : Setup) (t : Table) (seat : Seat) (zone : Zone) :
    List CardRef :=
  let side := t.side seat
  let fitting :=
    if r.targets.isEmpty then (side.cardsIn zone).filter (r.accepts setup t)
    else r.targets.filter (side.holds zone)
  fitting.take r.effect.targetLimit

end Request

end CardDuel
