import CardDuel.Amount
import CardDuel.Resolution.Transfer

/-!
# Effects that move no card

Damage and healing, changes of ATK, and negation.
-/

namespace CardDuel.Resolution

/-- The news that the life points of a player changed by `change`, from `before`
to `now`. -/
def lifeNews (seat : Seat) (change before now : Int) : News where
  type := .lifeChanged
  seat := some seat
  description :=
    if change < 0 then seat.title ++ " took " ++ toString (-change) ++ " damage"
    else seat.title ++ " gained " ++ toString change ++ " LP"
  details := [("previousLP", .whole before), ("newLP", .whole now),
    ("change", .whole (wrap (now - before)))]

/-- The scene with the life points of a player changed.  They never drop below
zero, and what has no room in an amount is wrapped before that. -/
def changeLife (seat : Seat) (change : Int) (s : Scene) : Scene :=
  let before := (s.side seat).life
  let now := max (wrap (before + change)) 0
  (s.change (·.modifySide seat ({ · with life := now }))).record
    (lifeNews seat change before now)

/-- The step from one number of life points to another as a text. -/
def lifeStep (before now : Int) : String :=
  " (" ++ toString before ++ " -> " ++ toString now ++ " LP)"

/-- Deals damage to the other player. -/
def damage (actor : Seat) (amount : Int) (s : Scene) : Outcome × Scene :=
  let victim := actor.other
  let after := changeLife victim (-(max amount 0)) s
  (.done ("Dealt " ++ toString amount ++ " damage to " ++ victim.title ++
    lifeStep (s.side victim).life (after.side victim).life), after)

/-- Gives life points to the player. -/
def gainLife (actor : Seat) (amount : Int) (s : Scene) : Outcome × Scene :=
  let after := changeLife actor (max amount 0) s
  (.done (actor.title ++ " gained " ++ toString amount ++ " LP" ++
    lifeStep (s.side actor).life (after.side actor).life), after)

/-- The monster with its ATK changed, for the turn or for good.  A lasting change
never takes the ATK below zero, once the sum has been wrapped. -/
def boosted (m : Monster) (value : Int) (untilEndOfTurn : Bool) : Monster :=
  if untilEndOfTurn then { m with bonus := wrap (m.bonus + value) }
  else { m with attack := max (wrap (m.attack + value)) 0 }

/-- The news that the ATK of a monster changed, which now is `attack` without what
other monsters add. -/
def attackNews (setup : Setup) (t : Table) (controller : Seat) (target : CardRef)
    (e : Effect) (attack : Int) : News where
  type := .attackModified
  seat := some controller
  description := setup.nameOf t target ++ "'s ATK changed by " ++ toString e.value
  details := setup.cardDetails t target ++
    [("change", .whole e.value), ("temporary", .truth e.untilEndOfTurn),
     ("attack", .whole attack)]

/-- Changes the ATK of the first target or, without one, of the card that the
effect comes from.  A standing modifier is in force by itself and changes nothing
here. -/
def modifyAttack (setup : Setup) (r : Request) (s : Scene) : Outcome × Scene :=
  let e := r.effect
  let target := if e.targetsSelf then r.source else r.targets.head?.or r.source
  if e.continuous then
    (.done "Continuous ATK modifier is active while the card is face-up", s)
  else
    match target with
    | none => (noTarget, s)
    | some target =>
      let name := setup.nameOf s.table target
      match s.table.monster? target with
      | none => (.failed (name ++ " is not on the field"), s)
      | some (controller, m) =>
        let now := boosted m e.value e.untilEndOfTurn
        let verb := if 0 ≤ e.value then " gained " else " lost "
        let ending := if e.untilEndOfTurn then " ATK until end of turn" else " ATK"
        (.done (name ++ verb ++ toString (wrap e.value.natAbs) ++ ending),
          (s.change
            (·.modifyMonster target (boosted · e.value e.untilEndOfTurn))).record
              (attackNews setup s.table controller target e (wrap (now.attack + now.bonus))))

/-- Takes all effects from the first target until the end of the turn. -/
def negate (setup : Setup) (r : Request) (s : Scene) : Outcome × Scene :=
  match r.targets with
  | [] => (.failed "No effect to negate", s)
  | target :: _ =>
    if s.table.knows target then
      let name := setup.nameOf s.table target
      (.done ("Negated " ++ name ++ "'s effect"),
        (s.change fun t => { t with negated := t.negated.insert target }).record {
          type := .effectNegated
          seat := some r.actor
          description := name ++ "'s effect was negated"
          details := setup.cardDetails s.table target })
    else (.failed "Card not found", s)

end CardDuel.Resolution
