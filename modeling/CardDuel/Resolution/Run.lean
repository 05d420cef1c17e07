import CardDuel.Resolution.Adjustment
import CardDuel.Resolution.Battlefield

/-!
# Carrying effects out

An effect is carried out in three steps.  Some rules hold for all effects: a
negated card does nothing, a once-per-turn effect works once, and some monsters
cannot be chosen.  Then comes what its kind of effect does.  In the end a
once-per-turn effect that worked is marked as used.

Effects set off further effects, those set off yet others, and so on.  The rules
say how deep this may go.
-/

namespace CardDuel.Resolution

/-- Why an effect is not carried out, whatever its kind. -/
def fault? (setup : Setup) (r : Request) (t : Table) : Option String :=
  let bySource := r.source.bind fun source =>
    if source ∈ t.negated then some (setup.nameOf t source ++ "'s effect is negated")
    else if r.effect.oncePerTurn ∧ source ∈ t.used then
      some (setup.nameOf t source ++ "'s effect can only be used once per turn")
    else none
  bySource.or <|
    (r.targets.find? fun target =>
      (t.monster? target).any (·.2.protection.fromTargeting)).map fun target =>
        setup.nameOf t target ++ " cannot be targeted"

/-- Does what the kind of the effect says. -/
def perform (setup : Setup) (followUp : FollowUp) (r : Request) (s : Scene) :
    Outcome × Scene :=
  match r.effect.kind with
  | .draw => draw r.affectedSeat r.count s
  | .mill => mill setup r.affectedSeat r.count s
  | .discard => discard setup r.affectedSeat r.count r.targets s
  | .destroy => destroy setup followUp r s
  | .banish => banish setup r s
  | .damage => damage r.actor r.effect.value s
  | .gainLife => gainLife r.actor r.effect.value s
  | .toHand => toHand setup r s
  | .search => search setup r s
  | .toGraveyard => toGraveyard setup r s
  | .returnToDeck => returnToDeck setup r s
  | .modifyAttack => modifyAttack setup r s
  | .summon => summon setup followUp r s
  | .negate => negate setup r s
  | .protection => (.done "Protection applies while the card is on the field", s)

/-- Marks the once-per-turn effect of a card as used. -/
def markUsed (r : Request) (s : Scene) : Scene :=
  match r.source with
  | some source =>
    if r.effect.oncePerTurn then s.change fun t => { t with used := t.used.insert source }
    else s
  | none => s

/-- Carries an effect out, with the effects that it sets off. -/
def runWith (setup : Setup) (followUp : FollowUp) (r : Request) (s : Scene) :
    Outcome × Scene :=
  match fault? setup r s.table with
  | some fault => (.failed fault, s)
  | none =>
    let (outcome, after) := perform setup followUp r s
    (outcome, if outcome.success then markUsed r after else after)

/-- The news that an effect of a card happens by itself. -/
def triggerNews (setup : Setup) (t : Table) (card : CardRef) (seat : Seat) (timing : Timing)
    (e : Effect) : News where
  type := .effectActivated
  seat := some seat
  description := setup.nameOf t card ++ "'s " ++ e.kind.label ++ " effect activated"
  details := setup.cardDetails t card ++
    [("trigger", .text timing.label), ("effectType", .text e.kind.label)]

/-- Carries out an effect of a card that happens by itself, with news of it. -/
def trigger (setup : Setup) (followUp : FollowUp) (card : CardRef) (seat : Seat)
    (timing : Timing) (e : Effect) (s : Scene) : Outcome × Scene :=
  runWith setup followUp ⟨e, seat, some card, []⟩
    (s.record (triggerNews setup s.table card seat timing e))

/-- Carries out the effects of a card at a timing, with what they set off up to
`depth` levels, this one included. -/
def fireWithin (setup : Setup) : (depth : Nat) → FollowUp
  | 0 => fun _ _ _ s => ([], s)
  | depth + 1 => fun card seat timing s =>
    s.each (trigger setup (fireWithin setup depth) card seat timing)
      ((setup.abilityOf s.table card).triggered timing)

/-- Carries out the effects of a card at a timing. -/
def fire (setup : Setup) : FollowUp := fireWithin setup setup.rules.triggerDepth

/-- Carries out an effect that a player has activated. -/
def run (setup : Setup) : Request → Scene → Outcome × Scene := runWith setup (fire setup)

/-- Carries out, in order, all effects of a card that happen when it resolves. -/
def runAbility (setup : Setup) (card : CardRef) (seat : Seat) (targets : List CardRef)
    (s : Scene) : List Outcome × Scene :=
  s.each (fun e => run setup ⟨e, seat, some card, targets⟩)
    (setup.abilityOf s.table card).onResolution

end CardDuel.Resolution
