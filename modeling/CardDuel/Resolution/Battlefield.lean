import CardDuel.Resolution.Transfer

/-!
# Coming onto the field and leaving it

Special Summons and destruction.  Both set off further effects of the card that
comes or goes; how these are carried out is handed in.
-/

namespace CardDuel.Resolution

/-- What carries out the effects of a card at a timing, for a player. -/
abbrev FollowUp := CardRef → Seat → Timing → Scene → List Outcome × Scene

/-- The sentence about an effect, with those about the effects that it set off. -/
def withFollowUps (sentence : String) (parts : List Outcome) : Outcome :=
  if parts.isEmpty then .done sentence
  else .done (sentence ++ " (" ++ Outcome.messages parts ++ ")")

/-- The owner of a card on the field and the scene after the card is destroyed, or why
it is not. -/
def destroyed (setup : Setup) (target : CardRef) (s : Scene) : Except Outcome (Seat × Scene) :=
  let name := setup.nameOf s.table target
  let absent := Outcome.failed (name ++ " is not on the field")
  match s.table.locate? target with
  | none => .error absent
  | some (holder, zone) =>
    if zone ≠ .board ∧ zone ≠ .spellTrap then .error absent
    else if (s.table.monster? target).any (·.2.protection.fromEffects) then
      .error (.failed (name ++ " cannot be destroyed by card effects"))
    else
      .ok ((s.table.owner? target).getD holder,
        (s.change (·.moveToPile target .graveyard .top)).record {
          type := .cardToGraveyard
          seat := some holder
          description := name ++ " was destroyed"
          details := setup.cardDetails s.table target ++
            [("from", .text zone.label), ("reason", .text "effect_destroy")] })

/-- Destroys one card on the field, and carries out what this sets off. -/
def destroyCard (setup : Setup) (followUp : FollowUp) (target : CardRef) (s : Scene) :
    Outcome × Scene :=
  match destroyed setup target s with
  | .error fault => (fault, s)
  | .ok (owner, gone) =>
    let (parts, after) := followUp target owner .onDestroy gone
    (withFollowUps ("Destroyed " ++ setup.nameOf s.table target) parts, after)

/-- Destroys targets on either side of the field. -/
def destroy (setup : Setup) (followUp : FollowUp) (r : Request) (s : Scene) :
    Outcome × Scene :=
  if r.targets.isEmpty then (noTarget, s)
  else
    let (parts, after) := s.each (destroyCard setup followUp) r.limitedTargets
    (.allOf parts, after)

/-- The card that is to be summoned from `zone`: the card of the effect itself, if
it is off the board; the first target, if it is in the zone; or the first monster
of the zone that meets the condition. -/
def summonCandidate? (setup : Setup) (r : Request) (zone : Zone) (t : Table) :
    Option CardRef :=
  let side := t.side r.actor
  if r.effect.targetsSelf then
    r.source.filter fun card => (side.zoneOf? card).any (· != .board)
  else
    match r.targets with
    | target :: _ => if side.holds zone target then some target else none
    | [] => (side.cardsIn zone).find? fun card =>
        (setup.card? t card).any (·.type.isMonster) && r.accepts setup t card

/-- The monster that a printed card is when it comes onto the board face-up. -/
def arrival (setup : Setup) (card : CardRef) (printed : Card) (stance : Stance)
    (turn : Nat) : Monster :=
  .faceUp card stance printed.attack printed.defense turn
    (setup.catalog.ability printed.id).protection

/-- The card that is summoned from a zone of the player, what is printed on it, and the
scene after it has come onto the board face-up in attack, or why none is. -/
def specialSummoned (setup : Setup) (r : Request) (s : Scene) :
    Except Outcome (CardRef × Card × Scene) :=
  let seat := r.actor
  let zone := r.effect.source.getD .hand
  let limit := setup.rules.monsterZones
  if limit ≤ (s.side seat).board.length then
    .error (.failed (Zone.board.title ++ " is full (max " ++ toString limit ++ " cards)"))
  else
    match summonCandidate? setup r zone s.table with
    | none =>
      .error (.failed ("No monster available to Special Summon from your " ++ zone.title))
    | some card =>
      match setup.card? s.table card with
      | none => .error (.failed "Card definition not found")
      | some printed =>
        let name := printed.name
        if !printed.type.isMonster then .error (.failed (name ++ " is not a monster"))
        else
          match (s.side seat).take? card with
          | none => .error (.failed (name ++ " is not in your " ++ zone.title))
          | some (left, _) =>
            let monster := arrival setup card printed .attack s.table.turn
            .ok (card, printed, (s.change
              (·.modifySide seat fun side => (side.remove left card).placeMonster monster)).record {
                type := .specialSummon
                seat := some seat
                description := name ++ " was Special Summoned"
                details := setup.cardDetails s.table card ++
                  [("from", .text left.label), ("position", .text Stance.attack.label)] })

/-- Summons a monster from a zone of the player, and carries out what this sets off. -/
def summon (setup : Setup) (followUp : FollowUp) (r : Request) (s : Scene) :
    Outcome × Scene :=
  match specialSummoned setup r s with
  | .error fault => (fault, s)
  | .ok (card, printed, there) =>
    let (parts, after) := followUp card r.actor .onSummon there
    (withFollowUps ("Special Summoned " ++ printed.name) parts, after)

end CardDuel.Resolution
