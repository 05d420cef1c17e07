import CardDuel.Resolution.Supply

/-!
# Targets that go elsewhere

Effects that send chosen cards to a hand, a graveyard, a deck or out of the game.
A card always goes to the pile of its owner, whoever held it.
-/

namespace CardDuel.Resolution

/-- The outcome of an effect that needs a target and has none. -/
def noTarget : Outcome := .failed "No target selected"

/-- Puts a card from anywhere into the hand of its owner and answers its name.  A
card that is nowhere is passed over. -/
def returnToHand (setup : Setup) (actor : Seat) (card : CardRef) (s : Scene) :
    Option String × Scene :=
  match s.table.moveToPile? card .hand .top with
  | none => (none, s)
  | some (left, moved) =>
    let owner := (s.table.owner? card).getD actor
    (some (setup.nameOf s.table card),
      (s.change fun _ => moved).record (toHandNews setup s.table owner left card))

/-- Adds cards to the hands of their owners.  From the board it takes chosen
monsters of both players, from any other zone cards of the player. -/
def toHand (setup : Setup) (r : Request) (s : Scene) : Outcome × Scene :=
  let zone := r.effect.source.getD .graveyard
  if zone = .board && r.targets.isEmpty then (noTarget, s)
  else
    let cards :=
      if zone = .board then
        (r.targets.filter fun card => (s.table.monster? card).isSome).take
          r.effect.targetLimit
      else r.candidates setup s.table r.actor zone
    if cards.isEmpty then (.failed ("No valid card found in the " ++ zone.phrase), s)
    else
      let (names, after) := s.each (returnToHand setup r.actor) cards
      (.done ("Added " ++ ", ".intercalate (names.filterMap id) ++ " to hand"), after)

/-- Puts a card from anywhere into the graveyard of its owner and answers its
name.  A card that is nowhere is passed over. -/
def sendToGraveyard (setup : Setup) (actor : Seat) (card : CardRef) (s : Scene) :
    Option String × Scene :=
  match s.table.moveToPile? card .graveyard .top with
  | none => (none, s)
  | some (left, moved) =>
    let name := setup.nameOf s.table card
    (some name, (s.change fun _ => moved).record {
      type := .cardToGraveyard
      seat := some ((s.table.owner? card).getD actor)
      description := name ++ " was sent to the graveyard"
      details := setup.cardDetails s.table card ++
        [("from", .text left.label), ("reason", .text "effect")] })

/-- Whether a card lies somewhere outside the graveyards. -/
def isOutsideGraveyard (t : Table) (card : CardRef) : Bool :=
  match t.locate? card with
  | some (_, zone) => zone != .graveyard
  | none => false

/-- Sends cards to the graveyards of their owners, which does not destroy them. -/
def toGraveyard (setup : Setup) (r : Request) (s : Scene) : Outcome × Scene :=
  let chosen :=
    (r.targets.filter (isOutsideGraveyard s.table)).take r.effect.targetLimit
  let cards :=
    match r.effect.source with
    | some zone =>
      if r.targets.isEmpty then r.candidates setup s.table r.actor zone else chosen
    | none => chosen
  if cards.isEmpty then (noTarget, s)
  else
    let (names, after) := s.each (sendToGraveyard setup r.actor) cards
    (.done ("Sent " ++ ", ".intercalate (names.filterMap id) ++ " to the graveyard"), after)

/-- The place as the outcome of a return to the deck tells it. -/
def placePhrase : DeckPlace → String
  | .shuffled => "and shuffled"
  | place => "(" ++ place.label ++ ")"

/-- Whether a card that lies in `zone` is where the effect expects it.  The board
and the spell and trap zone count as one field. -/
def isExpected (expected zone : Zone) : Bool :=
  match expected with
  | .board | .spellTrap => zone == .board || zone == .spellTrap
  | other => zone == other

/-- The outcome of a return to the deck whose target is not where it should be. -/
def notInPlace (expected : Zone) : Outcome :=
  match expected with
  | .hand => .failed "Card not found in hand"
  | .graveyard => .failed "Card not found in graveyard"
  | _ => .failed "Card not found on field"

/-- Returns the first target to the deck of its owner. -/
def returnToDeck (setup : Setup) (r : Request) (s : Scene) : Outcome × Scene :=
  let expected := r.effect.source.getD .board
  match r.targets with
  | [] => (noTarget, s)
  | target :: _ =>
    match s.table.locate? target with
    | none => (notInPlace expected, s)
    | some (_, zone) =>
      if isExpected expected zone then
        let place := r.effect.deckPlace
        let message := "Returned " ++ setup.nameOf s.table target ++ " from " ++
          zone.phrase ++ " to deck " ++ placePhrase place
        (.done message, (s.change (·.moveToPile target .deck place)).record {
          type := .cardReturnedToDeck
          seat := some ((s.table.owner? target).getD r.actor)
          description := message
          details := setup.cardDetails s.table target ++
            [("from", .text zone.label), ("position", .text place.label)] })
      else (notInPlace expected, s)

/-- Why a card that lies in `zone` cannot be banished by an effect that takes
cards from `source`. -/
def banishFault? (source : Option Zone) (zone : Zone) (name : String) : Option String :=
  if zone = .banished ∨ zone = .deck then
    some (name ++ " cannot be banished from the " ++ zone.title)
  else
    match source with
    | some wanted =>
      if wanted = zone then none else some (name ++ " is not in the " ++ wanted.title)
    | none => none

/-- Banishes one card. -/
def banishCard (setup : Setup) (source : Option Zone) (target : CardRef) (s : Scene) :
    Outcome × Scene :=
  let name := setup.nameOf s.table target
  match s.table.locate? target with
  | none => (.failed (name ++ " was not found"), s)
  | some (holder, zone) =>
    match banishFault? source zone name with
    | some fault => (.failed fault, s)
    | none =>
      (.done ("Banished " ++ name),
        (s.change (·.moveToPile target .banished .top)).record {
          type := .cardBanished
          seat := some holder
          description := name ++ " was banished"
          details := setup.cardDetails s.table target ++ [("from", .text zone.label)] })

/-- Banishes targets from the field, a hand or a graveyard. -/
def banish (setup : Setup) (r : Request) (s : Scene) : Outcome × Scene :=
  if r.targets.isEmpty then (noTarget, s)
  else
    let (parts, after) := s.each (banishCard setup r.effect.source) r.limitedTargets
    (.allOf parts, after)

end CardDuel.Resolution
