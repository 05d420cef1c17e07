import CardDuel.Match

/-!
# Moves with spells and traps

Spells are activated from the hand or after they were set, traps only after they
were set.  A card that is activated leaves its zone before its ability is carried
out, so the ability never meets the card itself.
-/

namespace CardDuel.Match

open Resolution

/-- The news that a spell or trap was set.  They do not name it. -/
def layNews (seat : Seat) (card : CardRef) (type : CardType) : News where
  type := if type = .trap then .trapSet else .spellSet
  seat := some seat
  description :=
    seat.title ++ (if type = .trap then " Set a Trap card" else " Set a Spell card")
  details := [("cardId", .nat card.number)]

/-- Puts a spell or trap face-down in its zone, and answers what type it is. -/
def setSpellTrap (setup : Setup) (seat : Seat) (card : CardRef) (m : Match) :
    Except Refusal (CardType × Match) := do
  m.requireMainPhase "Set a Spell/Trap"
  m.requireNoChain
  m.requireOwn seat card .hand
  let printed ← m.printed setup card
  require (printed.type.isMonster = false) (.wrongCardType printed.name "spell or trap")
  let limit := setup.rules.spellTrapZones
  require ((m.side seat).spellTraps.length < limit) (.zoneFull .spellTrap limit)
  let lay (side : Side) : Side :=
    (side.remove .hand card).placeSpellTrap (.laid card m.table.turn)
  return (printed.type,
    (m.change (·.modifySide seat lay)).record (layNews seat card printed.type))

/-- A spell or trap that has been activated. -/
structure ActivationReport where
  card : CardRef
  name : String
  outcome : Outcome
  deriving DecidableEq, Repr

/-- The news that a spell or trap was activated. -/
def activationNews (seat : Seat) (card : CardRef) (printed : Card) (zone : Zone) : News where
  type := if printed.type = .trap then .trapActivated else .spellActivated
  seat := some seat
  description := seat.title ++ " activated " ++ printed.name
  details := [("cardId", .nat card.number), ("cardName", .text printed.name),
    ("from", .text zone.label)]

/-- The news that a spell or trap is spent. -/
def spentNews (seat : Seat) (card : CardRef) (name : String) : News where
  type := .cardToGraveyard
  seat := some seat
  description := name ++ " was sent to the graveyard"
  details := [("cardId", .nat card.number), ("cardName", .text name),
    ("reason", .text "spent")]

/-- The outcome of an activation from those of the effects. -/
def activationOutcome (parts : List Outcome) : Outcome :=
  if parts.isEmpty then .failed "No effect" else .someOf parts

/-- The match after a card is lifted out of its zone to be activated. -/
def lifted (seat : Seat) (card : CardRef) (zone : Zone) (printed : Card) (m : Match) : Match :=
  (m.change (·.modifySide seat (·.remove zone card))).record
    (activationNews seat card printed zone)

/-- Lifts a card out of its zone, carries out its ability and puts it into the
graveyard. -/
def activate (setup : Setup) (seat : Seat) (card : CardRef) (zone : Zone) (printed : Card)
    (targets : List CardRef) (m : Match) : ActivationReport × Match :=
  let (parts, after) := (m.lifted seat card zone printed).act
    (runAbility setup card seat targets)
  (⟨card, printed.name, activationOutcome parts⟩,
    (after.change (·.placeInPile card .graveyard .top)).record
      (spentNews seat card printed.name))

/-- Activates a spell from the hand or from its zone. -/
def activateSpell (setup : Setup) (seat : Seat) (card : CardRef) (targets : List CardRef)
    (m : Match) : Except Refusal (ActivationReport × Match) := do
  m.requireMainPhase "activate a Spell"
  m.requireNoChain
  let printed ← m.printed setup card
  require printed.type.isSpell (.wrongCardType printed.name "spell")
  let side := m.side seat
  let inHand := side.holds .hand card
  require (inHand || side.hasSet card) (.cardNotInZone card .hand)
  return m.activate setup seat card (if inHand then .hand else .spellTrap) printed targets

/-- Activates a trap that was set, in any phase of either player. -/
def activateTrap (setup : Setup) (seat : Seat) (card : CardRef) (targets : List CardRef)
    (m : Match) : Except Refusal (ActivationReport × Match) := do
  m.requireNoChain
  let printed ← m.printed setup card
  require (printed.type = .trap) (.wrongCardType printed.name "trap")
  require ((m.side seat).hasSet card) (.cardNotInZone card .spellTrap)
  return m.activate setup seat card .spellTrap printed targets

end CardDuel.Match
