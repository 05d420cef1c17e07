import CardDuel.Match

/-!
# Moves on the chain

Either player may put an effect on the chain, pass, or have a chain resolved that
both have passed on.  The chain itself knows whose turn it is to answer.
-/

namespace CardDuel.Match

open Resolution

/-- The zone from which a player activates a card onto the chain: spells from the
hand or after they were set, traps after they were set, monsters face-up from the
board. -/
def linkZone (side : Side) (card : CardRef) (type : CardType) : Except Refusal Zone :=
  match type with
  | .creature =>
    if (side.monster? card).any (!·.isFaceDown) then .ok .board
    else .error (.cardNotInZone card .board)
  | .trap =>
    if side.hasSet card then .ok .spellTrap else .error (.cardNotInZone card .spellTrap)
  | .spell | .equipment =>
    if side.holds .hand card then .ok .hand
    else if side.hasSet card then .ok .spellTrap
    else .error (.cardNotInZone card .hand)

/-- The first effect of a card that happens when it resolves. -/
def linkEffect (setup : Setup) (printed : Card) : Except Refusal Effect :=
  match (setup.catalog.ability printed.id).onResolution with
  | effect :: _ => .ok effect
  | [] => .error (.illegal (.noEffect printed.name))

/-- The table with a card lifted onto the chain.  A monster stays on the board. -/
def liftCard (seat : Seat) (card : CardRef) (zone : Zone) (t : Table) : Table :=
  if zone = .board then t
  else
    { t.modifySide seat (·.remove zone card) with chained := t.chained.insert card }

/-- The news that a link was added. -/
def linkNews (seat : Seat) (card : CardRef) (name : String) (number : Nat) (effect : Effect)
    (zone : Zone) : News where
  type := .chainLinkAdded
  seat := some seat
  description := name ++ " added to the chain as link " ++ toString number
  details := [("cardId", .nat card.number), ("cardName", .text name),
    ("chainLink", .nat number), ("effectType", .text effect.kind.label),
    ("from", .text zone.label)]

/-- Puts an effect of a card on the chain and answers the id of its link. -/
def addToChain (setup : Setup) (seat : Seat) (card : CardRef) (targets : List CardRef)
    (m : Match) : Except Refusal (LinkId × Match) := do
  let printed ← m.printed setup card
  require (m.chain.hasCard card = false) (.chain (.linkedByName printed.name))
  let zone ← linkZone (m.side seat) card printed.type
  let effect ← linkEffect setup printed
  let (id, chain) ← m.chain.add card seat effect targets
  let added := { m.change (liftCard seat card zone) with chain := chain }
  return (id, added.record
    (linkNews seat card printed.name chain.links.length effect zone))

/-- Passes, and answers who may answer now. -/
def passPriority (seat : Seat) (m : Match) : Except Refusal (Option Seat × Match) := do
  let (awaiting, chain) ← m.chain.pass seat
  return (awaiting, { m with chain := chain })

/-- Resolves the chain. -/
def resolveChain (setup : Setup) (m : Match) : Except Refusal (List LinkReport × Match) := do
  let (reports, chain, after) ← m.chain.resolve setup m.toScene
  return (reports, ⟨after, chain⟩)

end CardDuel.Match
