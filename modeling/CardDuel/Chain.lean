import CardDuel.Effect
import CardDuel.Refusal

/-!
# The chain

Effects that answer each other wait on the chain.  A player adds a link, and then
the other player may add one or pass.  When both have passed, one right after the
other, the chain is ready, and its links are carried out from the newest to the
oldest.

This module holds the protocol: who may do what, and when.  It knows the links but
not what they do.
-/

namespace CardDuel

/-- A link of a match.  Its number is never used again in the match. -/
structure LinkId where
  number : Nat
  deriving DecidableEq, Repr

/-- The name of the link in messages. -/
def LinkId.title (id : LinkId) : String :=
  let number := id.number
  s!"ChainLink({number})"

/-- An effect that waits on the chain. -/
structure Link where
  id : LinkId
  /-- The place in the chain, counted from 1. -/
  number : Nat
  card : CardRef
  controller : Seat
  effect : Effect
  targets : List CardRef
  deriving DecidableEq, Repr

/-- Where the chain is in its protocol. -/
inductive ChainState where
  /-- There are no links. -/
  | idle
  /-- A player may answer.  `passes` players have passed since the last link. -/
  | window (awaiting : Seat) (passes : Nat)
  /-- Both players have passed. -/
  | resolving
  deriving DecidableEq, Repr

/-- The effects that wait, the oldest first. -/
structure Chain where
  links : List Link
  state : ChainState
  /-- The number of the next link. -/
  nextLink : Nat
  deriving DecidableEq, Repr

namespace Chain

/-- The chain of a match that has just begun. -/
def empty : Chain := ⟨[], .idle, 0⟩

/-- Whether a card has a link. -/
def hasCard (chain : Chain) (card : CardRef) : Bool := chain.links.any (·.card == card)

/-- The newest link, which will be carried out first. -/
def newest? (chain : Chain) : Option Link := chain.links.getLast?

/-- The player who may answer. -/
def awaiting? (chain : Chain) : Option Seat :=
  match chain.state with
  | .window awaiting _ => some awaiting
  | _ => none

/-- Why a player may not add a link for a card. -/
def addFault? (chain : Chain) (card : CardRef) (seat : Seat) : Option ChainRefusal :=
  let byState : Option ChainRefusal := match chain.state with
    | .resolving => some .resolving
    | .window awaiting _ => if awaiting = seat then none else some (.noPriority seat)
    | .idle => none
  byState.or (if chain.hasCard card then some (.linked card) else none)

/-- The chain with a link of a player, and the id of the link.  The other player may
answer. -/
def add (chain : Chain) (card : CardRef) (seat : Seat) (effect : Effect)
    (targets : List CardRef) : Except Refusal (LinkId × Chain) :=
  match chain.addFault? card seat with
  | some fault => .error (.chain fault)
  | none =>
    let link : Link :=
      ⟨⟨chain.nextLink⟩, chain.links.length + 1, card, seat, effect, targets⟩
    .ok (link.id, {
      links := chain.links ++ [link]
      state := .window seat.other 0
      nextLink := chain.nextLink + 1 })

/-- The chain after a player has passed, and the player who may answer now.  After
the second pass nobody may. -/
def pass (chain : Chain) (seat : Seat) : Except Refusal (Option Seat × Chain) :=
  match chain.state with
  | .idle => .error (.chain .nothingToAnswer)
  | .resolving => .error (.chain .alreadyResolving)
  | .window awaiting passes =>
    if seat ≠ awaiting then .error (.chain (.noPriority seat))
    else if 2 ≤ passes + 1 then .ok (none, { chain with state := .resolving })
    else
      .ok (some seat.other, { chain with state := .window seat.other (passes + 1) })

/-- The chain after its links are gone. -/
def emptied (chain : Chain) : Chain := { chain with links := [], state := .idle }

end Chain

end CardDuel
