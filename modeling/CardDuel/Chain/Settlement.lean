import CardDuel.Chain
import CardDuel.Resolution.Run

/-!
# How a chain ends

A chain on which both players have passed is resolved: its links are carried out
from the newest to the oldest, and a link that fails does not stop the others.  A
chain is cleared when the match is over.  Either way the spells and traps on it go
to the graveyards of their owners.
-/

namespace CardDuel

/-- What became of a link. -/
structure LinkReport where
  link : LinkId
  number : Nat
  card : CardRef
  controller : Seat
  outcome : Outcome
  deriving DecidableEq, Repr

namespace Chain

open Resolution

/-- Puts a spell or trap on the chain into the graveyard of its owner.  A monster
stays where it is. -/
def spend (setup : Setup) (card : CardRef) (s : Scene) : Scene :=
  if card ∈ s.table.chained then
    let lifted := s.change fun t => { t with chained := t.chained.erase card }
    match s.table.owner? card, lifted.table.placeInPile? card .graveyard .top with
    | some owner, some placed =>
      (lifted.change fun _ => placed).record {
        type := .cardToGraveyard
        seat := some owner
        description := setup.nameOf s.table card ++ " was sent to the graveyard"
        details := setup.cardDetails s.table card ++ [("reason", .text "spent")] }
    | _, _ => lifted
  else s

/-- Putting a card away changes where cards are, and nothing else of the table. -/
theorem spend_frame (setup : Setup) (card : CardRef) (s : Scene) :
    ∃ sides rng chained, (spend setup card s).table =
      { s.table with sides := sides, rng := rng, chained := chained } := by
  unfold spend
  dsimp only
  split
  · split
    · next owner placed _ hplaced =>
      let lifted : Table := { s.table with chained := s.table.chained.erase card }
      obtain ⟨sides, rng, frame⟩ := lifted.placeInPile_frame card .graveyard .top
      have hplaced : lifted.placeInPile? card .graveyard .top = some placed := hplaced
      rw [Table.placeInPile, hplaced] at frame
      exact ⟨sides, rng, _, frame⟩
    · exact ⟨_, _, _, rfl⟩
  · exact ⟨_, _, _, rfl⟩

/-- Carries out a link.  A card that has been negated has lost its link. -/
def runLink (setup : Setup) (link : Link) (s : Scene) : Outcome × Scene :=
  if link.card ∈ s.table.negated then
    (.failed (setup.nameOf s.table link.card ++ "'s effect was negated"), s)
  else run setup ⟨link.effect, link.controller, some link.card, link.targets⟩ s

/-- Carries out a link and puts its card away. -/
def settleLink (setup : Setup) (link : Link) (s : Scene) : LinkReport × Scene :=
  let (outcome, after) := runLink setup link s
  (⟨link.id, link.number, link.card, link.controller, outcome⟩, spend setup link.card after)

/-- The news that a chain was resolved, with what became of its links. -/
def resolvedNews (reports : List LinkReport) : News where
  type := .chainResolved
  seat := none
  description := "Chain of " ++ toString reports.length ++ " link(s) resolved"
  details := [("order", .list (reports.map fun report => .nat report.number)),
    ("failed", .nat (reports.filter fun report => !report.outcome.success).length)]

/-- Carries out all links of a chain that is ready, the newest first. -/
def resolve (setup : Setup) (chain : Chain) (s : Scene) :
    Except Refusal (List LinkReport × Chain × Scene) :=
  if chain.state = .resolving then
    let (reports, after) := s.each (settleLink setup) chain.links.reverse
    .ok (reports, chain.emptied, after.record (resolvedNews reports))
  else .error (.chain .passesMissing)

/-- The table after a link is dropped. -/
def dropLink (t : Table) (link : Link) : Table :=
  if link.card ∈ t.chained then
    { t with chained := t.chained.erase link.card }.placeInPile link.card .graveyard .top
  else t

/-- The table after all links are dropped, the oldest first. -/
def cleared (chain : Chain) (t : Table) : Table := chain.links.foldl dropLink t

theorem dropLink_frame (t : Table) (link : Link) :
    ∃ sides rng chained,
      dropLink t link = { t with sides := sides, rng := rng, chained := chained } := by
  unfold dropLink
  split
  · obtain ⟨sides, rng, placed⟩ := Table.placeInPile_frame
      { t with chained := t.chained.erase link.card } link.card .graveyard .top
    exact ⟨sides, rng, _, placed⟩
  · exact ⟨_, _, _, rfl⟩

/-- Dropping the links changes where cards are, and nothing else. -/
theorem cleared_frame (chain : Chain) (t : Table) :
    ∃ sides rng chained,
      chain.cleared t = { t with sides := sides, rng := rng, chained := chained } := by
  unfold cleared
  induction chain.links generalizing t with
  | nil => exact ⟨_, _, _, rfl⟩
  | cons link links ih =>
    obtain ⟨_, _, _, first⟩ := dropLink_frame t link
    obtain ⟨sides, rng, chained, rest⟩ := ih (dropLink t link)
    refine ⟨sides, rng, chained, ?_⟩
    rw [List.foldl_cons, rest, first]

end Chain

end CardDuel
