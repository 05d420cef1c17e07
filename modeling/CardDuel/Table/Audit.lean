import CardDuel.Table

/-!
# The audit of a table

Every physical card belongs in exactly one place.  The audit counts each card
over all zones of both sides and the chain, and reports the first card that is
not found once.
-/

namespace CardDuel

/-- A card that was found in the wrong number of places. -/
structure Misplaced where
  card : CardRef
  places : Nat
  deriving DecidableEq, Repr

/-- The finding as a sentence. -/
def Misplaced.message (found : Misplaced) : String :=
  found.card.title ++ " found in " ++ toString found.places ++ " zones"

namespace Table

/-- Every card that lies somewhere, as often as it does: zone by zone, the
host's side first, and then the cards on the chain. -/
def census (t : Table) : List CardRef :=
  (t.side .host).cards ++ (t.side .opponent).cards ++ t.chained.toList

/-- The cards that the table knows or that lie somewhere, in ascending order. -/
def audited (t : Table) : CardSet := .ofList (t.copies.keys ++ t.census)

/-- The first card that does not lie in exactly one place. -/
def misplaced? (t : Table) : Option Misplaced :=
  let census := t.census
  (t.audited.toList.find? fun card => census.count card != 1).map fun card =>
    ⟨card, census.count card⟩

end Table

end CardDuel
