import CardDuel.Text.Pattern

/-!
# Searching for a pattern

`Pattern.search` answers the preferred match at the first place of a text that
has one.  A pattern may match in very many ways, so they are not listed.  The
search goes through the pattern from its end to its start instead and keeps a
column: for each place of the text, what the preferred way to go on from there
leads to.  Each part of the pattern turns the column after it into the column in
front of it, in time proportional to the text; where no way leads on, the parts
further in front are not looked at.
-/

namespace CardDuel.Text

/-- The places of a text, from the one on that has `before` in front. -/
def places (before : Option Char) : List Char → List Place
  | [] => [⟨before, []⟩]
  | c :: cs => ⟨before, c :: cs⟩ :: places (some c) cs

/-- Whether a character with the property follows. -/
def Place.precedes (place : Place) (property : Char → Bool) : Bool :=
  place.rest.head?.any property

/-- Where a way through the rest of a pattern leads, and what it marks. -/
structure Outcome (α : Type) where
  marks : List Mark
  value : α

/-- The outcome with further marks in front. -/
def Outcome.after {α : Type} (marks : List Mark) (outcome : Outcome α) : Outcome α :=
  ⟨marks ++ outcome.marks, outcome.value⟩

/-- For each place of a text, the outcome of the preferred way to go on from
there, if there is one. -/
abbrev Column (α : Type) := List (Option (Outcome α))

namespace Column

variable {α : Type}

/-- The column restricted to the places with the property. -/
def only (property : Place → Bool) (ps : List Place) (column : Column α) : Column α :=
  List.zipWith
    (fun place outcome => if outcome.isSome && property place then outcome else none) ps column

/-- For each place, the outcome at the place `count` characters further on. -/
def ahead (count : Nat) (column : Column α) : Column α :=
  (column ++ List.replicate count none).drop count

/-- The column in front of one character with the property. -/
def beforeOne (property : Char → Bool) (ps : List Place) (column : Column α) : Column α :=
  only (·.precedes property) ps (ahead 1 column)

/-- The column in front of exactly this text. -/
def beforeWord (piece : List Char) (ps : List Place) (column : Column α) : Column α :=
  only (fun place => (place.after? piece).isSome) ps (ahead piece.length column)

/-- The column in front of a run of characters with the property, the longest
or the shortest run preferred. -/
def beforeRun (longest : Bool) (property : Char → Bool) (ps : List Place) (column : Column α) :
    Column α :=
  (ps.zip column).foldr
    (fun (place, outcome) further =>
      let longer := if place.precedes property then further.head?.join else none
      (if longest then longer.or outcome else outcome.or longer) :: further)
    []

/-- The column in front of a run of at least `least` characters. -/
def beforeRunOf (longest : Bool) (property : Char → Bool) (ps : List Place) (column : Column α) :
    (least : Nat) → Column α
  | 0 => beforeRun longest property ps column
  | least + 1 => beforeOne property ps (beforeRunOf longest property ps column least)

/-- The column at the end of a marked piece, which remembers where the piece
ends. -/
def closed (ps : List Place) (column : Column α) : Column (Place × Outcome α) :=
  List.zipWith (fun last outcome => outcome.map fun o => ⟨[], last, o⟩) ps column

/-- The column in front of a marked piece, from one that remembers where the
piece ends. -/
def opened (slot : Slot) (ps : List Place) (column : Column (Place × Outcome α)) : Column α :=
  List.zipWith
    (fun first outcome => outcome.map fun ⟨marks, last, o⟩ =>
      o.after ((slot, first, last) :: marks))
    ps column

end Column

namespace Pattern

open Column

/-- The column in front of a pattern, from the column after it. -/
def columnBefore : Pattern → {α : Type} → List Place → Column α → Column α
  | .empty, _, _, column => column
  | .word text, _, ps, column => beforeWord text.toList ps column
  | .one property, _, ps, column => beforeOne property ps column
  | .most least property, _, ps, column => beforeRunOf true property ps column least
  | .fewest least property, _, ps, column => beforeRunOf false property ps column least
  | .seq first second, _, ps, column =>
    let between := second.columnBefore ps column
    if between.all (·.isNone) then between else first.columnBefore ps between
  | .alt first second, _, ps, column =>
    List.zipWith Option.or (first.columnBefore ps column) (second.columnBefore ps column)
  | .mark slot piece, _, ps, column =>
    opened slot ps (piece.columnBefore ps (closed ps column))
  | .edge, _, ps, column => only Place.isEdge ps column
  | .start, _, ps, column => only (·.before.isNone) ps column
  | .finish, _, ps, column => only (·.rest.isEmpty) ps column

/-- The preferred match at the first place of the text that has one. -/
def search (p : Pattern) (cs : List Char) : Option Way :=
  let ps := places none cs
  let ends := ps.map fun last => some ⟨[], last⟩
  ((p.columnBefore ps ends).findSome? id).map fun outcome => ⟨outcome.marks, outcome.value⟩

/-- Whether the pattern matches somewhere in the text. -/
def found (p : Pattern) (cs : List Char) : Bool := (p.search cs).isSome

end Pattern

end CardDuel.Text
