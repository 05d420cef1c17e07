import CardDuel.Text.Digit
import CardDuel.Text.WordChar
import CardDuel.Text.Words

/-!
# Patterns of card text

A pattern describes a piece of text.  It may match at a place in several ways,
and the ways have an order: the first branch of a choice comes before the
second, a greedy run tries its longest form first and a lazy run its shortest.
`Pattern.run` lists all ways in that order.

Some pieces of a match are marked, so that the reader of a clause can ask for
the number, the condition or the place that the text names.
-/

namespace CardDuel.Text

/-- What a marked piece of a match stands for. -/
inductive Slot where
  /-- A number of cards. -/
  | count
  /-- An amount of life points or ATK. -/
  | amount
  /-- The kind of monster that a standing modifier reaches. -/
  | condition
  /-- The words that restrict a modifier to the monsters of one player. -/
  | own
  /-- Whether ATK is gained or lost. -/
  | direction
  /-- Whose deck is meant. -/
  | whose
  /-- What is looked for. -/
  | what
  /-- The pile that is looked through. -/
  | source
  /-- The timing in front of a colon. -/
  | qualifier
  /-- The clause after the colon. -/
  | body
  deriving DecidableEq, Repr

/-- A description of a piece of text. -/
inductive Pattern where
  /-- The empty piece. -/
  | empty
  /-- Exactly this text. -/
  | word (text : String)
  /-- One character with the property. -/
  | one (property : Char → Bool)
  /-- At least `least` characters with the property, longest run first. -/
  | most (least : Nat) (property : Char → Bool)
  /-- At least `least` characters with the property, shortest run first. -/
  | fewest (least : Nat) (property : Char → Bool)
  /-- One piece after the other. -/
  | seq (first second : Pattern)
  /-- One piece or the other, in this order of preference. -/
  | alt (first second : Pattern)
  /-- A piece to be remembered under a name. -/
  | mark (slot : Slot) (piece : Pattern)
  /-- The empty piece at the edge of a word. -/
  | edge
  /-- The empty piece at the start of the text. -/
  | start
  /-- The empty piece at the end of the text. -/
  | finish

/-- A place in a text: the character in front of it, if there is one, and the
text from it on. -/
structure Place where
  before : Option Char
  rest : List Char

namespace Place

/-- The start of a text. -/
def atStart (cs : List Char) : Place := ⟨none, cs⟩

/-- Whether exactly one side of the place belongs to a word. -/
def isEdge (place : Place) : Bool :=
  place.before.any isWordChar != place.rest.head?.any isWordChar

/-- The place after `piece`, if the text goes on with it there. -/
def after? (place : Place) (piece : List Char) : Option Place :=
  (Text.after? piece place.rest).map fun rest => ⟨piece.getLast?.or place.before, rest⟩

/-- The text between two places of one text, the first not after the second. -/
def textTo (first last : Place) : List Char :=
  first.rest.take (first.rest.length - last.rest.length)

end Place

/-- The places that are reached over characters with the property, nearest
first. -/
def reach (property : Char → Bool) (before : Option Char) : List Char → List Place
  | [] => [⟨before, []⟩]
  | c :: cs =>
    ⟨before, c :: cs⟩ :: if property c then reach property (some c) cs else []

/-- A marked piece of a text: what it stands for and its two ends. -/
abbrev Mark := Slot × Place × Place

/-- One way in which a pattern matches: the pieces that it marked, and the place
where it ends. -/
structure Way where
  marks : List Mark
  last : Place

/-- The marked piece of the slot, if the way has one. -/
def Way.piece? (way : Way) (slot : Slot) : Option (List Char) :=
  (way.marks.find? (·.1 == slot)).map fun (_, first, last) => first.textTo last

namespace Pattern

/-- The places after a run of at least `least` characters with the property,
shortest run first. -/
def runs (least : Nat) (property : Char → Bool) (place : Place) : List Way :=
  ((reach property place.before place.rest).drop least).map fun last => ⟨[], last⟩

/-- All ways in which the pattern matches from a place on, in order of
preference. -/
def run : Pattern → Place → List Way
  | .empty, place => [⟨[], place⟩]
  | .word text, place =>
    match place.after? text.toList with
    | some last => [⟨[], last⟩]
    | none => []
  | .one property, place =>
    match place.rest with
    | c :: cs => if property c then [⟨[], some c, cs⟩] else []
    | [] => []
  | .most least property, place => (runs least property place).reverse
  | .fewest least property, place => runs least property place
  | .seq first second, place =>
    (first.run place).flatMap fun m =>
      (second.run m.last).map fun n => ⟨m.marks ++ n.marks, n.last⟩
  | .alt first second, place => first.run place ++ second.run place
  | .mark slot piece, place =>
    (piece.run place).map fun m => ⟨(slot, place, m.last) :: m.marks, m.last⟩
  | .edge, place => if place.isEdge then [⟨[], place⟩] else []
  | .start, place => if place.before.isNone then [⟨[], place⟩] else []
  | .finish, place => if place.rest.isEmpty then [⟨[], place⟩] else []

/-- The pieces one after the other. -/
def all : List Pattern → Pattern
  | [] => .empty
  | [p] => p
  | p :: ps => .seq p (all ps)

/-- One of the words, in this order of preference. -/
def anyWord (first : String) (others : List String) : Pattern :=
  match others with
  | [] => .word first
  | next :: more => .alt (.word first) (anyWord next more)

/-- The piece, or nothing where it does not fit. -/
def opt (p : Pattern) : Pattern := .alt p .empty

/-- A run of anything on one line, as long as possible. -/
def line (least : Nat) : Pattern := .most least (· != '\n')

/-- A run of blanks, as long as possible. -/
def blanks (least : Nat) : Pattern := .most least isBlank

/-- A run of digits, as long as possible. -/
def digits : Pattern := .most 1 isDigit

end Pattern

end CardDuel.Text
