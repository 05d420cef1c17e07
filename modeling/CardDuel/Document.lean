/-!
# Documents

The details of an event, and the rules that a host hands in, are documents:
trees of texts, numbers, truth values and named fields.
-/

namespace CardDuel

/-- A tree of plain values. -/
inductive Document where
  | null
  | truth (value : Bool)
  /-- A whole number. -/
  | whole (value : Int)
  /-- The number `digits / 10 ^ places` that is not written as a whole one. -/
  | decimal (digits : Int) (places : Nat)
  | text (value : String)
  | list (items : List Document)
  | record (fields : List (String × Document))
  deriving Repr, BEq

instance : Inhabited Document := ⟨.null⟩

namespace Document

/-- The document as a whole number. -/
def whole? : Document → Option Int
  | whole value => some value
  | _ => none

/-- The document as a truth value. -/
def truth? : Document → Option Bool
  | truth value => some value
  | _ => none

/-- The document as a text. -/
def text? : Document → Option String
  | text value => some value
  | _ => none

/-- The document as a list. -/
def list? : Document → Option (List Document)
  | list items => some items
  | _ => none

/-- Natural numbers as documents. -/
def nat (n : Nat) : Document := whole n

end Document

/-- Named details of an event, each name at most once. -/
abbrev Details := List (String × Document)

namespace Details

/-- The detail of a name. -/
def get? (details : Details) (name : String) : Option Document :=
  (details.find? (·.1 == name)).map (·.2)

/-- A detail that is the name of something tells what it is, if different things have different
names. -/
theorem tells_iff {α : Type} {label : α → String} (injective : ∀ {a b}, label a = label b → a = b)
    {details : Details} {name : String} {a : α} (told : details.get? name = some (.text (label a)))
    (b : α) : details.get? name = some (.text (label b)) ↔ b = a := by
  rw [told, Option.some.injEq, Document.text.injEq]
  exact ⟨fun same => (injective same).symm, fun same => same ▸ rfl⟩

/-- The details with one more; a later detail replaces an earlier one of its
name. -/
def add (details : Details) (name : String) (value : Document) : Details :=
  if details.any (·.1 == name) then
    details.map fun detail => if detail.1 == name then (name, value) else detail
  else details ++ [(name, value)]

end Details

end CardDuel
