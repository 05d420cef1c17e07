import CardDuel.Catalog
import CardDuel.Log
import CardDuel.Outcome
import CardDuel.Table

/-!
# Scenes

A scene is a table with the log of what happened on it.  Effects turn one scene
into the next, and report each change that they make in the log, so the two
never part.  What a card is called and what it can do is looked up in the setup
that the duel is played with.

Lists have room for very many cards, but not for any number.  An effect that asks for
more room breaks off whatever is being done.  Such a scene is marked as overrun, and is
of no use to anybody.
-/

namespace CardDuel

/-- What a duel is played with. -/
structure Setup where
  catalog : Catalog
  rules : Rules

namespace Setup

/-- What is printed on a card of the table. -/
def card? (setup : Setup) (t : Table) (card : CardRef) : Option Card :=
  (t.definition? card).bind setup.catalog.card?

/-- The name of a card of the table. -/
def nameOf (setup : Setup) (t : Table) (card : CardRef) : String :=
  match setup.card? t card with
  | some printed => printed.name
  | none => Catalog.unknownName

/-- The ability of a card of the table. -/
def abilityOf (setup : Setup) (t : Table) (card : CardRef) : Ability :=
  match t.definition? card with
  | some definition => setup.catalog.ability definition
  | none => .none

end Setup

/-- How many cards a list has room for: 4 bytes each, and less than 2 ^ 63 bytes in all. -/
def listRoom : Nat := 0x1FFFFFFFFFFFFFFF

/-- A table and the log of what happened on it. -/
structure Scene where
  table : Table
  log : Log
  /-- More room was asked for than there is. -/
  overrun : Bool := false

namespace Scene

/-- The scene with news in its log, stamped with the turn. -/
def record (s : Scene) (news : News) : Scene :=
  { s with log := s.log.record s.table.turn news }

/-- The scene with a change of the table that is not reported. -/
def change (s : Scene) (f : Table → Table) : Scene := { s with table := f s.table }

/-- Asks for room for a list of cards. -/
def reserve (s : Scene) (count : Nat) : Scene :=
  { s with overrun := s.overrun || decide (listRoom < count) }

/-- The side of a seat. -/
def side (s : Scene) (seat : Seat) : Side := s.table.side seat

/-- Does something for each item in turn, and gathers what it answers. -/
def each {α β : Type} (act : α → Scene → β × Scene) : List α → Scene → List β × Scene
  | [], s => ([], s)
  | x :: xs, s =>
    let (y, s) := act x s
    let (ys, s) := each act xs s
    (y :: ys, s)

@[simp] theorem table_record (s : Scene) (news : News) : (s.record news).table = s.table := rfl

@[simp] theorem log_change (s : Scene) (f : Table → Table) : (s.change f).log = s.log := rfl

@[simp] theorem overrun_record (s : Scene) (news : News) :
    (s.record news).overrun = s.overrun := rfl

@[simp] theorem overrun_change (s : Scene) (f : Table → Table) :
    (s.change f).overrun = s.overrun := rfl

@[simp] theorem table_reserve (s : Scene) (count : Nat) : (s.reserve count).table = s.table := rfl

@[simp] theorem log_reserve (s : Scene) (count : Nat) : (s.reserve count).log = s.log := rfl

@[simp] theorem side_reserve (s : Scene) (count : Nat) (seat : Seat) :
    (s.reserve count).side seat = s.side seat := rfl

@[simp] theorem overrun_reserve (s : Scene) (count : Nat) :
    (s.reserve count).overrun = (s.overrun || decide (listRoom < count)) := rfl

@[simp] theorem each_nil {α β : Type} (act : α → Scene → β × Scene) (s : Scene) :
    each act [] s = ([], s) := rfl

theorem each_cons {α β : Type} (act : α → Scene → β × Scene) (x : α) (xs : List α)
    (s : Scene) :
    each act (x :: xs) s =
      ((act x s).1 :: (each act xs (act x s).2).1, (each act xs (act x s).2).2) := rfl

/-- Every item has its answer. -/
@[simp] theorem length_each {α β : Type} (act : α → Scene → β × Scene) (xs : List α)
    (s : Scene) : (each act xs s).1.length = xs.length := by
  induction xs generalizing s with
  | nil => rfl
  | cons x xs ih => simp [each_cons, ih]

/-- What holds before and is kept by every step holds in the end. -/
theorem each_keeps {α β : Type} {act : α → Scene → β × Scene} {Keeps : Scene → Prop}
    (step : ∀ x s, Keeps s → Keeps (act x s).2) (xs : List α) {s : Scene} (h : Keeps s) :
    Keeps (each act xs s).2 := by
  induction xs generalizing s with
  | nil => exact h
  | cons x xs ih => exact ih (step x s h)

end Scene

/-- The details that name a card. -/
def Setup.cardDetails (setup : Setup) (t : Table) (card : CardRef) : Details :=
  [("cardId", .nat card.number), ("cardName", .text (setup.nameOf t card))]

end CardDuel
