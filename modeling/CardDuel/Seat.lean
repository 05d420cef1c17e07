/-!
# Seats

A duel has two seats: the host, who opened the lobby and takes the first turn,
and the opponent.  `Seats` holds one value for each.
-/

namespace CardDuel

/-- One of the two sides of a duel. -/
inductive Seat where
  | host
  | opponent
  deriving DecidableEq, Repr

namespace Seat

/-- Both seats, the host first. -/
def all : List Seat := [host, opponent]

/-- The other side of the table. -/
def other : Seat → Seat
  | host => opponent
  | opponent => host

/-- The place of the seat among both. -/
def index : Seat → Nat
  | host => 0
  | opponent => 1

/-- The name of the seat in event details. -/
def label : Seat → String
  | host => "host"
  | opponent => "opponent"

/-- Different seats have different names. -/
theorem label_injective {seat seat' : Seat} (same : seat.label = seat'.label) : seat = seat' := by
  cases seat <;> cases seat' <;> first | rfl | exact absurd same (by decide)

/-- The name of the seat in sentences. -/
def title : Seat → String
  | host => "Host"
  | opponent => "Opponent"

@[simp] theorem other_other (seat : Seat) : seat.other.other = seat := by cases seat <;> rfl

@[simp] theorem other_ne (seat : Seat) : seat.other ≠ seat := by cases seat <;> decide

theorem other_eq_of_ne {seat seat' : Seat} (h : seat ≠ seat') : seat.other = seat' := by
  cases seat <;> cases seat' <;> first | rfl | exact absurd rfl h

end Seat

/-- One value for each seat. -/
structure Seats (α : Type) where
  host : α
  opponent : α
  deriving DecidableEq, Repr

namespace Seats

variable {α : Type}

/-- The same value for both seats. -/
def both (value : α) : Seats α := ⟨value, value⟩

/-- The value of a seat. -/
def get (values : Seats α) : Seat → α
  | .host => values.host
  | .opponent => values.opponent

/-- The values with the one of `seat` replaced. -/
def set (values : Seats α) (seat : Seat) (value : α) : Seats α :=
  match seat with
  | .host => { values with host := value }
  | .opponent => { values with opponent := value }

/-- The values with the one of `seat` changed by `f`. -/
def modify (values : Seats α) (seat : Seat) (f : α → α) : Seats α :=
  values.set seat (f (values.get seat))

/-- Both values with their seats, the host first. -/
def toList (values : Seats α) : List (Seat × α) :=
  [(.host, values.host), (.opponent, values.opponent)]

/-- The first seat whose value has the property. -/
def find? (values : Seats α) (property : α → Bool) : Option Seat :=
  Seat.all.find? fun seat => property (values.get seat)

@[simp] theorem get_both (value : α) (seat : Seat) : (both value).get seat = value := by
  cases seat <;> rfl

@[simp] theorem get_set_self (values : Seats α) (seat : Seat) (value : α) :
    (values.set seat value).get seat = value := by
  cases seat <;> rfl

theorem get_set_of_ne (values : Seats α) {seat seat' : Seat} (value : α) (h : seat' ≠ seat) :
    (values.set seat value).get seat' = values.get seat' := by
  cases seat <;> cases seat' <;> first | rfl | exact absurd rfl h

@[simp] theorem get_modify_self (values : Seats α) (seat : Seat) (f : α → α) :
    (values.modify seat f).get seat = f (values.get seat) :=
  get_set_self _ _ _

theorem get_modify_of_ne (values : Seats α) {seat seat' : Seat} (f : α → α)
    (h : seat' ≠ seat) : (values.modify seat f).get seat' = values.get seat' :=
  get_set_of_ne _ _ h

/-- A seat that `find?` answers has the property. -/
theorem find?_some {values : Seats α} {property : α → Bool} {seat : Seat}
    (h : values.find? property = some seat) : property (values.get seat) := by
  simpa using List.find?_some h

end Seats

end CardDuel
