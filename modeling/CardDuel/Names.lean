/-!
# Names of cards, users and matches

A physical card of a match has a number of its own, so two copies of one
printed card are two different cards.  Printed cards, lobbies, games and user
accounts have names of their own kinds, which cannot be confused.
-/

namespace CardDuel

/-- One physical card of a match. -/
structure CardRef where
  number : Nat
  deriving DecidableEq, Repr

/-- The name of the card in messages. -/
def CardRef.title (card : CardRef) : String :=
  let number := card.number
  s!"Card({number})"

instance : LT CardRef := ⟨fun a b => a.number < b.number⟩

instance : DecidableLT CardRef := fun a b => inferInstanceAs (Decidable (a.number < b.number))

theorem CardRef.lt_iff {a b : CardRef} : a < b ↔ a.number < b.number := Iff.rfl

theorem CardRef.lt_irrefl (card : CardRef) : ¬ card < card := Nat.lt_irrefl card.number

theorem CardRef.lt_asymm {a b : CardRef} (h : a < b) : ¬ b < a := Nat.lt_asymm h

theorem CardRef.lt_trans {a b c : CardRef} (h : a < b) (h' : b < c) : a < c := Nat.lt_trans h h'

theorem CardRef.ext_number {a b : CardRef} (h : a.number = b.number) : a = b :=
  congrArg CardRef.mk h

theorem CardRef.lt_of_not_lt {a b : CardRef} (h : ¬ b < a) (other : a ≠ b) : a < b :=
  Nat.lt_of_le_of_ne (Nat.le_of_not_lt h) fun same => other (CardRef.ext_number same)

theorem nodup_of_ascending {cards : List CardRef} (h : cards.Pairwise (· < ·)) :
    cards.Nodup := by
  refine h.imp ?_
  rintro a b hlt rfl
  exact a.lt_irrefl hlt

/-- A printed card, of which a match may hold many copies. -/
structure CardId where
  number : Nat
  deriving DecidableEq, Repr

/-- The name of the printed card in messages. -/
def CardId.title (id : CardId) : String :=
  let number := id.number
  s!"Def({number})"

/-- The place where two users meet for a match. -/
structure Lobby where
  name : String
  deriving DecidableEq, Repr

/-- One play-through, stamped on every event of its match. -/
structure GameName where
  name : String
  deriving DecidableEq, Repr

/-- The account of a user. -/
structure User where
  name : String
  deriving DecidableEq, Repr

/-- The name of the account in messages. -/
def User.title (user : User) : String :=
  let name := user.name
  s!"User({name})"

/-- Whoever makes a call: a user who has logged in, or nobody known. -/
inductive Caller where
  | user (user : User)
  | anonymous
  deriving DecidableEq, Repr

end CardDuel
