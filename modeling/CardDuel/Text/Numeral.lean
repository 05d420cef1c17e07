/-!
# Numerals

Numbers written with ASCII digits.  `numeral?` reads a natural number and
`signedNumeral?` a whole one, with a sign in front if there is one.  Leading
zeros are no harm; anything but digits, and no digits at all, is no number.
-/

namespace CardDuel.Text

/-- The value of an ASCII digit. -/
def digitValue? (c : Char) : Option Nat :=
  if '0' ≤ c ∧ c ≤ '9' then some (c.toNat - '0'.toNat) else none

/-- The number that the digits go on to from `value`. -/
def numeralFrom? (value : Nat) : List Char → Option Nat
  | [] => some value
  | c :: cs => (digitValue? c).bind fun digit => numeralFrom? (value * 10 + digit) cs

/-- The natural number that a text writes in digits. -/
def numeral? (cs : List Char) : Option Nat := if cs.isEmpty then none else numeralFrom? 0 cs

/-- The whole number that a text writes in digits, with or without a sign. -/
def signedNumeral? : List Char → Option Int
  | '-' :: cs => (numeral? cs).map fun n => -(n : Int)
  | '+' :: cs => (numeral? cs).map Int.ofNat
  | cs => (numeral? cs).map Int.ofNat

end CardDuel.Text
