/-!
# Bytes in hexadecimal

Each byte is written as two digits to the base 16, the higher one first.
Letters are written small and read in either case.  `ofHex?_toHex` says that
what is written is read back.
-/

namespace CardDuel.Bytes

/-- The digits to the base 16. -/
def hexDigits : List Char := "0123456789abcdef".toList

/-- The digit with a value below 16. -/
def hexDigit (value : Nat) : Char := hexDigits.getD value '0'

/-- The value of a digit. -/
def hexValue? (c : Char) : Option Nat := hexDigits.idxOf? c.toLower

/-- The bytes in hexadecimal. -/
def toHex : List UInt8 → List Char
  | [] => []
  | b :: bs => hexDigit (b.toNat / 16) :: hexDigit (b.toNat % 16) :: toHex bs

/-- The bytes that a text in hexadecimal stands for. -/
def ofHex? : List Char → Option (List UInt8)
  | [] => some []
  | [_] => none
  | high :: low :: rest => do
    let h ← hexValue? high
    let l ← hexValue? low
    return UInt8.ofNat (16 * h + l) :: (← ofHex? rest)

theorem hexValue?_hexDigit {value : Nat} (h : value < 16) :
    hexValue? (hexDigit value) = some value := by
  revert value
  decide

theorem ofHex?_toHex (bytes : List UInt8) : ofHex? (toHex bytes) = some bytes := by
  induction bytes with
  | nil => rfl
  | cons b bytes ih =>
    have below := b.toNat_lt
    have high : b.toNat / 16 < 16 := by omega
    have low : b.toNat % 16 < 16 := by omega
    have whole : 16 * (b.toNat / 16) + b.toNat % 16 = b.toNat := Nat.div_add_mod ..
    simp only [toHex, ofHex?, hexValue?_hexDigit high, hexValue?_hexDigit low, ih, whole,
      Option.bind_eq_bind, Option.bind_some, Option.pure_def, UInt8.ofNat_toNat]

end CardDuel.Bytes
