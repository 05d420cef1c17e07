/-!
# Codecs

A codec writes the values of a type as bytes and reads them back.  What it writes
says itself where it ends, so codecs can be put one after the other: `pair` writes
two values in a row, `list` a count and then the items, and `convert` changes the
type of the values.

Two laws come with every codec.  `read_write` says that a value that fits the format
is read back in front of any other bytes.  `read_append` says that reading looks at
no more bytes than it takes.
-/

namespace CardDuel

/-- A way to write values as bytes and to read them back. -/
structure Codec (α : Type) where
  /-- Whether the format has room for the value. -/
  Fits : α → Prop
  write : α → List UInt8
  /-- Reads a value at the beginning of some bytes, and answers the other bytes. -/
  read : List UInt8 → Option (α × List UInt8)
  read_write : ∀ (a : α) (rest : List UInt8), Fits a → read (write a ++ rest) = some (a, rest)
  read_append : ∀ (bytes rest more : List UInt8) (a : α), read bytes = some (a, rest) →
    read (bytes ++ more) = some (a, rest ++ more)

namespace Codec

variable {α β : Type}

/-! ## Numbers -/

/-- How many numbers can be told apart in `width` bytes. -/
def capacity : (width : Nat) → Nat
  | 0 => 1
  | width + 1 => 256 * capacity width

theorem capacity_pos (width : Nat) : 0 < capacity width := by
  induction width with
  | zero => decide
  | succ width ih => exact Nat.mul_pos (by decide) ih

/-- The last `width` digits of a number to the base 256, the lowest first. -/
def digits : (width : Nat) → Nat → List UInt8
  | 0, _ => []
  | width + 1, n => UInt8.ofNat n :: digits width (n / 256)

/-- Reads `width` digits. -/
def readDigits : (width : Nat) → List UInt8 → Option (Nat × List UInt8)
  | 0, bytes => some (0, bytes)
  | _ + 1, [] => none
  | width + 1, b :: bytes =>
    (readDigits width bytes).map fun (n, rest) => (b.toNat + 256 * n, rest)

theorem readDigits_digits (width n : Nat) (rest : List UInt8) (h : n < capacity width) :
    readDigits width (digits width n ++ rest) = some (n, rest) := by
  induction width generalizing n with
  | zero => simp_all [digits, readDigits, capacity]
  | succ width ih =>
    have small : n / 256 < capacity width := Nat.div_lt_of_lt_mul h
    simp only [digits, List.cons_append, readDigits, ih _ small, Option.map_some,
      UInt8.toNat_ofNat', Option.some.injEq, Prod.mk.injEq, and_true]
    exact Nat.mod_add_div n 256

theorem readDigits_append (width : Nat) (bytes rest more : List UInt8) (n : Nat)
    (h : readDigits width bytes = some (n, rest)) :
    readDigits width (bytes ++ more) = some (n, rest ++ more) := by
  induction width generalizing bytes n with
  | zero => simp_all [readDigits]
  | succ width ih =>
    cases bytes with
    | nil => simp [readDigits] at h
    | cons b bytes =>
      obtain ⟨⟨m, left⟩, hm, heq⟩ := Option.map_eq_some_iff.1 h
      simp only [Prod.mk.injEq] at heq
      obtain ⟨rfl, rfl⟩ := heq
      simp [readDigits, ih _ _ hm]

/-- Natural numbers in `width` bytes, the lowest first. -/
def nat (width : Nat) : Codec Nat where
  Fits n := n < capacity width
  write := digits width
  read := readDigits width
  read_write n rest := readDigits_digits width n rest
  read_append := readDigits_append width

/-! ## Other types of values -/

/-- Values of one type written as those of another.  What reads as no value of the
type is refused. -/
def convert (c : Codec α) (out : β → α) (into : α → Option β) (Room : β → Prop)
    (room : ∀ b, Room b → c.Fits (out b) ∧ into (out b) = some b) : Codec β where
  Fits := Room
  write b := c.write (out b)
  read bytes := (c.read bytes).bind fun (a, rest) => (into a).map (·, rest)
  read_write b rest fits := by
    simp [c.read_write _ rest (room b fits).1, (room b fits).2]
  read_append bytes rest more b h := by
    obtain ⟨⟨a, left⟩, ha, h⟩ := Option.bind_eq_some_iff.1 h
    obtain ⟨b', hb, heq⟩ := Option.map_eq_some_iff.1 h
    simp only [Prod.mk.injEq] at heq
    obtain ⟨rfl, rfl⟩ := heq
    simp [c.read_append _ _ more _ ha, hb]

/-- Values of one type written as those of another that says the same. -/
def iso (c : Codec α) (out : β → α) (into : α → β) (inverse : ∀ b, into (out b) = b) :
    Codec β :=
  c.convert out (fun a => some (into a)) (fun b => c.Fits (out b))
    fun b fits => ⟨fits, by rw [inverse]⟩

/-- Whole numbers in `width + 1` bytes, of which the upper half stands for the
negative ones. -/
def int (width : Nat) : Codec Int :=
  (nat (width + 1)).convert (fun i => (i % capacity (width + 1)).toNat)
    (fun n => some (Int.bmod n (capacity (width + 1))))
    (fun i => Int.bmod i (capacity (width + 1)) = i)
    fun i fits => by
      have positive : (0 : Int) < capacity (width + 1) := by
        exact_mod_cast capacity_pos (width + 1)
      have least := Int.emod_nonneg i (Int.ne_of_gt positive)
      have below := Int.emod_lt_of_pos i positive
      refine ⟨?_, ?_⟩
      · show (i % capacity (width + 1)).toNat < capacity (width + 1)
        omega
      · rw [Int.toNat_of_nonneg least, Int.emod_bmod, fits]

/-- The values of a finite list, each written as its place in the list. -/
def choice [DecidableEq α] (width : Nat) (all : List α) (complete : ∀ a, a ∈ all)
    (few : all.length ≤ capacity width) : Codec α :=
  (nat width).convert all.idxOf (all[·]?) (fun _ => True)
    fun a _ => by
      have h := List.idxOf_lt_length_of_mem (complete a)
      exact ⟨Nat.lt_of_lt_of_le h few, by simp [List.getElem?_eq_getElem h]⟩

/-- Truth values in one byte. -/
def bool : Codec Bool := choice 1 [false, true] (by decide) (by decide)

/-! ## Several values -/

/-- Two values, one after the other. -/
def pair (c : Codec α) (d : Codec β) : Codec (α × β) where
  Fits v := c.Fits v.1 ∧ d.Fits v.2
  write v := c.write v.1 ++ d.write v.2
  read bytes :=
    (c.read bytes).bind fun (a, rest) => (d.read rest).map fun (b, rest) => ((a, b), rest)
  read_write v rest fits := by
    simp [List.append_assoc, c.read_write _ _ fits.1, d.read_write _ _ fits.2]
  read_append bytes rest more v h := by
    obtain ⟨⟨a, left⟩, ha, h⟩ := Option.bind_eq_some_iff.1 h
    obtain ⟨⟨b, left'⟩, hb, heq⟩ := Option.map_eq_some_iff.1 h
    simp only [Prod.mk.injEq] at heq
    obtain ⟨rfl, rfl⟩ := heq
    simp [c.read_append _ _ more _ ha, d.read_append _ _ more _ hb]

/-- No value, in no bytes. -/
def unit : Codec Unit where
  Fits _ := True
  write _ := []
  read bytes := some ((), bytes)
  read_write _ _ _ := rfl
  read_append := by simp

/-- Reads a value of the type that a tag stands for. -/
def readEither (c : Codec α) (d : Codec β) (tag : Nat) (bytes : List UInt8) :
    Option ((α ⊕ β) × List UInt8) :=
  match tag with
  | 0 => (c.read bytes).map fun (a, rest) => (.inl a, rest)
  | 1 => (d.read bytes).map fun (b, rest) => (.inr b, rest)
  | _ => none

/-- A value of either of two types, behind a tag of `width + 1` bytes that says of
which. -/
def either (width : Nat) (c : Codec α) (d : Codec β) : Codec (α ⊕ β) where
  Fits
    | .inl a => c.Fits a
    | .inr b => d.Fits b
  write
    | .inl a => digits (width + 1) 0 ++ c.write a
    | .inr b => digits (width + 1) 1 ++ d.write b
  read bytes :=
    (readDigits (width + 1) bytes).bind fun (tag, rest) => readEither c d tag rest
  read_write v rest fits := by
    have room : 1 < capacity (width + 1) := by
      have := capacity_pos width
      simp only [capacity]
      omega
    cases v with
    | inl a =>
      have tag := readDigits_digits (width + 1) 0 (c.write a ++ rest) (by omega)
      simp [List.append_assoc, tag, readEither, c.read_write a rest fits]
    | inr b =>
      have tag := readDigits_digits (width + 1) 1 (d.write b ++ rest) room
      simp [List.append_assoc, tag, readEither, d.read_write b rest fits]
  read_append bytes rest more v h := by
    obtain ⟨⟨tag, left⟩, ht, h⟩ := Option.bind_eq_some_iff.1 h
    simp only [readDigits_append _ _ _ more _ ht, Option.bind_some]
    revert h
    simp only [readEither]
    split
    · intro h
      obtain ⟨⟨a, left⟩, ha, heq⟩ := Option.map_eq_some_iff.1 h
      simp only [Prod.mk.injEq] at heq
      obtain ⟨rfl, rfl⟩ := heq
      simp [c.read_append _ _ more _ ha]
    · intro h
      obtain ⟨⟨b, left⟩, hb, heq⟩ := Option.map_eq_some_iff.1 h
      simp only [Prod.mk.injEq] at heq
      obtain ⟨rfl, rfl⟩ := heq
      simp [d.read_append _ _ more _ hb]
    · exact fun h => absurd h (by simp)

/-- Reads `count` values. -/
def readMany (c : Codec α) : (count : Nat) → List UInt8 → Option (List α × List UInt8)
  | 0, bytes => some ([], bytes)
  | count + 1, bytes =>
    (c.read bytes).bind fun (a, rest) =>
      (readMany c count rest).map fun (as, rest) => (a :: as, rest)

theorem readMany_write (c : Codec α) (as : List α) (rest : List UInt8)
    (fits : ∀ a ∈ as, c.Fits a) :
    c.readMany as.length (as.flatMap c.write ++ rest) = some (as, rest) := by
  induction as with
  | nil => rfl
  | cons a as ih =>
    simp [readMany, List.append_assoc, c.read_write a _ (fits a (by simp)),
      ih fun b hb => fits b (by simp [hb])]

theorem readMany_append (c : Codec α) (count : Nat) (bytes rest more : List UInt8)
    (as : List α) (h : c.readMany count bytes = some (as, rest)) :
    c.readMany count (bytes ++ more) = some (as, rest ++ more) := by
  induction count generalizing bytes as with
  | zero => simp_all [readMany]
  | succ count ih =>
    obtain ⟨⟨a, left⟩, ha, h⟩ := Option.bind_eq_some_iff.1 h
    obtain ⟨⟨as', left'⟩, has, heq⟩ := Option.map_eq_some_iff.1 h
    simp only [Prod.mk.injEq] at heq
    obtain ⟨rfl, rfl⟩ := heq
    simp [readMany, c.read_append _ _ more _ ha, ih _ _ has]

/-- The number of values in `width` bytes, and then the values. -/
def list (width : Nat) (c : Codec α) : Codec (List α) where
  Fits as := as.length < capacity width ∧ ∀ a ∈ as, c.Fits a
  write as := (nat width).write as.length ++ as.flatMap c.write
  read bytes := ((nat width).read bytes).bind fun (count, rest) => c.readMany count rest
  read_write as rest fits := by
    simp [List.append_assoc, (nat width).read_write _ _ fits.1,
      c.readMany_write as rest fits.2]
  read_append bytes rest more as h := by
    obtain ⟨⟨count, left⟩, hc, h⟩ := Option.bind_eq_some_iff.1 h
    simp [(nat width).read_append _ _ more _ hc, c.readMany_append _ _ _ more _ h]

end Codec

end CardDuel
