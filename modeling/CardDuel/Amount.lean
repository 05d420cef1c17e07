/-!
# Amounts

Life points and ATK are kept in 8 bytes, and so is every change of them.  A sum that has no room
there comes back in at the other end of the range, as sums of machine words do.
-/

namespace CardDuel

/-- A whole number that has room in 8 bytes. -/
def IsAmount (i : Int) : Prop := -0x8000000000000000 ≤ i ∧ i < 0x8000000000000000

instance : DecidablePred IsAmount := fun i =>
  inferInstanceAs (Decidable (-0x8000000000000000 ≤ i ∧ i < 0x8000000000000000))

/-- What 8 bytes hold of a whole number. -/
def wrap (i : Int) : Int := i.bmod 0x10000000000000000

theorem isAmount_wrap (i : Int) : IsAmount (wrap i) := by
  have least := Int.le_bmod (x := i) (m := 0x10000000000000000) (by decide)
  have most := Int.bmod_lt (x := i) (m := 0x10000000000000000) (by decide)
  unfold wrap IsAmount
  omega

/-- The numbers that have room are held as they are. -/
theorem wrap_eq_self_iff {i : Int} : wrap i = i ↔ IsAmount i := by
  refine ⟨fun same => same ▸ isAmount_wrap i, fun ⟨least, most⟩ => ?_⟩
  exact Int.bmod_eq_of_le (by omega) (by omega)

theorem wrap_of_isAmount {i : Int} (room : IsAmount i) : wrap i = i := wrap_eq_self_iff.2 room

@[simp] theorem wrap_wrap (i : Int) : wrap (wrap i) = wrap i := wrap_of_isAmount (isAmount_wrap i)

@[simp] theorem wrap_wrap_add (i j : Int) : wrap (wrap i + j) = wrap (i + j) :=
  Int.bmod_add_bmod

@[simp] theorem wrap_add_wrap (i j : Int) : wrap (i + wrap j) = wrap (i + j) :=
  Int.add_bmod_bmod

/-- An amount that is cut off at zero is an amount. -/
theorem isAmount_max_wrap (i : Int) : IsAmount (max (wrap i) 0) := by
  have room := isAmount_wrap i
  unfold IsAmount at *
  omega

end CardDuel
