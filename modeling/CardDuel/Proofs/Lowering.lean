import CardDuel.Proofs.Sentences
import CardDuel.Text.Lowercase

/-!
# Lower case, piece by piece

A text goes to lower case as a whole, since a capital sigma looks at its neighbours.  They look no
further than the next character that counts, so blanks and a colon with a space behind it cut a
text into pieces that go to lower case by themselves.  No colon and no blank comes about that was
not there, and none goes away.

* `lowerAfter_append`, `lowerAfter_forget`: what counts as a neighbour.
* `lower_colon`: a colon and a space separate what stands on both sides of them.
* `mem_lower`: colons and blanks are what they were.
* `trim_lower`: the blanks at the ends can be dropped before or after.
-/

namespace CardDuel.Text

variable {before near far xs ys cs gap : List Char} {c w : Char}

/-! ## Neighbours -/

theorem casedNext_append (quiet : casedNext ys = false) (xs : List Char) :
    casedNext (xs ++ ys) = casedNext xs := by
  unfold casedNext at *
  rw [List.dropWhile_append]
  cases left : xs.dropWhile caseIgnorableRanges.holds with
  | nil => exact quiet
  | cons c cs => rfl

theorem lowerAfter_append (quiet : casedNext ys = false) (before xs : List Char) :
    lowerAfter before (xs ++ ys) =
      lowerAfter before xs ++ lowerAfter (xs.reverse ++ before) ys := by
  induction xs generalizing before with
  | nil => rfl
  | cons x xs ih =>
    rw [List.cons_append, lowerAfter, lowerAfter, casedNext_append quiet, ih, List.append_assoc,
      List.reverse_cons, List.append_assoc]
    rfl

theorem lowerAfter_forget (quiet : casedNext far = false) (near cs : List Char) :
    lowerAfter (near ++ far) cs = lowerAfter near cs := by
  induction cs generalizing near with
  | nil => rfl
  | cons c cs ih => rw [lowerAfter, lowerAfter, casedNext_append quiet, ← List.cons_append, ih]

/-- Where no capital sigma stands, every character goes to lower case by itself. -/
theorem lowerAfter_eq_flatMap (plain : '\u03A3' ∉ cs) (before : List Char) :
    lowerAfter before cs = cs.flatMap lowerChar := by
  induction cs generalizing before with
  | nil => rfl
  | cons c cs ih =>
    obtain ⟨other, plain⟩ := not_or.1 (mt List.mem_cons.2 plain)
    rw [lowerAfter, if_neg (by simpa using Ne.symm other), ih plain, List.flatMap_cons]

theorem lower_eq_flatMap (plain : '\u03A3' ∉ cs) : lower cs = cs.flatMap lowerChar :=
  lowerAfter_eq_flatMap plain []

/-! ## Blanks -/

/-- The characters of the ranges. -/
def CharRanges.chars (ranges : CharRanges) : List Char :=
  ranges.flatMap fun (first, last) => (List.range' first (last + 1 - first)).map Char.ofNat

theorem CharRanges.mem_chars {ranges : CharRanges} (h : ranges.holds c) : c ∈ ranges.chars := by
  induction ranges with
  | nil => nomatch h
  | cons range ranges ih =>
    simp only [holds, Bool.and_eq_true, Bool.or_eq_true, decide_eq_true_eq] at h
    obtain ⟨above, below | further⟩ := h
    · refine List.mem_flatMap.2 ⟨range, List.mem_cons_self, ?_⟩
      refine List.mem_map.2 ⟨c.toNat, List.mem_range'_1.2 ⟨above, ?_⟩, Char.ofNat_toNat c⟩
      omega
    · obtain ⟨range', among, mem⟩ := List.mem_flatMap.1 (ih further)
      exact List.mem_flatMap.2 ⟨range', List.mem_cons_of_mem _ among, mem⟩

/-- What is checked for the characters of a list, one by one, holds of them.  A quantifier over
characters would be decided over all there are. -/
theorem forall_mem_of_all {p : Char → Prop} [DecidablePred p] {cs : List Char}
    (checked : cs.all fun c => decide (p c)) : ∀ c ∈ cs, p c :=
  fun c hc => of_decide_eq_true (List.all_eq_true.1 checked c hc)

/-- A blank is no letter and is not passed over when a letter looks for its neighbours. -/
theorem blank_spec (blank : isBlank c) :
    caseIgnorableRanges.holds c = false ∧ casedRanges.holds c = false ∧ c ≠ '\u03A3' ∧
      lowerChar c = [c] := by
  have all : ∀ c ∈ blankRanges.chars, caseIgnorableRanges.holds c = false ∧
      casedRanges.holds c = false ∧ c ≠ '\u03A3' ∧ lowerChar c = [c] :=
    forall_mem_of_all (by decide +kernel)
  exact all c (CharRanges.mem_chars blank)

theorem casedNext_blank (blank : isBlank c) (cs : List Char) : casedNext (c :: cs) = false := by
  obtain ⟨seen, uncased, -⟩ := blank_spec blank
  rw [casedNext, List.dropWhile_cons_of_neg (by simp [seen])]
  exact uncased

theorem lowerAfter_blank (blank : isBlank c) (before cs : List Char) :
    lowerAfter before (c :: cs) = c :: lower cs := by
  obtain ⟨-, -, other, same⟩ := blank_spec blank
  have apart := lowerAfter_forget (casedNext_blank blank before) [] cs
  rw [lowerAfter, if_neg (by simpa using other), same]
  exact congrArg (c :: ·) apart

theorem lower_blanks_append (blank : ∀ c ∈ gap, isBlank c) (cs : List Char) :
    lower (gap ++ cs) = gap ++ lower cs := by
  induction gap with
  | nil => rfl
  | cons c gap ih =>
    obtain ⟨first, blank⟩ := List.forall_mem_cons.1 blank
    rw [List.cons_append, lower, lowerAfter_blank first, ih blank, List.cons_append]

theorem lower_append_blanks (blank : ∀ c ∈ gap, isBlank c) (cs : List Char) :
    lower (cs ++ gap) = lower cs ++ gap := by
  cases gap with
  | nil => rw [List.append_nil, List.append_nil]
  | cons c gap =>
    obtain ⟨first, blank⟩ := List.forall_mem_cons.1 blank
    have same := lower_blanks_append blank []
    rw [List.append_nil] at same
    rw [lower, lowerAfter_append (casedNext_blank first gap), lowerAfter_blank first, same]
    exact congrArg (_ ++ c :: ·) (List.append_nil gap)

/-- A colon and a space separate what stands on both sides of them. -/
theorem lower_colon (xs ys : List Char) :
    lower (xs ++ ':' :: ' ' :: ys) = lower xs ++ ':' :: ' ' :: lower ys := by
  have space : isBlank ' ' := by decide
  have colon : caseIgnorableRanges.holds ':' := by decide +kernel
  have quiet : casedNext (':' :: ' ' :: ys) = false := by
    rw [casedNext, List.dropWhile_cons_of_pos colon]
    exact casedNext_blank space ys
  have same : lowerChar ':' = [':'] := by decide +kernel
  rw [lower, lowerAfter_append quiet, lowerAfter, if_neg (by decide), same, lowerAfter_blank space]
  rfl

/-! ## What stays -/

theorem toNat_ofNat_of_ne_zero {n : Nat} (pos : (Char.ofNat n).toNat ≠ 0) :
    (Char.ofNat n).toNat = n := by
  by_cases valid : n.isValidChar
  · rw [Char.ofNat, dif_pos valid]
    rfl
  · rw [Char.ofNat, dif_neg valid] at pos
    exact absurd rfl pos

/-- Colons and blanks stay in lower case, and nothing else becomes one. -/
theorem mem_lowerChar (plain : w ∈ ':' :: blankRanges.chars) : w ∈ lowerChar c ↔ w = c := by
  have kept : ∀ w ∈ ':' :: blankRanges.chars, lowerChar w = [w] ∧ w.toNat ≠ 0 ∧
      w ∉ ['i', '\u0307'] ∧ ∀ run ∈ caseRuns, run.holds (w.toNat - run.shift).toNat = false :=
    forall_mem_of_all (by decide +kernel)
  obtain ⟨same, pos, undotted, apart⟩ := kept w plain
  constructor
  · intro mem
    unfold lowerChar at mem
    split at mem
    · exact absurd mem undotted
    · split at mem
      · next run found =>
        have held := List.find?_some found
        have off := apart run (List.mem_of_find?_eq_some found)
        obtain rfl := List.mem_singleton.1 mem
        have moved := toNat_ofNat_of_ne_zero pos
        have back : ((c.toNat + run.shift).toNat - run.shift).toNat = c.toNat := by omega
        rw [moved, back, held] at off
        cases off
      · exact List.mem_singleton.1 mem
  · rintro rfl
    rw [same]
    exact List.mem_singleton_self w

/-- What a character of a text becomes in lower case. -/
def lowerAt (before : List Char) (c : Char) (cs : List Char) : List Char :=
  if c == '\u03A3' then
    if casedNext before && !casedNext cs then ['\u03C2'] else ['\u03C3']
  else lowerChar c

theorem lowerAfter_cons (before : List Char) (c : Char) (cs : List Char) :
    lowerAfter before (c :: cs) = lowerAt before c cs ++ lowerAfter (c :: before) cs := rfl

theorem mem_lowerAt (plain : w ∈ ':' :: blankRanges.chars) : w ∈ lowerAt before c cs ↔ w = c := by
  have other : ∀ w ∈ ':' :: blankRanges.chars, w ≠ '\u03C2' ∧ w ≠ '\u03C3' ∧ w ≠ '\u03A3' :=
    forall_mem_of_all (by decide +kernel)
  obtain ⟨final, inner, capital⟩ := other w plain
  unfold lowerAt
  split
  · next sigma =>
    have apart : w ≠ c := by
      rintro rfl
      exact capital (beq_iff_eq.1 sigma)
    split <;> simp [*]
  · exact mem_lowerChar plain

theorem mem_lowerAfter (plain : w ∈ ':' :: blankRanges.chars) (before : List Char) :
    w ∈ lowerAfter before cs ↔ w ∈ cs := by
  induction cs generalizing before with
  | nil => rfl
  | cons c cs ih => rw [lowerAfter_cons, List.mem_append, mem_lowerAt plain, ih, List.mem_cons]

/-- A colon or a blank is in a text exactly if it is there in lower case. -/
theorem mem_lower (plain : w = ':' ∨ isBlank w) : w ∈ lower cs ↔ w ∈ cs :=
  mem_lowerAfter (List.mem_cons.2 (plain.imp_right CharRanges.mem_chars)) []

theorem lowerAt_ne_nil : lowerAt before c cs ≠ [] := by
  unfold lowerAt lowerChar
  split
  · split <;> simp
  · split
    · simp
    · split <;> simp

/-- What is no blank does not become one. -/
theorem solid_lowerAt (firm : isBlank c = false) : Solid (lowerAt before c cs) := by
  refine solid_of_firm lowerAt_ne_nil fun w mem => Bool.eq_false_iff.2 fun blank => ?_
  have same := (mem_lowerAt (List.mem_cons_of_mem ':' (CharRanges.mem_chars blank))).1 mem
  rw [← same, blank] at firm
  cases firm

theorem lowerAfter_ne_nil (some : cs ≠ []) : lowerAfter before cs ≠ [] := by
  cases cs with
  | nil => exact absurd rfl some
  | cons c cs => simp [lowerAfter_cons, lowerAt_ne_nil]

theorem any_getLast?_lowerAfter (last : cs.getLast?.any isBlank = false) (before : List Char) :
    (lowerAfter before cs).getLast?.any isBlank = false := by
  induction cs generalizing before with
  | nil => rfl
  | cons c cs ih =>
    rw [lowerAfter_cons]
    cases cs with
    | nil =>
      rw [lowerAfter, List.append_nil]
      exact (solid_lowerAt last).last
    | cons d ds =>
      rw [List.getLast?_append_of_ne_nil _ (lowerAfter_ne_nil (List.cons_ne_nil d ds))]
      exact ih (by rwa [List.getLast?_cons_cons] at last) _

theorem Solid.lower (h : Solid cs) : Solid (lower cs) where
  ne_nil := lowerAfter_ne_nil h.ne_nil
  head := by
    cases cs with
    | nil => exact absurd rfl h.ne_nil
    | cons c cs =>
      rw [Text.lower, lowerAfter_cons, List.head?_append_of_ne_nil _ lowerAt_ne_nil]
      exact (solid_lowerAt h.head).head
  last := any_getLast?_lowerAfter h.last []

/-- The blanks at the ends are dropped before or after a text goes to lower case. -/
theorem trim_lower (cs : List Char) : trim (lower cs) = lower (trim cs) := by
  obtain ⟨front, back, hfront, hback, split⟩ := exists_append_trim cs
  have apart : lower cs = front ++ (lower (trim cs) ++ back) := by
    conv => lhs; rw [split]
    rw [lower_blanks_append hfront, lower_append_blanks hback]
  rw [apart, trim_append_left hfront, trim_append_right hback]
  by_cases none : trim cs = []
  · rw [none]
    rfl
  · exact (solid_trim none).lower.trim_eq

end CardDuel.Text
