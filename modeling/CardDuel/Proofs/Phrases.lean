import CardDuel.Proofs.Qualifiers

/-!
# Phrases around a number

Many clauses say the same thing of any number, and differ in nothing but its digits.  Whether a
phrase is found in such a clause is settled by the words in front of the number and behind it: a
phrase that needs a word that stands on neither side is missed, and a phrase whose first word is
not met earlier is found where it should be.

* `Digits`, `digits_of_numeral?`, `numeral?_toString`: numbers and how they are written.
* `infix_around_iff`: a word without digits is not met across a number.
* `Pattern.needs`, `search_eq_none_of_needs`: a phrase is missed for want of a word.
* `Pattern.opening`, `search_of_front`: a phrase is found where one of its first words stands.
-/

namespace CardDuel.Text

variable {cs word lead number tail front rest : List Char} {place middle last : Place}
  {m n way : Way} {slot : Slot} {p : Pattern} {c : Char}

/-! ## Numbers in digits -/

/-- A number that is written in ASCII digits. -/
structure Digits (number : List Char) : Prop where
  ne_nil : number ≠ []
  all : ∀ c ∈ number, c.isDigit

/-- A word without digits has no character of a number. -/
theorem Digits.apart (digits : Digits number) (letters : word.all (!·.isDigit)) :
    ∀ c ∈ number, c ∉ word := fun c hc mem => by
  simpa [digits.all c hc] using List.all_eq_true.1 letters c mem

theorem digitValue?_digitChar {k : Nat} (small : k < 10) : digitValue? k.digitChar = some k := by
  have all : ∀ k < 10, digitValue? (Nat.digitChar k) = some k := by decide
  exact all k small

theorem isDigit_of_digitValue? {k : Nat} (value : digitValue? c = some k) : c.isDigit := by
  obtain ⟨⟨above, below⟩, -⟩ := Option.ite_none_right_eq_some.1 value
  exact Bool.and_eq_true_iff.2 ⟨decide_eq_true above, decide_eq_true below⟩

theorem isDigit_of_numeralFrom? {k l : Nat} (written : numeralFrom? k number = some l) :
    ∀ c ∈ number, c.isDigit := by
  induction number generalizing k with
  | nil => exact List.forall_mem_nil _
  | cons c number ih =>
    obtain ⟨digit, value, further⟩ := Option.bind_eq_some_iff.1 written
    exact List.forall_mem_cons.2 ⟨isDigit_of_digitValue? value, ih further⟩

/-- What is read as a number is written in digits. -/
theorem digits_of_numeral? {k : Nat} (written : numeral? number = some k) : Digits number := by
  obtain ⟨some, written⟩ := Option.ite_none_left_eq_some.1 written
  exact ⟨by simpa using some, isDigit_of_numeralFrom? written⟩

theorem numeralFrom?_append (k : Nat) (xs ys : List Char) :
    numeralFrom? k (xs ++ ys) = (numeralFrom? k xs).bind fun l => numeralFrom? l ys := by
  induction xs generalizing k with
  | nil => rfl
  | cons x xs ih =>
    rw [List.cons_append, numeralFrom?, numeralFrom?, Option.bind_assoc]
    simp only [ih]

theorem numeralFrom?_toDigits (k : Nat) : numeralFrom? 0 (Nat.toDigits 10 k) = some k := by
  induction k using Nat.strongRecOn with
  | ind k ih =>
    rw [Nat.toDigits_eq_if (by decide)]
    split
    · next small => simp [numeralFrom?, digitValue?_digitChar small]
    · next large =>
      have last := digitValue?_digitChar (Nat.mod_lt k (by decide : 0 < 10))
      rw [numeralFrom?_append, ih _ (by omega)]
      simp [numeralFrom?, last, Nat.div_add_mod']

/-- A number is read as it is printed. -/
theorem numeral?_toString (k : Nat) : numeral? (toString k).toList = some k := by
  rw [Nat.toString_eq_repr, Nat.repr_eq_ofList_toDigits, String.toList_ofList, numeral?,
    if_neg (by simp), numeralFrom?_toDigits]

/-! ## Around a number -/

theorem infix_of_infix_append (apart : ∀ c ∈ number, c ∉ word) (within : word <:+: number ++ tail) :
    word <:+: tail := by
  induction number with
  | nil => exact within
  | cons c number ih =>
    obtain ⟨first, apart⟩ := List.forall_mem_cons.1 apart
    have ahead : word <:+: [] ++ c :: (number ++ tail) := within
    obtain none | within := infix_of_infix_append_cons first ahead
    · rw [List.infix_nil.1 none]
      exact List.nil_infix
    · exact ih apart within

/-- A word without characters of a number is met in front of the number or behind it. -/
theorem infix_around_iff (some : number ≠ []) (apart : ∀ c ∈ number, c ∉ word) :
    word <:+: lead ++ (number ++ tail) ↔ word <:+: lead ∨ word <:+: tail := by
  constructor
  · intro within
    obtain ⟨c, number, rfl⟩ := List.exists_cons_of_ne_nil some
    obtain ⟨first, apart⟩ := List.forall_mem_cons.1 apart
    exact (infix_of_infix_append_cons first within).imp_right (infix_of_infix_append apart)
  · rintro (within | within)
    · exact within.trans (List.prefix_append lead _).isInfix
    · have last : tail <:+ lead ++ (number ++ tail) :=
        (List.suffix_append number tail).trans (List.suffix_append lead _)
      exact within.trans last.isInfix

theorem mentions_around (some : number ≠ []) (apart : ∀ c ∈ number, c ∉ word) :
    mentions word (lead ++ (number ++ tail)) = (mentions word lead || mentions word tail) := by
  rw [Bool.eq_iff_iff, Bool.or_eq_true, mentions_iff, mentions_iff, mentions_iff,
    infix_around_iff some apart]

namespace Pattern

/-! ## Phrases that are missed -/

/-- Whether every way through the pattern reads one of the words that are absent. -/
def needs (absent : List Char → Bool) : Pattern → Bool
  | .word text => absent text.toList
  | .seq first second => first.needs absent || second.needs absent
  | .alt first second => first.needs absent && second.needs absent
  | .mark _ piece => piece.needs absent
  | _ => false

theorem not_mem_run_of_needs {absent : List Char → Bool}
    (missing : ∀ word, absent word → ¬ word <:+: cs) (needed : p.needs absent)
    (within : place.rest <:+ cs) : way ∉ p.run place := by
  induction p generalizing place way with
  | word text =>
    intro mem
    have read := (mem_run_word.1 mem).2
    refine missing _ needed (List.IsInfix.trans ?_ within.isInfix)
    rw [read.rest]
    exact (List.prefix_append _ _).isInfix
  | seq first second ih₁ ih₂ =>
    intro mem
    obtain ⟨m, hm, n, hn, -⟩ := mem_run_seq.1 mem
    obtain needed | needed := Bool.or_eq_true_iff.1 needed
    · exact ih₁ needed within hm
    · obtain ⟨piece, read⟩ := exists_reads hm
      exact ih₂ needed (read.isSuffix.trans within) hn
  | alt first second ih₁ ih₂ =>
    obtain ⟨needed₁, needed₂⟩ := Bool.and_eq_true_iff.1 needed
    intro mem
    exact (mem_run_alt.1 mem).elim (ih₁ needed₁ within) (ih₂ needed₂ within)
  | mark slot piece ih =>
    intro mem
    obtain ⟨m, hm, -⟩ := mem_run_mark.1 mem
    exact ih needed within hm
  | empty | one | most | fewest | edge | start | finish => exact absurd needed Bool.false_ne_true

/-- A phrase that needs an absent word is missed. -/
theorem search_eq_none_of_needs {absent : List Char → Bool}
    (missing : ∀ word, absent word → ¬ word <:+: cs) (needed : p.needs absent) :
    p.search cs = none := by
  refine Option.eq_none_iff_forall_ne_some.2 fun way found => ?_
  obtain ⟨front, place, read, preferred⟩ := exists_of_search found
  exact not_mem_run_of_needs missing needed read.isSuffix (List.mem_of_head? preferred)

/-! ## Phrases that are found -/

/-- Whether the pattern reads nothing. -/
def stays : Pattern → Bool
  | .empty | .edge | .start | .finish => true
  | _ => false

theorem last_of_stays (stays : p.stays) (mem : way ∈ p.run place) : way.last = place := by
  cases p with
  | empty => exact congrArg Way.last (List.mem_singleton.1 mem)
  | edge | start | finish =>
    rw [run, List.mem_ite_nil_right, List.mem_singleton] at mem
    exact congrArg Way.last mem.2
  | _ => exact absurd stays Bool.false_ne_true

/-- Words of which one is read first, whatever the way through the pattern. -/
def opening : Pattern → List (List Char)
  | .word text => [text.toList]
  | .seq first second => if first.stays then second.opening else first.opening
  | .alt first second => first.opening ++ second.opening
  | .mark _ piece => piece.opening
  | _ => [[]]

theorem exists_opening (mem : way ∈ p.run place) : ∃ word ∈ p.opening, word <+: place.rest := by
  induction p generalizing place way with
  | word text =>
    refine ⟨_, List.mem_singleton_self _, ?_⟩
    rw [(mem_run_word.1 mem).2.rest]
    exact List.prefix_append _ _
  | seq first second ih₁ ih₂ =>
    obtain ⟨m, hm, n, hn, -⟩ := mem_run_seq.1 mem
    rw [opening]
    split
    · next stays => exact last_of_stays stays hm ▸ ih₂ hn
    · exact ih₁ hm
  | alt first second ih₁ ih₂ =>
    simp only [opening, List.mem_append, or_and_right, exists_or]
    exact (mem_run_alt.1 mem).imp ih₁ ih₂
  | mark slot piece ih =>
    obtain ⟨m, hm, -⟩ := mem_run_mark.1 mem
    exact ih hm
  | empty | one | most | fewest | edge | start | finish =>
    exact ⟨[], List.mem_singleton_self _, List.nil_prefix⟩

/-- Whether no way through the pattern starts at one of the first places of a text, as many as
`count`, that goes on behind `lead`. -/
def startsLate (p : Pattern) (lead : List Char) (count : Nat) : Bool :=
  (List.range count).all fun k => p.opening.all fun word =>
    word.length ≤ (lead.drop k).length && !word.isPrefixOf (lead.drop k)

/-- A phrase is found behind `front` if it does not start earlier. -/
theorem search_of_front (late : p.startsLate (front ++ lead) front.length)
    (first : (p.run ⟨front.getLast?, lead ++ rest⟩).head? = some way) :
    p.search (front ++ (lead ++ rest)) = some way := by
  refine search_eq_some_iff.2 ⟨front, _, ⟨rfl, (Option.or_none ..).symm⟩, first,
    fun front' place read short => List.eq_nil_iff_forall_not_mem.2 fun way mem => ?_⟩
  obtain ⟨word, among, start⟩ := exists_opening mem
  have late := List.all_eq_true.1 (List.all_eq_true.1 late _ (List.mem_range.2 short)) word among
  simp only [Bool.and_eq_true, decide_eq_true_eq, Bool.not_eq_true', ← Bool.not_eq_true,
    List.isPrefixOf_iff_prefix] at late
  obtain ⟨long, other⟩ := late
  have within : front'.length ≤ (front ++ lead).length :=
    (Nat.le_of_lt short).trans (List.prefix_append front lead).length_le
  have behind : place.rest = (front ++ lead).drop front'.length ++ rest :=
    calc place.rest
      _ = (front' ++ place.rest).drop front'.length := List.drop_left.symm
      _ = (front ++ (lead ++ rest)).drop front'.length := by rw [← read.rest]; rfl
      _ = _ := by rw [← List.append_assoc, List.drop_append_of_le_length within]
  rw [behind] at start
  exact other (List.prefix_of_prefix_length_le start (List.prefix_append _ _) long)

theorem head?_run_alt_left {first second : Pattern} (h : (first.run place).head? = some way) :
    ((first.alt second).run place).head? = some way := by
  rw [run, List.head?_append, h, Option.some_or]

theorem head?_run_alt_right {first second : Pattern} (none : first.run place = [])
    (h : (second.run place).head? = some way) :
    ((first.alt second).run place).head? = some way := by
  rw [run, none, List.nil_append, h]

end Pattern

end CardDuel.Text
