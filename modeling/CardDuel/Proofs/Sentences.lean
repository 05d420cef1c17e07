import CardDuel.CardText.Reading
import Mathlib.Data.List.Basic
import Mathlib.Data.List.TakeWhile

/-!
# Sentences are read one by one

What a card does is read sentence by sentence, and no sentence is read differently because of the
ones around it.  Marks inside numbers, runs of marks, blank sentences and blanks at the ends all
meet where two texts are joined, and none of them matters there.

* `Pattern.Splits`: the pieces that the preferred matches of a pattern leave of a text.
* `sentenceEnd`: the pattern of the marks and blanks after a sentence.
* `exists_splits`: the sentences are the pieces that it leaves, apart from blanks.
* `piecesAfter_joint`: a mark and a blank separate what stands on both sides of them.
* `readAbility_by_sentence`: the ability of a joined text.
-/

namespace CardDuel

namespace Text

/-! ## Trimming -/

variable {cs front back : List Char}

theorem trim_append_left (blank : ∀ c ∈ front, isBlank c) : trim (front ++ cs) = trim cs := by
  rw [trim, trim, trimStart, List.dropWhile_append_of_pos blank, trimStart]

theorem trim_append_right (blank : ∀ c ∈ back, isBlank c) : trim (cs ++ back) = trim cs := by
  rw [trim, trim, trimStart, List.dropWhile_append, trimStart]
  split
  · next none =>
    rw [List.isEmpty_iff.1 none, List.dropWhile_eq_nil_iff.2 blank]
  · rw [trimEnd, trimEnd, List.reverse_append,
      List.dropWhile_append_of_pos fun c hc => blank c (List.mem_reverse.1 hc)]

/-- A text is its trimmed form between blanks. -/
theorem exists_append_trim (cs : List Char) :
    ∃ front back, (∀ c ∈ front, isBlank c) ∧ (∀ c ∈ back, isBlank c) ∧
      cs = front ++ (trim cs ++ back) := by
  let kept := trimStart cs
  refine ⟨cs.takeWhile isBlank, (kept.reverse.takeWhile isBlank).reverse,
    fun c hc => List.mem_takeWhile_imp hc,
    fun c hc => List.mem_takeWhile_imp (List.mem_reverse.1 hc), ?_⟩
  have around : trim cs ++ (kept.reverse.takeWhile isBlank).reverse = kept := by
    rw [trim, trimEnd, ← List.reverse_append, List.takeWhile_append_dropWhile, List.reverse_reverse]
  rw [around]
  exact List.takeWhile_append_dropWhile.symm

theorem trim_isInfix (cs : List Char) : trim cs <:+: cs := by
  obtain ⟨front, back, -, -, split⟩ := exists_append_trim cs
  exact ⟨front, back, by rw [List.append_assoc, ← split]⟩

theorem trim_trim (cs : List Char) : trim (trim cs) = trim cs := by
  obtain ⟨front, back, hfront, hback, split⟩ := exists_append_trim cs
  calc trim (trim cs)
    _ = trim (front ++ (trim cs ++ back)) := by
      rw [trim_append_left hfront, trim_append_right hback]
    _ = trim cs := by rw [← split]

theorem trim_ne_nil {c : Char} (mem : c ∈ cs) (solid : isBlank c = false) : trim cs ≠ [] := by
  intro none
  obtain ⟨front, back, hfront, hback, split⟩ := exists_append_trim cs
  rw [none, List.nil_append] at split
  rw [split, List.mem_append] at mem
  have blank : isBlank c := mem.elim (hfront c) (hback c)
  simp [solid] at blank

/-- A text that is not empty and has no blanks at its ends. -/
structure Solid (cs : List Char) : Prop where
  ne_nil : cs ≠ []
  head : cs.head?.any isBlank = false
  last : cs.getLast?.any isBlank = false

theorem Solid.trim_eq (h : Solid cs) : trim cs = cs := by
  have kept {ds : List Char} (solid : ds.head?.any isBlank = false) :
      ds.dropWhile isBlank = ds := by
    cases ds with
    | nil => rfl
    | cons d ds => exact List.dropWhile_cons_of_neg (by simpa using solid)
  rw [trim, trimStart, kept h.head, trimEnd, kept (by rw [List.head?_reverse, h.last]),
    List.reverse_reverse]

theorem any_head?_dropWhile (property : Char → Bool) (cs : List Char) :
    (cs.dropWhile property).head?.any property = false := by
  have next := List.head?_dropWhile_not property cs
  cases behind : (cs.dropWhile property).head? with
  | none => rfl
  | some c => simpa [behind] using next

theorem solid_trim (some : trim cs ≠ []) : Solid (trim cs) where
  ne_nil := some
  head := by
    have start : trim cs <+: trimStart cs := by
      rw [trim, trimEnd, ← List.reverse_suffix, List.reverse_reverse]
      exact List.dropWhile_suffix isBlank
    obtain ⟨back, split⟩ := start
    have first := any_head?_dropWhile isBlank cs
    rwa [← trimStart, ← split, List.head?_append_of_ne_nil _ some] at first
  last := by
    rw [trim, trimEnd, List.getLast?_reverse]
    exact any_head?_dropWhile isBlank _

theorem Solid.append (h : Solid front) (h' : Solid back) (gap : List Char) :
    Solid (front ++ (gap ++ back)) where
  ne_nil := by simp [h.ne_nil]
  head := by rw [List.head?_append_of_ne_nil _ h.ne_nil, h.head]
  last := by
    rw [← List.append_assoc, List.getLast?_append_of_ne_nil _ h'.ne_nil, h'.last]

theorem solid_of_firm (some : cs ≠ []) (firm : ∀ c ∈ cs, isBlank c = false) : Solid cs where
  ne_nil := some
  head := by
    rw [List.head?_eq_some_head some]
    exact firm _ (List.head_mem some)
  last := by
    rw [List.getLast?_eq_some_getLast some]
    exact firm _ (List.getLast_mem some)

/-- A text starts with a longest run of characters with the property. -/
theorem exists_run (property : Char → Bool) (cs : List Char) :
    ∃ run rest, (∀ c ∈ run, property c) ∧ rest.head?.any property = false ∧ cs = run ++ rest :=
  ⟨cs.takeWhile property, cs.dropWhile property, fun _ hc => List.mem_takeWhile_imp hc,
    any_head?_dropWhile property cs, List.takeWhile_append_dropWhile.symm⟩

/-! ## What a pattern leaves of a text -/

/-- The pieces of the text from a place on that the matches of a pattern leave: at every place
where the pattern has a way, the preferred one ends the piece and the next starts behind it. -/
inductive Pattern.Splits (p : Pattern) : Place → List (List Char) → Prop where
  | finish {before : Option Char} (none : p.run ⟨before, []⟩ = []) : p.Splits ⟨before, []⟩ [[]]
  | keep {before : Option Char} {c : Char} {cs piece : List Char} {pieces : List (List Char)}
      (none : p.run ⟨before, c :: cs⟩ = []) (more : p.Splits ⟨some c, cs⟩ (piece :: pieces)) :
      p.Splits ⟨before, c :: cs⟩ ((c :: piece) :: pieces)
  | cut {place : Place} {way : Way} {pieces : List (List Char)}
      (preferred : (p.run place).head? = some way) (more : p.Splits way.last pieces) :
      p.Splits place ([] :: pieces)

/-- A pattern leaves the same pieces however it is applied. -/
theorem Pattern.Splits.unique {p : Pattern} {place : Place} {pieces others : List (List Char)}
    (h : p.Splits place pieces) (h' : p.Splits place others) : pieces = others := by
  induction h generalizing others with
  | finish none =>
    cases h' with
    | finish => rfl
    | cut preferred => simp [none] at preferred
  | keep none _ ih =>
    cases h' with
    | keep _ more =>
      obtain ⟨rfl, rfl⟩ := List.cons.inj (ih more)
      rfl
    | cut preferred => simp [none] at preferred
  | cut preferred _ ih =>
    cases h' with
    | finish none => simp [none] at preferred
    | keep none => simp [none] at preferred
    | cut preferred' more =>
      obtain rfl := Option.some.inj (preferred.symm.trans preferred')
      rw [ih more]

variable {property : Char → Bool} {before : Option Char} {run rest : List Char} {c : Char}
  {place : Place}

theorem getLast?_reach (before : Option Char) (all : ∀ c ∈ run, property c)
    (stop : rest.head?.any property = false) :
    (reach property before (run ++ rest)).getLast? = some ⟨run.getLast?.or before, rest⟩ := by
  induction run generalizing before with
  | nil =>
    cases rest with
    | nil => rfl
    | cons c cs =>
      have other : property c = false := stop
      simp [reach, other]
  | cons c run ih =>
    have held := all c List.mem_cons_self
    have further := ih (some c) fun d hd => all d (List.mem_cons_of_mem c hd)
    rw [List.cons_append, reach, if_pos held, List.getLast?_cons, further]
    cases run <;> simp [List.getLast?_cons]

theorem length_reach (before : Option Char) (rest : List Char) (all : ∀ c ∈ run, property c) :
    run.length < (reach property before (run ++ rest)).length := by
  induction run generalizing before with
  | nil => cases rest <;> simp [reach]
  | cons c run ih =>
    have held := all c List.mem_cons_self
    have further := ih (some c) fun d hd => all d (List.mem_cons_of_mem c hd)
    rw [List.cons_append, reach, if_pos held, List.length_cons, List.length_cons]
    omega

/-- Of a greedy run the longest is preferred. -/
theorem head?_run_most {least : Nat} (before : Option Char) (enough : least ≤ run.length)
    (all : ∀ c ∈ run, property c) (stop : rest.head?.any property = false) :
    ((Pattern.most least property).run ⟨before, run ++ rest⟩).head? =
      some ⟨[], run.getLast?.or before, rest⟩ := by
  have long := length_reach before rest all
  have short : ¬ (reach property before (run ++ rest)).length ≤ least := by omega
  rw [Pattern.run, List.head?_reverse, Pattern.runs, List.getLast?_map, List.getLast?_drop,
    if_neg short, getLast?_reach before all stop]
  rfl

theorem head?_run_seq {first second : Pattern} {m n : Way}
    (hm : (first.run place).head? = some m) (hn : (second.run m.last).head? = some n) :
    ((first.seq second).run place).head? = some ⟨m.marks ++ n.marks, n.last⟩ := by
  obtain ⟨ms, split⟩ := List.head?_eq_some_iff.1 hm
  rw [Pattern.run, split, List.flatMap_cons, List.head?_append, List.head?_map, hn]
  rfl

theorem head?_run_mark {inner : Pattern} {slot : Slot} {m : Way}
    (hm : (inner.run place).head? = some m) :
    ((Pattern.mark slot inner).run place).head? =
      some ⟨(slot, place, m.last) :: m.marks, m.last⟩ := by
  rw [Pattern.run, List.head?_map, hm]
  rfl

/-- A run that stops in front of `c` leaves an end of the run, `c` and what follows. -/
theorem rest_of_mem_reach (other : property c = false)
    (mem : place ∈ reach property before (run ++ c :: rest)) :
    ∃ left, left <:+ run ∧ place.rest = left ++ c :: rest := by
  induction run generalizing before with
  | nil =>
    obtain rfl : place = ⟨before, c :: rest⟩ := by simpa [reach, other] using mem
    exact ⟨[], List.suffix_refl [], rfl⟩
  | cons d run ih =>
    rw [List.cons_append, reach, List.mem_cons] at mem
    obtain rfl | further := mem
    · exact ⟨d :: run, List.suffix_refl _, rfl⟩
    · split at further
      · obtain ⟨left, hleft, hrest⟩ := ih further
        exact ⟨left, hleft.trans (List.suffix_cons d run), hrest⟩
      · cases further

end Text

namespace CardText

open Text

/-- What ends a sentence: marks, and then blanks or the end of the text. -/
def sentenceEnd : Pattern := .seq (.most 1 isStop) (.alt (.blanks 1) .finish)

/-- The pieces without the blanks around them, and without the empty ones. -/
def tidy (pieces : List (List Char)) : List (List Char) :=
  (pieces.map trim).filter (!·.isEmpty)

variable {piece stops marks gap rest text lead : List Char} {pieces : List (List Char)} {c : Char}
  {before : Option Char}

theorem isBlank_of_isStop (stop : isStop c) : isBlank c = false := by
  simp only [isStop, Bool.or_eq_true, beq_iff_eq] at stop
  obtain (rfl | rfl) | rfl := stop <;> decide

theorem isStop_of_isBlank (blank : isBlank c) : isStop c = false := by
  cases stop : isStop c with
  | false => rfl
  | true => simp [isBlank_of_isStop stop] at blank

/-! ## Where a sentence ends -/

/-- Marks that neither a blank nor the end of the text follows end no sentence. -/
theorem run_sentenceEnd (stop : ∀ m ∈ marks, isStop m) (other : isStop c = false)
    (solid : marks = [] ∨ isBlank c = false) :
    sentenceEnd.run ⟨before, marks ++ c :: rest⟩ = [] := by
  refine List.flatMap_eq_nil_iff.2 fun way hway => ?_
  obtain ⟨place, mem, rfl⟩ := List.mem_map.1 (List.mem_reverse.1 hway)
  cases marks with
  | nil => simp [reach, other] at mem
  | cons m marks =>
    rw [List.cons_append, reach, if_pos (stop m List.mem_cons_self), List.drop_one,
      List.tail_cons] at mem
    obtain ⟨left, hleft, hrest⟩ := rest_of_mem_reach other mem
    have solid : isBlank c = false := solid.resolve_left nofun
    have firm : ∀ d ∈ left, isBlank d = false := fun d hd =>
      isBlank_of_isStop (stop d (List.mem_cons_of_mem m (hleft.mem hd)))
    cases left with
    | nil => simp [Pattern.run, Pattern.blanks, Pattern.runs, reach, hrest, solid]
    | cons d left =>
      simp [Pattern.run, Pattern.blanks, Pattern.runs, reach, hrest, firm d List.mem_cons_self]

/-- Marks that blanks or the end of the text follow end a sentence, and the next one starts
behind all of them. -/
theorem head?_run_sentenceEnd (before : Option Char) (stop : ∀ m ∈ marks, isStop m)
    (marked : marks ≠ []) (blank : ∀ c ∈ gap, isBlank c) (ends : gap ≠ [] ∨ rest = [])
    (solid : rest.head?.any isBlank = false) :
    ∃ way, (sentenceEnd.run ⟨before, marks ++ (gap ++ rest)⟩).head? = some way ∧
      way.last.rest = rest := by
  have apart : (gap ++ rest).head?.any isStop = false := by
    cases gap with
    | nil =>
      obtain rfl := ends.resolve_left nofun
      rfl
    | cons g gap => exact isStop_of_isBlank (blank g List.mem_cons_self)
  have first := head?_run_most before (List.length_pos_iff.2 marked) stop apart
  cases gap with
  | nil =>
    obtain rfl := ends.resolve_left nofun
    exact ⟨_, head?_run_seq first rfl, rfl⟩
  | cons g gap =>
    have second := head?_run_most (marks.getLast?.or before) (Nat.le_add_left 1 gap.length)
      blank solid
    have either : (((Pattern.blanks 1).alt .finish).run
        ⟨marks.getLast?.or before, g :: gap ++ rest⟩).head? =
          some ⟨[], (g :: gap).getLast?.or (marks.getLast?.or before), rest⟩ := by
      rw [Pattern.run, List.head?_append, Pattern.blanks, second]
      rfl
    exact ⟨_, head?_run_seq first either, rfl⟩

/-- How a text goes on: it is at its end, or a sentence ends, or a character follows that ends
nothing. -/
theorem cases_text (text : List Char) :
    text = [] ∨
    (∃ marks gap rest, marks ≠ [] ∧ (∀ m ∈ marks, isStop m) ∧ (∀ c ∈ gap, isBlank c) ∧
      (gap ≠ [] ∨ rest = []) ∧ rest.head?.any isBlank = false ∧ text = marks ++ (gap ++ rest)) ∨
    ∃ marks c rest, (∀ m ∈ marks, isStop m) ∧ isStop c = false ∧
      (marks = [] ∨ isBlank c = false) ∧ text = marks ++ c :: rest := by
  obtain ⟨marks, rest, stop, other, rfl⟩ := exists_run isStop text
  cases rest with
  | nil =>
    cases marks with
    | nil => exact .inl rfl
    | cons m marks =>
      exact .inr (.inl ⟨m :: marks, [], [], nofun, stop, nofun, .inr rfl, rfl, rfl⟩)
  | cons c rest =>
    by_cases solid : marks = [] ∨ isBlank c = false
    · exact .inr (.inr ⟨marks, c, rest, stop, other, solid, rfl⟩)
    · obtain ⟨marked, blank⟩ := not_or.1 solid
      obtain ⟨gap, rest', hgap, solid', split⟩ := exists_run isBlank (c :: rest)
      have gapped : gap ≠ [] := by
        rintro rfl
        rw [List.nil_append] at split
        subst split
        exact blank solid'
      exact .inr (.inl ⟨marks, gap, rest', marked, stop, hgap, .inl gapped, solid', by rw [split]⟩)

/-! ## Reading on -/

/-- What has been read of a piece only stands in front of it. -/
theorem piecesAfter_append_right (piece lead stops text : List Char) :
    piecesAfter (piece ++ lead) stops text =
      (piecesAfter piece stops text).modifyHead (lead.reverse ++ ·) := by
  fun_induction piecesAfter piece stops text with
  | case1 piece stops => simp [piecesAfter]
  | case2 piece stops c cs stop ih => rw [piecesAfter, if_pos stop, ih]
  | case3 piece stops c cs going ends ih =>
    rw [piecesAfter, if_neg going, if_pos ends, List.modifyHead_cons, List.reverse_append]
  | case4 piece stops c cs going open_ ih =>
    rw [piecesAfter, if_neg going, if_neg open_, ← ih]
    simp

theorem piecesAfter_marks (stop : ∀ m ∈ marks, isStop m) :
    piecesAfter piece stops (marks ++ text) = piecesAfter piece (marks.reverse ++ stops) text := by
  induction marks generalizing stops with
  | nil => rfl
  | cons m marks ih =>
    rw [List.cons_append, piecesAfter, if_pos (stop m List.mem_cons_self),
      ih fun d hd => stop d (List.mem_cons_of_mem m hd), List.reverse_cons, List.append_assoc]
    rfl

/-- Blanks that end no sentence belong to the piece. -/
theorem piecesAfter_blanks (piece text : List Char) (blank : ∀ c ∈ gap, isBlank c) :
    piecesAfter piece [] (gap ++ text) = piecesAfter (gap.reverse ++ piece) [] text := by
  induction gap generalizing piece with
  | nil => rfl
  | cons g gap ih =>
    have other : ¬ isStop g := by simp [isStop_of_isBlank (blank g List.mem_cons_self)]
    rw [List.cons_append, piecesAfter, if_neg other, if_neg (by simp), List.nil_append,
      ih _ fun d hd => blank d (List.mem_cons_of_mem g hd), List.reverse_cons, List.append_assoc]
    rfl

/-- Blanks at the start stand in front of the first piece. -/
theorem piecesAfter_nil_blanks (text : List Char) (blank : ∀ c ∈ gap, isBlank c) :
    piecesAfter [] [] (gap ++ text) = (piecesAfter [] [] text).modifyHead (gap ++ ·) := by
  rw [piecesAfter_blanks [] text blank, List.append_nil]
  simpa using piecesAfter_append_right [] gap.reverse [] text

/-- Marks and a character that end nothing stand in front of the first piece. -/
theorem piecesAfter_keep (stop : ∀ m ∈ marks, isStop m) (other : isStop c = false)
    (solid : marks = [] ∨ isBlank c = false) :
    piecesAfter [] [] (marks ++ c :: rest) =
      (piecesAfter [] [] rest).modifyHead (marks ++ [c] ++ ·) := by
  have going : ¬ (isBlank c && !(marks.reverse ++ []).isEmpty) = true := by
    obtain rfl | solid := solid <;> simp [*]
  rw [piecesAfter_marks stop, piecesAfter, if_neg (by simp [other]), if_neg going]
  simpa using piecesAfter_append_right [] (c :: marks.reverse) [] rest

/-- A mark and a blank separate what stands in front of them from what follows. -/
theorem piecesAfter_joint {mark blank : Char} (stop : isStop mark) (gap : isBlank blank)
    (front back : List Char) :
    piecesAfter piece stops (front ++ mark :: blank :: back) =
      piecesAfter piece stops front ++ piecesAfter [] [] back := by
  fun_induction piecesAfter piece stops front with
  | case1 piece stops =>
    have other : ¬ isStop blank := by simp [isStop_of_isBlank gap]
    rw [List.nil_append, piecesAfter, if_pos stop, piecesAfter, if_neg other,
      if_pos (by simp [gap])]
    rfl
  | case2 piece stops c cs stop ih => rw [List.cons_append, piecesAfter, if_pos stop, ih]
  | case3 piece stops c cs going ends ih =>
    rw [List.cons_append, piecesAfter, if_neg going, if_pos ends, ih, List.cons_append]
  | case4 piece stops c cs going open_ ih =>
    rw [List.cons_append, piecesAfter, if_neg going, if_neg open_, ih]

/-! ## Sentences -/

@[simp] theorem tidy_append (pieces others : List (List Char)) :
    tidy (pieces ++ others) = tidy pieces ++ tidy others := by
  simp [tidy]

theorem tidy_cons (piece : List Char) (pieces : List (List Char)) :
    tidy (piece :: pieces) = tidy [piece] ++ tidy pieces :=
  tidy_append [piece] pieces

theorem tidy_modifyHead (blank : ∀ c ∈ gap, isBlank c) (pieces : List (List Char)) :
    tidy (pieces.modifyHead (gap ++ ·)) = tidy pieces := by
  cases pieces with
  | nil => rfl
  | cons piece pieces =>
    rw [List.modifyHead_cons, tidy, tidy, List.map_cons, List.map_cons, trim_append_left blank]

/-- Blanks at the end of a text are in no sentence, although behind marks they make a piece. -/
theorem tidy_piecesAfter_append (blank : ∀ c ∈ gap, isBlank c) :
    tidy (piecesAfter piece stops (text ++ gap)) = tidy (piecesAfter piece stops text) := by
  fun_induction piecesAfter piece stops text with
  | case1 piece stops =>
    rw [List.nil_append]
    cases gap with
    | nil => rfl
    | cons g gap =>
      have more : ∀ c ∈ gap, isBlank c := fun c hc => blank c (List.mem_cons_of_mem g hc)
      have first := blank g List.mem_cons_self
      cases stops with
      | nil =>
        have read := piecesAfter_blanks piece [] blank
        rw [List.append_nil] at read
        rw [read, piecesAfter, List.reverse_append, List.reverse_reverse, tidy, tidy,
          List.map_singleton, List.map_singleton, trim_append_right blank]
      | cons m stops =>
        have read := piecesAfter_nil_blanks [] more
        rw [List.append_nil] at read
        have other : ¬ isStop g := by simp [isStop_of_isBlank first]
        rw [piecesAfter, if_neg other, if_pos (by simp [first]), read, tidy_cons,
          tidy_modifyHead more]
        exact List.append_nil _
  | case2 piece stops c cs stop ih => rw [List.cons_append, piecesAfter, if_pos stop, ih]
  | case3 piece stops c cs going ends ih =>
    rw [List.cons_append, piecesAfter, if_neg going, if_pos ends, tidy_cons, ih, ← tidy_cons]
  | case4 piece stops c cs going open_ ih =>
    rw [List.cons_append, piecesAfter, if_neg going, if_neg open_, ih]

theorem sentences_eq_tidy (text : List Char) : sentences text = tidy (piecesAfter [] [] text) := rfl

theorem sentences_trim (text : List Char) : sentences (trim text) = sentences text := by
  obtain ⟨front, back, hfront, hback, split⟩ := exists_append_trim text
  calc tidy (piecesAfter [] [] (trim text))
    _ = tidy (piecesAfter [] [] (trim text ++ back)) := (tidy_piecesAfter_append hback).symm
    _ = tidy (piecesAfter [] [] (front ++ (trim text ++ back))) := by
      rw [piecesAfter_nil_blanks _ hfront, tidy_modifyHead hfront]
    _ = tidy (piecesAfter [] [] text) := by rw [← split]

theorem splits_keep (stop : ∀ m ∈ marks, isStop m) (other : isStop c = false)
    (solid : marks = [] ∨ isBlank c = false)
    (more : sentenceEnd.Splits ⟨some c, rest⟩ (piece :: pieces)) :
    sentenceEnd.Splits ⟨before, marks ++ c :: rest⟩ ((marks ++ c :: piece) :: pieces) := by
  induction marks generalizing before with
  | nil => exact .keep (run_sentenceEnd stop other solid) more
  | cons m marks ih =>
    have stop' : ∀ d ∈ marks, isStop d := fun d hd => stop d (List.mem_cons_of_mem m hd)
    exact .keep (run_sentenceEnd stop other solid)
      (ih stop' (.inr (solid.resolve_left nofun)))

/-- The pieces that are read are those that the ends of sentences leave: the first is the same,
and the others differ by blanks and empty pieces only. -/
theorem exists_splits (before : Option Char) (text : List Char) :
    ∃ piece pieces others, sentenceEnd.Splits ⟨before, text⟩ (piece :: pieces) ∧
      piecesAfter [] [] text = piece :: others ∧ tidy pieces = tidy others := by
  -- Behind a cut the pattern has taken all blanks and `piecesAfter` only the first of them, so the
  -- induction is on the length, and the other blanks go to the front of the next piece.
  induction size_eq : text.length using Nat.strongRecOn generalizing before text with
  | ind size ih =>
    obtain rfl | ⟨marks, gap, rest, marked, stop, blank, ends, solid, rfl⟩ |
      ⟨marks, c, rest, stop, other, solid, rfl⟩ := cases_text text
    · exact ⟨[], [], [], .finish rfl, rfl, rfl⟩
    · obtain ⟨⟨found, after, rest'⟩, preferred, same⟩ :=
        head?_run_sentenceEnd before stop marked blank ends solid
      obtain rfl : rest' = rest := same
      have shorter : rest'.length < size := by
        have := List.length_pos_iff.2 marked
        rw [← size_eq, List.length_append, List.length_append]
        omega
      obtain ⟨piece, pieces, others, splits, read, same⟩ := ih rest'.length shorter after rest' rfl
      cases gap with
      | nil =>
        obtain rfl := ends.resolve_left nofun
        obtain ⟨rfl, rfl⟩ : [] = piece ∧ [] = others := List.cons.inj read
        refine ⟨[], [] :: pieces, [], .cut preferred splits, ?_, same⟩
        rw [piecesAfter_marks stop]
        rfl
      | cons g gap =>
        have firm : ¬ isStop g := by simp [isStop_of_isBlank (blank g List.mem_cons_self)]
        have more : ∀ c ∈ gap, isBlank c := fun c hc => blank c (List.mem_cons_of_mem g hc)
        refine ⟨[], piece :: pieces, piecesAfter [] [] (gap ++ rest'), .cut preferred splits,
          ?_, ?_⟩
        · rw [piecesAfter_marks stop, List.cons_append, piecesAfter, if_neg firm,
            if_pos (by simp [blank g List.mem_cons_self, marked])]
          rfl
        · rw [piecesAfter_nil_blanks rest' more, tidy_modifyHead more, read, tidy_cons, same,
            ← tidy_cons]
    · obtain ⟨piece, pieces, others, splits, read, same⟩ := ih rest.length
        (by rw [← size_eq, List.length_append, List.length_cons]; omega) (some c) rest rfl
      refine ⟨marks ++ c :: piece, pieces, others, splits_keep stop other solid splits, ?_, same⟩
      rw [piecesAfter_keep stop other solid, read]
      simp

/-- The effects of a text are read from the pieces that the ends of its sentences leave, and those
of two texts that a full stop and a space join are the effects of the first and then those of the
second, whatever stands at the joint.  A text has many parts exactly if it has two effects. -/
theorem readAbility_by_sentence :
    (∀ a b : String, (readAbility (a ++ ". " ++ b)).effects =
      (readAbility a).effects ++ (readAbility b).effects) ∧
    (∀ text : String, (readAbility text).hasManyParts ↔ 2 ≤ (readAbility text).effects.length) ∧
    ∀ text : String, ∃ pieces,
      (∀ others, sentenceEnd.Splits (.atStart (trim text.toList)) others ↔ others = pieces) ∧
      (readAbility text).effects = (tidy pieces).filterMap readSentence? := by
  refine ⟨fun a b => ?_, fun text => by simp [Ability.hasManyParts], fun text => ?_⟩
  · have joined : sentences (a ++ ". " ++ b).toList = sentences a.toList ++ sentences b.toList := by
      rw [String.toList_append, String.toList_append, List.append_assoc, sentences_eq_tidy]
      exact (congrArg tidy (piecesAfter_joint rfl rfl a.toList b.toList)).trans (tidy_append ..)
    rw [readAbility, joined, List.filterMap_append]
    rfl
  · obtain ⟨piece, pieces, others, splits, read, same⟩ := exists_splits none (trim text.toList)
    refine ⟨piece :: pieces, fun others => ⟨(·.unique splits), (· ▸ splits)⟩, ?_⟩
    have found : sentences text.toList = tidy (piece :: pieces) := by
      rw [← sentences_trim, sentences_eq_tidy, read, tidy_cons, ← same, ← tidy_cons]
    rw [readAbility, found]

example : sentences "Gain 1.5 LP!?  ... Draw 1 card.".toList =
    ["Gain 1.5 LP".toList, "Draw 1 card".toList] := by decide +kernel

end CardText

end CardDuel
