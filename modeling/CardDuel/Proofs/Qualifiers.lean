import CardDuel.Proofs.Lowering
import CardDuel.Proofs.Shapes
import Mathlib.Data.List.Infix

/-!
# A timing in front of a colon

"When summoned: Draw 1 card": what stands in front of the colon says when the clause behind it
happens, and nothing else.  The clause is read as if it stood by itself.  This holds for a clause on
one line, with any blanks around it.  A clause of several lines loses its timing: the sentence is
then read as a whole, and its effect happens when the card resolves.

* `piecesAfter_unbroken`: a text in which no sentence ends stays in one piece.
* `readProtection?_colon`: no protection comes about where two texts are joined.
* `qualify_line`, `qualify_lines`: how a sentence with a colon is cut.
* `qualifier_attaches_on_one_line`: what a timing in front of a clause changes.
-/

namespace CardDuel

namespace Text

variable {cs piece xs ys gap front : List Char} {c : Char}

/-! ## What occurs in a joined text -/

theorem infix_of_blanks_append (solid : Solid piece) (blank : ∀ c ∈ gap, isBlank c)
    (within : piece <:+: gap ++ cs) : piece <:+: cs := by
  induction gap with
  | nil => exact within
  | cons g gap ih =>
    obtain ⟨first, blank⟩ := List.forall_mem_cons.1 blank
    obtain start | within := List.infix_cons_iff.1 within
    · cases piece with
      | nil => exact absurd rfl solid.ne_nil
      | cons c piece =>
        obtain ⟨rfl, -⟩ := List.cons_prefix_cons.1 start
        have firm := solid.head
        rw [List.head?_cons, Option.any_some, first] at firm
        cases firm
    · exact ih blank within

theorem Solid.reverse (h : Solid cs) : Solid cs.reverse where
  ne_nil := by simpa using h.ne_nil
  head := by rw [List.head?_reverse, h.last]
  last := by rw [List.getLast?_reverse, h.head]

theorem infix_of_append_blanks (solid : Solid piece) (blank : ∀ c ∈ gap, isBlank c)
    (within : piece <:+: cs ++ gap) : piece <:+: cs := by
  rw [← List.reverse_infix, List.reverse_append] at within
  rw [← List.reverse_infix]
  exact infix_of_blanks_append solid.reverse (fun c hc => blank c (List.mem_reverse.1 hc)) within

/-- What has no blanks at its ends occurs in a text if it does so without those of the text. -/
theorem infix_trim_iff (solid : Solid piece) : piece <:+: trim cs ↔ piece <:+: cs := by
  refine ⟨fun within => within.trans (trim_isInfix cs), fun within => ?_⟩
  obtain ⟨front, back, hfront, hback, split⟩ := exists_append_trim cs
  rw [split] at within
  exact infix_of_append_blanks solid hback (infix_of_blanks_append solid hfront within)

theorem prefix_of_prefix_append_cons (apart : c ∉ piece) (start : piece <+: xs ++ c :: ys) :
    piece <+: xs := by
  induction xs generalizing piece with
  | nil =>
    cases piece with
    | nil => exact List.nil_prefix
    | cons d piece =>
      obtain ⟨rfl, -⟩ := List.cons_prefix_cons.1 start
      exact absurd List.mem_cons_self apart
  | cons x xs ih =>
    cases piece with
    | nil => exact List.nil_prefix
    | cons d piece =>
      obtain ⟨rfl, further⟩ := List.cons_prefix_cons.1 start
      have apart' : c ∉ piece := fun mem => apart (List.mem_cons_of_mem d mem)
      exact List.cons_prefix_cons.2 ⟨rfl, ih apart' further⟩

/-- What lacks a character does not occur across it. -/
theorem infix_of_infix_append_cons (apart : c ∉ piece) (within : piece <:+: xs ++ c :: ys) :
    piece <:+: xs ∨ piece <:+: ys := by
  induction xs with
  | nil =>
    obtain start | within := List.infix_cons_iff.1 within
    · exact .inl (prefix_of_prefix_append_cons apart start).isInfix
    · exact .inr within
  | cons x xs ih =>
    obtain start | within := List.infix_cons_iff.1 within
    · exact .inl (prefix_of_prefix_append_cons apart start).isInfix
    · exact (ih within).imp_left fun within => within.trans (List.suffix_cons x xs).isInfix

/-- The ends of a joined text, and what is left of it between them. -/
theorem exists_trim_colon (named : trim xs ≠ []) (told : trim ys ≠ []) :
    ∃ gap gap', (∀ c ∈ gap, isBlank c) ∧ (∀ c ∈ gap', isBlank c) ∧
      trim (xs ++ ':' :: ' ' :: ys) = trim xs ++ gap ++ ':' :: (gap' ++ trim ys) := by
  obtain ⟨front, gap, hfront, hgap, split⟩ := exists_append_trim xs
  obtain ⟨gap', back, hgap', hback, split'⟩ := exists_append_trim ys
  have space : isBlank ' ' := by decide
  refine ⟨gap, ' ' :: gap', hgap, List.forall_mem_cons.2 ⟨space, hgap'⟩, ?_⟩
  have joined : xs ++ ':' :: ' ' :: ys =
      front ++ ((trim xs ++ ((gap ++ ':' :: ' ' :: gap') ++ trim ys)) ++ back) := by
    conv => lhs; rw [split, split']
    simp
  rw [joined, trim_append_left hfront, trim_append_right hback,
    ((solid_trim named).append (solid_trim told) _).trim_eq]
  simp

end Text

namespace CardText

open Text

variable {cs front text rest : List Char}

/-! ## One sentence -/

/-- A text in which no sentence ends stays in one piece with what follows. -/
theorem piecesAfter_unbroken (front : List Char) (rest : List Char)
    (whole : sentenceEnd.found (front ++ text) = false) :
    piecesAfter [] [] (text ++ rest) = (piecesAfter [] [] rest).modifyHead (text ++ ·) := by
  induction size_eq : text.length using Nat.strongRecOn generalizing front text with
  | ind size ih =>
    obtain rfl | ⟨marks, gap, more, marked, stop, blank, ends, solid, rfl⟩ |
      ⟨marks, c, more, stop, other, solid, rfl⟩ := cases_text text
    · exact (congrFun List.modifyHead_id _).symm
    · -- the end of a sentence would have been found
      obtain ⟨way, preferred, -⟩ :=
        head?_run_sentenceEnd front.getLast? stop marked blank ends solid
      have found := Pattern.found_iff.2 ⟨front, ⟨front.getLast?, marks ++ (gap ++ more)⟩,
        ⟨rfl, by simp [Place.atStart]⟩, List.ne_nil_of_mem (List.mem_of_head? preferred)⟩
      rw [whole] at found
      cases found
    · have shorter : more.length < size := by
        rw [← size_eq, List.length_append, List.length_cons]
        omega
      have further := ih more.length shorter (front ++ (marks ++ [c])) (by simpa using whole) rfl
      rw [List.append_assoc, List.cons_append, piecesAfter_keep stop other solid, further,
        List.modifyHead_modifyHead]
      congr 1
      funext piece
      simp

theorem sentences_unbroken (whole : sentenceEnd.found text = false) :
    sentences text = tidy [text] := by
  have pieces := piecesAfter_unbroken [] [] whole
  rw [List.append_nil] at pieces
  rw [sentences_eq_tidy, pieces]
  simp [piecesAfter]

/-! ## Protection -/

/-- The phrases that grant protection. -/
def shieldTexts : List (List Char) :=
  battleShieldPhrase.texts ++ effectShieldPhrase.texts ++ targetShieldPhrase.texts

theorem found_eq_false_iff (p : Pattern) (cs : List Char) (plain : p.isPlain) :
    p.found cs = false ↔ ∀ piece ∈ p.texts, ¬ piece <:+: cs := by
  rw [← Bool.not_eq_true, Pattern.found_iff_infix plain]
  simp

theorem readProtection?_eq_none :
    readProtection? cs = none ↔ ∀ piece ∈ shieldTexts, ¬ piece <:+: cs := by
  have battle := found_eq_false_iff battleShieldPhrase cs rfl
  have effects := found_eq_false_iff effectShieldPhrase cs rfl
  have targeting := found_eq_false_iff targetShieldPhrase cs rfl
  have missed : readProtection? cs = none ↔ (battleShieldPhrase.found cs ||
      effectShieldPhrase.found cs || targetShieldPhrase.found cs) = false := by
    unfold readProtection?
    generalize battleShieldPhrase.found cs = battle
    generalize effectShieldPhrase.found cs = effects
    generalize targetShieldPhrase.found cs = targeting
    cases battle <;> cases effects <;> cases targeting <;> decide
  simp only [missed, Bool.or_eq_false_iff, battle, effects, targeting, shieldTexts,
    List.forall_mem_append]

theorem shieldTexts_spec {piece : List Char} (among : piece ∈ shieldTexts) :
    Solid piece ∧ ':' ∉ piece := by
  have all : ∀ piece ∈ shieldTexts, piece ≠ [] ∧ piece.head?.any isBlank = false ∧
      piece.getLast?.any isBlank = false ∧ ':' ∉ piece := by decide +kernel
  obtain ⟨some, head, last, plain⟩ := all piece among
  exact ⟨⟨some, head, last⟩, plain⟩

theorem readProtection?_trim : readProtection? (trim cs) = none ↔ readProtection? cs = none := by
  rw [readProtection?_eq_none, readProtection?_eq_none]
  exact forall₂_congr fun piece among => not_congr (infix_trim_iff (shieldTexts_spec among).1)

/-- No protection comes about where two texts are joined by a colon. -/
theorem readProtection?_colon {xs ys : List Char} (hx : readProtection? xs = none)
    (hy : readProtection? ys = none) : readProtection? (xs ++ ':' :: ' ' :: ys) = none := by
  rw [readProtection?_eq_none] at *
  intro piece among within
  obtain ⟨solid, plain⟩ := shieldTexts_spec among
  have space : ∀ c ∈ [' '], isBlank c := List.forall_mem_singleton.2 (by decide)
  obtain within | within := infix_of_infix_append_cons plain within
  · exact hx piece among within
  · exact hy piece among (infix_of_blanks_append solid space within)

/-! ## Timings -/

theorem holds_trim {words : String} (solid : Solid words.toList) :
    holds (trim cs) words = holds cs words := by
  rw [Bool.eq_iff_iff, holds, holds, mentions_iff, mentions_iff, infix_trim_iff solid]

/-- The blanks around a qualifier do not matter. -/
theorem readTiming?_trim (cs : List Char) : readTiming? (trim cs) = readTiming? cs := by
  have solid : ∀ words ∈ ["destroys a monster", "is destroyed", "flip", "summoned", "end phase",
      "battle phase"], holds (trim cs) words = holds cs words := fun words among => by
    refine holds_trim ?_
    simp only [List.mem_cons, List.not_mem_nil, or_false] at among
    rcases among with rfl | rfl | rfl | rfl | rfl | rfl <;> exact ⟨by decide, by decide, by decide⟩
  simp only [List.forall_mem_cons] at solid
  simp only [readTiming?, solid]

theorem readTiming?_append_blanks {gap : List Char} (blank : ∀ c ∈ gap, isBlank c) :
    readTiming? (trim cs ++ gap) = readTiming? cs := by
  rw [← readTiming?_trim, trim_append_right blank, trim_trim, readTiming?_trim]

theorem holds_append_blanks {words : String} {gap : List Char} (solid : Solid words.toList)
    (blank : ∀ c ∈ gap, isBlank c) : holds (trim cs ++ gap) words = holds cs words := by
  rw [← holds_trim solid, trim_append_right blank, trim_trim, holds_trim solid]

/-! ## Cutting a sentence -/

variable {qualifier gap body : List Char} {m : Way}

/-- What is cut at a colon: a text without a colon, and a text on one line. -/
theorem exists_of_timed (found : timedPhrase.search cs = some m) :
    ∃ qualifier gap body, ':' ∉ qualifier ∧ (∀ c ∈ gap, isBlank c) ∧ '\n' ∉ body ∧
      cs = qualifier ++ ':' :: (gap ++ body) := by
  obtain ⟨front, place, reached, preferred⟩ := Pattern.exists_of_search found
  obtain ⟨m₁, start, m₂, cut₁, -⟩ := Pattern.mem_run_seq.1 (List.mem_of_head? preferred)
  obtain ⟨fresh, rfl⟩ := Pattern.mem_run_start.1 start
  obtain ⟨m₃, marked, m₄, cut₂, -⟩ := Pattern.mem_run_seq.1 cut₁
  obtain ⟨m₅, most, rfl⟩ := Pattern.mem_run_mark.1 marked
  obtain ⟨-, qualifier, plain, named⟩ := Pattern.exists_run_of_mem_runs (List.mem_reverse.1 most)
  obtain ⟨m₆, word, m₇, cut₃, -⟩ := Pattern.mem_run_seq.1 cut₂
  obtain ⟨-, colon⟩ := Pattern.mem_run_word.1 word
  obtain ⟨m₈, blanks, m₉, cut₄, -⟩ := Pattern.mem_run_seq.1 cut₃
  obtain ⟨-, gap, blank, spaced⟩ := Pattern.exists_run_of_mem_runs (List.mem_reverse.1 blanks)
  obtain ⟨m₁₀, marked', m₁₁, finish, -⟩ := Pattern.mem_run_seq.1 cut₄
  obtain ⟨m₁₂, onLine, rfl⟩ := Pattern.mem_run_mark.1 marked'
  obtain ⟨-, body, line, told⟩ := Pattern.exists_run_of_mem_runs (List.mem_reverse.1 onLine)
  obtain ⟨ended, -⟩ := Pattern.mem_run_finish.1 finish
  refine ⟨qualifier, gap, body, fun mem => by simpa using plain _ mem, blank,
    fun mem => by simpa using line _ mem, ?_⟩
  -- the place at the start has nothing in front of it
  obtain rfl : front = [] := by
    have none := reached.before.symm.trans fresh
    simpa [Place.atStart] using none
  obtain rfl := Place.reads_nil.1 reached
  calc cs
    _ = qualifier ++ m₅.last.rest := named.rest
    _ = qualifier ++ ':' :: m₆.last.rest := congrArg (qualifier ++ ·) colon.rest
    _ = qualifier ++ ':' :: (gap ++ (body ++ m₁₂.last.rest)) := by rw [spaced.rest, told.rest]
    _ = qualifier ++ ':' :: (gap ++ body) := by rw [ended, List.append_nil]

/-- A text on one line is cut at its colon. -/
theorem search_timedPhrase (named : qualifier ≠ []) (plain : ':' ∉ qualifier)
    (blank : ∀ c ∈ gap, isBlank c) (solid : Solid body) (line : '\n' ∉ body) :
    ∃ m, timedPhrase.search (qualifier ++ ':' :: (gap ++ body)) = some m ∧
      m.piece? .qualifier = some qualifier ∧ m.piece? .body = some body := by
  let rest := ':' :: (gap ++ body)
  let p₁ : Place := ⟨qualifier.getLast?.or none, rest⟩
  let p₂ : Place := ⟨some ':', gap ++ body⟩
  let p₃ : Place := ⟨gap.getLast?.or (some ':'), body⟩
  let p₄ : Place := ⟨body.getLast?.or p₃.before, []⟩
  have start : (Pattern.start.run (.atStart (qualifier ++ rest))).head? =
      some ⟨[], .atStart (qualifier ++ rest)⟩ := rfl
  have hqualifier : ((Pattern.most 1 (· != ':')).run (.atStart (qualifier ++ rest))).head? =
      some ⟨[], p₁⟩ :=
    head?_run_most none (List.length_pos_iff.2 named)
      (fun c hc => bne_iff_ne.2 fun same => plain (same ▸ hc)) rfl
  have colon : ((Pattern.word ":").run p₁).head? = some ⟨[], p₂⟩ := rfl
  have spaced : ((Pattern.blanks 0).run p₂).head? = some ⟨[], p₃⟩ :=
    head?_run_most (some ':') (Nat.zero_le _) blank solid.head
  have hbody : ((Pattern.line 1).run p₃).head? = some ⟨[], p₄⟩ := by
    have long := List.length_pos_iff.2 solid.ne_nil
    have all : ∀ c ∈ body, (c != '\n') = true := fun c hc =>
      bne_iff_ne.2 fun same => line (same ▸ hc)
    have read : ((Pattern.line 1).run ⟨p₃.before, body ++ []⟩).head? = some ⟨[], p₄⟩ :=
      head?_run_most p₃.before long all rfl
    rwa [List.append_nil] at read
  have finish : (Pattern.finish.run p₄).head? = some ⟨[], p₄⟩ := rfl
  refine ⟨_, Pattern.search_of_start (head?_run_seq start (head?_run_seq
    (head?_run_mark hqualifier) (head?_run_seq colon (head?_run_seq spaced
      (head?_run_seq (head?_run_mark hbody) finish))))), ?_, ?_⟩
  · exact congrArg some (Place.Reads.textTo_eq ⟨rfl, rfl⟩)
  · exact congrArg some (Place.Reads.textTo_eq ⟨(List.append_nil body).symm, rfl⟩)

/-- A sentence that is not cut is a clause of its own. -/
theorem qualify_whole (uncut : timedPhrase.search cs = none) :
    qualify cs = { timing := none, oncePerTurn := false, clause := cs } := by
  simp [qualify, uncut]

theorem qualify_plain (plain : ':' ∉ cs) :
    qualify cs = { timing := none, oncePerTurn := false, clause := cs } := by
  refine qualify_whole (Option.eq_none_iff_forall_ne_some.2 fun m found => ?_)
  obtain ⟨qualifier, gap, body, -, -, -, rfl⟩ := exists_of_timed found
  exact plain (List.mem_append_right _ List.mem_cons_self)

theorem qualify_line (named : qualifier ≠ []) (plain : ':' ∉ qualifier)
    (blank : ∀ c ∈ gap, isBlank c) (solid : Solid body) (line : '\n' ∉ body) :
    qualify (qualifier ++ ':' :: (gap ++ body)) = {
      timing := readTiming? qualifier
      oncePerTurn := holds qualifier "once per turn"
      clause := body } := by
  obtain ⟨m, found, named, told⟩ := search_timedPhrase named plain blank solid line
  have once : Solid "once per turn".toList := ⟨by decide, by decide, by decide⟩
  simp only [qualify, found, named, told, Option.getD_some, readTiming?_trim, holds_trim once,
    solid.trim_eq]

/-- A text of several lines is not cut at its colon. -/
theorem qualify_lines (plain : ':' ∉ qualifier) (blank : ∀ c ∈ gap, isBlank c)
    (solid : Solid body) (single : ':' ∉ body) (lines : '\n' ∈ body) :
    qualify (qualifier ++ ':' :: (gap ++ body)) = {
      timing := none, oncePerTurn := false, clause := qualifier ++ ':' :: (gap ++ body) } := by
  refine qualify_whole (Option.eq_none_iff_forall_ne_some.2 fun m found => ?_)
  obtain ⟨qualifier', gap', line, plain', blank', onLine, split⟩ := exists_of_timed found
  have apart : ':' ∉ gap ++ body := by
    rw [List.mem_append, not_or]
    exact ⟨fun mem => absurd (blank _ mem) (by decide), single⟩
  obtain ⟨-, -, same⟩ := (List.append_cons_inj_of_notMem plain apart).1 split
  -- the blanks behind the colon end where the body starts, so that its line break is not in them
  obtain ⟨more, gap_eq, rfl⟩ | ⟨more, -, line_eq⟩ := List.append_eq_append_iff.1 same
  · cases more with
    | nil => exact onLine lines
    | cons c more =>
      have first : isBlank c := blank' c (gap_eq ▸ List.mem_append_right gap List.mem_cons_self)
      have firm : isBlank c = false := solid.head
      rw [firm] at first
      cases first
  · exact onLine (line_eq ▸ List.mem_append_right more lines)

/-! ## The clause behind a colon -/

/-- The effect of a sentence that grants no protection. -/
theorem readSentence?_bare {sentence : List Char}
    (bare : readProtection? (lower sentence) = none) :
    readSentence? sentence =
      (readClause? (qualify (lower sentence)).clause).map fun effect => { effect with
        timing := (qualify (lower sentence)).timing
        oncePerTurn := (qualify (lower sentence)).oncePerTurn
        text := String.ofList sentence } := by
  rw [readSentence?]
  dsimp only
  rw [bare]

/-- The effects of a text that is one sentence. -/
theorem effects_of_one {text : String} (one : sentences text.toList = tidy [text.toList])
    (some : trim text.toList ≠ []) :
    (readAbility text).effects = (readSentence? (trim text.toList)).toList := by
  rw [readAbility, one, tidy, List.map_singleton, List.filter_cons_of_pos (by simpa using some),
    List.filter_nil]
  cases read : readSentence? (trim text.toList) <;> simp [read]

/-- A text that reads as one effect, and in which no sentence ends, is one sentence. -/
theorem readSentence?_of_alone {b : String} {e : Effect}
    (unbroken : sentenceEnd.found b.toList = false) (alone : (readAbility b).effects = [e]) :
    trim b.toList ≠ [] ∧ readSentence? (trim b.toList) = some e := by
  have one := sentences_unbroken unbroken
  by_cases blank : trim b.toList = []
  · rw [readAbility, one, tidy, List.map_singleton, blank] at alone
    cases alone
  · rw [effects_of_one one blank, Option.toList_eq_singleton_iff] at alone
    exact ⟨blank, alone⟩

/-- A sentence without a colon is a clause that happens when its card resolves. -/
theorem readSentence?_plain {sentence : List Char} {e : Effect}
    (plain : ':' ∉ sentence) (read : readSentence? sentence = some e) (kind : e.kind ≠ .protection) :
    readProtection? (lower sentence) = none ∧
      ∃ inner, readClause? (lower sentence) = some inner ∧ e = { inner with
        timing := none, oncePerTurn := false, text := String.ofList sentence } := by
  obtain ⟨protection, -, rfl⟩ | ⟨bare, inner, clause, rfl⟩ := cases_of_readSentence read
  · exact absurd rfl kind
  · rw [qualify_plain (mt (mem_lower (.inl rfl)).1 plain)] at *
    exact ⟨bare, inner, clause, rfl⟩

/-- Two texts that a colon and a space join are one sentence if no sentence ends in either. -/
theorem sentences_colon {xs ys : List Char} (hx : sentenceEnd.found xs = false)
    (hy : sentenceEnd.found ys = false) :
    sentences (xs ++ ':' :: ' ' :: ys) = tidy [xs ++ ':' :: ' ' :: ys] := by
  have colon : sentenceEnd.found [':', ' '] = false := by decide +kernel
  have last := piecesAfter_unbroken [] [] hy
  rw [List.append_nil] at last
  have pieces : piecesAfter [] [] (xs ++ ([':', ' '] ++ ys)) = [xs ++ ':' :: ' ' :: ys] := by
    rw [piecesAfter_unbroken [] _ hx, piecesAfter_unbroken [] ys colon, last]
    simp [piecesAfter]
  exact congrArg tidy pieces

/-- The ends of a joined text in lower case, and what is left of it between them. -/
theorem exists_lower_colon {xs ys : List Char} (named : trim xs ≠ []) (told : trim ys ≠ []) :
    ∃ gap gap', (∀ c ∈ gap, isBlank c) ∧ (∀ c ∈ gap', isBlank c) ∧
      lower (trim (xs ++ ':' :: ' ' :: ys)) =
        trim (lower xs) ++ gap ++ ':' :: (gap' ++ lower (trim ys)) := by
  have lowered {cs : List Char} (some : trim cs ≠ []) : trim (lower cs) ≠ [] := by
    rw [trim_lower]
    exact (solid_trim some).lower.ne_nil
  obtain ⟨gap, gap', hgap, hgap', cut⟩ := exists_trim_colon (lowered named) (lowered told)
  refine ⟨gap, gap', hgap, hgap', ?_⟩
  rw [← trim_lower, lower_colon, cut, trim_lower ys]

/-- A sentence of two texts that a colon and a space join grants protection only if one of the
texts does. -/
theorem readProtection?_joined {xs ys : List Char} (hx : readProtection? (lower xs) = none)
    (hy : readProtection? (lower (trim ys)) = none) :
    readProtection? (lower (trim (xs ++ ':' :: ' ' :: ys))) = none := by
  rw [← trim_lower, readProtection?_trim] at hy ⊢
  rw [lower_colon]
  exact readProtection?_colon hx hy

/-- A timing in front of a clause on one line changes when the effect of the clause happens, and
nothing else but the text that it was read from.  A clause of several lines loses its timing. -/
theorem qualifier_attaches_on_one_line {q b : String} {e : Effect}
    (named : trim q.toList ≠ []) (plain : ':' ∉ q.toList)
    (whole : sentenceEnd.found q.toList = false) (bare : readProtection? (lower q.toList) = none)
    (single : ':' ∉ b.toList) (unbroken : sentenceEnd.found b.toList = false)
    (alone : (readAbility b).effects = [e]) (kind : e.kind ≠ .protection) :
    ('\n' ∉ trim b.toList → (readAbility (q ++ ": " ++ b)).effects = [{ e with
      timing := readTiming? (lower q.toList)
      oncePerTurn := holds (lower q.toList) "once per turn"
      text := String.ofList (trim (q ++ ": " ++ b).toList) }]) ∧
    ('\n' ∈ trim b.toList → (readAbility (q ++ ": " ++ b)).effects =
      ((readClause? (lower (trim (q ++ ": " ++ b).toList))).map fun lost => { lost with
        timing := none
        oncePerTurn := false
        text := String.ofList (trim (q ++ ": " ++ b).toList) }).toList) := by
  have joined : (q ++ ": " ++ b).toList = q.toList ++ ':' :: ' ' :: b.toList := by simp
  have once : Solid "once per turn".toList := ⟨by decide, by decide, by decide⟩
  obtain ⟨told, read⟩ := readSentence?_of_alone unbroken alone
  have single' : ':' ∉ trim b.toList := fun mem => single ((trim_isInfix _).mem mem)
  obtain ⟨bare', inner, clause, rfl⟩ := readSentence?_plain single' read kind
  obtain ⟨gap, gap', hgap, hgap', cut⟩ := exists_lower_colon named told
  have some : trim (lower q.toList) ++ gap ≠ [] := by
    rw [trim_lower]
    simp [(solid_trim named).lower.ne_nil]
  have plain' : ':' ∉ trim (lower q.toList) ++ gap := by
    rw [List.mem_append, not_or]
    exact ⟨fun mem => plain ((mem_lower (.inl rfl)).1 ((trim_isInfix _).mem mem)),
      fun mem => absurd (hgap _ mem) (by decide)⟩
  have solid := (solid_trim told).lower
  have apart : ':' ∉ lower (trim b.toList) := mt (mem_lower (.inl rfl)).1 single'
  have one : sentences (q ++ ": " ++ b).toList = tidy [(q ++ ": " ++ b).toList] := by
    rw [joined, sentences_colon whole unbroken]
  have left : trim (q ++ ": " ++ b).toList ≠ [] := by
    rw [joined]
    exact trim_ne_nil (List.mem_append_right _ List.mem_cons_self) (by decide)
  rw [effects_of_one one left, joined, readSentence?_bare (readProtection?_joined bare bare'), cut]
  constructor
  · intro line
    have line' : '\n' ∉ lower (trim b.toList) := mt (mem_lower (.inr (by decide))).1 line
    rw [qualify_line some plain' hgap' solid line', readTiming?_append_blanks hgap,
      holds_append_blanks once hgap]
    dsimp only
    rw [clause]
    rfl
  · intro lines
    have lines' : '\n' ∈ lower (trim b.toList) := (mem_lower (.inr (by decide))).2 lines
    rw [qualify_lines plain' hgap' solid apart lines']

/-- A card to draw, told on one line. -/
def Sample.draught : Effect where
  kind := .draw
  value := 1
  text := "Draw 1 card"

/-- A card to draw, told on two lines. -/
def Sample.scroll : Effect where
  kind := .draw
  value := 1
  text := "Draw 1 card\nfrom your deck"

/-- The draught comes with the summon.  The scroll does not, whatever stands in front of it. -/
theorem draught_comes_with_summon :
    (readAbility ("When summoned" ++ ": " ++ Sample.draught.text)).effects =
      [{ Sample.draught with timing := some .onSummon, text := "When summoned: Draw 1 card" }] ∧
    (readAbility ("When summoned" ++ ": " ++ Sample.scroll.text)).effects =
      [{ Sample.scroll with text := "When summoned: Draw 1 card\nfrom your deck" }] := by
  have named : trim "When summoned".toList ≠ [] := by decide
  have plain : ':' ∉ "When summoned".toList := by decide
  have whole : sentenceEnd.found "When summoned".toList = false := by decide +kernel
  have bare : readProtection? (lower "When summoned".toList) = none := by decide +kernel
  constructor
  · have alone : (readAbility Sample.draught.text).effects = [Sample.draught] := by decide +kernel
    have timed := (qualifier_attaches_on_one_line named plain whole bare
      (by decide) (by decide +kernel) alone nofun).1 (by decide)
    exact timed.trans (by decide +kernel)
  · have alone : (readAbility Sample.scroll.text).effects = [Sample.scroll] := by decide +kernel
    have lost := (qualifier_attaches_on_one_line named plain whole bare
      (by decide) (by decide +kernel) alone nofun).2 (by decide)
    exact lost.trans (by decide +kernel)

end CardText

end CardDuel
