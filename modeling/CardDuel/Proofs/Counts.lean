import CardDuel.Proofs.Clauses
import Mathlib.Algebra.Group.Nat.Defs

/-!
# How many targets

A clause may say how many cards it is about, and the effect keeps that number twice: as its value,
which has 63 bits, and as its number of targets, which has 32.  What does not fit is cut off, so
that the two differ from `2 ^ 32` on.  A clause that destroys keeps the number of targets only.

* `StandsAt`: a word stands by itself in a text.
* `writtenAt`: the number that is written at the start of a text.
* `search_destroyPhrase`: a destruction is read at the first "destroy" that is a word, and its
  number is what is written behind it.
* `counts_are_cut`: the number of targets of every effect.
-/

namespace CardDuel

open CardText Text

namespace Text

/-! ## Words that stand by themselves -/

variable {cs piece rest : List Char} {place last : Place} {c : Char}

/-- Whether every one of the ranges lies in one of the others.  Both ascend, so that one pass over
the others is enough. -/
def CharRanges.within (ranges : CharRanges) : CharRanges → Bool
  | [] => ranges.isEmpty
  | (first, last) :: others =>
    ranges.head?.all (first ≤ ·.1) &&
      CharRanges.within (ranges.dropWhile fun range => first ≤ range.1 && range.2 ≤ last) others

theorem CharRanges.holds_of_within {ranges others : CharRanges} (within : ranges.within others)
    (held : ranges.holds c) : others.holds c := by
  induction others generalizing ranges with
  | nil => rw [List.isEmpty_iff.1 within] at held; exact held
  | cons other others ih =>
    obtain ⟨first, last⟩ := other
    obtain ⟨above, within⟩ := Bool.and_eq_true_iff.1 within
    have left {ranges : CharRanges} (held : ranges.holds c) : c.toNat ≤ last ∨ CharRanges.holds
        (ranges.dropWhile fun range => first ≤ range.1 && range.2 ≤ last) c := by
      induction ranges with
      | nil => exact .inr held
      | cons range ranges ih =>
        rw [List.dropWhile_cons]
        split
        · next inside =>
          simp only [holds, Bool.and_eq_true, Bool.or_eq_true, decide_eq_true_eq] at held inside
          exact held.2.elim (fun below => .inl (below.trans inside.2)) ih
        · exact .inr held
    have start : first ≤ c.toNat := by
      cases ranges with
      | nil => cases held
      | cons range ranges =>
        simp only [holds, Bool.and_eq_true, decide_eq_true_eq] at held
        exact (of_decide_eq_true above).trans held.1
    simp only [holds, Bool.and_eq_true, Bool.or_eq_true, decide_eq_true_eq]
    exact ⟨start, (left held).imp_right (ih within)⟩

theorem isWordChar_of_isDigit (digit : isDigit c) : isWordChar c :=
  have within : digitRanges.within wordRanges := by decide +kernel
  CharRanges.holds_of_within within digit

/-- A piece of a word that ends where the word ends is the rest of the word. -/
theorem Place.Reads.eq_takeWhile (read : place.Reads piece last) (some : piece ≠ [])
    (all : ∀ c ∈ piece, isWordChar c) (ends : last.isEdge) :
    piece = place.rest.takeWhile isWordChar := by
  have inside : last.before.any isWordChar = true := by
    rw [read.before, List.getLast?_eq_some_getLast some]
    exact all _ (List.getLast_mem some)
  have outside : last.rest.head?.any isWordChar = false := by
    simpa [isEdge, inside] using ends
  rw [read.rest, List.takeWhile_append_of_pos all]
  cases behind : last.rest with
  | nil => simp
  | cons c cs =>
    rw [behind] at outside
    simp [List.takeWhile_cons_of_neg (by simpa using outside)]

/-- Where a word has been read to its end there is an edge. -/
theorem isEdge_of_word (before : Option Char) (some : piece ≠ []) (all : ∀ c ∈ piece, isWordChar c)
    (outside : rest.head?.any isWordChar = false) :
    Place.isEdge ⟨piece.getLast?.or before, rest⟩ := by
  rw [List.getLast?_eq_some_getLast some]
  simp [Place.isEdge, all _ (List.getLast_mem some), outside]

/-- The word stands by itself in the text, behind `front` and in front of `rest`. -/
structure StandsAt (word front rest cs : List Char) : Prop where
  split : cs = front ++ (word ++ rest)
  before : front.getLast?.any isWordChar = false
  after : rest.head?.any isWordChar = false

end Text

namespace CardText

variable {clause word front rest : List Char} {place last : Place} {way m : Way} {e : Effect}

/-! ## The number at the start of a text -/

/-- The words for a count. -/
def countWords : List (List Char) :=
  (["a", "an", "one", "two", "three", "four", "five"] : List String).map String.toList

/-- Whether a word says how many: digits, or one of the words for a count. -/
def saysCount (word : List Char) : Bool :=
  (!word.isEmpty && word.all isDigit) || countWords.contains word

/-- The number that a count says, however large. -/
def numberOf? (count : List Char) : Option Nat :=
  match String.ofList count with
  | "a" | "an" | "one" => some 1
  | "two" => some 2
  | "three" => some 3
  | "four" => some 4
  | "five" => some 5
  | _ => numeral? count

/-- The word that follows a space at the start of a text. -/
def nextWord : List Char → List Char
  | ' ' :: cs => cs.takeWhile isWordChar
  | _ => []

/-- The number that is written at the start of a text, perhaps after "up to": what its next word
says, if that says how many, and otherwise one. -/
def writtenAt (cs : List Char) : Option Nat :=
  let word := nextWord ((after? " up to".toList cs).getD cs)
  if saysCount word then numberOf? word else some 1

/-- A count is a number below `2 ^ 63`. -/
theorem countOf?_eq (count : List Char) :
    countOf? count = (numberOf? count).filter (· < 2 ^ 63) := by
  unfold countOf? numberOf?
  split <;> simp_all [amountOf?] <;> rfl

theorem isWordChar_of_saysCount (counts : saysCount word) :
    word ≠ [] ∧ ∀ c ∈ word, isWordChar c := by
  obtain digits | spelled := Bool.or_eq_true_iff.1 counts
  · obtain ⟨some, all⟩ := Bool.and_eq_true_iff.1 digits
    exact ⟨by simpa using some, fun c hc => isWordChar_of_isDigit (List.all_eq_true.1 all c hc)⟩
  · have all : ∀ word ∈ countWords, word ≠ [] ∧ word.all isWordChar := by decide +kernel
    exact (all word (List.contains_iff_mem.1 spelled)).imp_right List.all_eq_true.1

/-- What a count looks like. -/
def countForm : Pattern :=
  .alt .digits (.anyWord "a" ["an", "one", "two", "three", "four", "five"])

/-- A count is read where a word says how many. -/
theorem exists_countForm_iff :
    (∃ way ∈ countForm.run place, way.last = last) ↔
      ∃ word, saysCount word ∧ place.Reads word last := by
  have spelled : (∃ way ∈ (Pattern.anyWord "a" ["an", "one", "two", "three", "four", "five"]).run
        place, way.last = last) ↔ ∃ word ∈ countWords, place.Reads word last :=
    Pattern.exists_way_iff rfl
  have digits : (∃ way ∈ Pattern.digits.run place, way.last = last) ↔
      ∃ word, (1 ≤ word.length ∧ ∀ c ∈ word, isDigit c) ∧ place.Reads word last := by
    simp only [Pattern.digits, Pattern.run, List.mem_reverse, Pattern.mem_runs, and_assoc]
    constructor
    · rintro ⟨_, _, run, reached⟩
      exact reached ▸ run
    · intro run
      exact ⟨⟨[], last⟩, rfl, run, rfl⟩
  simp only [countForm, Pattern.mem_run_alt, or_and_right, exists_or, digits, spelled, saysCount,
    Bool.or_eq_true, List.contains_iff_mem]
  refine or_congr (exists_congr fun word => and_congr_left fun _ => ?_) Iff.rfl
  simp [List.length_pos_iff, Nat.succ_le_iff]

theorem marks_of_countForm (mem : way ∈ countForm.run place) : way.marks = [] := by
  refine List.eq_nil_iff_forall_not_mem.2 fun ⟨slot, first, last⟩ noted => ?_
  obtain ⟨-, inner, further, part, -⟩ := Pattern.exists_marked mem noted
  nomatch part

/-- A space and a count that is a whole word. -/
def countAhead : Pattern := .all [.word " ", .mark .count countForm, .edge]

/-- A count that is a whole word is the next word of the text. -/
theorem exists_of_countAhead (mem : way ∈ countAhead.run place) :
    saysCount (nextWord place.rest) ∧
      ∃ first, way.marks = [(.count, first, way.last)] ∧
        first.Reads (nextWord place.rest) way.last := by
  obtain ⟨m₁, space, m₂, way₁, rfl⟩ := Pattern.mem_run_seq.1 mem
  obtain ⟨unmarked, spaced⟩ := Pattern.mem_run_word.1 space
  obtain ⟨m₃, marked, m₄, edge, rfl⟩ := Pattern.mem_run_seq.1 way₁
  obtain ⟨ends, rfl⟩ := Pattern.mem_run_edge.1 edge
  obtain ⟨m₅, count, rfl⟩ := Pattern.mem_run_mark.1 marked
  obtain ⟨word, counts, read⟩ := exists_countForm_iff.1 ⟨m₅, count, rfl⟩
  obtain ⟨solid, all⟩ := isWordChar_of_saysCount counts
  obtain rfl : word = nextWord place.rest := by
    rw [read.eq_takeWhile solid all ends, spaced.rest]
    rfl
  exact ⟨counts, m₁.last, by simp [unmarked, marks_of_countForm count], read⟩

theorem countAhead_ne_nil (counts : saysCount (nextWord place.rest)) :
    countAhead.run place ≠ [] := by
  obtain ⟨solid, all⟩ := isWordChar_of_saysCount counts
  obtain ⟨before, cs⟩ := place
  obtain ⟨more, rfl⟩ : ∃ more, cs = ' ' :: more := by
    dsimp only at solid
    unfold nextWord at solid
    split at solid
    · exact ⟨_, rfl⟩
    · exact absurd rfl solid
  let first : Place := ⟨some ' ', more⟩
  let last : Place :=
    ⟨(more.takeWhile isWordChar).getLast?.or (some ' '), more.dropWhile isWordChar⟩
  have space : ⟨[], first⟩ ∈ (Pattern.word " ").run ⟨before, ' ' :: more⟩ :=
    Pattern.mem_run_word.2 ⟨rfl, rfl, rfl⟩
  have read : first.Reads (more.takeWhile isWordChar) last :=
    ⟨List.takeWhile_append_dropWhile.symm, rfl⟩
  obtain ⟨count, among, reached⟩ := exists_countForm_iff.2 ⟨_, counts, read⟩
  have ends : ⟨[], last⟩ ∈ Pattern.edge.run count.last := by
    rw [reached]
    exact Pattern.mem_run_edge.2 ⟨isEdge_of_word (some ' ') solid all (any_head?_dropWhile ..), rfl⟩
  exact List.ne_nil_of_mem (Pattern.mem_run_seq.2 ⟨_, space, _, Pattern.mem_run_seq.2
    ⟨_, Pattern.mem_run_mark.2 ⟨count, among, rfl⟩, _, ends, rfl⟩, rfl⟩)

/-- What is read in front of a place: the next word if it says how many, and nothing otherwise. -/
theorem exists_head?_run_count (place : Place) :
    ∃ way, ((Pattern.opt countAhead).run place).head? = some way ∧
      way.piece? .count =
        if saysCount (nextWord place.rest) then some (nextWord place.rest) else none := by
  rw [Pattern.opt, Pattern.run, List.head?_append]
  cases ways : (countAhead.run place).head? with
  | none =>
    have none : ¬ saysCount (nextWord place.rest) := fun counts =>
      countAhead_ne_nil counts (List.head?_eq_none_iff.1 ways)
    rw [if_neg none]
    exact ⟨_, rfl, rfl⟩
  | some way =>
    obtain ⟨counts, first, marks, read⟩ := exists_of_countAhead (List.mem_of_head? ways)
    rw [if_pos counts]
    exact ⟨way, rfl, by simp [Way.piece?, marks, read.textTo_eq]⟩

/-! ## Destroying -/

/-- A text that may be left out is read where it stands. -/
theorem head?_run_opt_word (text : String) (place : Place) :
    ((Pattern.opt (.word text)).run place).head? =
      some ⟨[], (place.after? text.toList).getD place⟩ := by
  cases read : place.after? text.toList <;> simp [Pattern.opt, Pattern.run, read]

theorem rest_getD_after? (piece : List Char) (place : Place) :
    ((place.after? piece).getD place).rest = (after? piece place.rest).getD place.rest := by
  rw [Place.after?]
  cases after? piece place.rest <;> rfl

/-- Where "destroy" stands by itself, its phrase reads the number behind it. -/
theorem exists_head?_run_destroy (read : (Place.atStart clause).Reads front place)
    (stands : StandsAt "destroy".toList front rest clause) :
    ∃ way, (destroyPhrase.run place).head? = some way ∧
      countOrOne? way = (writtenAt rest).filter (· < 2 ^ 63) := by
  obtain ⟨before, cs⟩ := place
  obtain rfl : before = front.getLast? := read.before.trans (Option.or_none ..)
  obtain rfl : cs = "destroy".toList ++ rest :=
    List.append_cancel_left (read.rest.symm.trans stands.split)
  let start : Place := ⟨front.getLast?, "destroy".toList ++ rest⟩
  let behind : Place := ⟨some 'y', rest⟩
  have opens : (Pattern.edge.run start).head? = some ⟨[], start⟩ := by
    have edge : start.isEdge := by
      change (front.getLast?.any isWordChar != isWordChar 'd') = true
      rw [stands.before]
      decide +kernel
    rw [Pattern.run, if_pos edge]
    rfl
  have word : ((Pattern.word "destroy").run start).head? = some ⟨[], behind⟩ := rfl
  have ends : (Pattern.edge.run behind).head? = some ⟨[], behind⟩ := by
    have edge : behind.isEdge := by
      change (isWordChar 'y' != rest.head?.any isWordChar) = true
      rw [stands.after]
      decide +kernel
    rw [Pattern.run, if_pos edge]
    rfl
  obtain ⟨way, count, piece⟩ :=
    exists_head?_run_count ((behind.after? " up to".toList).getD behind)
  refine ⟨_, head?_run_seq opens (head?_run_seq word (head?_run_seq ends
    (head?_run_seq (head?_run_opt_word " up to" behind) count))), ?_⟩
  change countOrOne? way = _
  rw [countOrOne?, piece, rest_getD_after?, writtenAt]
  by_cases counts : saysCount (nextWord ((after? " up to".toList rest).getD rest))
  · rw [if_pos counts, if_pos counts, ← countOf?_eq]
  · rw [if_neg counts, if_neg counts]
    rfl

/-- The phrase needs "destroy" as a word of its own. -/
theorem exists_standsAt (read : (Place.atStart clause).Reads front place)
    (mem : way ∈ destroyPhrase.run place) :
    ∃ rest, StandsAt "destroy".toList front rest clause := by
  obtain ⟨m₁, opens, m₂, way₁, -⟩ := Pattern.mem_run_seq.1 mem
  obtain ⟨before, rfl⟩ := Pattern.mem_run_edge.1 opens
  obtain ⟨m₃, word, m₄, way₂, -⟩ := Pattern.mem_run_seq.1 way₁
  obtain ⟨-, destroy⟩ := Pattern.mem_run_word.1 word
  obtain ⟨m₅, ends, -⟩ := Pattern.mem_run_seq.1 way₂
  obtain ⟨after, rfl⟩ := Pattern.mem_run_edge.1 ends
  refine ⟨m₃.last.rest, by rw [← destroy.rest, ← read.rest]; rfl, ?_, ?_⟩
  · have first : isWordChar 'd' = true := by decide +kernel
    have inside : place.rest.head?.any isWordChar = true := by
      rw [destroy.rest]
      exact first
    simpa [Place.isEdge, read.before, inside, Place.atStart] using before
  · have last : isWordChar 'y' = true := by decide +kernel
    simpa [Place.isEdge, destroy.before, last] using after

/-- A destruction is read where "destroy" first stands by itself. -/
theorem exists_of_destroyPhrase (found : destroyPhrase.search clause = some m) :
    ∃ front rest, StandsAt "destroy".toList front rest clause ∧
      (∀ front' rest', StandsAt "destroy".toList front' rest' clause →
        front.length ≤ front'.length) ∧
      countOrOne? m = (writtenAt rest).filter (· < 2 ^ 63) := by
  obtain ⟨front, place, read, preferred, first⟩ := Pattern.search_eq_some_iff.1 found
  obtain ⟨rest, stands⟩ := exists_standsAt read (List.mem_of_head? preferred)
  obtain ⟨way, preferred', number⟩ := exists_head?_run_destroy read stands
  obtain rfl := Option.some.inj (preferred'.symm.trans preferred)
  refine ⟨front, rest, stands, fun front' rest' stands' => Nat.le_of_not_lt fun short => ?_, number⟩
  have read' : (Place.atStart clause).Reads front'
      ⟨front'.getLast?, "destroy".toList ++ rest'⟩ :=
    ⟨stands'.split, (Option.or_none ..).symm⟩
  obtain ⟨way, earlier, -⟩ := exists_head?_run_destroy read' stands'
  rw [first _ _ read' short] at earlier
  nomatch earlier

/-! ## The number of targets -/

theorem targets_eq (count : Nat) : targets count = count % 2 ^ 32 := rfl

/-- A number is kept as a number of targets exactly if it has 32 bits. -/
theorem targets_eq_self_iff {count : Nat} : targets count = count ↔ count < 2 ^ 32 := by
  rw [targets_eq]
  exact ⟨fun same => same ▸ Nat.mod_lt _ (by decide), Nat.mod_eq_of_lt⟩

/-- A clause that destroys is read by the phrase for that. -/
theorem destroy_of_readClause (read : readClause? clause = some e) (kind : e.kind = .destroy) :
    ∃ m, destroyPhrase.search clause = some m ∧
      ∃ count, countOrOne? m = some count ∧ e.targetCount = targets count := by
  obtain modifier | ⟨action, among, m, found, made⟩ := cases_of_readClause read
  · rw [kind_of_modifier modifier] at kind
    nomatch kind
  · obtain rfl := (makes_of_action among made).destroy kind
    simp only [destroyAction, bind, Option.bind_eq_some_iff, pure, Option.some.injEq] at made
    obtain ⟨count, counted, rfl⟩ := made
    exact ⟨m, found, count, counted, rfl⟩

/-- A clause that takes cards by number keeps the number as its value. -/
theorem value_of_readClause (read : readClause? clause = some e)
    (kind : e.kind = .search ∨ e.kind = .toHand ∨ e.kind = .banish ∨ e.kind = .toGraveyard) :
    ∃ count : Nat, e.value = count ∧ e.targetCount = targets count := by
  obtain modifier | ⟨action, among, m, -, made⟩ := cases_of_readClause read
  · simp [kind_of_modifier modifier] at kind
  · exact (makes_of_action among made).counted kind

/-- The number of targets of an effect that takes cards by number, or that destroys, is the number
that its clause writes, cut off at 32 bits. -/
theorem counts_are_cut {text : String} (read : e ∈ (readAbility text).effects) :
    (e.kind = .search ∨ e.kind = .toHand ∨ e.kind = .banish ∨ e.kind = .toGraveyard →
      ∃ count : Nat, e.value = count ∧ e.targetCount = count % 2 ^ 32 ∧
        ((e.targetCount : Int) = e.value ↔ count < 2 ^ 32)) ∧
    (e.kind = .destroy → ∃ front rest count,
      StandsAt "destroy".toList front rest (qualify (lower e.text.toList)).clause ∧
      (∀ front' rest',
        StandsAt "destroy".toList front' rest' (qualify (lower e.text.toList)).clause →
          front.length ≤ front'.length) ∧
      writtenAt rest = some count ∧ e.targetCount = count % 2 ^ 32 ∧
        (e.targetCount = count ↔ count < 2 ^ 32)) := by
  obtain ⟨sentence, -, found⟩ := List.mem_filterMap.1 read
  rw [text_of_readSentence found]
  obtain ⟨protection, -, rfl⟩ | ⟨-, inner, clause, rfl⟩ := cases_of_readSentence found
  · exact ⟨by simp, nofun⟩
  · refine ⟨fun kind => ?_, fun kind => ?_⟩
    · obtain ⟨count, value, cut⟩ := value_of_readClause clause kind
      dsimp only
      rw [value, cut, Int.natCast_inj]
      exact ⟨count, rfl, targets_eq count, targets_eq_self_iff⟩
    · obtain ⟨m, found, count, counted, cut⟩ := destroy_of_readClause clause kind
      obtain ⟨front, rest, stands, first, number⟩ := exists_of_destroyPhrase found
      obtain ⟨written, -⟩ := Option.filter_eq_some_iff.1 (number.symm.trans counted)
      dsimp only
      rw [cut]
      exact ⟨front, rest, count, stands, first, written, targets_eq count, targets_eq_self_iff⟩

/-- Too many monsters to be destroyed. -/
def Sample.cataclysm : Effect where
  kind := .destroy
  value := 0
  targetCount := 1
  text := "Destroy 4294967297 target monsters"

/-- What the cataclysm writes takes 33 bits, and so all but one of its targets are cut off. -/
theorem cataclysm_is_cut :
    Sample.cataclysm ∈ (readAbility (Sample.cataclysm.text ++ ".")).effects ∧
    ∃ rest, StandsAt "destroy".toList [] rest
        (qualify (lower Sample.cataclysm.text.toList)).clause ∧
      writtenAt rest = some 4294967297 ∧ Sample.cataclysm.targetCount = 4294967297 % 2 ^ 32 ∧
      Sample.cataclysm.targetCount ≠ 4294967297 := by
  have read : Sample.cataclysm ∈ (readAbility (Sample.cataclysm.text ++ ".")).effects := by
    decide +kernel
  have whole : (qualify (lower Sample.cataclysm.text.toList)).clause =
      "destroy".toList ++ " 4294967297 target monsters".toList := by decide +kernel
  have here : StandsAt "destroy".toList [] " 4294967297 target monsters".toList
      (qualify (lower Sample.cataclysm.text.toList)).clause :=
    ⟨whole, rfl, by decide +kernel⟩
  obtain ⟨front, rest, count, stands, first, written, cut, same⟩ := (counts_are_cut read).2 rfl
  obtain rfl : front = [] := List.eq_nil_of_length_eq_zero (Nat.le_zero.1 (first _ _ here))
  obtain rfl : rest = " 4294967297 target monsters".toList :=
    List.append_cancel_left (stands.split.symm.trans whole)
  have number : writtenAt " 4294967297 target monsters".toList = some 4294967297 := by
    decide +kernel
  obtain rfl : count = 4294967297 := Option.some.inj (written.symm.trans number)
  exact ⟨read, _, stands, number, cut, fun kept => absurd (same.1 kept) (by decide)⟩

end CardText

end CardDuel
