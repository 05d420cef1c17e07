import CardDuel.Text.Pattern.Lemmas
import Mathlib.Data.List.Infix

/-!
# What a way through a pattern has read

`Pattern.run` lists places and marks.  A reader of card text wants to know what stands between
them: which piece a way has read, what may be in a piece that it has marked, and whether a pattern
that is made of words only can be found in a text.

* `Place.Reads`: a piece leads from one place of a text to another.
* `Pattern.exists_reads`: every way reads a piece of the text.
* `Pattern.exists_marked`: a marked piece was read by a part of the pattern that is marked so.
* `Pattern.found_iff_infix`: a plain pattern is found where one of its texts occurs.
-/

namespace CardDuel.Text

variable {cs piece more rest : List Char} {property : Char → Bool} {before : Option Char} {c : Char}
  {place first middle last : Place} {way : Way} {slot : Slot} {p : Pattern}

/-! ## Occurrences -/

theorem after?_eq_some : after? piece cs = some rest ↔ cs = piece ++ rest := by
  induction piece generalizing cs with
  | nil => exact Option.some_inj
  | cons p ps ih =>
    cases cs with
    | nil => simp [after?]
    | cons c cs =>
      by_cases same : p = c
      · subst same
        simp [after?, ih]
      · simp [after?, same, Ne.symm same]

theorem isSome_after? : (after? piece cs).isSome = true ↔ piece <+: cs := by
  simp only [Option.isSome_iff_exists, after?_eq_some, List.IsPrefix]
  exact exists_congr fun _ => eq_comm

theorem mentions_iff : mentions piece cs = true ↔ piece <:+: cs := by
  induction cs with
  | nil => simp [mentions]
  | cons c cs ih => rw [mentions, Bool.or_eq_true, isSome_after?, ih, List.infix_cons_iff]

/-! ## Places -/

/-- Reading `piece` leads from one place of a text to the other. -/
structure Place.Reads (first : Place) (piece : List Char) (last : Place) : Prop where
  rest : first.rest = piece ++ last.rest
  before : last.before = piece.getLast?.or first.before

namespace Place

theorem reads_nil : first.Reads [] last ↔ last = first := by
  obtain ⟨before, rest⟩ := first
  obtain ⟨before', rest'⟩ := last
  constructor
  · rintro ⟨rest_eq, before_eq⟩
    exact mk.injEq .. ▸ ⟨before_eq, rest_eq.symm⟩
  · rintro ⟨⟩
    exact ⟨rfl, rfl⟩

theorem reads_cons :
    (⟨before, cs⟩ : Place).Reads (c :: piece) last ↔
      ∃ tail, cs = c :: tail ∧ (⟨some c, tail⟩ : Place).Reads piece last := by
  have step : ((c :: piece).getLast?).or before = piece.getLast?.or (some c) := by
    cases piece <;> simp [List.getLast?_cons]
  constructor
  · rintro ⟨rest, front⟩
    exact ⟨piece ++ last.rest, rest, rfl, front.trans step⟩
  · rintro ⟨_, rfl, rest, front⟩
    exact ⟨congrArg (c :: ·) rest, front.trans step.symm⟩

theorem reads_append :
    first.Reads (piece ++ more) last ↔
      ∃ middle, first.Reads piece middle ∧ middle.Reads more last := by
  constructor
  · rintro ⟨rest, before⟩
    exact ⟨⟨piece.getLast?.or first.before, more ++ last.rest⟩,
      ⟨by rw [rest, List.append_assoc], rfl⟩,
      ⟨rfl, by rw [before, List.getLast?_append, Option.or_assoc]⟩⟩
  · rintro ⟨middle, h, h'⟩
    exact ⟨by rw [h.rest, h'.rest, List.append_assoc],
      by rw [h'.before, h.before, List.getLast?_append, Option.or_assoc]⟩

theorem Reads.isSuffix (h : first.Reads piece last) : last.rest <:+ first.rest :=
  ⟨piece, h.rest.symm⟩

theorem Reads.unique (h : first.Reads piece last) (h' : first.Reads more last) : piece = more :=
  List.append_cancel_right (h.rest.symm.trans h'.rest)

theorem Reads.last_unique {last' : Place} (h : first.Reads piece last)
    (h' : first.Reads piece last') : last = last' := by
  obtain ⟨before, rest⟩ := last
  obtain ⟨before', rest'⟩ := last'
  rw [mk.injEq]
  exact ⟨h.before.trans h'.before.symm, List.append_cancel_left (h.rest.symm.trans h'.rest)⟩

theorem Reads.textTo_eq (h : first.Reads piece last) : first.textTo last = piece := by
  simp [textTo, h.rest]

theorem after?_eq_some : place.after? piece = some last ↔ place.Reads piece last := by
  obtain ⟨back, rest⟩ := last
  simp only [after?, Option.map_eq_some_iff, Text.after?_eq_some, mk.injEq]
  constructor
  · rintro ⟨_, read, rfl, rfl⟩
    exact ⟨read, rfl⟩
  · rintro ⟨read, front⟩
    exact ⟨rest, read, front.symm, rfl⟩

end Place

/-- The places of a text are what is reached by reading from its start. -/
theorem mem_places : place ∈ places before cs ↔ ∃ piece, Place.Reads ⟨before, cs⟩ piece place := by
  induction cs generalizing before with
  | nil =>
    constructor
    · rintro mem
      exact ⟨[], Place.reads_nil.2 (List.mem_singleton.1 mem)⟩
    · rintro ⟨_ | ⟨c, piece⟩, read⟩
      · exact List.mem_singleton.2 (Place.reads_nil.1 read)
      · nomatch read.rest
  | cons c cs ih =>
    rw [places, List.mem_cons, ih]
    constructor
    · rintro (rfl | ⟨piece, read⟩)
      · exact ⟨[], Place.reads_nil.2 rfl⟩
      · exact ⟨c :: piece, Place.reads_cons.2 ⟨cs, rfl, read⟩⟩
    · rintro ⟨_ | ⟨d, piece⟩, read⟩
      · exact .inl (Place.reads_nil.1 read)
      · obtain ⟨_, ⟨⟩, further⟩ := Place.reads_cons.1 read
        exact .inr ⟨piece, further⟩

/-- The first place with an answer is the one that nothing shorter leads to. -/
theorem findSome?_places {α : Type} {f : Place → Option α} {answer : α} :
    (places before cs).findSome? f = some answer ↔
      ∃ piece place, Place.Reads ⟨before, cs⟩ piece place ∧ f place = some answer ∧
        ∀ piece' place', Place.Reads ⟨before, cs⟩ piece' place' → piece'.length < piece.length →
          f place' = none := by
  induction cs generalizing before with
  | nil =>
    simp only [places, List.findSome?_cons, List.findSome?_nil]
    constructor
    · intro here
      refine ⟨[], ⟨before, []⟩, Place.reads_nil.2 rfl, ?_,
        fun _ _ _ short => absurd short (Nat.not_lt_zero _)⟩
      cases found : f ⟨before, []⟩ <;> simp_all
    · rintro ⟨piece, place, read, here, -⟩
      cases piece with
      | nil => rw [← Place.reads_nil.1 read, here]
      | cons c piece => cases read.rest
  | cons c cs ih =>
    rw [places, List.findSome?_cons]
    cases here : f ⟨before, c :: cs⟩ with
    | some first =>
      constructor
      · rintro ⟨⟩
        exact ⟨[], _, Place.reads_nil.2 rfl, here,
          fun _ _ _ short => absurd short (Nat.not_lt_zero _)⟩
      · rintro ⟨piece, place, read, there, shorter⟩
        cases piece with
        | nil =>
          rw [Place.reads_nil.1 read, here] at there
          exact there
        | cons d piece =>
          have none := shorter [] _ (Place.reads_nil.2 rfl) (Nat.zero_lt_succ _)
          rw [here] at none
          cases none
    | none =>
      refine ih.trans ⟨?_, ?_⟩
      · rintro ⟨piece, place, read, there, shorter⟩
        refine ⟨c :: piece, place, Place.reads_cons.2 ⟨cs, rfl, read⟩, there, ?_⟩
        rintro (_ | ⟨d, piece'⟩) place' read' short
        · rw [Place.reads_nil.1 read', here]
        · obtain ⟨_, ⟨⟩, further⟩ := Place.reads_cons.1 read'
          exact shorter piece' place' further (Nat.lt_of_succ_lt_succ short)
      · rintro ⟨_ | ⟨d, piece⟩, place, read, there, shorter⟩
        · rw [Place.reads_nil.1 read, here] at there
          cases there
        · obtain ⟨_, ⟨⟩, further⟩ := Place.reads_cons.1 read
          refine ⟨piece, place, further, there, fun piece' place' read' short => ?_⟩
          exact shorter (c :: piece') place' (Place.reads_cons.2 ⟨cs, rfl, read'⟩)
            (Nat.succ_lt_succ short)

/-- A run reaches the places behind characters with the property. -/
theorem mem_reach : place ∈ reach property before cs ↔
    ∃ run, (∀ c ∈ run, property c) ∧ Place.Reads ⟨before, cs⟩ run place := by
  induction cs generalizing before with
  | nil =>
    constructor
    · rintro mem
      exact ⟨[], nofun, Place.reads_nil.2 (List.mem_singleton.1 mem)⟩
    · rintro ⟨_ | ⟨c, run⟩, -, read⟩
      · exact List.mem_singleton.2 (Place.reads_nil.1 read)
      · nomatch read.rest
  | cons c cs ih =>
    rw [reach, List.mem_cons]
    constructor
    · rintro (rfl | further)
      · exact ⟨[], nofun, Place.reads_nil.2 rfl⟩
      · split at further
        · next held =>
          obtain ⟨run, all, read⟩ := ih.1 further
          exact ⟨c :: run, List.forall_mem_cons.2 ⟨held, all⟩,
            Place.reads_cons.2 ⟨cs, rfl, read⟩⟩
        · cases further
    · rintro ⟨_ | ⟨d, run⟩, all, read⟩
      · exact .inl (Place.reads_nil.1 read)
      · obtain ⟨_, ⟨⟩, further⟩ := Place.reads_cons.1 read
        obtain ⟨held, all⟩ := List.forall_mem_cons.1 all
        rw [if_pos held]
        exact .inr (ih.2 ⟨run, all, further⟩)

namespace Pattern

/-! ## The ways through each kind of pattern -/

theorem mem_run_word {text : String} :
    way ∈ (word text).run place ↔ way.marks = [] ∧ place.Reads text.toList way.last := by
  obtain ⟨marks, last⟩ := way
  rw [run, ← Place.after?_eq_some]
  cases place.after? text.toList <;> simp [eq_comm]

theorem mem_run_one :
    way ∈ (one property).run place ↔
      way.marks = [] ∧ ∃ c, property c ∧ place.Reads [c] way.last := by
  obtain ⟨marks, last⟩ := way
  obtain ⟨before, _ | ⟨c, cs⟩⟩ := place
  · simp [run, Place.reads_cons]
  · by_cases held : property c
    · simp [run, held, Place.reads_cons, Place.reads_nil]
    · simp [run, held, Place.reads_cons, Place.reads_nil]

/-- The ways through a run are the runs that are long enough. -/
theorem mem_runs {least : Nat} :
    way ∈ runs least property place ↔ way.marks = [] ∧
      ∃ run, least ≤ run.length ∧ (∀ c ∈ run, property c) ∧ place.Reads run way.last := by
  obtain ⟨marks, last⟩ := way
  obtain ⟨before, cs⟩ := place
  have reached : last ∈ (reach property before cs).drop least ↔
      ∃ run, least ≤ run.length ∧ (∀ c ∈ run, property c) ∧ Place.Reads ⟨before, cs⟩ run last := by
    induction least generalizing before cs with
    | zero => simp [mem_reach]
    | succ least ih =>
      cases cs with
      | nil =>
        simp only [reach, List.drop_succ_cons, List.drop_nil, List.not_mem_nil, false_iff]
        rintro ⟨_ | ⟨c, run⟩, long, -, read⟩
        · cases long
        · cases read.rest
      | cons c cs =>
        rw [reach, List.drop_succ_cons]
        constructor
        · intro among
          split at among
          · next held =>
            obtain ⟨run, long, all, read⟩ := (ih (some c) cs).1 among
            exact ⟨c :: run, Nat.succ_le_succ long, List.forall_mem_cons.2 ⟨held, all⟩,
              Place.reads_cons.2 ⟨cs, rfl, read⟩⟩
          · simp at among
        · rintro ⟨_ | ⟨d, run⟩, long, all, read⟩
          · cases long
          · obtain ⟨_, ⟨⟩, further⟩ := Place.reads_cons.1 read
            obtain ⟨held, all⟩ := List.forall_mem_cons.1 all
            rw [if_pos held]
            exact (ih (some c) cs).2 ⟨run, Nat.le_of_succ_le_succ long, all, further⟩
  rw [← reached, runs, List.mem_map]
  constructor
  · rintro ⟨_, among, ⟨⟩⟩
    exact ⟨rfl, among⟩
  · rintro ⟨rfl, among⟩
    exact ⟨last, among, rfl⟩

theorem exists_run_of_mem_runs {least : Nat} (mem : way ∈ runs least property place) :
    way.marks = [] ∧ ∃ run, (∀ c ∈ run, property c) ∧ place.Reads run way.last := by
  obtain ⟨unmarked, run, -, all, read⟩ := mem_runs.1 mem
  exact ⟨unmarked, run, all, read⟩

theorem mem_run_seq {first second : Pattern} :
    way ∈ (first.seq second).run place ↔
      ∃ m ∈ first.run place, ∃ n ∈ second.run m.last, ⟨m.marks ++ n.marks, n.last⟩ = way := by
  simp [run]

theorem mem_run_alt {first second : Pattern} :
    way ∈ (first.alt second).run place ↔ way ∈ first.run place ∨ way ∈ second.run place := by
  simp [run]

theorem mem_run_mark {p : Pattern} :
    way ∈ (mark slot p).run place ↔
      ∃ m ∈ p.run place, ⟨(slot, place, m.last) :: m.marks, m.last⟩ = way := by
  simp [run]

theorem mem_run_edge : way ∈ edge.run place ↔ place.isEdge ∧ way = ⟨[], place⟩ := by
  simp [run]

theorem mem_run_start : way ∈ start.run place ↔ place.before = none ∧ way = ⟨[], place⟩ := by
  simp [run]

theorem mem_run_finish : way ∈ finish.run place ↔ place.rest = [] ∧ way = ⟨[], place⟩ := by
  simp [run]

/-! ## What a way has read -/

/-- Every way reads a piece of the text. -/
theorem exists_reads (mem : way ∈ p.run place) : ∃ piece, place.Reads piece way.last := by
  induction p generalizing place way with
  | empty =>
    exact ⟨[], Place.reads_nil.2 (congrArg Way.last (List.mem_singleton.1 mem))⟩
  | edge | start | finish =>
    rw [run, List.mem_ite_nil_right, List.mem_singleton] at mem
    exact ⟨[], Place.reads_nil.2 (congrArg Way.last mem.2)⟩
  | word text => exact ⟨_, (mem_run_word.1 mem).2⟩
  | one property =>
    obtain ⟨-, c, -, read⟩ := mem_run_one.1 mem
    exact ⟨_, read⟩
  | most least property =>
    obtain ⟨-, run, -, read⟩ := exists_run_of_mem_runs (List.mem_reverse.1 mem)
    exact ⟨run, read⟩
  | fewest least property =>
    obtain ⟨-, run, -, read⟩ := exists_run_of_mem_runs mem
    exact ⟨run, read⟩
  | seq first second ih₁ ih₂ =>
    obtain ⟨m, hm, n, hn, rfl⟩ := mem_run_seq.1 mem
    obtain ⟨piece, read⟩ := ih₁ hm
    obtain ⟨more, further⟩ := ih₂ hn
    exact ⟨piece ++ more, Place.reads_append.2 ⟨m.last, read, further⟩⟩
  | alt first second ih₁ ih₂ =>
    obtain mem | mem := mem_run_alt.1 mem
    · exact ih₁ mem
    · exact ih₂ mem
  | mark slot inner ih =>
    obtain ⟨m, hm, rfl⟩ := mem_run_mark.1 mem
    obtain ⟨piece, read⟩ := ih hm
    exact ⟨piece, read⟩

/-- The parts of a pattern whose pieces are marked with the slot, each with what has to follow its
piece. -/
def marked (slot : Slot) : Pattern → List (Pattern × Pattern)
  | .seq first second =>
    (first.marked slot).map (fun (inner, further) => (inner, .seq further second)) ++
      second.marked slot
  | .alt first second => first.marked slot ++ second.marked slot
  | .mark other inner =>
    if other = slot then (inner, .empty) :: inner.marked slot else inner.marked slot
  | _ => []

/-- A piece that a way has marked was read by a part of the pattern that is marked so, and the way
went on from its end. -/
theorem exists_marked (mem : way ∈ p.run place) (noted : (slot, first, last) ∈ way.marks) :
    first.rest <:+ place.rest ∧ ∃ inner further, (inner, further) ∈ p.marked slot ∧
      (∃ m ∈ inner.run first, m.last = last) ∧ ∃ n ∈ further.run last, n.last = way.last := by
  induction p generalizing place way with
  | empty =>
    obtain rfl := List.mem_singleton.1 mem
    nomatch noted
  | edge | start | finish =>
    rw [run, List.mem_ite_nil_right, List.mem_singleton] at mem
    obtain ⟨-, rfl⟩ := mem
    nomatch noted
  | word text => simp [(mem_run_word.1 mem).1] at noted
  | one property => simp [(mem_run_one.1 mem).1] at noted
  | most least property =>
    simp [(exists_run_of_mem_runs (List.mem_reverse.1 mem)).1] at noted
  | fewest least property => simp [(exists_run_of_mem_runs mem).1] at noted
  | seq left right ih₁ ih₂ =>
    obtain ⟨m, hm, n, hn, rfl⟩ := mem_run_seq.1 mem
    obtain ⟨piece, read⟩ := exists_reads hm
    obtain noted | noted := List.mem_append.1 noted
    · obtain ⟨within, inner, further, part, made, k, hk, goes⟩ := ih₁ hm noted
      refine ⟨within, inner, .seq further right,
        List.mem_append_left _ (List.mem_map.2 ⟨_, part, rfl⟩), made, ?_⟩
      exact ⟨⟨k.marks ++ n.marks, n.last⟩, mem_run_seq.2 ⟨k, hk, n, goes ▸ hn, rfl⟩, rfl⟩
    · obtain ⟨within, inner, further, part, made⟩ := ih₂ hn noted
      exact ⟨within.trans read.isSuffix, inner, further, List.mem_append_right _ part, made⟩
  | alt left right ih₁ ih₂ =>
    obtain mem | mem := mem_run_alt.1 mem
    · obtain ⟨within, inner, further, part, made⟩ := ih₁ mem noted
      exact ⟨within, inner, further, List.mem_append_left _ part, made⟩
    · obtain ⟨within, inner, further, part, made⟩ := ih₂ mem noted
      exact ⟨within, inner, further, List.mem_append_right _ part, made⟩
  | mark other inner ih =>
    obtain ⟨m, hm, rfl⟩ := mem_run_mark.1 mem
    rw [marked]
    obtain ⟨⟩ | ⟨_, noted⟩ := noted
    · rw [if_pos rfl]
      exact ⟨List.suffix_refl _, inner, .empty, List.mem_cons_self, ⟨m, hm, rfl⟩,
        ⟨[], m.last⟩, List.mem_singleton_self _, rfl⟩
    · obtain ⟨within, part, further, among, made⟩ := ih hm noted
      refine ⟨within, part, further, ?_, made⟩
      split
      · exact List.mem_cons_of_mem _ among
      · exact among

/-! ## Searching -/

/-- A search answers the preferred way at the first place that has one. -/
theorem search_eq_some_iff : p.search cs = some way ↔
    ∃ front place, Place.Reads (.atStart cs) front place ∧ (p.run place).head? = some way ∧
      ∀ front' place', Place.Reads (.atStart cs) front' place' → front'.length < front.length →
        p.run place' = [] := by
  simp only [search_eq, findSome?_places, List.head?_eq_none_iff]
  rfl

theorem exists_of_search (found : p.search cs = some way) :
    ∃ front place, Place.Reads (.atStart cs) front place ∧ (p.run place).head? = some way := by
  obtain ⟨front, place, read, first, -⟩ := search_eq_some_iff.1 found
  exact ⟨front, place, read, first⟩

/-- A match at the start of a text is the first of all. -/
theorem search_of_start (first : (p.run (.atStart cs)).head? = some way) :
    p.search cs = some way := by
  change (p.run ⟨none, cs⟩).head? = some way at first
  rw [search_eq]
  cases cs <;> simp [places, first]

theorem found_iff : p.found cs = true ↔
    ∃ front place, Place.Reads (.atStart cs) front place ∧ p.run place ≠ [] := by
  rw [found, search_eq, List.findSome?_isSome_iff]
  constructor
  · rintro ⟨place, among, some⟩
    obtain ⟨front, read⟩ := mem_places.1 among
    exact ⟨front, place, read, by rintro none; simp [none] at some⟩
  · rintro ⟨front, place, read, some⟩
    exact ⟨place, mem_places.2 ⟨front, read⟩, by simpa using some⟩

/-- The piece that a search answers for a slot occurs in the text, read by a part of the pattern
that is marked so, and what has to follow it does. -/
theorem exists_piece (found : p.search cs = some way) (named : way.piece? slot = some piece) :
    ∃ inner further, (inner, further) ∈ p.marked slot ∧ ∃ first, first.rest <:+ cs ∧
      ∃ m ∈ inner.run first, first.Reads piece m.last ∧ further.run m.last ≠ [] := by
  obtain ⟨front, place, read, preferred⟩ := exists_of_search found
  obtain ⟨⟨slot', first, last⟩, noted, rfl⟩ := Option.map_eq_some_iff.1 named
  obtain rfl : slot' = slot := by simpa using List.find?_some noted
  obtain ⟨within, inner, further, part, ⟨m, made, rfl⟩, n, goes, -⟩ :=
    exists_marked (List.mem_of_head? preferred) (List.mem_of_find?_eq_some noted)
  obtain ⟨piece, reads⟩ := exists_reads made
  refine ⟨inner, further, part, first, within.trans read.isSuffix, m, made, ?_,
    List.ne_nil_of_mem goes⟩
  change first.Reads (first.textTo m.last) m.last
  rwa [reads.textTo_eq]

/-! ## Plain patterns -/

/-- Whether the pattern is made of words only. -/
def isPlain : Pattern → Bool
  | .empty | .word _ => true
  | .seq first second | .alt first second => first.isPlain && second.isPlain
  | _ => false

/-- The texts of a plain pattern, in its order of preference. -/
def texts : Pattern → List (List Char)
  | .word text => [text.toList]
  | .seq first second => first.texts.flatMap fun front => second.texts.map (front ++ ·)
  | .alt first second => first.texts ++ second.texts
  | _ => [[]]

/-- A plain pattern reads its texts and nothing else. -/
theorem exists_way_iff (plain : p.isPlain) :
    (∃ way ∈ p.run place, way.last = last) ↔ ∃ text ∈ p.texts, place.Reads text last := by
  induction p generalizing place last with
  | empty => simp [run, texts, Place.reads_nil, eq_comm]
  | word text =>
    simp only [mem_run_word, texts, List.mem_singleton, exists_eq_left]
    constructor
    · rintro ⟨way, ⟨-, read⟩, rfl⟩
      exact read
    · intro read
      exact ⟨⟨[], last⟩, ⟨rfl, read⟩, rfl⟩
  | seq left right ih₁ ih₂ =>
    obtain ⟨plain₁, plain₂⟩ := Bool.and_eq_true_iff.1 plain
    simp only [texts, List.mem_flatMap, List.mem_map]
    constructor
    · rintro ⟨_, mem, rfl⟩
      obtain ⟨m, hm, n, hn, rfl⟩ := mem_run_seq.1 mem
      obtain ⟨front, among, read⟩ := (ih₁ plain₁).1 ⟨m, hm, rfl⟩
      obtain ⟨back, among', further⟩ := (ih₂ plain₂).1 ⟨n, hn, rfl⟩
      exact ⟨_, ⟨front, among, back, among', rfl⟩, Place.reads_append.2 ⟨m.last, read, further⟩⟩
    · rintro ⟨_, ⟨front, among, back, among', rfl⟩, read⟩
      obtain ⟨middle, read, further⟩ := Place.reads_append.1 read
      obtain ⟨m, hm, rfl⟩ := (ih₁ plain₁).2 ⟨front, among, read⟩
      obtain ⟨n, hn, rfl⟩ := (ih₂ plain₂).2 ⟨back, among', further⟩
      exact ⟨_, mem_run_seq.2 ⟨m, hm, n, hn, rfl⟩, rfl⟩
  | alt left right ih₁ ih₂ =>
    obtain ⟨plain₁, plain₂⟩ := Bool.and_eq_true_iff.1 plain
    simp only [mem_run_alt, texts, List.mem_append, or_and_right, exists_or, ih₁ plain₁,
      ih₂ plain₂]
  | one | most | fewest | mark | edge | start | finish => exact absurd plain Bool.false_ne_true

/-- What a way through a plain pattern has read is one of its texts. -/
theorem mem_texts (plain : p.isPlain) (mem : way ∈ p.run place)
    (read : place.Reads piece way.last) : piece ∈ p.texts := by
  obtain ⟨text, among, read'⟩ := (exists_way_iff plain).1 ⟨way, mem, rfl⟩
  rwa [read.unique read']

/-- A plain pattern is found where one of its texts occurs. -/
theorem found_iff_infix (plain : p.isPlain) :
    p.found cs = true ↔ ∃ text ∈ p.texts, text <:+: cs := by
  rw [found_iff]
  constructor
  · rintro ⟨front, place, read, some⟩
    obtain ⟨way, mem⟩ := List.exists_mem_of_ne_nil _ some
    obtain ⟨text, among, further⟩ := (exists_way_iff plain).1 ⟨way, mem, rfl⟩
    refine ⟨text, among, front, way.last.rest, ?_⟩
    rw [List.append_assoc, ← further.rest, ← read.rest]
    rfl
  · rintro ⟨text, among, front, back, split⟩
    obtain ⟨place, read, further⟩ : ∃ place, (Place.atStart cs).Reads front place ∧
        place.Reads text ⟨(front ++ text).getLast?, back⟩ :=
      Place.reads_append.1 ⟨split.symm, by simp [Place.atStart]⟩
    obtain ⟨way, mem, -⟩ := (exists_way_iff plain).2 ⟨text, among, further⟩
    exact ⟨front, place, read, List.ne_nil_of_mem mem⟩

end Pattern

end CardDuel.Text
