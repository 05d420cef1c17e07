import CardDuel.Proofs.Orders

/-!
# Decrees read back

A decree changes the ATK of all monsters of a kind for as long as its card is in play.  Its phrase
reads the kind as free text and as little of it as will do, so that it has to be shown that nothing
shorter will: a kind of letters has no place where "-type" could stand.

* `append_cons_inj`: where a text is cut.
* `head?_run_kind`: a kind of letters is read to its end.
* `Decree`, `Decree.wording`, `Decree.effect`: the decrees, what is written and what is meant.
* `clauses_read_back`: the statement about orders and decrees.
-/

namespace CardDuel

open CardText Text

namespace Text

/-- A text that is cut at two characters, neither of which stands in front of the other, is cut at
one place. -/
theorem append_cons_inj {xs ys zs ws : List Char} {c d : Char}
    (same : xs ++ c :: zs = ys ++ d :: ws) (hc : c ∉ ys) (hd : d ∉ xs) :
    xs = ys ∧ c = d ∧ zs = ws := by
  induction xs generalizing ys with
  | nil =>
    cases ys with
    | nil => exact ⟨rfl, List.cons.inj same⟩
    | cons y ys => exact absurd ((List.cons.inj same).1 ▸ List.mem_cons_self) hc
  | cons x xs ih =>
    cases ys with
    | nil => exact absurd ((List.cons.inj same).1 ▸ List.mem_cons_self) hd
    | cons y ys =>
      obtain ⟨rfl, further⟩ := List.cons.inj same
      have hc' : c ∉ ys := mt (List.mem_cons_of_mem x) hc
      have hd' : d ∉ xs := mt (List.mem_cons_of_mem x) hd
      obtain ⟨rfl, rest⟩ := ih further hc' hd'
      exact ⟨rfl, rest⟩

/-- A letter is plain and has a small letter in lower case. -/
theorem letter_spec {c : Char} (letter : c.isAlpha) : Plain c ∧ isTypeLetter c.toLower := by
  have all : ∀ c ∈ CharRanges.chars [(65, 90), (97, 122)], Plain c ∧ isTypeLetter c.toLower :=
    forall_mem_of_all (by decide +kernel)
  refine all c (CharRanges.mem_chars ?_)
  obtain upper | lower := Bool.or_eq_true_iff.1 letter
  · obtain ⟨above, below⟩ := of_decide_eq_true upper
    have above : 65 ≤ c.toNat := above
    have below : c.toNat ≤ 90 := below
    simp [CharRanges.holds, above, below]
  · obtain ⟨above, below⟩ := Bool.and_eq_true_iff.1 lower
    have above : 97 ≤ c.toNat := of_decide_eq_true above
    have below : c.toNat ≤ 122 := of_decide_eq_true below
    have after : 65 ≤ c.toNat := by omega
    simp [CharRanges.holds, above, below, after]

end Text

namespace CardText

variable {number low tail : List Char} {n : Nat} {way : Way} {place : Place}

/-! ## Kinds -/

/-- The words that name a kind of monster in a standing change of ATK. -/
def kindPhrase : Pattern :=
  .all [.mark .condition (.seq (.one isTypeLetter) (.fewest 0 fun c => isTypeLetter c || c == ' ')),
    .one fun c => c == '-' || c == ' ', .word "type "]

theorem isTypeLetter_spec {c : Char} (letter : isTypeLetter c) : c ≠ '-' ∧ c ≠ ' ' := by
  constructor <;> rintro rfl <;> nomatch letter

/-- A kind of letters only is read to its end, however soon the phrase would stop. -/
theorem exists_of_mem_run_kind (letters : ∀ c ∈ low, isTypeLetter c)
    (here : place.rest = low ++ '-' :: tail) (mem : way ∈ kindPhrase.run place) :
    ∃ ends, way.marks = [(.condition, place, ends)] ∧ place.Reads low ends ∧
      ends.Reads "-type ".toList way.last := by
  obtain ⟨m₁, marked, m₂, way₁, rfl⟩ := Pattern.mem_run_seq.1 mem
  obtain ⟨m₃, name, rfl⟩ := Pattern.mem_run_mark.1 marked
  obtain ⟨m₄, initial, m₅, further, rfl⟩ := Pattern.mem_run_seq.1 name
  obtain ⟨plain₁, letter, isLetter, read⟩ := Pattern.mem_run_one.1 initial
  obtain ⟨plain₂, run, -, small, read'⟩ := Pattern.mem_runs.1 further
  obtain ⟨m₆, one, m₇, word, rfl⟩ := Pattern.mem_run_seq.1 way₁
  obtain ⟨plain₃, sep, isSep, cut⟩ := Pattern.mem_run_one.1 one
  obtain ⟨plain₄, type⟩ := Pattern.mem_run_word.1 word
  have whole : place.Reads (letter :: run) m₅.last := Place.reads_append.2 ⟨_, read, read'⟩
  have isSep : sep = '-' ∨ sep = ' ' := by simpa using isSep
  have other : sep ∉ low := fun mem => by
    obtain ⟨hyphen, space⟩ := isTypeLetter_spec (letters sep mem)
    exact isSep.elim hyphen space
  have apart : '-' ∉ letter :: run := by
    rintro (_ | ⟨_, mem⟩)
    · exact (isTypeLetter_spec isLetter).1 rfl
    · have among := small _ mem
      simp [isTypeLetter] at among
  have same : letter :: run ++ sep :: m₆.last.rest = low ++ '-' :: tail := by
    rw [← here, whole.rest, cut.rest]
    rfl
  obtain ⟨rfl, rfl, -⟩ := append_cons_inj same other apart
  exact ⟨m₅.last, by simp [plain₁, plain₂, plain₃, plain₄], whole,
    Place.reads_append.2 ⟨m₆.last, cut, type⟩⟩

/-- So the phrase for a kind reads it in one way only. -/
theorem head?_run_kind (before : Option Char) (named : low ≠ [])
    (letters : ∀ c ∈ low, isTypeLetter c) (rest : List Char) :
    (kindPhrase.run ⟨before, low ++ ("-type ".toList ++ rest)⟩).head? =
      some ⟨[(.condition, ⟨before, low ++ ("-type ".toList ++ rest)⟩,
        ⟨low.getLast?.or before, "-type ".toList ++ rest⟩)], some ' ', rest⟩ := by
  let place : Place := ⟨before, low ++ ("-type ".toList ++ rest)⟩
  let ends : Place := ⟨low.getLast?.or before, "-type ".toList ++ rest⟩
  obtain ⟨c, more, rfl⟩ := List.exists_cons_of_ne_nil named
  obtain ⟨first, further⟩ := List.forall_mem_cons.1 letters
  have read : place.Reads (c :: more) ends := ⟨rfl, rfl⟩
  have first : ⟨[], some c, more ++ ("-type ".toList ++ rest)⟩ ∈
      (Pattern.one isTypeLetter).run place :=
    Pattern.mem_run_one.2 ⟨rfl, c, first, rfl, rfl⟩
  have back : ends.before = more.getLast?.or (some c) := by
    cases more <;> simp [ends, List.getLast?_cons]
  have name : ⟨[], ends⟩ ∈ (Pattern.fewest 0 fun c => isTypeLetter c || c == ' ').run
      ⟨some c, more ++ ("-type ".toList ++ rest)⟩ :=
    Pattern.mem_runs.2
      ⟨rfl, more, Nat.zero_le _, fun d hd => by simp [further d hd], rfl, back⟩
  have sep : ⟨[], some '-', "type ".toList ++ rest⟩ ∈
      (Pattern.one fun c => c == '-' || c == ' ').run ends :=
    Pattern.mem_run_one.2 ⟨rfl, '-', rfl, rfl, rfl⟩
  have word : ⟨[], some ' ', rest⟩ ∈
      (Pattern.word "type ").run ⟨some '-', "type ".toList ++ rest⟩ :=
    Pattern.mem_run_word.2 ⟨rfl, rfl, rfl⟩
  have among : ⟨[(.condition, place, ends)], some ' ', rest⟩ ∈ kindPhrase.run place :=
    Pattern.mem_run_seq.2 ⟨_, Pattern.mem_run_mark.2 ⟨_, Pattern.mem_run_seq.2
      ⟨_, first, _, name, rfl⟩, rfl⟩, _, Pattern.mem_run_seq.2 ⟨_, sep, _, word, rfl⟩, rfl⟩
  cases preferred : (kindPhrase.run place).head? with
  | none =>
    rw [List.head?_eq_none_iff.1 preferred] at among
    nomatch among
  | some way =>
    obtain ⟨marks, last⟩ := way
    obtain ⟨ends', rfl, read', behind⟩ :=
      exists_of_mem_run_kind letters rfl (List.mem_of_head? preferred)
    obtain rfl := read.last_unique read'
    obtain rfl : ⟨some ' ', rest⟩ = last := Place.Reads.last_unique ⟨rfl, rfl⟩ behind
    rfl

/-! ## Standing changes of ATK -/

/-- The words that leave out the monsters of the other player. -/
def ownWords (own : Bool) : List Char := if own then " you control".toList else []

theorem search_modifier (named : low ≠ []) (letters : ∀ c ∈ low, isTypeLetter c)
    (digits : Digits number) (own loses : Bool) :
    ∃ m, modifierPhrase.search ("all ".toList ++ (low ++ ("-type ".toList ++ ("monsters".toList ++
        (ownWords own ++ (" ".toList ++ (directed loses ++ (" ".toList ++
          (number ++ " atk".toList))))))))) = some m ∧
      m.piece? .condition = some low ∧ (m.piece? .own).isSome = own ∧ Marks m loses number := by
  let change := directed loses ++ (" ".toList ++ (number ++ " atk".toList))
  have kind := head?_run_kind (some ' ') named letters
    ("monsters".toList ++ (ownWords own ++ (" ".toList ++ change)))
  obtain ⟨way, read, marks, unmarked⟩ :=
    exists_head?_run_change digits (some ' ') loses (.inr rfl) []
  cases own with
  | false =>
    have all : ((Pattern.opt (.mark .own (.word " you control"))).run
        ⟨some 's', " ".toList ++ change⟩).head? = some ⟨[], some 's', " ".toList ++ change⟩ := by
      cases loses <;> rfl
    exact ⟨_, Pattern.search_of_start (head?_run_seq rfl (head?_run_seq rfl (head?_run_seq
      (Pattern.head?_run_alt_left kind) (head?_run_seq rfl (head?_run_seq all
        (head?_run_seq rfl read)))))), congrArg some (Place.Reads.textTo_eq ⟨rfl, rfl⟩),
      congrArg Option.isSome unmarked, marks.direction, marks.amount⟩
  | true =>
    exact ⟨_, Pattern.search_of_start (head?_run_seq rfl (head?_run_seq rfl (head?_run_seq
      (Pattern.head?_run_alt_left kind) (head?_run_seq rfl (head?_run_seq rfl
        (head?_run_seq rfl read)))))), congrArg some (Place.Reads.textTo_eq ⟨rfl, rfl⟩),
      rfl, marks.direction, marks.amount⟩

/-- A standing change of ATK for all monsters of a kind, perhaps only for those of one player. -/
structure Decree where
  kind : String
  own : Bool
  loses : Bool

namespace Decree

/-- What is written between the kind and the number. -/
def words (own loses : Bool) : String :=
  "monsters" ++ (if own then " you control" else "") ++ if loses then " lose " else " gain "

/-- The decree with a number. -/
def wording (decree : Decree) (number : String) : String :=
  "All " ++ decree.kind ++ "-Type " ++ words decree.own decree.loses ++ number ++ " ATK"

/-- What is decreed, apart from the text. -/
def effect (decree : Decree) (n : Nat) : Effect where
  kind := .modifyAttack
  value := if decree.loses then -n else n
  continuous := true
  condition := some decree.kind.toLower
  reach := if decree.own then .controller else .field

variable {kind : List Char}

theorem words_eq (own loses : Bool) : (words own loses).toList =
    "monsters".toList ++ (ownWords own ++ (" ".toList ++ (directed loses ++ " ".toList))) := by
  cases own <;> cases loses <;> decide +kernel

theorem frame (letters : ∀ c ∈ kind, c.isAlpha) (own loses : Bool) :
    Frame ("All ".toList ++ (kind ++ ("-Type ".toList ++ (words own loses).toList)))
      " ATK".toList where
  opens := ⟨by simp, rfl⟩
  closes := ⟨by simp, rfl⟩
  plain := by
    simp only [List.forall_mem_append]
    have name : ∀ c ∈ kind, Plain c := fun c hc => (letter_spec (letters c hc)).1
    refine ⟨⟨forall_mem_of_all (by decide +kernel), name,
      forall_mem_of_all (by decide +kernel), ?_⟩, forall_mem_of_all (by decide +kernel)⟩
    cases own <;> cases loses <;> exact forall_mem_of_all (by decide +kernel)

/-- A decree in lower case, up to its number. -/
theorem map_toLower_front (own loses : Bool) :
    ("All ".toList ++ (kind ++ ("-Type ".toList ++ (words own loses).toList))).map Char.toLower =
      "all ".toList ++
        (kind.map Char.toLower ++ ("-type ".toList ++ (words own loses).toList)) := by
  have all : "All ".toList.map Char.toLower = "all ".toList := by decide +kernel
  have type : "-Type ".toList.map Char.toLower = "-type ".toList := by decide +kernel
  have same : (words own loses).toList.map Char.toLower = (words own loses).toList := by
    cases own <;> cases loses <;> decide +kernel
  simp only [List.map_append, all, type, same]

/-- What would grant protection has two spaces and no hyphen, and so it does not fit in front of
the hyphen of a decree. -/
theorem bare (letters : ∀ c ∈ low, isTypeLetter c) (digits : Digits number) (own loses : Bool) :
    readProtection? (("all ".toList ++ (low ++ ("-type ".toList ++ (words own loses).toList))) ++
      (number ++ " atk".toList)) = none := by
  refine readProtection?_eq_none.2 fun piece among within => ?_
  have shields : ∀ piece ∈ shieldTexts, '-' ∉ piece ∧ 2 ≤ piece.count ' ' := by decide +kernel
  obtain ⟨apart, spaces⟩ := shields piece among
  have split : ("all ".toList ++ (low ++ ("-type ".toList ++ (words own loses).toList))) ++
      (number ++ " atk".toList) = ("all ".toList ++ low) ++ '-' ::
        (("type ".toList ++ (words own loses).toList) ++ (number ++ " atk".toList)) := by
    simp
  rw [split] at within
  obtain within | within := infix_of_infix_append_cons apart within
  · have few : ("all ".toList ++ low).count ' ' = 1 := by
      have none : low.count ' ' = 0 := List.count_eq_zero.2 fun mem =>
        (isTypeLetter_spec (letters _ mem)).2 rfl
      rw [List.count_append, none]
      rfl
    have most := within.sublist.count_le ' '
    omega
  · refine not_infix_of_lacks digits ?_ within
    have missed : shieldTexts.all
        (lacks ("type ".toList ++ (words own loses).toList) " atk".toList) := by
      cases own <;> cases loses <;> decide +kernel
    exact List.all_eq_true.1 missed piece among

/-- In lower case a decree is read as what is decreed. -/
theorem readModifier?_decree {name : String} (named : name ≠ "")
    (letters : ∀ c ∈ name.toLower.toList, isTypeLetter c) (written : numeral? number = some n)
    (small : n < 2 ^ 63) (own loses : Bool) :
    readModifier? (("all ".toList ++ (name.toLower.toList ++
      ("-type ".toList ++ (words own loses).toList))) ++ (number ++ " atk".toList)) =
        some (effect ⟨name, own, loses⟩ n) := by
  have low : name.toList.map Char.toLower = name.toLower.toList := String.toList_map.symm
  have solid : name.toLower.toList ≠ [] := by
    rw [← low]
    simpa using named
  obtain ⟨m, found, condition, isOwn, marks⟩ :=
    search_modifier solid letters (digits_of_numeral? written) own loses
  have same : ("all ".toList ++ (name.toLower.toList ++
      ("-type ".toList ++ (words own loses).toList))) ++ (number ++ " atk".toList) =
      "all ".toList ++ (name.toLower.toList ++ ("-type ".toList ++ ("monsters".toList ++
        (ownWords own ++ (" ".toList ++ (directed loses ++ (" ".toList ++
          (number ++ " atk".toList)))))))) := by
    simp only [words_eq, List.append_assoc]
  have firm : Solid name.toLower.toList :=
    solid_of_firm solid fun c hc => isBlank_of_isTypeLetter (letters c hc)
  rw [same, readModifier?, found]
  simp only [marks.change?_eq, amountOf?_of_numeral? written, if_pos small,
    condition, isOwn, bind, Option.bind_some, pure, Option.map_some, firm.trim_eq,
    String.ofList_toList]
  rfl

/-- A decree reads back if its number has 63 bits. -/
theorem effects_of_decree (decree : Decree) {digits : String} (named : decree.kind ≠ "")
    (letters : ∀ c ∈ decree.kind.toList, c.isAlpha) (written : numeral? digits.toList = some n)
    (small : n < 2 ^ 63) :
    (readAbility (decree.wording digits)).effects =
      [{ decree.effect n with text := decree.wording digits }] := by
  have number := digits_of_numeral? written
  obtain ⟨name, own, loses⟩ := decree
  have low : name.toList.map Char.toLower = name.toLower.toList := String.toList_map.symm
  have lows : ∀ c ∈ name.toLower.toList, isTypeLetter c := by
    rw [← low]
    exact List.forall_mem_map.2 fun c hc => (letter_spec (letters c hc)).2
  have whole : (wording ⟨name, own, loses⟩ digits).toList = ("All ".toList ++ (name.toList ++
      ("-Type ".toList ++ (words own loses).toList))) ++ (digits.toList ++ " ATK".toList) := by
    simp [wording]
  rw [(frame letters own loses).effects number whole (low ▸ map_toLower_front own loses)
    (by decide +kernel) (bare lows number own loses), readClause?,
    readModifier?_decree named lows written small]
  rfl

end Decree

/-- Every order and every decree reads back: with a number of 63 bits as what it orders and nothing
else, and an order with a larger number as nothing at all. -/
theorem clauses_read_back :
    (∀ n, numeral? (toString n).toList = some n) ∧
    (∀ (order : Order) (digits : String) (n : Nat), numeral? digits.toList = some n →
      (readAbility (order.wording digits)).effects =
        if n < 2 ^ 63 then [{ order.effect n with text := order.wording digits }] else []) ∧
    (∀ (decree : Decree) (digits : String) (n : Nat), decree.kind ≠ "" →
      (∀ c ∈ decree.kind.toList, c.isAlpha) → numeral? digits.toList = some n → n < 2 ^ 63 →
        (readAbility (decree.wording digits)).effects =
          [{ decree.effect n with text := decree.wording digits }]) :=
  ⟨numeral?_toString, fun order _ _ => effects_of_order order,
    fun decree _ _ => decree.effects_of_decree⟩

/-- A loss of ATK for the turn, with a number that starts with a zero. -/
def Sample.swoon : Effect where
  kind := .modifyAttack
  value := -450
  targetsSelf := true
  untilEndOfTurn := true
  text := "This card loses 0450 ATK until end of turn"

/-- A gain of ATK for the dragons of one player. -/
def Sample.crest : Effect where
  kind := .modifyAttack
  value := 500
  continuous := true
  condition := some "dragon"
  reach := .controller
  text := "All Dragon-Type monsters you control gain 500 ATK"

/-- The swoon and the crest are read back, and an order to draw `2 ^ 63` cards is none. -/
theorem swoon_reads_back :
    (readAbility Sample.swoon.text).effects = [Sample.swoon] ∧
    (readAbility Sample.crest.text).effects = [Sample.crest] ∧
    (readAbility "Draw 9223372036854775808 cards").effects = [] := by
  obtain ⟨-, orders, decrees⟩ := clauses_read_back
  refine ⟨?_, ?_, ?_⟩
  · exact (orders (.change true true) "0450" 450 (by decide +kernel)).trans (by decide +kernel)
  · have letters : ∀ c ∈ "Dragon".toList, c.isAlpha := forall_mem_of_all (by decide +kernel)
    exact (decrees ⟨"Dragon", true, false⟩ "500" 500 (by decide) letters (by decide +kernel)
      (by decide)).trans (by decide +kernel)
  · exact (orders .draw "9223372036854775808" (2 ^ 63) (by decide +kernel)).trans
      (by decide +kernel)

end CardText

end CardDuel
