import CardDuel.Proofs.Clauses
import CardDuel.Proofs.Phrases
import Mathlib.Algebra.Group.Nat.Defs

/-!
# Orders read back

There is one plain way to order each thing that a card can do by number: to draw, to discard, to
deal damage, to gain or lose ATK.  Whoever writes it with whatever number gets that effect with
that number and no other, as long as the number has 63 bits, and with a larger one nothing at all.

A clause is searched for one phrase after the other, most of them anywhere in it.  So each order is
two facts: the phrases that come first are missed for want of a word, and its own is read up to the
last digit.

* `Plain`, `Frame`: characters that change nothing, and what is written around a number with them.
* `readClause?_of_found`: a clause around a number is read by the first phrase that is found.
* `Order`, `Order.wording`, `Order.effect`: the orders, what is written and what is meant.
* `search_of_order`: for each order its phrase, and why no other comes first.
* `effects_of_order`: an order reads back.
-/

namespace CardDuel

open CardText Text

namespace Text

variable {number cs : List Char} {c : Char}

/-! ## Plain characters -/

/-- A printable ASCII character that ends no sentence and cuts no clause. -/
structure Plain (c : Char) : Prop where
  ascii : 32 ≤ c.toNat ∧ c.toNat ≤ 126
  stop : isStop c = false
  colon : c ≠ ':'

instance (c : Char) : Decidable (Plain c) :=
  decidable_of_iff ((32 ≤ c.toNat ∧ c.toNat ≤ 126) ∧ isStop c = false ∧ c ≠ ':')
    ⟨fun ⟨ascii, stop, colon⟩ => ⟨ascii, stop, colon⟩, fun h => ⟨h.ascii, h.stop, h.colon⟩⟩

theorem Plain.lower (plain : Plain c) : lowerChar c = [c.toLower] ∧ c ≠ '\u03A3' := by
  have all : ∀ c ∈ CharRanges.chars [(32, 126)], lowerChar c = [c.toLower] ∧ c ≠ '\u03A3' :=
    forall_mem_of_all (by decide +kernel)
  refine all c (CharRanges.mem_chars ?_)
  simp [CharRanges.holds, plain.ascii]

/-- Plain characters go to lower case one by one. -/
theorem lower_plain (plain : ∀ c ∈ cs, Plain c) : lower cs = cs.map Char.toLower := by
  have sigma : '\u03A3' ∉ cs := fun mem => (plain _ mem).lower.2 rfl
  rw [lower_eq_flatMap sigma, List.map_eq_flatMap]
  exact List.flatMap_congr fun c hc => (plain c hc).lower.1

theorem digit_spec (digit : c.isDigit) : Plain c ∧ isDigit c ∧ c.toLower = c := by
  have all : ∀ c ∈ CharRanges.chars [(48, 57)], Plain c ∧ isDigit c ∧ c.toLower = c :=
    forall_mem_of_all (by decide +kernel)
  refine all c (CharRanges.mem_chars ?_)
  obtain ⟨above, below⟩ := Bool.and_eq_true_iff.1 digit
  have above : 48 ≤ c.toNat := of_decide_eq_true above
  have below : c.toNat ≤ 57 := of_decide_eq_true below
  simp [CharRanges.holds, above, below]

theorem Digits.plain (digits : Digits number) : ∀ c ∈ number, Plain c :=
  fun c hc => (digit_spec (digits.all c hc)).1

theorem Digits.isDigit (digits : Digits number) : ∀ c ∈ number, isDigit c :=
  fun c hc => (digit_spec (digits.all c hc)).2.1

/-- Digits have no lower case. -/
theorem Digits.map_toLower (digits : Digits number) : number.map Char.toLower = number :=
  (List.map_congr_left fun c hc => (digit_spec (digits.all c hc)).2.2).trans (List.map_id number)

end Text

namespace CardText

variable {clause lead tail number word : List Char} {n : Nat} {m : Way}

/-! ## Texts that are one clause -/

theorem sentences_of_plain (plain : ∀ c ∈ clause, Plain c) : sentences clause = tidy [clause] := by
  refine sentences_unbroken (Bool.eq_false_iff.2 fun found => ?_)
  obtain ⟨front, place, read, some⟩ := Pattern.found_iff.1 found
  obtain ⟨way, mem⟩ := List.exists_mem_of_ne_nil _ some
  obtain ⟨m, hm, -⟩ := Pattern.mem_run_seq.1 mem
  obtain ⟨-, run, long, stops, reads⟩ := Pattern.mem_runs.1 (List.mem_reverse.1 hm)
  obtain ⟨c, run, rfl⟩ := List.exists_cons_of_length_pos long
  have among : c ∈ clause := by
    have whole : clause = front ++ place.rest := read.rest
    rw [whole, reads.rest]
    simp
  have stop := stops c List.mem_cons_self
  rw [(plain c among).stop] at stop
  cases stop

/-- The effect of a text without marks and colons that grants no protection. -/
theorem effects_of_clause {text : String} (solid : Solid text.toList)
    (plain : ∀ c ∈ text.toList, Plain c) (bare : readProtection? (lower text.toList) = none) :
    (readAbility text).effects = ((readClause? (lower text.toList)).map fun effect => { effect with
      timing := none, oncePerTurn := false, text := text }).toList := by
  have some : trim text.toList ≠ [] := by rw [solid.trim_eq]; exact solid.ne_nil
  have apart : ':' ∉ lower text.toList := fun mem =>
    (plain _ ((mem_lower (.inl rfl)).1 mem)).colon rfl
  rw [effects_of_one (sentences_of_plain plain) some, solid.trim_eq, readSentence?_bare bare,
    qualify_plain apart, String.ofList_toList]

/-- What can stand around a number in a text that is one clause. -/
structure Frame (front back : List Char) : Prop where
  opens : front ≠ [] ∧ front.head?.any isBlank = false
  closes : back ≠ [] ∧ back.getLast?.any isBlank = false
  plain : (∀ c ∈ front, Plain c) ∧ ∀ c ∈ back, Plain c

namespace Frame

variable {front back : List Char} {text : String}

theorem solid (frame : Frame front back) (number : List Char) :
    Solid (front ++ (number ++ back)) where
  ne_nil := by simp [frame.opens.1]
  head := by rw [List.head?_append_of_ne_nil _ frame.opens.1, frame.opens.2]
  last := by
    rw [← List.append_assoc, List.getLast?_append_of_ne_nil _ frame.closes.1, frame.closes.2]

theorem plain_around (frame : Frame front back) (digits : Digits number) :
    ∀ c ∈ front ++ (number ++ back), Plain c := by
  simp only [List.forall_mem_append]
  exact ⟨frame.plain.1, digits.plain, frame.plain.2⟩

/-- A number in its frame is one clause. -/
theorem effects (frame : Frame front back) (digits : Digits number)
    (whole : text.toList = front ++ (number ++ back)) (lead_eq : front.map Char.toLower = lead)
    (tail_eq : back.map Char.toLower = tail)
    (bare : readProtection? (lead ++ (number ++ tail)) = none) :
    (readAbility text).effects =
      ((readClause? (lead ++ (number ++ tail))).map fun effect => { effect with
        timing := none, oncePerTurn := false, text := text }).toList := by
  have plain : ∀ c ∈ text.toList, Plain c := whole ▸ frame.plain_around digits
  have low : lower text.toList = lead ++ (number ++ tail) := by
    rw [lower_plain plain, whole, List.map_append, List.map_append, digits.map_toLower, lead_eq,
      tail_eq]
  rw [effects_of_clause (whole ▸ frame.solid number) plain (low ▸ bare), low]

end Frame

/-! ## Clauses around a number -/

/-- Whether a word has no digits and stands neither in front of a number nor behind it. -/
def lacks (lead tail word : List Char) : Bool :=
  word.all (!·.isDigit) && !mentions word lead && !mentions word tail

theorem not_infix_of_lacks (digits : Digits number) (absent : lacks lead tail word) :
    ¬ word <:+: lead ++ (number ++ tail) := by
  simp only [lacks, Bool.and_eq_true, Bool.not_eq_true', ← Bool.not_eq_true, mentions_iff] at absent
  obtain ⟨⟨other, front⟩, behind⟩ := absent
  rw [infix_around_iff digits.ne_nil (digits.apart other), not_or]
  exact ⟨front, behind⟩

theorem readAction?_append {earlier : List Action} (later : List Action)
    (missed : ∀ action ∈ earlier, action.phrase.search clause = none) :
    readAction? clause (earlier ++ later) = readAction? clause later := by
  induction earlier with
  | nil => rfl
  | cons action earlier ih =>
    obtain ⟨first, missed⟩ := List.forall_mem_cons.1 missed
    rw [List.cons_append, readAction?, first, ih missed]

/-- A clause around a number is read by an action whose phrase is found, if the phrases that come
earlier need words that it lacks. -/
theorem readClause?_of_found (digits : Digits number) {action : Action} (place : Nat)
    (there : actions[place]? = some action)
    (standing : modifierPhrase.needs (lacks lead tail))
    (missed : (actions.take place).all (·.phrase.needs (lacks lead tail)))
    (found : action.phrase.search (lead ++ (number ++ tail)) = some m) :
    readClause? (lead ++ (number ++ tail)) = action.effect (lead ++ (number ++ tail)) m := by
  have unfound {phrase : Pattern} (needed : phrase.needs (lacks lead tail)) :
      phrase.search (lead ++ (number ++ tail)) = none :=
    Pattern.search_eq_none_of_needs (fun _ => not_infix_of_lacks digits) needed
  have modifier : readModifier? (lead ++ (number ++ tail)) = none := by
    rw [readModifier?, unfound standing]
    rfl
  have earlier : ∀ action ∈ actions.take place,
      action.phrase.search (lead ++ (number ++ tail)) = none := fun action among =>
    unfound (List.all_eq_true.1 missed action among)
  have split : actions = actions.take place ++ action :: actions.drop (place + 1) := by
    obtain ⟨within, same⟩ := List.getElem?_eq_some_iff.1 there
    rw [← same, ← List.drop_eq_getElem_cons within, List.take_append_drop]
  rw [readClause?, modifier, Option.none_or, split, readAction?_append _ earlier, readAction?,
    found]

/-- No protection is read in a clause around a number that lacks the first word for it. -/
theorem readProtection?_around (digits : Digits number) (missed : lacks lead tail "cannot".toList) :
    readProtection? (lead ++ (number ++ tail)) = none := by
  refine readProtection?_eq_none.2 fun piece among within => not_infix_of_lacks digits missed ?_
  have all : ∀ piece ∈ shieldTexts, "cannot".toList <+: piece := by decide +kernel
  exact (all piece among).isInfix.trans within

/-! ## Numbers in their phrases -/

theorem head?_run_digits (digits : Digits number) (before : Option Char)
    (stop : tail.head?.any isDigit = false) :
    (Pattern.digits.run ⟨before, number ++ tail⟩).head? =
      some ⟨[], number.getLast?.or before, tail⟩ :=
  head?_run_most before (List.length_pos_iff.2 digits.ne_nil) digits.isDigit stop

theorem head?_run_count (digits : Digits number) (before : Option Char)
    (stop : tail.head?.any isDigit = false) :
    (countPhrase.run ⟨before, number ++ tail⟩).head? =
      some ⟨[(.count, ⟨before, number ++ tail⟩, ⟨number.getLast?.or before, tail⟩)],
        number.getLast?.or before, tail⟩ :=
  head?_run_mark (Pattern.head?_run_alt_left (head?_run_digits digits before stop))

theorem head?_run_amount (digits : Digits number) (before : Option Char)
    (stop : tail.head?.any isDigit = false) :
    (amountPhrase.run ⟨before, number ++ tail⟩).head? =
      some ⟨[(.amount, ⟨before, number ++ tail⟩, ⟨number.getLast?.or before, tail⟩)],
        number.getLast?.or before, tail⟩ :=
  head?_run_mark (head?_run_digits digits before stop)

/-- Digits say how many as they say how much. -/
theorem countOf?_digits (digits : Digits number) : countOf? number = amountOf? number := by
  have other {word : String} (letters : word.toList.any (!·.isDigit)) :
      String.ofList number ≠ word := by
    rintro rfl
    obtain ⟨c, among, letter⟩ := List.any_eq_true.1 letters
    rw [String.toList_ofList] at among
    simp [digits.all c among] at letter
  unfold countOf?
  split
  case h_8 => rfl
  all_goals
    next same => exact absurd same (other rfl)

/-- A number of 63 bits is an amount, and no larger one is. -/
theorem amountOf?_of_numeral? (written : numeral? number = some n) :
    amountOf? number = if n < 2 ^ 63 then some n else none := by
  rw [amountOf?, written, Option.filter_some]
  simp

theorem holds_around (digits : Digits number) {words : String}
    (letters : words.toList.all (!·.isDigit)) :
    holds (lead ++ (number ++ tail)) words =
      (mentions words.toList lead || mentions words.toList tail) :=
  mentions_around digits.ne_nil (digits.apart letters)

/-- A plain phrase without digits is found in front of a number or behind it. -/
theorem found_around (digits : Digits number) {p : Pattern} (plain : p.isPlain)
    (letters : p.texts.all (·.all (!·.isDigit))) :
    p.found (lead ++ (number ++ tail)) =
      p.texts.any fun text => mentions text lead || mentions text tail := by
  rw [Bool.eq_iff_iff, Pattern.found_iff_infix plain, List.any_eq_true]
  refine exists_congr fun text => and_congr_right fun among => ?_
  have apart := digits.apart (List.all_eq_true.1 letters text among)
  rw [← mentions_around digits.ne_nil apart, mentions_iff]

/-! ## Orders -/

/-- What a clause can order by number. -/
inductive Order where
  | draw
  | discard
  | mill
  | deal
  | gain
  | opponentDiscards
  | opponentMills
  /-- A change of ATK of the card itself, for good or until the turn ends. -/
  | change (loses untilEnd : Bool)
  deriving DecidableEq, Repr

namespace Order

/-- What is written in front of the number. -/
def front : Order → String
  | draw => "Draw "
  | discard => "Discard "
  | mill => "Mill "
  | deal => "Deal "
  | gain => "Gain "
  | opponentDiscards => "Your opponent discards "
  | opponentMills => "Send the top "
  | change false _ => "This card gains "
  | change true _ => "This card loses "

/-- What is written behind the number. -/
def back : Order → String
  | draw | discard | mill | opponentDiscards => " cards"
  | deal => " damage"
  | gain => " LP"
  | opponentMills => " cards of your opponent's deck to the graveyard"
  | change _ false => " ATK"
  | change _ true => " ATK until end of turn"

/-- The order with a number. -/
def wording (order : Order) (number : String) : String := order.front ++ number ++ order.back

/-- What is ordered, apart from the text. -/
def effect : Order → Nat → Effect
  | draw, n => { kind := .draw, value := n }
  | discard, n => { kind := .discard, value := n }
  | mill, n => { kind := .mill, value := n }
  | deal, n => { kind := .damage, value := n }
  | gain, n => { kind := .gainLife, value := n }
  | opponentDiscards, n => { kind := .discard, value := n, againstOpponent := true }
  | opponentMills, n => { kind := .mill, value := n, againstOpponent := true }
  | change loses untilEnd, n => {
      kind := .modifyAttack
      value := if loses then -n else n
      targetsSelf := true
      untilEndOfTurn := untilEnd }

/-- What stands in front of the number in lower case. -/
def lowFront (order : Order) : List Char := order.front.toList.map Char.toLower

/-- What stands behind the number in lower case. -/
def lowBack (order : Order) : List Char := order.back.toList.map Char.toLower

end Order

/-! The phrases of the orders are read piece by piece.  What is written out is read by computation,
whatever the number is, and only the number needs an argument. -/

theorem search_draw (digits : Digits number) :
    ∃ m, drawPhrase.search ("draw ".toList ++ (number ++ " cards".toList)) = some m ∧
      m.piece? .count = some number := by
  have read := head?_run_count digits (some ' ') (rfl : " cards".toList.head?.any isDigit = false)
  exact ⟨_, Pattern.search_of_start (head?_run_seq rfl (head?_run_seq rfl (head?_run_seq rfl
    (head?_run_seq rfl (head?_run_seq read (head?_run_seq rfl rfl)))))),
    congrArg some (Place.Reads.textTo_eq ⟨rfl, rfl⟩)⟩

theorem search_discard (digits : Digits number) :
    ∃ m, discardPhrase.search ("discard ".toList ++ (number ++ " cards".toList)) = some m ∧
      m.piece? .count = some number := by
  have read := head?_run_count digits (some ' ') (rfl : " cards".toList.head?.any isDigit = false)
  exact ⟨_, Pattern.search_of_start (head?_run_seq rfl (head?_run_seq rfl (head?_run_seq rfl
    (head?_run_seq rfl (head?_run_seq read (head?_run_seq rfl (head?_run_seq rfl rfl))))))),
    congrArg some (Place.Reads.textTo_eq ⟨rfl, rfl⟩)⟩

theorem search_discards (digits : Digits number) :
    ∃ m, discardPhrase.search
        ("your opponent ".toList ++ ("discards ".toList ++ (number ++ " cards".toList))) = some m ∧
      m.piece? .count = some number := by
  have read := head?_run_count digits (some ' ') (rfl : " cards".toList.head?.any isDigit = false)
  exact ⟨_, Pattern.search_of_front (by decide +kernel) (head?_run_seq rfl (head?_run_seq rfl
    (head?_run_seq rfl (head?_run_seq rfl (head?_run_seq read (head?_run_seq rfl
      (head?_run_seq rfl rfl))))))), congrArg some (Place.Reads.textTo_eq ⟨rfl, rfl⟩)⟩

theorem search_mill (digits : Digits number) :
    ∃ m, millPhrase.search ("mill ".toList ++ (number ++ " cards".toList)) = some m ∧
      m.piece? .count = some number ∧ m.piece? .whose = none := by
  have read := head?_run_count digits (some ' ') (rfl : " cards".toList.head?.any isDigit = false)
  exact ⟨_, Pattern.search_of_start (head?_run_seq rfl (Pattern.head?_run_alt_right rfl
    (head?_run_seq rfl read))), congrArg some (Place.Reads.textTo_eq ⟨rfl, rfl⟩), rfl⟩

theorem search_send (digits : Digits number) :
    ∃ m, millPhrase.search ("send the top ".toList ++
        (number ++ " cards of your opponent's deck to the graveyard".toList)) = some m ∧
      m.piece? .count = some number ∧ m.piece? .whose = some "your opponent's".toList := by
  have read := head?_run_count digits (some ' ')
    (rfl : " cards of your opponent's deck to the graveyard".toList.head?.any isDigit = false)
  exact ⟨_, Pattern.search_of_start (head?_run_seq rfl (Pattern.head?_run_alt_left
    (head?_run_seq rfl (head?_run_seq read (head?_run_seq rfl (head?_run_seq rfl (head?_run_seq rfl
      (head?_run_seq rfl rfl)))))))), congrArg some (Place.Reads.textTo_eq ⟨rfl, rfl⟩), rfl⟩

theorem search_deal (digits : Digits number) :
    ∃ m, damagePhrase.search ("deal ".toList ++ (number ++ " damage".toList)) = some m ∧
      m.piece? .amount = some number := by
  have read := head?_run_amount digits (some ' ') (rfl : " damage".toList.head?.any isDigit = false)
  exact ⟨_, Pattern.search_of_start (head?_run_seq rfl (head?_run_seq rfl (head?_run_seq rfl
    (head?_run_seq read (head?_run_seq rfl (head?_run_seq rfl rfl)))))),
    congrArg some (Place.Reads.textTo_eq ⟨rfl, rfl⟩)⟩

theorem search_gain (digits : Digits number) :
    ∃ m, gainLifePhrase.search ("gain ".toList ++ (number ++ " lp".toList)) = some m ∧
      m.piece? .amount = some number := by
  have read := head?_run_amount digits (some ' ') (rfl : " lp".toList.head?.any isDigit = false)
  exact ⟨_, Pattern.search_of_start (head?_run_seq rfl (head?_run_seq rfl (head?_run_seq rfl
    (head?_run_seq rfl (head?_run_seq read (head?_run_seq rfl (head?_run_seq rfl rfl))))))),
    congrArg some (Place.Reads.textTo_eq ⟨rfl, rfl⟩)⟩

/-- A direction as it is written of many monsters; of a single card it has an ending. -/
def directed (loses : Bool) : List Char := if loses then "lose".toList else "gain".toList

/-- The end of a phrase for a change of ATK. -/
def changePhrase : Pattern := .all [gainPhrase, .word " ", amountPhrase, .word " atk"]

/-- What a way through such a phrase has marked. -/
structure Marks (way : Way) (loses : Bool) (number : List Char) : Prop where
  direction : way.piece? .direction = some (directed loses)
  amount : way.piece? .amount = some number

theorem Marks.change?_eq {loses : Bool} (marks : Marks m loses number) :
    change? m = (amountOf? number).map fun n => if loses then -(n : Int) else n := by
  simp only [change?, marks.amount, marks.direction, bind, Option.bind_some]
  cases loses <;> cases amountOf? number <;> rfl

theorem exists_head?_run_change (digits : Digits number) (before : Option Char) (loses : Bool)
    {ending : List Char} (either : ending = "s".toList ∨ ending = []) (more : List Char) :
    ∃ way, (changePhrase.run ⟨before, directed loses ++ (ending ++ (" ".toList ++
        (number ++ (" atk".toList ++ more))))⟩).head? = some way ∧ Marks way loses number ∧
      way.piece? .own = none := by
  have amount := head?_run_amount digits (some ' ')
    (rfl : (" atk".toList ++ more).head?.any isDigit = false)
  cases loses <;> obtain rfl | rfl := either
  all_goals
    exact ⟨_, head?_run_seq rfl (head?_run_seq rfl (head?_run_seq amount rfl)),
      ⟨congrArg some (Place.Reads.textTo_eq ⟨rfl, rfl⟩),
        congrArg some (Place.Reads.textTo_eq ⟨rfl, rfl⟩)⟩, rfl⟩

theorem search_change (digits : Digits number) (loses : Bool) (more : List Char) :
    ∃ m, changeAttackPhrase.search ("this card ".toList ++ ((directed loses ++ "s ".toList) ++
        (number ++ (" atk".toList ++ more)))) = some m ∧ Marks m loses number := by
  obtain ⟨way, read, marks, -⟩ :=
    exists_head?_run_change digits (some ' ') loses (.inl rfl) more
  have edge : (Pattern.edge.run ⟨"this card ".toList.getLast?, (directed loses ++ "s ".toList) ++
      (number ++ (" atk".toList ++ more))⟩).head? = some ⟨[], some ' ', directed loses ++
        ("s".toList ++ (" ".toList ++ (number ++ (" atk".toList ++ more))))⟩ := by
    cases loses <;> rfl
  have late : changeAttackPhrase.startsLate ("this card ".toList ++ (directed loses ++ "s ".toList))
      "this card ".toList.length := by
    cases loses <;> decide +kernel
  exact ⟨_, Pattern.search_of_front late (head?_run_seq edge read), marks.direction, marks.amount⟩

/-! ## Reading orders -/

/-- The phrase of an order is found in it, the phrases in front of that one are missed, and what is
made of it is what was ordered. -/
theorem search_of_order (digits : Digits number) (order : Order) :
    ∃ place action m, actions[place]? = some action ∧
      (actions.take place).all (·.phrase.needs (lacks order.lowFront order.lowBack)) ∧
      action.phrase.search (order.lowFront ++ (number ++ order.lowBack)) = some m ∧
      action.effect (order.lowFront ++ (number ++ order.lowBack)) m =
        (amountOf? number).map order.effect := by
  have spelled : countOf? number = amountOf? number := countOf?_digits digits
  cases order with
  | draw =>
    obtain ⟨m, found, count⟩ := search_draw digits
    refine ⟨0, drawAction, m, rfl, rfl, found, ?_⟩
    simp only [drawAction, count, spelled, bind, Option.bind_some, pure]
    cases amountOf? number <;> rfl
  | discard =>
    obtain ⟨m, found, count⟩ := search_discard digits
    refine ⟨1, discardAction, m, rfl, by decide +kernel, found, ?_⟩
    simp only [discardAction, count, spelled, bind, Option.bind_some, pure]
    rw [holds_around digits rfl, holds_around digits rfl]
    cases amountOf? number <;> rfl
  | opponentDiscards =>
    obtain ⟨m, found, count⟩ := search_discards digits
    refine ⟨1, discardAction, m, rfl, by decide +kernel, found, ?_⟩
    simp only [discardAction, count, spelled, bind, Option.bind_some, pure]
    rw [holds_around digits rfl, holds_around digits rfl]
    cases amountOf? number <;> rfl
  | mill =>
    obtain ⟨m, found, count, whose⟩ := search_mill digits
    refine ⟨2, millAction, m, rfl, by decide +kernel, found, ?_⟩
    simp only [millAction, count, whose, spelled, bind, Option.bind_some, pure]
    cases amountOf? number <;> rfl
  | opponentMills =>
    obtain ⟨m, found, count, whose⟩ := search_send digits
    refine ⟨2, millAction, m, rfl, by decide +kernel, found, ?_⟩
    simp only [millAction, count, whose, spelled, bind, Option.bind_some, pure]
    cases amountOf? number <;> rfl
  | deal =>
    obtain ⟨m, found, amount⟩ := search_deal digits
    refine ⟨4, damageAction, m, rfl, by decide +kernel, found, ?_⟩
    simp only [damageAction, amount, bind, Option.bind_some, pure]
    cases amountOf? number <;> rfl
  | gain =>
    obtain ⟨m, found, amount⟩ := search_gain digits
    refine ⟨5, gainLifeAction, m, rfl, by decide +kernel, found, ?_⟩
    simp only [gainLifeAction, amount, bind, Option.bind_some, pure]
    cases amountOf? number <;> rfl
  | change loses untilEnd =>
    let more := if untilEnd then " until end of turn".toList else []
    obtain ⟨m, found, marks⟩ := search_change digits loses more
    have front : (Order.change loses untilEnd).lowFront =
        "this card ".toList ++ (directed loses ++ "s ".toList) := by
      cases loses <;> cases untilEnd <;> decide +kernel
    have back : (Order.change loses untilEnd).lowBack = " atk".toList ++ more := by
      cases loses <;> cases untilEnd <;> decide +kernel
    refine ⟨13, changeAttackAction, m, rfl, ?_, ?_, ?_⟩
    · rw [front, back]
      cases loses <;> cases untilEnd <;> decide +kernel
    · rw [front, back, List.append_assoc]
      exact found
    · have self : holds ((Order.change loses untilEnd).lowFront ++
          (number ++ (Order.change loses untilEnd).lowBack)) "this card" = true := by
        rw [holds_around digits rfl]
        cases loses <;> cases untilEnd <;> decide +kernel
      have lasts : untilEndPhrase.found ((Order.change loses untilEnd).lowFront ++
          (number ++ (Order.change loses untilEnd).lowBack)) = untilEnd := by
        rw [found_around digits rfl (by decide +kernel)]
        cases loses <;> cases untilEnd <;> decide +kernel
      simp only [changeAttackAction, marks.change?_eq, self, lasts, bind, pure]
      cases amountOf? number <;> rfl

theorem Order.frame (order : Order) : Frame order.front.toList order.back.toList := by
  rcases order with _ | _ | _ | _ | _ | _ | _ | ⟨_ | _, _ | _⟩
  all_goals
    exact ⟨by decide, by decide, forall_mem_of_all (by decide +kernel),
      forall_mem_of_all (by decide +kernel)⟩

/-- No order can be taken for a standing modifier or for protection. -/
theorem Order.lacks_spec (order : Order) :
    modifierPhrase.needs (lacks order.lowFront order.lowBack) ∧
      lacks order.lowFront order.lowBack "cannot".toList := by
  rcases order with _ | _ | _ | _ | _ | _ | _ | ⟨_ | _, _ | _⟩ <;> decide +kernel

theorem readClause?_order (digits : Digits number) (order : Order) :
    readClause? (order.lowFront ++ (number ++ order.lowBack)) =
      (amountOf? number).map order.effect := by
  obtain ⟨place, action, m, there, missed, found, made⟩ := search_of_order digits order
  rw [readClause?_of_found digits place there order.lacks_spec.1 missed found, made]

/-- An order reads back if its number has 63 bits, and is no effect at all if it has more. -/
theorem effects_of_order (order : Order) {digits : String}
    (written : numeral? digits.toList = some n) :
    (readAbility (order.wording digits)).effects =
      if n < 2 ^ 63 then [{ order.effect n with text := order.wording digits }] else [] := by
  have number := digits_of_numeral? written
  have whole : (order.wording digits).toList =
      order.front.toList ++ (digits.toList ++ order.back.toList) := by
    simp [Order.wording]
  have front : order.front.toList.map Char.toLower = order.lowFront := rfl
  have back : order.back.toList.map Char.toLower = order.lowBack := rfl
  have bare := readProtection?_around number order.lacks_spec.2
  rw [order.frame.effects number whole front back bare, readClause?_order number,
    amountOf?_of_numeral? written]
  split
  · cases order <;> rfl
  · rfl

end CardText

end CardDuel
