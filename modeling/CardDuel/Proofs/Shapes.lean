import CardDuel.Proofs.Sentences
import CardDuel.Proofs.Ways

/-!
# The shape of an effect

An effect has a field for everything that any effect could need, and most combinations of them make
no sense: protection that happens at a timing, a lasting change of ATK that ends with the turn, a
number of cards below zero.  Whoever carries effects out relies on it that no text reads as one of
those.

* `holds_of_clauses`: what holds of every shield and of the effect of every clause, whatever the
  timing in front of it, holds of every effect of a text.
* `Effect.Shaped`: the combinations that make sense.
* `solid_of_conditionOf`: a condition is never blank.
* `shaped_of_action`: the effect of every wording is shaped.
* `effects_shaped`: so is every effect of a text.
-/

namespace CardDuel

open CardText Text

/-! ## The effects of a text -/

namespace CardText

variable {clause : List Char} {e : Effect}

theorem exists_action {choices : List Action} (read : readAction? clause choices = some e) :
    ∃ action ∈ choices, ∃ m, action.phrase.search clause = some m ∧
      action.effect clause m = some e := by
  induction choices with
  | nil => nomatch read
  | cons action others ih =>
    rw [readAction?] at read
    split at read
    · next m found => exact ⟨action, List.mem_cons_self, m, found, read⟩
    · obtain ⟨other, among, made⟩ := ih read
      exact ⟨other, List.mem_cons_of_mem _ among, made⟩

/-- A clause describes a standing modifier or the first action whose wording is found. -/
theorem cases_of_readClause (read : readClause? clause = some e) :
    readModifier? clause = some e ∨
    ∃ action ∈ actions, ∃ m, action.phrase.search clause = some m ∧
      action.effect clause m = some e := by
  rw [readClause?, Option.or_eq_some_iff] at read
  exact read.imp_right fun read => exists_action read.2

/-- A sentence grants protection, or it is a clause with a timing. -/
theorem cases_of_readSentence {sentence : List Char} (read : readSentence? sentence = some e) :
    (∃ protection : Protection, protection.any ∧ e = {
      kind := .protection, value := 0, continuous := true, protection := protection,
      text := String.ofList sentence }) ∨
    readProtection? (lower sentence) = none ∧
    ∃ inner, readClause? (qualify (lower sentence)).clause = some inner ∧ e = { inner with
      timing := (qualify (lower sentence)).timing
      oncePerTurn := (qualify (lower sentence)).oncePerTurn
      text := String.ofList sentence } := by
  unfold readSentence? at read
  dsimp only at read
  split at read
  · next protection shielded =>
    refine .inl ⟨protection, ?_, (Option.some.inj read).symm⟩
    rw [readProtection?, Option.ite_none_right_eq_some] at shielded
    exact Option.some.inj shielded.2 ▸ shielded.1
  · next bare =>
    obtain ⟨inner, clause, rfl⟩ := Option.map_eq_some_iff.1 read
    exact .inr ⟨bare, inner, clause, rfl⟩

/-- What holds of every shield, and of the effect of every clause whatever the timing in front of
it, holds of every effect of a text. -/
theorem holds_of_clauses {P : Effect → Prop}
    (shield : ∀ protection text, protection.any → P {
      kind := .protection, value := 0, continuous := true, protection := protection, text := text })
    (timed : ∀ clause e, readClause? clause = some e → ∀ timing oncePerTurn text,
      P { e with timing := timing, oncePerTurn := oncePerTurn, text := text })
    {text : String} (read : e ∈ (readAbility text).effects) : P e := by
  obtain ⟨sentence, -, found⟩ := List.mem_filterMap.1 read
  obtain ⟨protection, any, rfl⟩ | ⟨-, inner, clause, rfl⟩ := cases_of_readSentence found
  · exact shield _ _ any
  · exact timed _ _ clause _ _ _

end CardText

/-! ## Shaped effects -/

/-- The zones that effects of a kind may take their cards from. -/
def EffectKind.sources : EffectKind → List (Option Zone)
  | .search => [some .deck]
  | .toHand => [some .graveyard, some .board]
  | .summon => [some .hand, some .graveyard, some .deck]
  | .returnToDeck => [some .graveyard, some .hand, some .board]
  | .banish => [none, some .graveyard, some .hand, some .board]
  | _ => [none]

/-- Whether the cards that the effect is about have to meet a condition, if its text names one. -/
def Effect.selects (e : Effect) : Bool :=
  e.isModifier || e.kind == .search || e.kind == .summon ||
    e.kind == .toHand && e.source == some .graveyard

/-- The fields of an effect go together. -/
structure Effect.Shaped (e : Effect) : Prop where
  protection : e.kind = .protection ↔ e.protection.any
  shield : e.kind = .protection →
    e.continuous ∧ e.timing = none ∧ e.oncePerTurn = false ∧ e.value = 0
  continuous : e.continuous → e.kind = .protection ∨ e.kind = .modifyAttack
  loss : e.value < 0 → e.kind = .modifyAttack
  untilEndOfTurn : e.untilEndOfTurn → e.kind = .modifyAttack ∧ e.continuous = false
  targetsSelf : e.targetsSelf →
    e.kind = .summon ∧ e.condition = none ∨ e.kind = .modifyAttack ∧ e.continuous = false
  againstOpponent : e.againstOpponent → e.kind = .discard ∨ e.kind = .mill
  reach : e.reach = .controller → e.kind = .modifyAttack ∧ e.continuous
  deckPlace : e.deckPlace ≠ .shuffled → e.kind = .returnToDeck
  source : e.source ∈ e.kind.sources
  condition : ∀ c, e.condition = some c →
    e.selects ∧ c.toList ≠ [] ∧ trim c.toList = c.toList

/-- The timing in front of a clause leaves the shape of its effect alone, except that protection
stands by itself. -/
theorem Effect.Shaped.timed {e : Effect} (h : e.Shaped) (kind : e.kind ≠ .protection)
    (timing : Option Timing) (oncePerTurn : Bool) (text : String) :
    { e with timing := timing, oncePerTurn := oncePerTurn, text := text : Effect }.Shaped :=
  { h with shield := fun shield => absurd shield kind }

/-! ## Conditions -/

namespace Text

variable {cs word : List Char}

/-- The words of a text have no blanks. -/
theorem firm_of_mem_wordsAfter {read : List Char} (firm : ∀ c ∈ read, isBlank c = false)
    (mem : word ∈ wordsAfter read cs) : ∀ c ∈ word, isBlank c = false := by
  fun_induction wordsAfter read cs with
  | case1 => nomatch mem
  | case2 read =>
    obtain rfl := List.mem_singleton.1 mem
    exact fun c hc => firm c (List.mem_reverse.1 hc)
  | case3 read c cs blank none ih => exact ih nofun mem
  | case4 read c cs blank some ih =>
    obtain rfl | mem := List.mem_cons.1 mem
    · exact fun c hc => firm c (List.mem_reverse.1 hc)
    · exact ih nofun mem
  | case5 read c cs solid ih =>
    exact ih (List.forall_mem_cons.2 ⟨Bool.eq_false_iff.2 solid, firm⟩) mem

theorem strip_isSuffix (piece cs : List Char) (limit : Nat) :
    dropEndings.strip piece cs limit <:+ cs := by
  induction limit generalizing cs with
  | zero => exact List.suffix_refl cs
  | succ limit ih =>
    rw [dropEndings.strip]
    split
    · next rest found =>
      obtain rfl := after?_eq_some.1 found
      exact (ih rest).trans (List.suffix_append piece rest)
    · exact List.suffix_refl cs

theorem dropEndings_isPrefix (ending cs : List Char) : dropEndings ending cs <+: cs := by
  have stripped := strip_isSuffix ending.reverse cs.reverse cs.length
  rw [← List.reverse_prefix, List.reverse_reverse] at stripped
  exact stripped

/-- Words that are put in a row with spaces between them. -/
theorem solid_intercalate {ws : List (List Char)} (solid : ∀ w ∈ word :: ws, Solid w) :
    Solid ([' '].intercalate (word :: ws)) := by
  induction ws generalizing word with
  | nil => simpa [List.intercalate] using solid word List.mem_cons_self
  | cons next ws ih =>
    rw [List.intercalate_cons_cons, List.append_assoc]
    exact (solid word List.mem_cons_self).append
      (ih fun w hw => solid w (List.mem_cons_of_mem word hw)) [' ']

end Text

namespace CardText

variable {clause what : List Char} {m : Way} {e : Effect} {c : String}

/-- What is left of a description is made of words, and so it is never blank. -/
theorem solid_of_conditionOf (named : conditionOf what = some c) : Solid c.toList := by
  unfold conditionOf at named
  dsimp only at named
  generalize listed : List.filter _ _ = kept at named
  have solid : ∀ w ∈ kept, Solid w := fun w hw => by
    rw [← listed, List.mem_filter, List.mem_map] at hw
    obtain ⟨⟨word, among, rfl⟩, some⟩ := hw
    have firm := firm_of_mem_wordsAfter (List.forall_mem_nil _) (List.mem_of_mem_filter among)
    refine solid_of_firm (by simpa using some) fun c hc => firm c ?_
    exact (dropEndings_isPrefix _ _).mem hc
  cases kept with
  | nil => nomatch named
  | cons w ws =>
    obtain rfl := Option.some.inj named
    rw [String.toList_ofList]
    exact solid_intercalate solid

/-! ## The effects of the wordings -/

/-- An effect that moves cards or life points, without a condition. -/
theorem shaped_plain {kind : EffectKind} {value : Int} {source : Option Zone} {targetCount : Nat}
    {againstOpponent : Bool} {deckPlace : DeckPlace} (other : kind ≠ .protection)
    (gain : 0 ≤ value) (zone : source ∈ kind.sources)
    (aimed : againstOpponent → kind = .discard ∨ kind = .mill)
    (placed : deckPlace ≠ .shuffled → kind = .returnToDeck) :
    Effect.Shaped {
      kind := kind, value := value, source := source, targetCount := targetCount,
      againstOpponent := againstOpponent, deckPlace := deckPlace } where
  protection := ⟨fun kind => absurd kind other, nofun⟩
  shield kind := absurd kind other
  continuous := nofun
  loss loss := absurd loss (Int.not_lt.2 gain)
  untilEndOfTurn := nofun
  targetsSelf := nofun
  againstOpponent := aimed
  reach := nofun
  deckPlace := placed
  source := zone
  condition := nofun

/-- An effect that looks for cards, perhaps by a condition. -/
theorem shaped_selecting {kind : EffectKind} {value : Int} {zone : Zone} {targetCount : Nat}
    {targetsSelf : Bool} {condition : Option String}
    (selects : kind = .search ∨ kind = .summon ∨ kind = .toHand ∧ zone = .graveyard)
    (gain : 0 ≤ value) (among : some zone ∈ kind.sources)
    (itself : targetsSelf → kind = .summon ∧ condition = none)
    (solid : ∀ c, condition = some c → Solid c.toList) :
    Effect.Shaped {
      kind := kind, value := value, source := some zone, targetCount := targetCount,
      targetsSelf := targetsSelf, condition := condition } where
  protection := by
    obtain rfl | rfl | ⟨rfl, -⟩ := selects <;> exact ⟨nofun, nofun⟩
  shield := by
    obtain rfl | rfl | ⟨rfl, -⟩ := selects <;> nofun
  continuous := nofun
  loss loss := absurd loss (Int.not_lt.2 gain)
  untilEndOfTurn := nofun
  targetsSelf self := .inl (itself self)
  againstOpponent := nofun
  reach := nofun
  deckPlace placed := absurd rfl placed
  source := among
  condition c named := by
    refine ⟨?_, (solid c named).ne_nil, (solid c named).trim_eq⟩
    obtain rfl | rfl | ⟨rfl, rfl⟩ := selects <;> rfl

theorem shaped_addToHand (made : addToHandAction.effect clause m = some e) : e.Shaped := by
  simp only [addToHandAction, bind, Option.bind_eq_some_iff, pure, Option.some.injEq] at made
  obtain ⟨count, -, what, -, rfl⟩ := made
  generalize (m.piece? .source == some "deck".toList) = fromDeck
  have gain := Int.natCast_nonneg count
  cases fromDeck with
  | true =>
    exact shaped_selecting (.inl rfl) gain List.mem_cons_self nofun fun _ => solid_of_conditionOf
  | false =>
    exact shaped_selecting (.inr (.inr ⟨rfl, rfl⟩)) gain List.mem_cons_self nofun
      fun _ => solid_of_conditionOf

theorem shaped_summon (made : summonAction.effect clause m = some e) : e.Shaped := by
  simp only [summonAction, bind, Option.bind_eq_some_iff, pure, Option.some.injEq] at made
  obtain ⟨what, -, rfl⟩ := made
  refine shaped_selecting (.inr (.inl rfl)) Int.one_nonneg ?_ (fun itself => ⟨rfl, if_pos itself⟩)
    fun c named => ?_
  · split_ifs <;> decide
  · split at named
    · nomatch named
    · exact solid_of_conditionOf named

theorem shaped_changeAttack (made : changeAttackAction.effect clause m = some e) : e.Shaped := by
  simp only [changeAttackAction, bind, Option.bind_eq_some_iff, pure, Option.some.injEq] at made
  obtain ⟨value, -, rfl⟩ := made
  exact {
    protection := ⟨nofun, nofun⟩
    shield := nofun
    continuous := nofun
    loss := fun _ => rfl
    untilEndOfTurn := fun _ => ⟨rfl, rfl⟩
    targetsSelf := fun _ => .inr ⟨rfl, rfl⟩
    againstOpponent := nofun
    reach := nofun
    deckPlace := fun placed => absurd rfl placed
    source := List.mem_singleton.2 rfl
    condition := nofun }

theorem zoneNamed_mem (clause : List Char) : zoneNamed clause ∈ EffectKind.banish.sources := by
  unfold zoneNamed
  split_ifs <;> decide

theorem getD_zoneNamed_mem (clause : List Char) :
    some ((zoneNamed clause).getD .board) ∈ EffectKind.returnToDeck.sources := by
  unfold zoneNamed
  split_ifs <;> decide

theorem shaped_of_action {action : Action} (among : action ∈ actions)
    (made : action.effect clause m = some e) : e.Shaped := by
  simp only [actions, List.mem_cons, List.not_mem_nil, or_false] at among
  rcases among with rfl | rfl | rfl | rfl | rfl | rfl | rfl | rfl | rfl | rfl | rfl | rfl | rfl | rfl
  on_goal 14 => exact shaped_changeAttack made
  on_goal 10 => exact shaped_summon made
  on_goal 8 => exact shaped_addToHand made
  all_goals
    simp only [drawAction, discardAction, millAction, destroyAction, damageAction,
      gainLifeAction, toDeckAction, backToHandAction, negateAction, banishAction, toGraveyardAction,
      bind, Option.bind_eq_some_iff, pure, Option.some.injEq] at made
  · obtain ⟨_, -, count, -, rfl⟩ := made
    exact shaped_plain nofun (Int.natCast_nonneg count) List.mem_cons_self nofun nofun
  · obtain ⟨_, -, count, -, rfl⟩ := made
    exact shaped_plain nofun (Int.natCast_nonneg count) List.mem_cons_self (fun _ => .inl rfl) nofun
  · obtain ⟨_, -, count, -, rfl⟩ := made
    exact shaped_plain nofun (Int.natCast_nonneg count) List.mem_cons_self (fun _ => .inr rfl) nofun
  · obtain ⟨_, -, rfl⟩ := made
    exact shaped_plain nofun (Int.le_refl 0) List.mem_cons_self nofun nofun
  · obtain ⟨_, -, amount, -, rfl⟩ := made
    exact shaped_plain nofun (Int.natCast_nonneg amount) List.mem_cons_self nofun nofun
  · obtain ⟨_, -, amount, -, rfl⟩ := made
    exact shaped_plain nofun (Int.natCast_nonneg amount) List.mem_cons_self nofun nofun
  · obtain rfl := made
    exact shaped_plain nofun Int.one_nonneg (getD_zoneNamed_mem clause) nofun fun _ => rfl
  · obtain ⟨count, -, rfl⟩ := made
    exact shaped_plain nofun (Int.natCast_nonneg count) (by decide) nofun nofun
  · obtain rfl := made
    exact shaped_plain nofun Int.one_nonneg List.mem_cons_self nofun nofun
  · obtain ⟨count, -, rfl⟩ := made
    exact shaped_plain nofun (Int.natCast_nonneg count) (zoneNamed_mem clause) nofun nofun
  · obtain ⟨count, -, rfl⟩ := made
    exact shaped_plain nofun (Int.natCast_nonneg count) List.mem_cons_self nofun nofun

theorem isBlank_of_isTypeLetter {letter : Char} (h : isTypeLetter letter) :
    isBlank letter = false := by
  simp only [isTypeLetter, Bool.and_eq_true, decide_eq_true_eq] at h
  have above : 97 ≤ letter.toNat := h.1
  have below : letter.toNat ≤ 122 := h.2
  simp only [isBlank, blankRanges, CharRanges.holds, Bool.and_eq_false_iff, Bool.or_eq_false_iff,
    decide_eq_false_iff_not]
  omega

/-- The kind of monster that a standing modifier names starts with a letter. -/
theorem trim_ne_nil_of_modifier {kind : List Char} (found : modifierPhrase.search clause = some m)
    (named : m.piece? .condition = some kind) : trim kind ≠ [] := by
  obtain ⟨_, _, part, place, -, way, read, whole, -⟩ := Pattern.exists_piece found named
  obtain ⟨⟩ := List.mem_singleton.1 part
  obtain ⟨first, hfirst, second, hsecond, rfl⟩ := Pattern.mem_run_seq.1 read
  obtain ⟨-, letter, isLetter, start⟩ := Pattern.mem_run_one.1 hfirst
  obtain ⟨more, rest⟩ := Pattern.exists_reads hsecond
  obtain rfl := whole.unique (Place.reads_append.2 ⟨_, start, rest⟩)
  exact trim_ne_nil List.mem_cons_self (isBlank_of_isTypeLetter isLetter)

theorem shaped_of_modifier (read : readModifier? clause = some e) : e.Shaped := by
  simp only [readModifier?, bind, Option.bind_eq_some_iff, pure, Option.some.injEq] at read
  obtain ⟨m, found, value, -, rfl⟩ := read
  exact {
    protection := ⟨nofun, nofun⟩
    shield := nofun
    continuous := fun _ => .inr rfl
    loss := fun _ => rfl
    untilEndOfTurn := nofun
    targetsSelf := nofun
    againstOpponent := nofun
    reach := fun _ => ⟨rfl, rfl⟩
    deckPlace := fun placed => absurd rfl placed
    source := List.mem_singleton.2 rfl
    condition := fun c named => by
      obtain ⟨kind, marked, rfl⟩ := Option.map_eq_some_iff.1 named
      rw [String.toList_ofList]
      exact ⟨rfl, trim_ne_nil_of_modifier found marked, trim_trim kind⟩ }

/-- What is known of an effect that an action makes: it happens once, its kind may tell the action,
and if it takes cards by number then that is its value and, cut off, its number of targets. -/
structure Action.Makes (action : Action) (e : Effect) : Prop where
  protection : e.kind ≠ .protection
  continuous : e.continuous = false
  discard : e.kind = .discard → action = discardAction
  mill : e.kind = .mill → action = millAction
  destroy : e.kind = .destroy → action = destroyAction
  counted : e.kind = .search ∨ e.kind = .toHand ∨ e.kind = .banish ∨ e.kind = .toGraveyard →
    ∃ count : Nat, e.value = count ∧ e.targetCount = targets count

/-- Each of the wordings makes effects of its own kinds. -/
theorem makes_of_action {action : Action} (among : action ∈ actions)
    (made : action.effect clause m = some e) : action.Makes e := by
  simp only [actions, List.mem_cons, List.not_mem_nil, or_false] at among
  rcases among with rfl | rfl | rfl | rfl | rfl | rfl | rfl | rfl | rfl | rfl | rfl | rfl | rfl | rfl
  all_goals
    simp only [drawAction, discardAction, millAction, destroyAction, damageAction,
      gainLifeAction, toDeckAction, addToHandAction, backToHandAction, summonAction,
      negateAction, banishAction, toGraveyardAction, changeAttackAction, bind,
      Option.bind_eq_some_iff, pure, Option.some.injEq] at made
    constructor <;> grind

theorem kind_of_modifier (read : readModifier? clause = some e) : e.kind = .modifyAttack := by
  simp only [readModifier?, bind, Option.bind_eq_some_iff, pure, Option.some.injEq] at read
  obtain ⟨m, -, value, -, rfl⟩ := read
  rfl

/-- No clause reads as protection, which is looked for in whole sentences. -/
theorem kind_of_readClause (read : readClause? clause = some e) : e.kind ≠ .protection := by
  obtain modifier | ⟨action, among, m, -, made⟩ := cases_of_readClause read
  · rw [kind_of_modifier modifier]
    nofun
  · exact (makes_of_action among made).protection

theorem shaped_shield {protection : Protection} (any : protection.any) (text : String) :
    Effect.Shaped {
      kind := .protection, value := 0, continuous := true, protection := protection,
      text := text } where
  protection := ⟨fun _ => any, fun _ => rfl⟩
  shield _ := ⟨rfl, rfl, rfl, rfl⟩
  continuous _ := .inl rfl
  loss := nofun
  untilEndOfTurn := nofun
  targetsSelf := nofun
  againstOpponent := nofun
  reach := nofun
  deckPlace placed := absurd rfl placed
  source := List.mem_singleton.2 rfl
  condition := nofun

theorem shaped_of_readClause (read : readClause? clause = some e) : e.Shaped := by
  obtain modifier | ⟨action, among, m, -, made⟩ := cases_of_readClause read
  · exact shaped_of_modifier modifier
  · exact shaped_of_action among made

/-- The fields of every effect that a text describes go together. -/
theorem effects_shaped {text : String} (read : e ∈ (readAbility text).effects) : e.Shaped :=
  holds_of_clauses (fun _ text any => shaped_shield any text)
    (fun _ _ clause => (shaped_of_readClause clause).timed (kind_of_readClause clause)) read

/-- A loss of ATK for the monsters of one type that one player controls. -/
def Sample.dirge : Effect where
  kind := .modifyAttack
  value := -300
  continuous := true
  condition := some "winged beast"
  reach := .controller
  text := "All Winged Beast-Type monsters you control lose 300 ATK"

/-- Such a loss is read from its text, and it is shaped. -/
theorem dirge_shaped :
    Sample.dirge ∈ (readAbility <| "Cannot be targeted. " ++ Sample.dirge.text ++ "!").effects ∧
      Sample.dirge.Shaped :=
  have read : Sample.dirge ∈
      (readAbility <| "Cannot be targeted. " ++ Sample.dirge.text ++ "!").effects := by
    decide +kernel
  ⟨read, effects_shaped read⟩

end CardText

end CardDuel
