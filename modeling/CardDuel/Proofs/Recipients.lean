import CardDuel.Proofs.Clauses
import CardDuel.Proofs.Lowering
import CardDuel.Proofs.Sources
import CardDuel.Proofs.Support

/-!
# Whom a standing modifier reaches

"All Dragon-Type monsters gain 500 ATK": the words in front of "type" go through the reader as free
text, and each monster in play is compared with them.  The comparison is the one that searching and
summoning use, and so it looks at more than the type line.

* `exists_of_modifier`, `condition_of_modifier`: the condition is what the clause names after "all".
* `Setup.contributions`: the modifiers that count for a monster, which its ATK is made of.
* `Setup.counts_for_kind`: for which monsters a modifier counts, and `Setup.kind_alone_decides_not`:
  not for those of the kind alone.
-/

namespace CardDuel

open CardText Text

/-! ## The condition of a clause -/

namespace CardText

variable {clause raw : List Char} {m : Way} {e : Effect} {c : Char}

theorem small_spec (small : isTypeLetter c ∨ c = ' ') : lowerChar c = [c] ∧ c ≠ '\u03A3' := by
  have all : ∀ c ∈ ' ' :: CharRanges.chars [(97, 122)], lowerChar c = [c] ∧ c ≠ '\u03A3' :=
    forall_mem_of_all (by decide +kernel)
  refine all c (List.mem_cons.2 (small.symm.imp_right fun letter => CharRanges.mem_chars ?_))
  simp only [isTypeLetter, Bool.and_eq_true, decide_eq_true_eq] at letter
  have above : 97 ≤ c.toNat := letter.1
  have below : c.toNat ≤ 122 := letter.2
  simp [CharRanges.holds, above, below]

/-- Small letters and spaces are in lower case already. -/
theorem lower_small (small : ∀ c ∈ raw, isTypeLetter c ∨ c = ' ') : lower raw = raw := by
  have plain : '\u03A3' ∉ raw := fun mem => (small_spec (small _ mem)).2 rfl
  rw [lower_eq_flatMap plain]
  induction raw with
  | nil => rfl
  | cons c raw ih =>
    obtain ⟨first, small⟩ := List.forall_mem_cons.1 small
    rw [List.flatMap_cons, (small_spec first).1, ih small (mt (List.mem_cons_of_mem c) plain)]
    rfl

/-- The kind of monster that a standing modifier names stands at the start of its clause. -/
theorem exists_of_modifier (found : modifierPhrase.search clause = some m)
    (named : m.piece? .condition = some raw) :
    (∀ c ∈ raw, isTypeLetter c ∨ c = ' ') ∧ ∃ sep rest, (sep = '-' ∨ sep = ' ') ∧
      clause = "all ".toList ++ (raw ++ sep :: ("type monsters".toList ++ rest)) := by
  obtain ⟨front, place, reached, preferred⟩ := Pattern.exists_of_search found
  obtain ⟨m₁, start, m₂, way₁, rfl⟩ := Pattern.mem_run_seq.1 (List.mem_of_head? preferred)
  obtain ⟨fresh, rfl⟩ := Pattern.mem_run_start.1 start
  obtain ⟨m₃, hall, m₄, way₂, rfl⟩ := Pattern.mem_run_seq.1 way₁
  obtain ⟨unmarked, all⟩ := Pattern.mem_run_word.1 hall
  obtain ⟨m₅, kind, m₆, way₃, rfl⟩ := Pattern.mem_run_seq.1 way₂
  obtain ⟨⟨slot, first, last⟩, noted, piece⟩ := Option.map_eq_some_iff.1 named
  obtain kind | nothing := Pattern.mem_run_alt.1 kind
  · obtain ⟨m₇, marked, m₈, way₄, rfl⟩ := Pattern.mem_run_seq.1 kind
    obtain ⟨m₉, letters, rfl⟩ := Pattern.mem_run_mark.1 marked
    obtain ⟨m₁₀, initial, m₁₁, further, rfl⟩ := Pattern.mem_run_seq.1 letters
    obtain ⟨-, letter, isLetter, read⟩ := Pattern.mem_run_one.1 initial
    obtain ⟨-, run, small, read'⟩ := Pattern.exists_run_of_mem_runs further
    obtain ⟨m₁₂, one, m₁₃, word, rfl⟩ := Pattern.mem_run_seq.1 way₄
    obtain ⟨-, sep, isSep, cut⟩ := Pattern.mem_run_one.1 one
    obtain ⟨-, type⟩ := Pattern.mem_run_word.1 word
    obtain ⟨m₁₄, hmonsters, m₁₅, -, rfl⟩ := Pattern.mem_run_seq.1 way₃
    obtain ⟨-, monsters⟩ := Pattern.mem_run_word.1 hmonsters
    have whole : m₃.last.Reads (letter :: run) m₁₁.last :=
      Place.reads_append.2 ⟨m₁₀.last, read, read'⟩
    obtain ⟨rfl, rfl, rfl⟩ : Slot.condition = slot ∧ m₃.last = first ∧ m₁₁.last = last := by
      simpa [unmarked] using noted
    -- the place at the start has nothing in front of it
    obtain rfl : front = [] := by
      have none := reached.before.symm.trans fresh
      simpa [Place.atStart] using none
    obtain rfl := Place.reads_nil.1 reached
    obtain rfl : letter :: run = raw := whole.textTo_eq.symm.trans piece
    refine ⟨List.forall_mem_cons.2 ⟨.inl isLetter, fun c hc => ?_⟩, sep, m₁₄.last.rest,
      by simpa using isSep, ?_⟩
    · simpa using small c hc
    · have behind : m₁₂.last.rest = "type monsters".toList ++ m₁₄.last.rest := by
        rw [type.rest, monsters.rest]
        rfl
      calc clause
        _ = "all ".toList ++ m₃.last.rest := all.rest
        _ = "all ".toList ++ (letter :: run ++ m₁₁.last.rest) := by rw [whole.rest]
        _ = "all ".toList ++ (letter :: run ++ sep :: m₁₂.last.rest) := by rw [cut.rest]; rfl
        _ = _ := by rw [behind]
  · -- without a kind there is no mark for it in the rest of the phrase
    obtain rfl := List.mem_singleton.1 nothing
    have later := List.mem_of_find?_eq_some noted
    obtain rfl : slot = .condition := by simpa using List.find?_some noted
    simp only [unmarked, List.nil_append] at later
    obtain ⟨-, inner, further, part, -⟩ := Pattern.exists_marked way₃ later
    cases part

/-- A clause that reads as a standing modifier is read by the phrase for those. -/
theorem modifier_of_readClause (read : readClause? clause = some e) (standing : e.isModifier) :
    readModifier? clause = some e := by
  obtain modifier | ⟨action, among, m, -, made⟩ := cases_of_readClause read
  · exact modifier
  · simp [Effect.isModifier, (makes_of_action among made).continuous] at standing

/-- The condition of a standing modifier stands at the start of the clause that it was read from.
It is written in small letters, without blanks at its ends. -/
theorem condition_of_modifier {text condition : String} (read : e ∈ (readAbility text).effects)
    (standing : e.isModifier) (named : e.condition = some condition) :
    (∃ kind sep rest, (sep = '-' ∨ sep = ' ') ∧ trim kind = condition.toList ∧
      (qualify (lower e.text.toList)).clause =
        "all ".toList ++ (kind ++ sep :: ("type monsters".toList ++ rest))) ∧
    condition.toList ≠ [] ∧ lower (trim condition.toList) = condition.toList := by
  obtain ⟨sentence, -, found⟩ := List.mem_filterMap.1 read
  rw [text_of_readSentence found]
  obtain ⟨protection, -, rfl⟩ | ⟨-, inner, clause, rfl⟩ := cases_of_readSentence found
  · nomatch named
  · have modifier := modifier_of_readClause clause standing
    simp only [readModifier?, bind, Option.bind_eq_some_iff, pure, Option.some.injEq] at modifier
    obtain ⟨m, searched, value, -, rfl⟩ := modifier
    obtain ⟨kind, marked, rfl⟩ := Option.map_eq_some_iff.1 named
    obtain ⟨small, sep, rest, isSep, split⟩ := exists_of_modifier searched marked
    have small' : ∀ c ∈ trim kind, isTypeLetter c ∨ c = ' ' := fun c hc =>
      small c ((trim_isInfix kind).mem hc)
    rw [String.toList_ofList, trim_trim, lower_small small']
    exact ⟨⟨kind, sep, rest, isSep, rfl, split⟩, trim_ne_nil_of_modifier searched marked, rfl⟩

end CardText

/-! ## Whom a modifier reaches -/

/-- The card is of this kind: its monster type, in any letter case, or its element. -/
def Card.isKind (card : Card) (kind : String) : Prop :=
  (∃ type, card.monsterType = some type ∧ lower type.toList = kind.toList) ∨
    card.archetype.label = kind

theorem Card.meets_iff {card : Card} {condition : String} (some : condition.toList ≠ [])
    (small : lower (trim condition.toList) = condition.toList) :
    card.meets condition ↔ card.isKind condition ∨ card.type.label = condition ∨
      condition.toList <:+: lower card.name.toList := by
  have apart : condition.toList.isEmpty = false := by simpa using some
  simp only [meets, small, apart, isKind, Bool.or_eq_true, Option.any_eq_true, beq_iff_eq,
    String.toList_inj, mentions_iff]
  simp [or_assoc]

namespace Setup

variable {setup : Setup} {t : Table} {source target : Seat × Monster} {e : Effect}
  {condition : String}

/-- The standing modifiers that count for a monster, each with the monster that it stems from. -/
def contributions (setup : Setup) (t : Table) (target : Seat × Monster) :
    List ((Seat × Monster) × Effect) :=
  t.monsters.flatMap fun source => ((setup.modifiersOf t source.2).filter
    (·.reaches source.1 target.1 (setup.card? t target.2.card))).map (source, ·)

/-- A standing modifier with a condition, and a monster in play, face-up and not negated, that it
stems from. -/
structure Grants (setup : Setup) (t : Table) (source : Seat × Monster) (e : Effect)
    (condition : String) : Prop where
  there : source ∈ t.monsters
  up : source.2.facing = .up
  active : source.2.card ∉ t.negated
  among : e ∈ (setup.abilityOf t source.2.card).modifiers
  named : e.condition = some condition

/-- What the monsters lend is what the modifiers that count for the monster add up to. -/
theorem sum_contributions (setup : Setup) (t : Table) (target : Seat × Monster) :
    ((setup.contributions t target).map (·.2.value)).sum =
      (t.monsters.map (setup.lends t · target)).sum := by
  rw [contributions]
  induction t.monsters with
  | nil => rfl
  | cons source sources ih =>
    rw [List.flatMap_cons, List.map_append, List.sum_append, ih, List.map_cons, List.sum_cons,
      lends_eq_sum, List.map_map]
    rfl

theorem effectiveAttack?_eq_contributions (found : t.monster? target.2.card = some target) :
    setup.effectiveAttack? t target.2.card = some (max (wrap (target.2.attack + target.2.bonus +
      ((setup.contributions t target).map (·.2.value)).sum)) 0) := by
  rw [effectiveAttack?_eq_sum found, sum_contributions]

/-- The modifiers that count for a monster are those that reach it. -/
theorem mem_contributions (grants : setup.Grants t source e condition) :
    (source, e) ∈ setup.contributions t target ↔
      e.reaches source.1 target.1 (setup.card? t target.2.card) := by
  have front : setup.modifiersOf t source.2 = (setup.abilityOf t source.2.card).modifiers := by
    simp [modifiersOf, Monster.isFaceDown, grants.up, grants.active]
  constructor
  · intro counts
    obtain ⟨_, -, mem⟩ := List.mem_flatMap.1 counts
    obtain ⟨_, kept, same⟩ := List.mem_map.1 mem
    obtain ⟨rfl, rfl⟩ := Prod.mk.inj same
    exact (List.mem_filter.1 kept).2
  · intro reaches
    refine List.mem_flatMap.2 ⟨source, grants.there, List.mem_map_of_mem ?_⟩
    exact List.mem_filter.2 ⟨front ▸ grants.among, reaches⟩

/-- A standing modifier that names a kind of monster counts for a monster that its reach covers if
that monster is of the kind, or has the kind as its card type, or if its name mentions the kind, in
any letter case, and for no other.  The modifiers that count are what the ATK of the monster is made
of, and the kind is what the clause names after "all". -/
theorem counts_for_kind (grants : setup.Grants t source e condition)
    (found : t.monster? target.2.card = some target)
    (covers : e.reach = .field ∨ source.1 = target.1) :
    setup.effectiveAttack? t target.2.card = some (max (wrap (target.2.attack + target.2.bonus +
      ((setup.contributions t target).map (·.2.value)).sum)) 0) ∧
    (∃ kind sep rest, (sep = '-' ∨ sep = ' ') ∧ trim kind = condition.toList ∧
      (qualify (lower e.text.toList)).clause =
        "all ".toList ++ (kind ++ sep :: ("type monsters".toList ++ rest))) ∧
    ((source, e) ∈ setup.contributions t target ↔
      ∃ printed, setup.card? t target.2.card = some printed ∧
        (printed.isKind condition ∨ printed.type.label = condition ∨
          condition.toList <:+: lower printed.name.toList)) := by
  obtain ⟨ability, standing⟩ := List.mem_filter.1 grants.among
  obtain ⟨text, read⟩ := read_of_effect ability
  obtain ⟨clause, some, small⟩ := condition_of_modifier read standing grants.named
  refine ⟨effectiveAttack?_eq_contributions found, clause, (mem_contributions grants).trans ?_⟩
  have inReach : (e.reach == .field || source.1 == target.1) = true := by simpa using covers
  rw [Effect.reaches, inReach, grants.named, Bool.true_and, Option.any_eq_true]
  simp only [Card.meets_iff some small]

end Setup

namespace Sample

/-- What the lord does for the dragons. -/
def lordship : Effect where
  kind := .modifyAttack
  value := 500
  continuous := true
  condition := some "dragon"
  text := "All Dragon-Type monsters gain 500 ATK"

/-- A monster that strengthens everything that is a creature. -/
def crier : Card where
  id := ⟨22⟩
  name := "Crier"
  type := .creature
  attack := 900
  defense := 900
  text := some "All Creature-Type monsters gain 300 ATK."

def court : Setup where
  catalog := ⟨[⟨crier, crier.ability, rfl⟩]⟩
  rules := {}

/-- What the crier does for the creatures. -/
def crying : Effect where
  kind := .modifyAttack
  value := 300
  continuous := true
  condition := some "creature"
  text := "All Creature-Type monsters gain 300 ATK"

def crierInPlay : Seat × Monster := (.host, .faceUp ⟨0⟩ .attack 900 900 1 .none)

/-- The crier is in play. -/
def proclaimed : Table :=
  ((Table.start court.rules 0).addCards .host [crier.id]).modifySide .host
    ({ · with board := [crierInPlay.2] })

theorem lord_grants : roost.Grants ruled lordInPlay lordship "dragon" where
  there := by decide +kernel
  up := rfl
  active := by decide +kernel
  among := by decide +kernel
  named := rfl

theorem crier_grants : court.Grants proclaimed crierInPlay crying "creature" where
  there := by decide +kernel
  up := rfl
  active := by decide +kernel
  among := by decide +kernel
  named := rfl

end Sample

namespace Setup

open Sample

/-- The kind of a monster does not decide alone, since the Dragon Lord strengthens itself, which is
no dragon.  Its kind and its name do not decide either, since the Crier strengthens itself. -/
theorem kind_alone_decides_not :
    (¬ ∀ (setup : Setup) (t : Table) (source target : Seat × Monster) (e : Effect)
      (condition : String), setup.Grants t source e condition →
      t.monster? target.2.card = some target → e.reach = .field ∨ source.1 = target.1 →
      ((source, e) ∈ setup.contributions t target ↔
        ∃ printed, setup.card? t target.2.card = some printed ∧ printed.isKind condition)) ∧
    ¬ ∀ (setup : Setup) (t : Table) (source target : Seat × Monster) (e : Effect)
      (condition : String), setup.Grants t source e condition →
      t.monster? target.2.card = some target → e.reach = .field ∨ source.1 = target.1 →
      ((source, e) ∈ setup.contributions t target ↔
        ∃ printed, setup.card? t target.2.card = some printed ∧
          (printed.isKind condition ∨ condition.toList <:+: lower printed.name.toList)) := by
  constructor
  · intro decides
    have counts : (lordInPlay, lordship) ∈ roost.contributions ruled lordInPlay := by
      decide +kernel
    obtain ⟨printed, shown, kind⟩ := (decides roost ruled lordInPlay lordInPlay lordship "dragon"
      lord_grants (by decide +kernel) (.inl rfl)).1 counts
    obtain rfl : dragonLord = printed := Option.some.inj (shown.symm.trans (by decide +kernel)).symm
    obtain ⟨type, typed, -⟩ | element := kind
    · nomatch typed
    · exact absurd element (by decide)
  · intro decides
    have counts : (crierInPlay, crying) ∈ court.contributions proclaimed crierInPlay := by
      decide +kernel
    obtain ⟨printed, shown, kind⟩ := (decides court proclaimed crierInPlay crierInPlay crying
      "creature" crier_grants (by decide +kernel) (.inl rfl)).1 counts
    obtain rfl : crier = printed := Option.some.inj (shown.symm.trans (by decide +kernel)).symm
    obtain (⟨type, typed, -⟩ | element) | named := kind
    · nomatch typed
    · exact absurd element (by decide)
    · exact absurd named (by decide +kernel)

/-- The lordship counts for the wyrm of the other player, which is a dragon. -/
theorem lordship_counts_for_wyrm :
    (lordInPlay, lordship) ∈ roost.contributions ruled wyrmInPlay ∧
      roost.effectiveAttack? ruled ⟨1⟩ = some 2100 := by
  have printed : roost.card? ruled ⟨1⟩ = some wyrm := by decide +kernel
  obtain ⟨attack, -, counts⟩ := counts_for_kind lord_grants
    (by decide +kernel : ruled.monster? wyrmInPlay.2.card = some wyrmInPlay) (.inl rfl)
  refine ⟨counts.2 ⟨wyrm, printed, .inl (.inl ⟨"Dragon", rfl, by decide +kernel⟩)⟩, ?_⟩
  exact attack.trans (by decide +kernel)

end Setup

end CardDuel
