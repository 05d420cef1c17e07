import Mathlib
import CardDuel.Proofs.Placement

/-!
# The audit finds the first card that can be seen to be astray

A table is in order when every card that it knows lies in exactly one place, and nothing else lies
anywhere.  The audit looks for the first card for which this fails.  It is compared here with how
often a card occurs in the thirteen heaps of a table, the six zones of each side and the chain, and
with a tally that is kept while the cards are gone through one by one, in whatever order.

* `Table.occurrences`: how often a card lies in the heaps.
* `Table.Astray`: the card is out of order.  `Table.Conspicuous`: the audit can see that it is.
  What it cannot see is a `Table.LoneStranger`, an unknown card that lies in one place.
* `Table.Finds`: an answer names the first card with a property, and how often it occurs.
* `Table.misplaced?_finds`: the audit finds the first conspicuous card.
* `Tally.Counts`: the counters are those of the cards gone through so far.  `Counts.add` is one
  card more, `counts_total` all of them, and `Counts.first?` what the counters tell in the end.
-/

namespace CardDuel

/-! ## Where a card occurs -/

namespace Table

/-- The thirteen heaps in which cards may lie: the zones of both sides, and the chain. -/
def heaps (t : Table) : List (List CardRef) :=
  Seat.all.flatMap (fun seat => Zone.all.map (t.side seat).cardsIn) ++ [t.chained.toList]

/-- How often a card lies on the table, over all heaps. -/
def occurrences (t : Table) (card : CardRef) : Nat := (t.heaps.map (·.count card)).sum

/-- The card does not lie where it should: in one place if the table knows it, and else nowhere. -/
def Astray (t : Table) (card : CardRef) : Prop :=
  t.occurrences card ≠ if t.knows card then 1 else 0

/-- The card lies nowhere although the table knows it, or it lies in several places. -/
def Conspicuous (t : Table) (card : CardRef) : Prop :=
  (t.knows card ∧ t.occurrences card = 0) ∨ 1 < t.occurrences card

/-- The table does not know the card, and the card lies in exactly one place. -/
def LoneStranger (t : Table) (card : CardRef) : Prop :=
  ¬ t.knows card ∧ t.occurrences card = 1

/-- The answer tells that no card has the property, or it names the first one that has, and tells
how often that card occurs. -/
def Finds (t : Table) (property : CardRef → Prop) : Option Misplaced → Prop
  | none => ∀ card, ¬ property card
  | some found => found.places = t.occurrences found.card ∧ property found.card ∧
      ∀ card < found.card, ¬ property card

variable {t : Table} {card : CardRef}

theorem flatten_heaps (t : Table) : t.heaps.flatten = t.census := by
  simp [heaps, census_eq, Side.cards, Seat.all, List.flatMap_def]

theorem count_census_eq_occurrences (t : Table) (card : CardRef) :
    t.census.count card = t.occurrences card := by
  rw [← flatten_heaps, List.count_flatten, occurrences]

/-- A card is out of order if this can be seen, or if it is a lone stranger. -/
theorem astray_iff : t.Astray card ↔ t.Conspicuous card ∨ t.LoneStranger card := by
  unfold Astray Conspicuous LoneStranger
  cases t.knows card <;> simp <;> omega

theorem LoneStranger.not_conspicuous (h : t.LoneStranger card) : ¬ t.Conspicuous card := by
  obtain ⟨unknown, once⟩ := h
  rintro (⟨known, -⟩ | often)
  · exact unknown known
  · omega

/-- What can be seen has a counter, and the counter is not at one. -/
theorem conspicuous_iff :
    t.Conspicuous card ↔ card ∈ t.audited.toList ∧ t.census.count card ≠ 1 := by
  have counter : card ∈ t.audited.toList ↔ t.knows card ∨ 0 < t.occurrences card := by
    rw [← mem_keys_iff, ← count_census_eq_occurrences, List.count_pos_iff, ← List.mem_append]
    exact CardSet.mem_ofList
  rw [counter, count_census_eq_occurrences]
  unfold Conspicuous
  cases t.knows card <;> simp <;> omega

end Table

/-! ## The first card in order -/

/-- In an ascending list no card before the one that is found would do. -/
theorem not_of_lt_find? {cards : List CardRef} {property : CardRef → Bool} {card c : CardRef}
    (ascending : cards.Pairwise (· < ·)) (found : cards.find? property = some card)
    (among : c ∈ cards) (before : c < card) : ¬ property c := by
  obtain ⟨-, front, back, rfl, fails⟩ := List.find?_eq_some_iff_append.1 found
  rcases List.mem_append.1 among with early | late
  · simpa using fails c early
  · exfalso
    obtain ⟨-, tail, -⟩ := List.pairwise_append.1 ascending
    rcases List.mem_cons.1 late with rfl | later
    · exact c.lt_irrefl before
    · exact CardRef.lt_asymm before ((List.pairwise_cons.1 tail).1 c later)

namespace Table

/-- The audit finds the first conspicuous card. -/
theorem misplaced?_finds (t : Table) : t.Finds t.Conspicuous t.misplaced? := by
  have seen (card : CardRef) : t.Conspicuous card ↔
      card ∈ t.audited.toList ∧ (t.census.count card != 1) = true := by
    rw [conspicuous_iff, bne_iff_ne]
  rw [misplaced?]
  cases found : t.audited.toList.find? fun card => t.census.count card != 1 with
  | none =>
    show ∀ card, ¬ t.Conspicuous card
    intro card there
    obtain ⟨among, off⟩ := (seen card).1 there
    exact List.find?_eq_none.1 found card among off
  | some first =>
    refine ⟨count_census_eq_occurrences t first, (seen first).2 ?_, fun card before there => ?_⟩
    · exact ⟨List.mem_of_find?_eq_some found,
        List.find?_some (p := fun card => t.census.count card != 1) found⟩
    · obtain ⟨among, off⟩ := (seen card).1 there
      exact not_of_lt_find? t.audited.ascending found among before off

/-- The audit finds the first card that is astray exactly if every lone stranger comes after some
card that can be seen. -/
theorem misplaced?_finds_astray_iff (t : Table) :
    t.Finds t.Astray t.misplaced? ↔
      ∀ card, t.LoneStranger card → ∃ other < card, t.Conspicuous other := by
  have finds := t.misplaced?_finds
  cases answer : t.misplaced? with
  | none =>
    rw [answer] at finds
    constructor
    · intro none card stranger
      exact absurd (astray_iff.2 (.inr stranger)) (none card)
    · intro after card astray
      rcases astray_iff.1 astray with there | stranger
      · exact finds card there
      · obtain ⟨other, -, there⟩ := after card stranger
        exact finds other there
  | some found =>
    rw [answer] at finds
    obtain ⟨places, there, first⟩ := finds
    constructor
    · rintro ⟨-, -, least⟩ card stranger
      refine ⟨found.card, ?_, there⟩
      have other : card ≠ found.card := by
        rintro rfl
        exact stranger.not_conspicuous there
      have notBefore : ¬ card < found.card := fun before =>
        least card before (astray_iff.2 (.inr stranger))
      exact CardRef.lt_of_not_lt notBefore (Ne.symm other)
    · intro after
      refine ⟨places, astray_iff.2 (.inl there), fun card before astray => ?_⟩
      rcases astray_iff.1 astray with seen | stranger
      · exact first card before seen
      · obtain ⟨other, earlier, seen⟩ := after card stranger
        exact first other (CardRef.lt_trans earlier before) seen

end Table

/-! ## Keeping a tally -/

/-- Counters for cards, in no particular order. -/
abbrev Tally := List (CardRef × Nat)

namespace Tally

/-- The tally with one more of a card, which gets a counter if it has none. -/
def add (card : CardRef) : Tally → Tally
  | [] => [(card, 1)]
  | (c, n) :: rest => if c = card then (c, n + 1) :: rest else (c, n) :: add card rest

/-- The tally of the cards that are found one after the other, when the known cards have counters
from the start. -/
def total (known found : List CardRef) : Tally :=
  found.foldl (fun tally card => add card tally) (known.map (·, 0))

/-- Whether a counter comes no later than another, in the order of the cards and then of the
numbers. -/
def inOrder (a b : CardRef × Nat) : Bool := a.1 < b.1 || a.1 == b.1 && a.2 ≤ b.2

/-- The first card, in order, whose counter is not at one. -/
def first? (tally : Tally) : Option Misplaced :=
  ((tally.filter (·.2 != 1)).mergeSort inOrder).head?.map fun (card, places) => ⟨card, places⟩

/-- Every known card and every card found so far has one counter, which tells how often it was
found. -/
structure Counts (tally : Tally) (known found : List CardRef) : Prop where
  distinct : (tally.map (·.1)).Nodup
  counters : ∀ card, card ∈ tally.map (·.1) ↔ card ∈ known ∨ card ∈ found
  counted : ∀ counter ∈ tally, counter.2 = found.count counter.1

variable {tally tally' : Tally} {known found : List CardRef} {card : CardRef}

theorem mem_cards_add {c : CardRef} :
    c ∈ (add card tally).map (·.1) ↔ c = card ∨ c ∈ tally.map (·.1) := by
  induction tally with
  | nil => simp [add]
  | cons counter rest ih =>
    obtain ⟨c', n⟩ := counter
    rw [add]
    split
    · next same =>
      subst same
      simp
    · rw [List.map_cons, List.mem_cons, ih, List.map_cons, List.mem_cons]
      tauto

theorem nodup_add (distinct : (tally.map (·.1)).Nodup) : ((add card tally).map (·.1)).Nodup := by
  induction tally with
  | nil => simp [add]
  | cons counter rest ih =>
    obtain ⟨c, n⟩ := counter
    obtain ⟨new, distinct⟩ := List.nodup_cons.1 distinct
    rw [add]
    split
    · exact List.nodup_cons.2 ⟨new, distinct⟩
    · next other =>
      refine List.nodup_cons.2 ⟨fun there => ?_, ih distinct⟩
      rcases mem_cards_add.1 there with same | old
      · exact other same
      · exact new old

/-- What becomes of the counters: those of other cards stay, and that of the card is raised or
new. -/
theorem cases_of_mem_add (distinct : (tally.map (·.1)).Nodup) {counter : CardRef × Nat}
    (h : counter ∈ add card tally) :
    (counter ∈ tally ∧ counter.1 ≠ card) ∨
      (∃ n, (card, n) ∈ tally ∧ counter = (card, n + 1)) ∨
      (card ∉ tally.map (·.1) ∧ counter = (card, 1)) := by
  induction tally with
  | nil =>
    rw [add, List.mem_singleton] at h
    exact .inr (.inr ⟨List.not_mem_nil, h⟩)
  | cons first rest ih =>
    obtain ⟨c, n⟩ := first
    obtain ⟨new, distinct⟩ := List.nodup_cons.1 distinct
    rw [add] at h
    split at h
    · next same =>
      subst same
      rcases List.mem_cons.1 h with rfl | there
      · exact .inr (.inl ⟨n, List.mem_cons_self, rfl⟩)
      · refine .inl ⟨List.mem_cons_of_mem _ there, ?_⟩
        intro same
        have taken : counter.1 ∈ rest.map (·.1) := List.mem_map_of_mem there
        rw [same] at taken
        exact new taken
    · next other =>
      rcases List.mem_cons.1 h with rfl | there
      · exact .inl ⟨List.mem_cons_self, other⟩
      · rcases ih distinct there with ⟨old, ne⟩ | ⟨m, old, raised⟩ | ⟨none, fresh⟩
        · exact .inl ⟨List.mem_cons_of_mem _ old, ne⟩
        · exact .inr (.inl ⟨m, List.mem_cons_of_mem _ old, raised⟩)
        · refine .inr (.inr ⟨?_, fresh⟩)
          rw [List.map_cons, List.mem_cons, not_or]
          exact ⟨Ne.symm other, none⟩

/-- One card more is counted. -/
theorem Counts.add (h : Counts tally known found) (card : CardRef) :
    Counts (add card tally) known (found ++ [card]) where
  distinct := nodup_add h.distinct
  counters c := by
    rw [mem_cards_add, h.counters, List.mem_append, List.mem_singleton]
    tauto
  counted counter there := by
    rcases cases_of_mem_add h.distinct there with ⟨old, other⟩ | ⟨n, old, rfl⟩ | ⟨none, rfl⟩
    · rw [List.count_append, ← h.counted counter old,
        List.count_singleton, beq_eq_false_iff_ne.2 (Ne.symm other)]
      rfl
    · have := h.counted (card, n) old
      rw [List.count_append, ← this, List.count_singleton_self]
    · have unseen : card ∉ found := fun seen => none ((h.counters card).2 (.inr seen))
      rw [List.count_append, List.count_eq_zero_of_not_mem unseen, List.count_singleton_self]

/-- All cards are counted. -/
theorem counts_total (distinct : known.Nodup) (found : List CardRef) :
    Counts (total known found) known found := by
  suffices run : ∀ (rest done : List CardRef) (tally : Tally), Counts tally known done →
      Counts (rest.foldl (fun tally card => Tally.add card tally) tally) known (done ++ rest) by
    refine run found [] _ ⟨?_, fun card => ?_, fun counter there => ?_⟩
    · rwa [List.map_map, show ((·.1) ∘ fun card : CardRef => (card, 0)) = id from rfl, List.map_id]
    · simp
    · obtain ⟨card, -, rfl⟩ := List.mem_map.1 there
      rfl
  intro rest
  induction rest with
  | nil =>
    intro done tally counts
    rwa [List.append_nil]
  | cons card rest ih =>
    intro done tally counts
    have step := ih (done ++ [card]) _ (counts.add card)
    rwa [List.append_assoc, List.singleton_append] at step

/-! ## What the counters tell -/

theorem inOrder_iff {a b : CardRef × Nat} :
    inOrder a b ↔ a.1.number < b.1.number ∨ (a.1.number = b.1.number ∧ a.2 ≤ b.2) := by
  have same : a.1 = b.1 ↔ a.1.number = b.1.number :=
    ⟨congrArg CardRef.number, CardRef.ext_number⟩
  simp [inOrder, CardRef.lt_iff, same]

theorem inOrder_trans (a b c : CardRef × Nat) (h : inOrder a b) (h' : inOrder b c) :
    inOrder a c := by
  rw [inOrder_iff] at *
  omega

theorem inOrder_total (a b : CardRef × Nat) : inOrder a b || inOrder b a := by
  rw [Bool.or_eq_true, inOrder_iff, inOrder_iff]
  omega

theorem inOrder_antisymm {a b : CardRef × Nat} (h : inOrder a b) (h' : inOrder b a) : a = b := by
  rw [inOrder_iff] at h h'
  exact Prod.ext (CardRef.ext_number (by omega)) (by omega)

/-- The counters of a table that are not at one, in the order of their cards. -/
def offenders (t : Table) : Tally :=
  (t.audited.toList.filter fun card => t.census.count card != 1).map fun card =>
    (card, t.census.count card)

theorem head?_offenders (t : Table) :
    (offenders t).head?.map (fun (card, places) => (⟨card, places⟩ : Misplaced)) =
      t.misplaced? := by
  rw [offenders, List.head?_map, List.head?_filter, Option.map_map]
  rfl

theorem inOrder_offenders (t : Table) : (offenders t).Pairwise (inOrder · ·) := by
  refine List.pairwise_map.2 ((t.audited.ascending.filter _).imp fun before => ?_)
  exact inOrder_iff.2 (.inl before)

/-- When all cards of a table are counted, in whatever order, then the first counter that is not at
one is what the audit answers. -/
theorem Counts.first? {t : Table} (h : Counts tally known found) (all : known.Perm t.copies.keys)
    (cards : found.Perm t.census) (listed : tally'.Perm tally) :
    Tally.first? tally' = t.misplaced? := by
  have counted (card : CardRef) (n : Nat) (there : (card, n) ∈ tally) : n = t.census.count card :=
    (h.counted (card, n) there).trans (cards.count_eq card)
  have counter (card : CardRef) : card ∈ tally.map (·.1) ↔ card ∈ t.audited.toList := by
    rw [h.counters, all.mem_iff, cards.mem_iff, ← List.mem_append]
    exact CardSet.mem_ofList.symm
  have distinct : (tally'.filter (·.2 != 1)).Nodup :=
    (listed.nodup_iff.2 (.of_map _ h.distinct)).filter _
  have distinct' : (offenders t).Nodup :=
    (t.audited.nodup.filter _).map fun _ _ same => congrArg Prod.fst same
  have same (c : CardRef × Nat) : c ∈ tally'.filter (·.2 != 1) ↔ c ∈ offenders t := by
    obtain ⟨card, n⟩ := c
    simp only [offenders, List.mem_filter, List.mem_map, listed.mem_iff, Prod.mk.injEq]
    constructor
    · rintro ⟨there, off⟩
      obtain rfl := counted card n there
      exact ⟨card, ⟨(counter card).1 (List.mem_map_of_mem there), off⟩, rfl, rfl⟩
    · rintro ⟨_, ⟨among, off⟩, rfl, rfl⟩
      obtain ⟨⟨c, m⟩, there, rfl⟩ := List.mem_map.1 ((counter _).2 among)
      obtain rfl := counted c m there
      exact ⟨there, off⟩
  have listing : (tally'.filter (·.2 != 1)).Perm (offenders t) :=
    (List.perm_ext_iff_of_nodup distinct distinct').2 same
  have sorted : (tally'.filter (·.2 != 1)).mergeSort inOrder = offenders t :=
    ((List.mergeSort_perm _ _).trans listing).eq_of_pairwise (fun _ _ _ _ => inOrder_antisymm)
      (List.pairwise_mergeSort inOrder_trans inOrder_total _) (inOrder_offenders t)
  rw [Tally.first?, sorted, head?_offenders]

end Tally

namespace Table

/-- Of every table, in order or not: the audit finds the first card that can be seen to be astray,
and tells how often it occurs in the thirteen heaps.  What is astray and cannot be seen are the
lone strangers, so the audit finds the first card that is astray exactly if each of these comes
after a card that can be seen.  The same is found by any tally that begins with a counter at zero
for each known card, goes through the heaps in any order, and is looked through in any order. -/
theorem audit_overlooks_lone_strangers (t : Table) :
    t.Finds t.Conspicuous t.misplaced? ∧
      (∀ card, t.Astray card ↔ t.Conspicuous card ∨ t.LoneStranger card) ∧
      (t.Finds t.Astray t.misplaced? ↔
        ∀ card, t.LoneStranger card → ∃ other < card, t.Conspicuous other) ∧
      ∀ known found tally, known.Perm t.copies.keys → found.Perm t.heaps.flatten →
        tally.Perm (Tally.total known found) → Tally.first? tally = t.misplaced? := by
  refine ⟨t.misplaced?_finds, fun _ => astray_iff, t.misplaced?_finds_astray_iff, ?_⟩
  intro known found tally all cards listed
  rw [flatten_heaps] at cards
  have distinct : known.Nodup := all.nodup_iff.2 t.copies.nodup_keys
  exact (Tally.counts_total distinct found).first? all cards listed

end Table

namespace Sample

/-- Two cards are in the deck of the host, and on the other board is a monster that nobody knows. -/
def haunted : Table :=
  ((Table.start {} 0).addCards .host [⟨1⟩, ⟨1⟩]).modifySide .opponent
    (·.placeMonster (.faceUp ⟨9⟩ .attack 0 0 1 .none))

end Sample

namespace Table

/-- The table is not in order, and the audit does not see it, in whatever order it counts. -/
theorem haunted_passes :
    Sample.haunted.LoneStranger ⟨9⟩ ∧ Sample.haunted.Astray ⟨9⟩ ∧
      Sample.haunted.misplaced? = none ∧
      Tally.first? (Tally.total [⟨1⟩, ⟨0⟩] [⟨9⟩, ⟨1⟩, ⟨0⟩]).reverse = none := by
  obtain ⟨-, astray, -, tallied⟩ := audit_overlooks_lone_strangers Sample.haunted
  have stranger : Sample.haunted.LoneStranger ⟨9⟩ := ⟨by decide, by decide⟩
  have passes : Sample.haunted.misplaced? = none := by decide
  have counted := tallied [⟨1⟩, ⟨0⟩] [⟨9⟩, ⟨1⟩, ⟨0⟩] _ (by decide) (by decide)
    (List.reverse_perm (Tally.total [⟨1⟩, ⟨0⟩] [⟨9⟩, ⟨1⟩, ⟨0⟩]))
  exact ⟨stranger, (astray ⟨9⟩).2 (.inr stranger), passes, counted.trans passes⟩

end Table

end CardDuel
