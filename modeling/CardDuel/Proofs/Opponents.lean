import CardDuel.Proofs.Shapes
import CardDuel.Resolution.Request

/-!
# Whose cards a text is about

Drawing, discarding and sending cards from a deck to the graveyard may be about the player of the
card or about the other one.  A discard is about the other player if the clause mentions an
opponent anywhere.  For the cards on top of a deck it matters whose deck is named, and an opponent
who is mentioned elsewhere in the clause is no reason to take theirs.

* `mentionsOpponent`: whether a clause mentions an opponent.
* `deck_named`: the deck that a clause sends cards from is named in it.
* `opponent_by_wording`: what decides whose cards an effect acts on, and `tithe_on_own_deck`: a
  mention alone does not.
-/

namespace CardDuel

open CardText Text

/-- The effect acts on the cards of the other player if it is meant to. -/
theorem Request.affectedSeat_eq_other {r : Request} :
    r.affectedSeat = r.actor.other ↔ r.effect.againstOpponent := by
  cases against : r.effect.againstOpponent with
  | true => simp [affectedSeat, against]
  | false => simpa [affectedSeat, against] using (Seat.other_ne r.actor).symm

namespace CardText

variable {clause whose : List Char} {m : Way} {e : Effect}

/-- Whether the clause, in lower case, mentions an opponent. -/
def mentionsOpponent (clause : List Char) : Bool :=
  holds clause "your opponent" || holds clause "opponent's"

/-- The deck that a clause sends cards from is one of the two, and it is named in the clause. -/
theorem deck_named (found : millPhrase.search clause = some m)
    (named : m.piece? .whose = some whose) :
    (whose = "your opponent's".toList ∨ whose = "your".toList) ∧
      whose ++ " deck to the graveyard".toList <:+: clause := by
  obtain ⟨_, _, part, place, within, way, made, read, follows⟩ := Pattern.exists_piece found named
  obtain ⟨⟩ := List.mem_singleton.1 part
  constructor
  · simpa [Pattern.anyWord, Pattern.texts] using Pattern.mem_texts rfl made read
  · obtain ⟨last, goes⟩ := List.exists_mem_of_ne_nil _ follows
    obtain ⟨start, hstart, n, hn, -⟩ := Pattern.mem_run_seq.1 goes
    obtain rfl := List.mem_singleton.1 hstart
    have after := (Pattern.mem_run_word.1 hn).2
    refine List.IsInfix.trans ?_ within.isInfix
    rw [read.rest, after.rest, ← List.append_assoc]
    exact (List.prefix_append _ _).isInfix

theorem mentionsOpponent_of_infix (within : "your opponent's".toList <:+: clause) :
    mentionsOpponent clause := by
  have front : "your opponent".toList <:+: "your opponent's".toList := by decide
  exact Bool.or_eq_true_iff.2 (.inl (mentions_iff.2 (front.trans within)))

/-- A discard is against the opponent if the clause mentions one. -/
theorem discard_of_readClause (read : readClause? clause = some e) (kind : e.kind = .discard) :
    e.againstOpponent = mentionsOpponent clause := by
  obtain modifier | ⟨action, among, m, -, made⟩ := cases_of_readClause read
  · rw [kind_of_modifier modifier] at kind
    nomatch kind
  · obtain rfl := (makes_of_action among made).discard kind
    simp only [discardAction, bind, Option.bind_eq_some_iff, pure, Option.some.injEq] at made
    obtain ⟨_, -, count, -, rfl⟩ := made
    rfl

/-- What is sent from the top of a deck is the opponent's if a deck is named that is not yours. -/
theorem mill_of_readClause (read : readClause? clause = some e) (kind : e.kind = .mill) :
    ∃ m, millPhrase.search clause = some m ∧
      e.againstOpponent = (m.piece? .whose).any (· != "your".toList) := by
  obtain modifier | ⟨action, among, m, found, made⟩ := cases_of_readClause read
  · rw [kind_of_modifier modifier] at kind
    nomatch kind
  · obtain rfl := (makes_of_action among made).mill kind
    simp only [millAction, bind, Option.bind_eq_some_iff, pure, Option.some.injEq] at made
    obtain ⟨_, -, count, -, rfl⟩ := made
    exact ⟨m, found, rfl⟩

theorem mentionsOpponent_of_against (read : readClause? clause = some e)
    (against : e.againstOpponent) : mentionsOpponent clause := by
  obtain kind | kind := (shaped_of_readClause read).againstOpponent against
  · rwa [← discard_of_readClause read kind]
  · obtain ⟨m, found, whose_eq⟩ := mill_of_readClause read kind
    obtain ⟨whose, named, other⟩ := (Option.any_eq_true _ _).1 (whose_eq.symm.trans against)
    obtain ⟨rfl | rfl, within⟩ := deck_named found named
    · exact mentionsOpponent_of_infix ((List.prefix_append _ _).isInfix.trans within)
    · simp at other

/-- Whose cards an effect acts on: it is the other player if the effect is against them, and then
the clause mentions an opponent.  For a discard any mention will do.  For the cards on top of a
deck the deck counts that the wording names, whoever else is mentioned. -/
theorem opponent_by_wording {sentence : List Char} (read : readSentence? sentence = some e) :
    (∀ r : Request, r.effect = e → (r.affectedSeat = r.actor.other ↔ e.againstOpponent)) ∧
    (e.againstOpponent → mentionsOpponent (qualify (lower sentence)).clause) ∧
    (e.kind = .discard →
      (e.againstOpponent ↔ mentionsOpponent (qualify (lower sentence)).clause)) ∧
    (e.kind = .mill → ∀ m whose, millPhrase.search (qualify (lower sentence)).clause = some m →
      m.piece? .whose = some whose →
        (whose = "your opponent's".toList ∨ whose = "your".toList) ∧
        whose ++ " deck to the graveyard".toList <:+: (qualify (lower sentence)).clause ∧
        (e.againstOpponent ↔ whose = "your opponent's".toList)) := by
  refine ⟨fun r same => same ▸ Request.affectedSeat_eq_other, ?_⟩
  obtain ⟨protection, -, rfl⟩ | ⟨-, inner, clause, rfl⟩ := cases_of_readSentence read
  · exact ⟨nofun, nofun, nofun⟩
  · refine ⟨fun against => mentionsOpponent_of_against clause against, fun kind => ?_,
      fun kind m whose found named => ?_⟩
    · have same : inner.againstOpponent = _ := discard_of_readClause clause kind
      exact Bool.eq_iff_iff.1 same
    · obtain ⟨m', found', whose_eq⟩ := mill_of_readClause clause kind
      obtain rfl := Option.some.inj (found.symm.trans found')
      obtain ⟨either, within⟩ := deck_named found named
      refine ⟨either, within, ?_⟩
      change inner.againstOpponent ↔ _
      rw [whose_eq, named]
      obtain rfl | rfl := either <;> decide

/-- A price that one player pays and the other does not. -/
def Sample.tithe : Effect where
  kind := .mill
  value := 2
  text := "Send the top 2 cards of your deck to the graveyard, not your opponent's"

/-- A mention of an opponent does not decide by itself whose cards are meant: the tithe is paid from
the player's own deck. -/
theorem tithe_on_own_deck :
    ¬ ∀ sentence e, readSentence? sentence = some e →
      (e.kind = .draw ∨ e.kind = .discard ∨ e.kind = .mill) →
        (e.againstOpponent ↔ mentionsOpponent (qualify (lower sentence)).clause) := by
  intro decides
  have read : readSentence? Sample.tithe.text.toList = some Sample.tithe := by decide +kernel
  have mentions : mentionsOpponent (qualify (lower Sample.tithe.text.toList)).clause := by
    decide +kernel
  nomatch (decides _ _ read (.inr (.inr rfl))).2 mentions

/-- A toll that the other player pays. -/
def Sample.toll : Effect where
  kind := .mill
  value := 3
  againstOpponent := true
  text := "Send the top three cards of your opponent's deck to the graveyard"

/-- The toll is taken from the deck of the other player, whoever has its card. -/
theorem toll_on_other_deck :
    readSentence? Sample.toll.text.toList = some Sample.toll ∧
      mentionsOpponent (qualify (lower Sample.toll.text.toList)).clause ∧
      ∀ actor, Request.affectedSeat { effect := Sample.toll, actor := actor } = actor.other :=
  have read : readSentence? Sample.toll.text.toList = some Sample.toll := by decide +kernel
  ⟨read, (opponent_by_wording read).2.1 rfl, fun _ => ((opponent_by_wording read).1 _ rfl).2 rfl⟩

end CardText

end CardDuel
