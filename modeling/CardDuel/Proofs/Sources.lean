import CardDuel.Proofs.Census
import CardDuel.Proofs.Shapes
import CardDuel.Resolution.Request
import Mathlib.Tactic.Common

/-!
# Where effects take cards from

An effect could be told to take its cards from any zone, but a text can ask for few of them only.
Cards that come back to a hand come from a graveyard or from the board, what is sent to the
graveyard is chosen without a zone, and nothing that lies on the board is summoned.

* `Effect.Sourced`: the zones of an effect are such as a text can ask for, and
  `Setup.sourced_of_triggered`: those of the cards on a table are.
* `Request.mem_of_candidate`: what is taken from a zone lies there.
-/

namespace CardDuel

open CardText

/-- The cards that an effect takes from a zone lie there, whether they were chosen or not. -/
theorem Request.mem_of_candidate {r : Request} {setup : Setup} {t : Table} {seat : Seat}
    {zone : Zone} {card : CardRef} (hm : card ∈ r.candidates setup t seat zone) :
    card ∈ (t.side seat).cardsIn zone := by
  have fitting := List.mem_of_mem_take hm
  split at fitting
  · exact (List.mem_filter.1 fitting).1
  · exact Side.holds_iff.1 (List.mem_filter.1 fitting).2

/-! ## Zones that a text can ask for -/

/-- The zones of an effect that moves cards are such as a text can ask for. -/
structure Effect.Sourced (e : Effect) : Prop where
  toHand : e.kind = .toHand → e.source = some .graveyard ∨ e.source = some .board
  toGraveyard : e.kind = .toGraveyard → e.source = none
  summon : e.kind = .summon → ∃ zone, e.source = some zone ∧ zone ≠ .board

theorem Effect.sourced_of_mem {e : Effect} (source : e.source ∈ e.kind.sources) : e.Sourced where
  toHand kind := by simpa [kind, EffectKind.sources] using source
  toGraveyard kind := by simpa [kind, EffectKind.sources] using source
  summon kind := by
    rw [kind, EffectKind.sources] at source
    simp only [List.mem_cons, List.not_mem_nil, or_false] at source
    obtain source | source | source := source <;> exact ⟨_, source, nofun⟩

/-- Every effect of a text takes its cards from where a text can ask for them. -/
theorem CardText.sourced_of_read {text : String} {e : Effect}
    (read : e ∈ (readAbility text).effects) : e.Sourced :=
  holds_of_clauses (fun _ _ _ => ⟨nofun, nofun, nofun⟩)
    (fun _ _ clause _ _ _ => Effect.sourced_of_mem (shaped_of_readClause clause).source) read

namespace Setup

variable {setup : Setup} {t : Table} {card : CardRef} {e : Effect}

/-- Every effect of a card was read from a text. -/
theorem read_of_effect (among : e ∈ (setup.abilityOf t card).effects) :
    ∃ text, e ∈ (readAbility text).effects := by
  unfold abilityOf at among
  split at among
  · unfold Catalog.ability at among
    split at among
    · next entry _ =>
      rw [entry.ability_eq, Card.ability] at among
      split at among
      · exact ⟨_, among⟩
      · exact absurd among List.not_mem_nil
    · exact absurd among List.not_mem_nil
  · exact absurd among List.not_mem_nil

theorem sourced_of_effect (among : e ∈ (setup.abilityOf t card).effects) : e.Sourced := by
  obtain ⟨_, read⟩ := read_of_effect among
  exact sourced_of_read read

/-- What happens by itself takes its cards from where a text can ask for them. -/
theorem sourced_of_triggered {timing : Timing}
    (among : e ∈ (setup.abilityOf t card).triggered timing) : e.Sourced :=
  sourced_of_effect (List.mem_filter.1 among).1

end Setup

end CardDuel
