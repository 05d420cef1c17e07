import CardDuel.Proofs.Conservation
import CardDuel.Proofs.Shifts

/-!
# Cards that go out of the way

A card that is activated leaves its zone first and is put away afterwards, a card on the chain is
put away when its link is done, and so is whatever waits when a match ends.  All this has in common
that no card comes onto the field, and that it is told by events that concern neither the course of
the match nor any monster in play.

* `EventType.isPlain`: the kinds of these events.
* `Clear`: cards go out of the way, or a plain event is written.  `Clearing`: this several times.
* `Chain.clearing_spend`, `Match.clearing_enforceHandLimit` and `Match.Ending.clearing`: what is no
  more than a clearing.
* `Match.activate_stages`: an activation is a clearing before and after what the effects do.
-/

namespace CardDuel

open Resolution

/-- Whether the event tells neither of the course of the match nor of a monster that is played,
comes into play or changes. -/
def EventType.isPlain : EventType → Bool
  | turnStart | turnEnd | phaseChanged | lifeChanged | normalSummon | tributeSummon | tributePaid
  | monsterSet | flipSummon | specialSummon | positionChanged | attackModified => false
  | _ => true

theorem EventType.isPlain_of_isOfCards {type : EventType} (h : type.isOfCards) : type.isPlain := by
  cases type <;> first | rfl | cases h

/-- Cards go out of the way, which is told apart from it, or something plain is told. -/
inductive Clear : Scene → Scene → Prop where
  | pare {s s' : Scene} (pared : Table.Pared s.table s'.table) (log : s'.log = s.log) : Clear s s'
  | tell {s : Scene} {news : News} (plain : news.type.isPlain) : Clear s (s.record news)

/-- Cards go out of the way, maybe several times. -/
abbrev Clearing : Scene → Scene → Prop := Relation.ReflTransGen Clear

theorem clearing_report {s : Scene} {f : Table → Table} {news : News}
    (pared : Table.Pared s.table (f s.table)) (plain : news.type.isPlain) :
    Clearing s ((s.change f).record news) :=
  have changed : Clear s (s.change f) := .pare pared rfl
  .tail (.single changed) (.tell plain)

theorem clearing_cards {s : Scene} {f : Table → Table} {news : News}
    (pared : Table.Pared s.table (f s.table)) (kind : news.type.isOfCards) :
    Clearing s ((s.change f).record news) :=
  clearing_report pared (EventType.isPlain_of_isOfCards kind)

/-- Cards are turned over from a deck, and room may have been asked for. -/
theorem clearing_turnOver (s : Scene) (mark : Bool) (seat : Seat) (count : Nat) (pile : Pile)
    {news : News} (kind : news.type.isOfCards) :
    Clearing s ((({ s with overrun := mark } : Scene).change
      (·.modifySide seat (·.turnOver count pile))).record news) := by
  have marked : Clear s { s with overrun := mark } := .pare (.refl _) rfl
  exact .head marked
    (clearing_cards (s.table.pared_modifySide seat (Side.pared_turnOver · _ _)) kind)

namespace Chain

theorem clearing_spend (setup : Setup) (card : CardRef) (s : Scene) :
    Clearing s (spend setup card s) := by
  unfold spend
  dsimp only
  split
  · let lifted : Table := { s.table with chained := s.table.chained.erase card }
    split
    · next owner placed _ hplaced =>
      have hplaced : lifted.placeInPile? card .graveyard .top = some placed := hplaced
      have put := s.table.pared_unchain card
      rw [Table.placeInPile, hplaced] at put
      exact clearing_report (f := fun _ => placed) put rfl
    · exact .single (.pare (s.table.pared_chained _) rfl)
  · exact .refl

end Chain

namespace Match

variable {setup : Setup} {m m' : Match} {seat : Seat} {card : CardRef}

theorem clearing_lifted (zone : Zone) (printed : Card) :
    Clearing m.toScene (m.lifted seat card zone printed).toScene := by
  refine clearing_report (m.table.pared_modifySide seat fun side => side.pared_remove zone card) ?_
  unfold activationNews
  split <;> rfl

/-- A card that is activated leaves its zone, does what it says, and is put away. -/
theorem activate_stages {zone : Zone} {printed : Card} (targets : List CardRef) :
    ∃ ran, Steps setup (m.lifted seat card zone printed).toScene ran ∧
      Clearing ran (m.activate setup seat card zone printed targets).2.toScene := by
  let lifted := m.lifted seat card zone printed
  refine ⟨(runAbility setup card seat targets lifted.toScene).2,
    (runAbility_course card seat targets lifted.toScene).steps, ?_⟩
  exact clearing_report (Table.pared_placeInPile _ card .graveyard .top) rfl

theorem clearing_enforceHandLimit (setup : Setup) (seat : Seat) (m : Match) :
    Clearing m.toScene (m.enforceHandLimit setup seat).2.toScene := by
  have trimmed := m.table.pared_modifySide seat fun side =>
    side.pared_trimHand setup.rules.handLimit
  unfold enforceHandLimit
  dsimp only
  split
  · exact .single (.pare trimmed rfl)
  · exact clearing_report trimmed rfl

/-- When a match ends, what waits on the chain is put away. -/
theorem clearing_finish (winner : Seat) (reason : WinReason) (m : Match) :
    Clearing m.toScene (m.finish winner reason).toScene := by
  let won : Table := { m.table with status := .finished winner reason }
  have ended : Table.Pared m.table won := ⟨rfl, rfl, rfl, rfl, fun _ => .refl _⟩
  exact clearing_report (f := fun _ => m.chain.cleared won)
    (ended.trans (won.pared_cleared m.chain)) rfl

theorem Ending.clearing {move : Move} (ending : Ending seat move m m') :
    Clearing m.toScene m'.toScene := by
  cases ending with
  | lost _ => exact clearing_finish _ _ m
  | deckOut _ _ _ => exact clearing_finish _ _ m
  | surrender _ => exact clearing_finish _ _ m

end Match

end CardDuel
