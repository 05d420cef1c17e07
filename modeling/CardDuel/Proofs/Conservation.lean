import CardDuel.Proofs.Histories
import CardDuel.Proofs.Motions
import CardDuel.Proofs.Opening

/-!
# Cards are conserved

However many calls an arena has served, the physical cards of a match are those of the two
decks it was opened with, and each of them lies in exactly one place.

* `Match.placed_of_plays`: moves keep every card in its place and give no card away.
* `Arena.kept_of_live`: so what every move keeps of a match with all cards in their places, live
  matches have.
* `Arena.cards_conserved`: the statement over all calls that an arena may serve.
-/

namespace CardDuel

namespace Match

variable {setup : Setup} {m m' : Match} {plays : List Play}

theorem placed_of_stages {ids : List LinkId} (stages : Stages setup m ids m')
    (h : m.table.Placed []) :
    m'.table.Placed [] ∧ m'.table.copies = m.table.copies := by
  induction stages with
  | refl => exact ⟨h, rfl⟩
  | tail _ stage ih =>
    obtain ⟨placed, copies⟩ := ih
    exact ⟨stage.placed placed, (stage.copies placed).trans copies⟩

theorem log_of_stages {ids : List LinkId} (stages : Stages setup m ids m') :
    Log.Extends m.log m'.log := by
  induction stages with
  | refl => exact .refl _
  | tail _ stage ih => exact ih.trans stage.log

theorem placed_of_plays (h : Plays setup m plays m') (placed : m.table.Placed []) :
    m'.table.Placed [] ∧ m'.table.copies = m.table.copies := by
  let Kept (m' : Match) : Prop := m'.table.Placed [] ∧ m'.table.copies = m.table.copies
  have step (p : Play) (legal : p.Legal setup) (kept : Kept p.before) : Kept p.after := by
    obtain ⟨made, copies⟩ := placed_of_stages (play_stages kept.1 legal) kept.1
    exact ⟨made, copies.trans kept.2⟩
  exact h.keeps Kept step ⟨placed, rfl⟩

end Match

namespace Arena

variable {setup : Setup} {calls : List Call} {lobby : Lobby} {m : Match}

theorem placed_of_live (live : ((start setup).serveAll calls).lobbies lobby = .live m) :
    m.table.Placed [] := by
  obtain ⟨opened, ⟨_, _, game, players, decks, seed, -, -, -, rfl⟩, hplays⟩ := live_history live
  exact (Match.placed_of_plays hplays (Match.placed_start _ _ _ _ _ _)).1

/-- What holds of every match in the beginning, and is kept by every move of a match in which the
cards are in their places, holds of every live match. -/
theorem kept_of_live (Keeps : Match → Prop)
    (begins : ∀ lobby game players decks seed,
      Keeps (Match.start setup lobby game players decks seed))
    (step : ∀ p : Play, p.before.table.Placed [] → p.Legal setup → Keeps p.before → Keeps p.after)
    (live : ((start setup).serveAll calls).lobbies lobby = .live m) : Keeps m := by
  obtain ⟨opened, ⟨_, _, game, players, decks, seed, -, -, -, rfl⟩, hplays⟩ := live_history live
  let Kept (m : Match) : Prop := m.table.Placed [] ∧ Keeps m
  have made (p : Play) (legal : p.Legal setup) (kept : Kept p.before) : Kept p.after :=
    ⟨(Match.placed_of_stages (Match.play_stages kept.1 legal) kept.1).1,
      step p kept.1 legal kept.2⟩
  exact (hplays.keeps Kept made ⟨Match.placed_start _ _ _ _ _ _, begins _ _ _ _ _⟩).2

/-- Whatever calls an arena has served, a live match has the cards of the decks that it was
opened with, every card lies in one place, and in the zones of a player lie the cards of that
player.  So the audit finds nothing. -/
theorem cards_conserved (setup : Setup) (calls : List Call) (lobby : Lobby) (m : Match)
    (live : ((start setup).serveAll calls).lobbies lobby = .live m) :
    (∃ earlier later game players decks seed,
      calls = earlier ++ .createMatch lobby game players decks seed :: later ∧
        (((start setup).serveAll earlier).serve
          (.createMatch lobby game players decks seed)).1 = .ok .created ∧
        m.table.copies = (Match.start setup lobby game players decks seed).table.copies ∧
        m.table.copies.toList =
          numbered .host 0 decks.host ++ numbered .opponent decks.host.length decks.opponent) ∧
      (∀ card, m.table.census.count card = if m.table.knows card then 1 else 0) ∧
      (∀ seat zone card, card ∈ (m.table.side seat).cardsIn zone →
        m.table.owner? card = some seat) ∧
      m.table.misplaced? = none := by
  obtain ⟨opened, ⟨earlier, later, game, players, decks, seed, hcalls, -, accepted, rfl⟩,
    hplays⟩ := live_history live
  have begins := Match.placed_start setup lobby game players decks seed
  obtain ⟨placed, copies⟩ := Match.placed_of_plays hplays begins
  refine ⟨⟨earlier, later, game, players, decks, seed, hcalls, accepted, copies, ?_⟩,
    placed.count_census, placed.owned, placed.misplaced?⟩
  rw [copies]
  exact Match.copies_start setup lobby game players decks seed

/-- The rite is counted once while it is on the chain. -/
theorem rite_conserved :
    ((start Sample.setup).serveAll (Sample.calls Sample.rite Sample.linking)).lobbies
        Sample.lobby = .live (Sample.after Sample.rite Sample.linking) ∧
      (Sample.after Sample.rite Sample.linking).table.chained.toList = [⟨0⟩] ∧
      (Sample.after Sample.rite Sample.linking).table.census.count ⟨0⟩ = 1 ∧
      (Sample.after Sample.rite Sample.linking).table.misplaced? = none := by
  have live : ((start Sample.setup).serveAll (Sample.calls Sample.rite Sample.linking)).lobbies
      Sample.lobby = .live (Sample.after Sample.rite Sample.linking) := by rfl
  have conserved := cards_conserved Sample.setup (Sample.calls Sample.rite Sample.linking)
    Sample.lobby (Sample.after Sample.rite Sample.linking) live
  refine ⟨live, by decide +kernel, ?_, conserved.2.2.2⟩
  rw [conserved.2.1]
  decide +kernel

end Arena

end CardDuel
