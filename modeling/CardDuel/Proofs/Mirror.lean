import CardDuel.Proofs.Activation
import CardDuel.Proofs.Reports

/-!
# Every movement is in the log

The log is what remains of a match.  Whoever reads it can follow every card: a card that changes
its place in a move is named by an event of that move.  There is one exception.  When a match
with links on its chain is given up, the spells and traps of the links go to the graveyards, and
no event names them.

* `Table.Moved`: a card has changed its place.
* `Match.stays_finish`: when a match ends only the cards on the chain move.
* `Action.waits`: while links wait nobody loses life points, so that a match does not end then
  unless it is given up.
* `Arena.movements_told`: the statement over all calls that an arena may serve.
-/

namespace CardDuel

open Resolution

variable {setup : Setup} {card : CardRef}

/-- A card has changed its place: it is found elsewhere, or it has been put on the chain or
taken off it. -/
def Table.Moved (card : CardRef) (t t' : Table) : Prop :=
  t'.locate? card ≠ t.locate? card ∨ ¬ (card ∈ t'.chained ↔ card ∈ t.chained)

theorem Table.Stays.not_moved {t t' : Table} (h : Stays card t t') : ¬ Moved card t t' := by
  rintro (elsewhere | chain)
  · exact elsewhere h.locate?
  · exact chain h.chained

/-! ## What moves when a match ends -/

theorem Chain.stays_cleared (chain : Chain) {t : Table} (hc : card ∉ t.chained) :
    Table.Stays card t (chain.cleared t) := by
  have drop (t : Table) (link : Link) (hc : card ∉ t.chained) :
      Table.Stays card t (dropLink t link) := by
    unfold dropLink
    split
    · next there =>
      have hne : card ≠ link.card := fun heq => hc (heq ▸ there)
      exact (Table.stays_unchain t hne).trans (Table.stays_placeInPile _ _ _ hne)
    · exact .refl card t
  unfold cleared
  induction chain.links generalizing t with
  | nil => exact .refl card t
  | cons link links ih =>
    have first := drop t link hc
    exact first.trans (ih fun hm => hc (first.chained.1 hm))

namespace Match

variable {m m' : Match} {ids : List LinkId} {seat : Seat} {move : Move}

/-- Only the cards on the chain move when a match ends. -/
theorem stays_finish (winner : Seat) (reason : WinReason) (hc : card ∉ m.table.chained) :
    Table.Stays card m.table (m.finish winner reason).table := by
  let won : Table := { m.table with status := .finished winner reason }
  have cleared : Table.Stays card won (m.chain.cleared won) := m.chain.stays_cleared hc
  exact ⟨cleared.zones, cleared.chained⟩

theorem Ending.stays (ending : Ending seat move m m') (hc : card ∉ m.table.chained) :
    Table.Stays card m.table m'.table := by
  cases ending with
  | lost _ => exact stays_finish _ _ hc
  | deckOut _ _ _ => exact stays_finish _ _ hc
  | surrender _ => exact stays_finish _ _ hc

theorem Ending.log (ending : Ending seat move m m') :
    ∃ last, m'.log.events = m.log.events ++ [last] := by
  cases ending with
  | lost _ => exact ⟨_, rfl⟩
  | deckOut _ _ _ => exact ⟨_, rfl⟩
  | surrender _ => exact ⟨_, rfl⟩

/-- As long as links wait, nobody's life points change. -/
theorem Response.waits (response : Response setup m ids m') (links : m.chain.links ≠ []) :
    m'.chain.links = [] ∨ m'.chain.links ≠ [] ∧ loser? m'.table = loser? m.table := by
  cases response with
  | @turn seat card monster there faceUp name stance =>
    refine .inr ⟨links, loser?_congr rfl fun seat' => ?_⟩
    show ((m.table.modifySide seat _).side seat').life = _
    rw [Table.side_modifySide]
    split <;> rfl
  | @link seat card zone printed effect targets id chain ok added =>
    obtain ⟨-, -, hlinks, -⟩ := Chain.add_ok added
    refine .inr ⟨?_, loser?_congr (current_liftCard m.table) (life_liftCard m.table)⟩
    show chain.links ≠ []
    rw [hlinks]
    exact List.concat_ne_nil _ _
  | @pass seat awaiting chain passed =>
    obtain ⟨_, -, hlinks, -⟩ := Chain.pass_ok passed
    refine .inr ⟨?_, rfl⟩
    show chain.links ≠ []
    rw [hlinks]
    exact links
  | resolve resolved =>
    obtain ⟨-, rfl, -⟩ := Chain.resolve_ok resolved
    exact .inl rfl

theorem Action.waits (action : Action setup seat move m ids m') (links : m.chain.links ≠ []) :
    m'.chain.links = [] ∨ m'.chain.links ≠ [] ∧ loser? m'.table = loser? m.table := by
  cases action with
  | none => exact .inr ⟨links, rfl⟩
  | response response => exact response.waits links
  | motions noChain _ => exact absurd noChain links
  | set _ ok _ _ => exact absurd ok.noChain links
  | turn _ _ noChain _ _ => exact absurd noChain links

/-- If a match ends in a move that does not give it up, none of the cards that are then on the
chain was there before the move. -/
theorem Ending.fresh {moved : Match} (ending : Ending seat move moved m') (kept : move ≠ .surrender)
    (action : Action setup seat move m ids moved) (coupled : Coupled setup m)
    (coupled' : Coupled setup moved) (undecided : loser? m.table = none ∨ m.chain.links = [])
    (hc : card ∈ moved.table.chained) : card ∉ m.table.chained := by
  intro before
  have links : m.chain.links ≠ [] := by
    obtain ⟨link, hlink, -⟩ := coupled.linked card before
    exact List.ne_nil_of_mem hlink
  have undecided : loser? m.table = none := undecided.resolve_right links
  rcases action.waits links with empty | ⟨waiting, same⟩
  · rw [(coupled'.rests empty).2] at hc
    exact CardSet.not_mem_empty card hc
  · cases ending with
    | lost lost =>
      rw [same, undecided] at lost
      cases lost
    | deckOut noChain _ _ => exact waiting noChain
    | surrender gives => exact kept gives

/-- A match that is given up. -/
theorem surrender_ok {user : User} {report : MoveReport}
    (played : m.play setup user .surrender = .ok (report, m')) :
    ∃ seat, m' = m.finish seat .surrender := by
  obtain ⟨seat, made, -, -, -, hmade, rfl⟩ := play_ok played
  cases pure_eq_ok.1 hmade
  exact ⟨seat.other, settleLife_of_finished (isActive_finish _ _ m)⟩

/-- The news that a match is won name no card. -/
theorem not_names_endNews (winner : Seat) (reason : WinReason) (card : CardRef) :
    ¬ (endNews winner reason).details.Names card := by
  simp [Details.Names, endNews, Details.get?]

/-- Every card that a move moves is named, unless the move gives the match up. -/
theorem play_told {p : Play} (legal : p.Legal setup) (kept : p.move ≠ .surrender)
    (placed : p.before.table.Placed []) (coupled : Coupled setup p.before)
    (undecided : p.before.table.isActive →
      loser? p.before.table = none ∨ p.before.chain.links = []) :
    ∃ new, p.after.log.events = p.before.log.events ++ new ∧
      ∀ card, Table.Moved card p.before.table p.after.table → ∃ e ∈ new, e.Names card := by
  obtain ⟨seat, moved, -, active, action, result⟩ := play_action placed legal
  obtain ⟨new, log, -, named⟩ := action.tells placed
  rcases result with ⟨rfl, -⟩ | ending
  · exact ⟨new, log, fun card hm => (named card).resolve_right fun stays => stays.not_moved hm⟩
  · obtain ⟨last, ended⟩ := ending.log
    have coupled' : Coupled setup moved :=
      coupled_of_stages (action.stages placed active) coupled placed
    refine ⟨new ++ [last], by rw [ended, log, List.append_assoc], fun card hm => ?_⟩
    rcases named card with ⟨e, he, names⟩ | stays
    · exact ⟨e, List.mem_append_left _ he, names⟩
    · -- The card has not moved before the match ended, and so it does not move then.
      have off : card ∉ moved.table.chained := fun hc =>
        ending.fresh kept action coupled coupled' (undecided active) hc (stays.chained.1 hc)
      exact absurd hm (stays.trans (ending.stays off)).not_moved

/-- The cards on the chain, and no others, move when the match is given up. -/
theorem moved_finish (placed : m.table.Placed []) (coupled : Coupled setup m) (winner : Seat)
    (reason : WinReason) (card : CardRef) :
    Table.Moved card m.table (m.finish winner reason).table ↔ card ∈ m.table.chained := by
  constructor
  · intro hm
    by_contra off
    exact (stays_finish winner reason off).not_moved hm
  · intro hc
    obtain ⟨link, hlink, heq, -⟩ := coupled.linked card hc
    have gone : card ∉ (m.finish winner reason).table.chained := fun still =>
      (((unchains_finish winner reason placed).chained card).1 still).2
        (List.mem_map.2 ⟨link, hlink, heq⟩)
    exact .inr fun same => gone (same.2 hc)

end Match

namespace Arena

variable {calls : List Call} {lobby : Lobby} {m m' : Match} {call : Call}

/-- Nobody has lost while the match goes on, except perhaps in the beginning, when no link
waits. -/
theorem undecided_of_live (live : ((start setup).serveAll calls).lobbies lobby = .live m)
    (active : m.table.isActive) : Match.loser? m.table = none ∨ m.chain.links = [] := by
  refine kept_of_live
    (fun m => m.table.isActive → Match.loser? m.table = none ∨ m.chain.links = [])
    (fun _ _ _ _ _ _ => .inr rfl) (fun p _ legal _ active => ?_) live active
  obtain ⟨_, made, -, -, -, -, hafter⟩ := Match.play_ok legal
  rw [hafter] at active ⊢
  exact .inl (Match.undecided_settleLife made active)

/-- A move that is served in a lobby is played in its match. -/
theorem playIn?_of_served {arena : Arena} {user : User} {move : Move} {reply : Reply}
    (served : (arena.serve (.play (.user user) lobby move)).1 = .ok reply) :
    ∃ p, arena.playIn? lobby (.play (.user user) lobby move) = some p := by
  rcases cases_serve_play arena (.user user) lobby move with
    ⟨refusal, refused⟩ | ⟨report, after, hplay, -⟩
  · rw [refused] at served
    cases served
  · obtain ⟨user', m, made, huser, live, played, -⟩ := play_ok hplay
    cases huser
    exact ⟨⟨m, user, move, report, made⟩, playIn?_eq_some.2 ⟨rfl, live, played⟩⟩

/-- Whatever call is served: every card of a live match that has changed its place is named by an
event that the call has added to the log, unless the call gives the match up.  Then the cards on
the chain have changed their places, and no event names any of them. -/
theorem movements_told (setup : Setup) (calls : List Call) (lobby : Lobby) (m m' : Match)
    (call : Call) (reply : Reply)
    (live : ((start setup).serveAll calls).lobbies lobby = .live m)
    (served : (((start setup).serveAll calls).serve call).1 = .ok reply)
    (after : (((start setup).serveAll calls).serve call).2.lobbies lobby = .live m') :
    ∃ new, m'.log.events = m.log.events ++ new ∧
      ((∀ user, call ≠ .play (.user user) lobby .surrender) →
        ∀ card, Table.Moved card m.table m'.table → ∃ e ∈ new, e.Names card) ∧
      ∀ user, call = .play (.user user) lobby .surrender →
        (∀ card, Table.Moved card m.table m'.table ↔ card ∈ m.table.chained) ∧
          ∀ e ∈ new, ∀ card, ¬ e.Names card := by
  have placed := placed_of_live live
  have coupled := coupled_of_live live
  have step := (serve_lobby ((start setup).serveAll calls) lobby call).2
  rw [setup_serveAll, live, after] at step
  rcases step.between with ⟨noPlay, rfl⟩ | ⟨p, hplay, rfl, rfl, legal⟩
  · -- No move was made in the lobby.
    refine ⟨[], (List.append_nil _).symm, fun _ card hm => ?_, fun user gives => ?_⟩
    · exact absurd hm (Table.Stays.refl card _).not_moved
    · subst gives
      obtain ⟨p, there⟩ := playIn?_of_served served
      rw [there] at noPlay
      cases noPlay
  · obtain ⟨rfl, -, -⟩ := playIn?_eq_some.1 (Option.toList_eq_singleton_iff.1 hplay)
    by_cases gives : p.move = .surrender
    · unfold Play.Legal at legal
      rw [gives] at legal ⊢
      obtain ⟨seat, ended⟩ := Match.surrender_ok legal
      rw [ended]
      refine ⟨[_], rfl, fun other => absurd rfl (other p.user), fun _ _ => ?_⟩
      refine ⟨Match.moved_finish placed coupled seat .surrender, fun e he card => ?_⟩
      rw [List.mem_singleton.1 he]
      exact Match.not_names_endNews seat .surrender card
    · obtain ⟨new, log, named⟩ := Match.play_told legal gives placed coupled
        (undecided_of_live live)
      refine ⟨new, log, fun _ => named, fun user same => ?_⟩
      injection same with _ _ surrenders
      exact absurd surrenders gives

/-- The host gives up while the rite waits on the chain.  The rite goes to the graveyard, and no
event names it. -/
theorem rite_dropped_untold :
    let before := Sample.after Sample.rite Sample.linking
    let after := Sample.after Sample.rite (Sample.linking ++ [(.host, .surrender)])
    ∃ new, after.log.events = before.log.events ++ new ∧
      Table.Moved ⟨0⟩ before.table after.table ∧ ∀ e ∈ new, ¬ e.Names ⟨0⟩ := by
  intro before after
  obtain ⟨new, log, -, given⟩ := movements_told Sample.setup
    (Sample.calls Sample.rite Sample.linking) Sample.lobby before after
    (.play (.user Sample.players.host) Sample.lobby .surrender) (.played .surrendered) rfl rfl rfl
  obtain ⟨moved, untold⟩ := given _ rfl
  have linked : (⟨0⟩ : CardRef) ∈ before.table.chained := by decide +kernel
  exact ⟨new, log, (moved ⟨0⟩).2 linked, fun e he => untold e he ⟨0⟩⟩

end Arena

end CardDuel
