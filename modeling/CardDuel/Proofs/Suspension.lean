import CardDuel.Proofs.Admission
import CardDuel.Proofs.Mirror
import CardDuel.Proofs.Unwinding

/-!
# An open chain suspends the turn

While links wait on the chain, the players answer each other and the turn stands still.  Of the
moves that belong to the course of a turn, each checks by itself that no link waits, and one does
not check it: a monster may be turned to its other stance at any time of a Main Phase.

* `Move.isTurnAction`: the moves that belong to the course of a turn.
* `Match.over_chain`: a turn action that was made while links wait turns a monster.
* `Match.passPriority_of_window`: the player who may answer may always pass.
* `Arena.open_chain_suspends`: the statement over all calls that an arena may serve.
-/

namespace CardDuel

/-- Whether a move belongs to the course of a turn.  The others answer on the chain, or give the
match up. -/
def Move.isTurnAction : Move → Bool
  | .addToChain _ _ | .passPriority | .resolveChain | .surrender => false
  | _ => true

namespace Match

variable {setup : Setup} {m after : Match} {seat : Seat} {move : Move} {report : MoveReport}

/-- A turn action that was made while links wait turns a monster to its other stance. -/
theorem over_chain (links : m.chain.links ≠ [])
    (made : m.make setup seat move = .ok (report, after)) (action : move.isTurnAction) :
    ∃ card, move = .changePosition card := by
  cases move with
  | normalSummon card tributes stance =>
    obtain ⟨_, hmove, -⟩ := reported_eq_ok.1 made
    obtain ⟨_, ok, -⟩ := normalSummon_ok hmove
    exact absurd ok.noChain links
  | setMonster card tributes =>
    obtain ⟨_, hmove, -⟩ := reported_eq_ok.1 made
    obtain ⟨_, _, ok, -⟩ := setMonster_ok hmove
    exact absurd ok.noChain links
  | flipSummon card stance =>
    obtain ⟨_, hmove, -⟩ := reported_eq_ok.1 made
    obtain ⟨_, noChain, -⟩ := flipSummon_ok hmove
    exact absurd noChain links
  | changePosition card => exact ⟨card, rfl⟩
  | setSpellTrap card =>
    obtain ⟨_, hmove, -⟩ := reported_eq_ok.1 made
    obtain ⟨_, ok, -⟩ := setSpellTrap_ok hmove
    exact absurd ok.noChain links
  | activateSpell card targets =>
    obtain ⟨_, hmove, -⟩ := reported_eq_ok.1 made
    obtain ⟨_, _, ok, -⟩ := activateSpell_ok hmove
    exact absurd ok.noChain links
  | activateTrap card targets =>
    obtain ⟨_, hmove, -⟩ := reported_eq_ok.1 made
    obtain ⟨_, ok, -⟩ := activateTrap_ok hmove
    exact absurd ok.noChain links
  | advancePhase =>
    obtain ⟨_, hmove, -⟩ := reported_eq_ok.1 made
    obtain ⟨_, noChain, -⟩ := advancePhase_ok hmove
    exact absurd noChain links
  | endTurn =>
    obtain ⟨_, hmove, -⟩ := reported_eq_ok.1 made
    exact absurd (endTurn_ok hmove).1 links
  | addToChain card targets => cases action
  | passPriority => cases action
  | resolveChain => cases action
  | surrender => cases action

/-- The player who may answer may always pass. -/
theorem passPriority_of_window {passes : Nat} (window : m.chain.state = .window seat passes) :
    ∃ awaiting chain, m.passPriority seat = .ok (awaiting, { m with chain := chain }) := by
  unfold passPriority Chain.pass
  rw [window]
  by_cases enough : 2 ≤ passes + 1
  · simp only [ne_eq, not_true, if_false, if_pos enough]
    exact ⟨_, _, rfl⟩
  · simp only [ne_eq, not_true, if_false, if_neg enough]
    exact ⟨_, _, rfl⟩

/-- Turning a monster ends no match in which nobody has lost. -/
theorem settleLife_turned {card : CardRef} {printed : Card} {monster : Monster} {stance : Stance}
    (links : m.chain.links ≠ []) (undecided : loser? m.table = none)
    (ok : m.Turnable setup seat card printed monster) :
    (m.turned seat card printed.name stance).settleLife =
      m.turned seat card printed.name stance := by
  have response : Response setup m [] (m.turned seat card printed.name stance) :=
    .turn ok.there ok.faceUp printed.name stance
  obtain ⟨-, same⟩ := (response.waits links).resolve_left links
  exact settleLife_of_undecided (same.trans undecided)

end Match

/-! ## A sample -/

namespace Sample

/-- The host summons a moth, and puts it on the chain in the next turn but one. -/
def rousing : List Call :=
  .createMatch lobby ⟨"game"⟩ players ⟨[moth.id, moth.id], [moth.id, moth.id]⟩ 0 ::
    [(.host, .normalSummon ⟨0⟩ [] .attack), (.host, .endTurn), (.opponent, .endTurn),
      (.host, .addToChain ⟨0⟩ [])].map fun (seat, move) =>
        .play (.user (players.get seat)) lobby move

end Sample

/-! ## Over all calls -/

namespace Arena

variable {setup : Setup} {calls : List Call} {lobby : Lobby} {m : Match} {arena after : Arena}
  {caller : Caller} {move : Move} {report : MoveReport}

/-- Links wait only in a match that goes on, in which nobody has lost. -/
theorem going_of_links (live : ((start setup).serveAll calls).lobbies lobby = .live m)
    (links : m.chain.links ≠ []) : m.table.isActive ∧ Match.loser? m.table = none := by
  have active : m.table.isActive := by
    by_contra ended
    exact links ((coupled_of_live live).finished (Bool.eq_false_iff.2 ended))
  exact ⟨active, (undecided_of_live live active).resolve_right links⟩

/-- A turn action that does not turn a monster is refused while links wait. -/
theorem refused_of_links (live : arena.lobbies lobby = .live m) (links : m.chain.links ≠ [])
    (action : move.isTurnAction) (turnsNone : ∀ card, move ≠ .changePosition card) :
    ∃ refusal, arena.serve (.play caller lobby move) = (.error refusal, arena) := by
  rcases cases_serve_play arena caller lobby move with refused | ⟨report, after, played, -⟩
  · exact refused
  · obtain ⟨user, m', made, -, live', hplay, -⟩ := play_ok played
    cases live.symm.trans live'
    obtain ⟨seat, made', -, -, -, hmade, -⟩ := Match.play_ok hplay
    obtain ⟨card, turns⟩ := Match.over_chain links hmade action
    exact absurd turns (turnsNone card)

/-- A monster is turned while links wait exactly if the rules allow to turn it at all, and nothing
else happens. -/
theorem turned_over_links (live : ((start setup).serveAll calls).lobbies lobby = .live m)
    (links : m.chain.links ≠ []) (card : CardRef) :
    ((start setup).serveAll calls).play caller lobby (.changePosition card) = .ok (report, after) ↔
      ∃ user printed monster, caller = .user user ∧ m.seatOf? user = some m.table.current ∧
        m.Turnable setup m.table.current card printed monster ∧
        report = .positionChanged card monster.stance.toggled ∧
        after = ((start setup).serveAll calls).put lobby
          (.live (m.turned m.table.current card printed.name monster.stance.toggled)) := by
  obtain ⟨active, undecided⟩ := going_of_links live links
  constructor
  · intro played
    obtain ⟨user, m', made, rfl, live', hplay, rfl⟩ := play_ok played
    cases live.symm.trans live'
    rw [setup_serveAll] at hplay
    obtain ⟨seat, made', hseat, -, onTurn, hmade, rfl⟩ := Match.play_ok hplay
    obtain rfl : m.table.current = seat := onTurn.resolve_left nofun
    obtain ⟨stance, hmove, rfl⟩ := Match.reported_eq_ok.1 hmade
    obtain ⟨printed, monster, ok, rfl, rfl⟩ := Match.changePosition_eq_ok.1 hmove
    rw [Match.settleLife_turned links undecided ok]
    exact ⟨user, printed, monster, rfl, hseat, ok, rfl, rfl⟩
  · rintro ⟨user, printed, monster, rfl, hseat, ok, rfl, rfl⟩
    have hmove := Match.changePosition_eq_ok.2 ⟨printed, monster, ok, rfl, rfl⟩
    have hmade : m.make setup m.table.current (.changePosition card) = .ok
        (.positionChanged card monster.stance.toggled,
          m.turned m.table.current card printed.name monster.stance.toggled) :=
      Match.reported_eq_ok.2 ⟨_, hmove, rfl⟩
    have played := Match.play_of_onTurn hseat active (.inr rfl) hmade
    have before : m.overrun = false := overrun_of_live live
    have room : (m.turned m.table.current card printed.name monster.stance.toggled).overrun =
        false := before
    rw [room, Match.settleLife_turned links undecided ok] at played
    exact play_of_play (setup_serveAll setup calls) live played

/-- A player whose move is no turn action makes it while links wait, if the match allows it and
there is room for what it asks for. -/
theorem serve_of_response (live : ((start setup).serveAll calls).lobbies lobby = .live m)
    (links : m.chain.links ≠ []) {seat : Seat} {made : Match} (free : move.needsTurn = false)
    (hmade : m.make setup seat move = .ok (report, made)) (room : made.overrun = false) :
    ∃ after, ((start setup).serveAll calls).serve (.play (.user (m.players.get seat)) lobby move) =
      (.ok (.played report), after) := by
  have hseat := Match.seatOf?_get (distinct_of_live live) seat
  have played := Match.play_of_make hseat (going_of_links live links).1 free hmade room
  exact ⟨_, serve_play.2 (play_of_play (setup_serveAll setup calls) live played)⟩

/-- While links wait, every turn action of every caller is refused and changes nothing, with one
exception: the player whose turn it is may turn a monster to its other stance as if no link
waited, and the chain stays as it is.  The chain is never stuck: either player may give up, the
player who may answer may pass, and when both have passed either may have the chain resolved. -/
theorem open_chain_suspends (setup : Setup) (calls : List Call) (lobby : Lobby) (m : Match)
    (live : ((start setup).serveAll calls).lobbies lobby = .live m)
    (links : m.chain.links ≠ []) :
    let arena := (start setup).serveAll calls
    (∀ caller move, move.isTurnAction → (∀ card, move ≠ .changePosition card) →
      ∃ refusal, arena.serve (.play caller lobby move) = (.error refusal, arena)) ∧
    (∀ caller card report after,
      arena.serve (.play caller lobby (.changePosition card)) = (.ok (.played report), after) ↔
        ∃ user printed monster, caller = .user user ∧ m.seatOf? user = some m.table.current ∧
          m.Turnable setup m.table.current card printed monster ∧
          report = .positionChanged card monster.stance.toggled ∧
          after = arena.put lobby
            (.live (m.turned m.table.current card printed.name monster.stance.toggled))) ∧
    (∀ seat card name stance, (m.turned seat card name stance).chain = m.chain) ∧
    (∀ seat, ∃ after, arena.serve (.play (.user (m.players.get seat)) lobby .surrender) =
      (.ok (.played .surrendered), after)) ∧
    (∀ awaiting passes, m.chain.state = .window awaiting passes →
      ∃ next after, arena.serve (.play (.user (m.players.get awaiting)) lobby .passPriority) =
        (.ok (.played (.passed next)), after)) ∧
    (m.chain.state = .resolving → ∀ seat,
      let resolving : Call := .play (.user (m.players.get seat)) lobby .resolveChain
      (¬ arena.Overdraws (.user (m.players.get seat)) lobby .resolveChain →
        ∃ reports after, arena.serve resolving = (.ok (.played (.resolved reports)), after)) ∧
      (arena.Overdraws (.user (m.players.get seat)) lobby .resolveChain →
        arena.serve resolving = (.error .overrun, arena))) := by
  intro arena
  have before : m.overrun = false := overrun_of_live live
  refine ⟨fun caller move => refused_of_links live links, fun caller card report after => ?_,
    fun _ _ _ _ => rfl, fun seat => ?_, fun awaiting passes window => ?_, fun ready seat => ?_⟩
  · rw [serve_play]
    exact turned_over_links live links card
  · exact serve_of_response live links rfl rfl before
  · obtain ⟨next, chain, passed⟩ := Match.passPriority_of_window window
    have made : m.make setup awaiting .passPriority =
        .ok (.passed next, { m with chain := chain }) :=
      Match.reported_eq_ok.2 ⟨next, passed, rfl⟩
    exact ⟨next, serve_of_response live links rfl made before⟩
  · obtain ⟨reports, made, resolves⟩ : ∃ reports made,
        m.make setup seat .resolveChain = .ok (.resolved reports, made) :=
      ⟨_, _, Match.reported_eq_ok.2 ⟨_, Match.resolveChain_of_ready ready, rfl⟩⟩
    have hseat := Match.seatOf?_get (distinct_of_live live) seat
    obtain ⟨overdraws, broken⟩ :=
      serve_of_make live hseat (going_of_links live links).1 (.inl rfl) resolves
    refine ⟨fun room => ⟨_, serve_of_response live links rfl resolves ?_⟩,
      fun beyond => broken (overdraws.1 beyond)⟩
    exact Bool.eq_false_iff.2 (mt overdraws.2 room)

/-- The moth is on the chain, and the host turns it to defense. -/
theorem moth_turned_over_chain :
    ∃ m after, ((start Sample.setup).serveAll Sample.rousing).lobbies Sample.lobby = .live m ∧
      m.chain.links ≠ [] ∧
      ((start Sample.setup).serveAll Sample.rousing).serve
          (.play (.user ⟨"alice"⟩) Sample.lobby (.changePosition ⟨0⟩)) =
        (.ok (.played (.positionChanged ⟨0⟩ .defense)), after) := by
  have played : (((start Sample.setup).serveAll Sample.rousing).find
      Sample.lobby).toOption.map (fun m => decide (
      m.chain.links ≠ [] ∧ m.seatOf? ⟨"alice"⟩ = some .host ∧ m.table.current = .host ∧
        m.table.phase.isMain ∧ Sample.setup.card? m.table ⟨0⟩ = some Sample.moth ∧
        m.table.turn = 3 ∧
        (m.side .host).monster? ⟨0⟩ = some (.faceUp ⟨0⟩ .attack 1000 1000 1 .none))) =
      some true := by decide +kernel
  obtain ⟨m, live, shown⟩ := exists_live played
  obtain ⟨links, seat, current, main, known, turn, there⟩ := of_decide_eq_true shown
  have ok : m.Turnable Sample.setup .host ⟨0⟩ Sample.moth
      (.faceUp ⟨0⟩ .attack 1000 1000 1 .none) :=
    ⟨main, known, there, rfl, rfl, by rw [turn]; decide⟩
  obtain ⟨-, turns, -⟩ :=
    open_chain_suspends Sample.setup Sample.rousing Sample.lobby m live links
  rw [current] at turns
  have served := (turns (.user ⟨"alice"⟩) ⟨0⟩ _ _).2
    ⟨⟨"alice"⟩, Sample.moth, _, rfl, seat, ok, rfl, rfl⟩
  exact ⟨m, _, live, links, served⟩

end Arena

end CardDuel
