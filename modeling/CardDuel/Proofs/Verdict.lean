import CardDuel.Proofs.Activation
import CardDuel.Proofs.Entries
import CardDuel.Proofs.Reports

/-!
# How a match ends

A match ends when a player has no life points left, has no card to draw, or surrenders.  There
are several places where this is noticed, some inside a move and one after it, and a match that
has ended in one of them must not end again in another.

* `Table.SameLife`: what leaves the life points alone, and `Table.Solvent`: nobody is below zero.
* `Match.Decided`: what holds of a match that is won, and `Ending.decided`: every way to end a
  match brings it about.
* `Match.Judged`: nobody has lost a match that goes on, and one that has ended is decided.
* `Arena.match_verdict`: the statement over all calls that an arena may serve.
-/

namespace CardDuel

open Resolution

/-! ## Life points -/

namespace Table

variable {t t' : Table}

/-- Nobody's life points have changed. -/
def SameLife (t t' : Table) : Prop := ∀ seat, (t'.side seat).life = (t.side seat).life

/-- Nobody has less than no life points. -/
def Solvent (t : Table) : Prop := ∀ seat, 0 ≤ (t.side seat).life

theorem Solvent.congr (h : t.Solvent) (same : SameLife t t') : t'.Solvent := by
  intro seat
  rw [same seat]
  exact h seat

end Table

section

variable {setup : Setup} {s s' : Scene}

/-- Life points that are lost never go below zero, and nothing else touches them. -/
theorem Entry.solvent (entry : Entry setup s s') (h : s.table.Solvent) : s'.table.Solvent := by
  cases entry with
  | silent shift log => exact h.congr shift.course.life
  | aside kind => exact h
  | life seat change s =>
    intro seat'
    show 0 ≤ ((s.table.modifySide seat _).side seat').life
    rw [Table.side_modifySide]
    split
    · exact Int.le_max_right _ _
    · exact h seat'
  | phase seat phase s => exact h
  | play placed ok onTurn proper kind told names =>
    exact h.congr fun seat' => life_played _ seat' _ _ _ _

theorem Line.solvent (line : Line setup s s') (h : s.table.Solvent) : s'.table.Solvent := by
  cases line with
  | entry entry => exact entry.solvent h
  | turn m =>
    intro seat
    rw [side_handOver]
    exact h seat

theorem Lines.solvent (lines : Lines setup s s') (h : s.table.Solvent) : s'.table.Solvent := by
  induction lines with
  | refl => exact h
  | tail _ line ih => exact line.solvent ih

end

namespace Match

variable {setup : Setup} {m m' : Match} {ids : List LinkId} {seat : Seat} {card : CardRef}

/-! ## Ways to end a match -/

/-- The match is won, and this is told last.  Nobody loses by life points who has some, and by
the deck who has cards in it. -/
structure Decided (m : Match) (winner : Seat) (reason : WinReason) : Prop where
  told : ∃ before last, m.log.events = before ++ [last] ∧ (∀ e ∈ before, e.type ≠ .gameEnd) ∧
    last.type = .gameEnd ∧ last.details.get? "winner" = some (.text winner.label) ∧
      last.details.get? "reason" = some (.text reason.label)
  lifePoints : reason = .lifePoints → (m.side winner.other).life = 0 ∧
    ((m.side winner).life = 0 → winner = m.table.current)
  deckOut : reason = .deckOut → winner.other = m.table.current ∧
    (m.side winner.other).deck = [] ∧ m.table.phase = .draw

theorem details_endNews (winner : Seat) (reason : WinReason) :
    (endNews winner reason).details.get? "winner" = some (.text winner.label) ∧
      (endNews winner reason).details.get? "reason" = some (.text reason.label) := by
  simp [endNews, Details.get?]

/-- A match that is won has its status, the cards of its links are put away, and all else is as
it was. -/
theorem finish_spec (winner : Seat) (reason : WinReason) (m : Match) :
    (m.finish winner reason).table.status = .finished winner reason ∧
      (m.finish winner reason).table.current = m.table.current ∧
      Table.SameLife m.table (m.finish winner reason).table := by
  let won : Table := { m.table with status := .finished winner reason }
  have life : Table.SameLife won (m.chain.cleared won) := (won.pared_cleared m.chain).course.life
  obtain ⟨sides, rng, chained, cleared⟩ := m.chain.cleared_frame won
  refine ⟨?_, ?_, life⟩
  · show (m.chain.cleared won).status = _
    rw [cleared]
  · show (m.chain.cleared won).current = _
    rw [cleared]

theorem told_finish (quiet : ∀ e ∈ m.log.events, e.type ≠ .gameEnd) (winner : Seat)
    (reason : WinReason) :
    ∃ before last, (m.finish winner reason).log.events = before ++ [last] ∧
      (∀ e ∈ before, e.type ≠ .gameEnd) ∧ last.type = .gameEnd ∧
        last.details.get? "winner" = some (.text winner.label) ∧
        last.details.get? "reason" = some (.text reason.label) :=
  ⟨m.log.events, _, rfl, quiet, rfl, details_endNews winner reason⟩

/-- Whoever has lost has no life points left.  The player whose turn it is loses only if the
other has some. -/
theorem loser?_eq_some {t : Table} {loser : Seat} (lost : loser? t = some loser) :
    (t.side loser).life ≤ 0 ∧ (loser = t.current → 0 < (t.side loser.other).life) := by
  unfold loser? at lost
  have broke := List.find?_some lost
  refine ⟨of_decide_eq_true broke, ?_⟩
  rintro rfl
  rw [List.find?_cons] at lost
  cases rich : decide ((t.side t.current.other).life ≤ 0) with
  | true =>
    rw [rich] at lost
    exact absurd (Option.some.inj lost) (Seat.other_ne _)
  | false => exact Int.not_le.1 (of_decide_eq_false rich)

theorem life_pos_of_undecided (undecided : loser? m.table = none) (seat : Seat) :
    0 < (m.side seat).life := by
  unfold loser? at undecided
  rw [List.find?_eq_none] at undecided
  have there : seat ∈ [m.table.current.other, m.table.current] := by
    by_cases own : m.table.current = seat
    · simp [own]
    · simp [Seat.other_eq_of_ne own]
  have rich := undecided seat there
  rw [decide_eq_true_iff] at rich
  exact Int.not_le.1 rich

theorem undecided_of_life_pos (rich : ∀ seat, 0 < (m.side seat).life) : loser? m.table = none := by
  unfold loser?
  rw [List.find?_eq_none]
  intro seat _ broke
  have broke : (m.side seat).life ≤ 0 := of_decide_eq_true broke
  exact Int.not_le.2 (rich seat) broke

/-- Every way to end a match decides it. -/
theorem Ending.decided {move : Move} (ending : Ending seat move m m') (solvent : m.table.Solvent)
    (quiet : ∀ e ∈ m.log.events, e.type ≠ .gameEnd) :
    ∃ winner reason, m'.table.status = .finished winner reason ∧ m'.Decided winner reason := by
  cases ending with
  | @lost loser lost =>
    obtain ⟨status, current, life⟩ := finish_spec loser.other .lifePoints m
    obtain ⟨broke, turn⟩ := loser?_eq_some lost
    refine ⟨loser.other, .lifePoints, status, told_finish quiet _ _, fun _ => ⟨?_, ?_⟩, nofun⟩
    · rw [Seat.other_other]
      have none : (m.side loser).life = 0 := Int.le_antisymm broke (solvent loser)
      exact (life loser).trans none
    · intro both
      have both : (m.side loser.other).life = 0 := (life loser.other).symm.trans both
      rw [current]
      by_cases own : loser = m.table.current
      · have rich : 0 < (m.side loser.other).life := turn own
        omega
      · exact Seat.other_eq_of_ne own
  | deckOut noChain draw empty =>
    obtain ⟨status, -⟩ := finish_spec m.table.current.other .deckOut m
    refine ⟨m.table.current.other, .deckOut, status, told_finish quiet _ _, nofun, fun _ => ?_⟩
    show _ = (m.finish _ _).table.current ∧ ((m.finish _ _).table.side _).deck = [] ∧
      (m.finish _ _).table.phase = .draw
    rw [table_finish noChain, Seat.other_other]
    exact ⟨rfl, empty, draw⟩
  | surrender gives =>
    obtain ⟨status, -⟩ := finish_spec seat.other .surrender m
    exact ⟨seat.other, .surrender, status, told_finish quiet _ _, nofun, nofun⟩

/-- No event of an action says that the match has ended. -/
theorem Action.quiet {move : Move} (action : Action setup seat move m ids m')
    (placed : m.table.Placed []) (quiet : ∀ e ∈ m.log.events, e.type ≠ .gameEnd) :
    ∀ e ∈ m'.log.events, e.type ≠ .gameEnd := by
  obtain ⟨new, log, kind, -⟩ := action.tells placed
  intro e he
  rw [log] at he
  rcases List.mem_append.1 he with old | new
  · exact quiet e old
  · exact kind e new

/-! ## Between two moves -/

/-- Nobody has lost a match that goes on, and the log does not say that it has ended.  A match
that has ended is decided. -/
structure Judged (m : Match) : Prop where
  solvent : m.table.Solvent
  going : m.table.isActive → loser? m.table = none ∧ ∀ e ∈ m.log.events, e.type ≠ .gameEnd
  ended : ∀ winner reason, m.table.status = .finished winner reason → m.Decided winner reason

theorem Judged.play {p : Play} (h : p.before.Judged) (placed : p.before.table.Placed [])
    (legal : p.Legal setup) : p.after.Judged := by
  obtain ⟨seat, moved, -, active, action, result⟩ := play_action placed legal
  have solvent : moved.table.Solvent := (action.lines placed).solvent h.solvent
  have going : moved.table.isActive := (action.isActive placed).trans active
  have quiet : ∀ e ∈ moved.log.events, e.type ≠ .gameEnd :=
    action.quiet placed (h.going active).2
  rcases result with ⟨rfl, undecided⟩ | ending
  · refine ⟨solvent, fun _ => ⟨undecided, quiet⟩, fun winner reason won => ?_⟩
    simp [Table.isActive, won] at going
  · obtain ⟨winner, reason, status, decided⟩ := ending.decided solvent quiet
    have played : p.after.table.Solvent := (play_lines placed legal).solvent h.solvent
    refine ⟨played, fun active => ?_, fun winner' reason' status' => ?_⟩
    · rw [ending.isActive] at active
      cases active
    · cases status.symm.trans status'
      exact decided

section

variable (setup) (lobby : Lobby) (game : GameName) (players : Seats User)
  (decks : Seats (List CardId)) (seed : UInt64)

/-- No event says that a match has ended when it begins. -/
theorem quiet_start :
    ∀ e ∈ (start setup lobby game players decks seed).log.events, e.type ≠ .gameEnd := by
  let ready := ready setup (.start lobby game players) decks seed
  have drawing (seat : Seat) (count : Nat) (s : Scene) :
      Scene.Tells (· ≠ .gameEnd) s (draw seat count s).2 :=
    (deed_draw setup seat count s).tells.mono fun _ => EventType.ne_gameEnd
  have mainPhase (s : Scene) : Scene.Tells (· ≠ .gameEnd) s
      ((s.change ({ · with phase := .main1 })).record (phaseNews .host .main1)) :=
    Scene.tells_report (by simp [phaseNews]) fun _ => .inr (Table.stays_of_side (fun _ => rfl) rfl)
  have tells_turnStart (s : Scene) : Scene.Tells (· ≠ .gameEnd) s (s.record (turnNews .host 1)) :=
    Scene.tells_record (by simp [turnNews])
  have told : Scene.Tells (· ≠ .gameEnd) ready
      (start setup lobby game players decks seed).toScene := by
    have started : Scene.Tells (· ≠ .gameEnd) ready (ready.record (startNews players seed)) :=
      Scene.tells_record (by simp [startNews])
    have dealt := started.trans
      (Scene.tells_each (drawing · setup.rules.startingHand) Seat.all _)
    have begun := dealt.trans (tells_turnStart _)
    unfold start opening
    dsimp only
    split
    · exact (begun.trans (drawing .host 1 _)).trans (mainPhase _)
    · exact begun.trans (mainPhase _)
  obtain ⟨new, log, kind, -⟩ := told
  rw [log]
  exact kind

theorem judged_start (living : 0 < setup.rules.startingLife) :
    (start setup lobby game players decks seed).Judged := by
  have steady := steady_start setup lobby game players decks seed
  refine ⟨fun seat => ?_, fun _ => ⟨undecided_start living _ _ _ _ _, quiet_start setup _ _ _ _ _⟩,
    fun winner reason won => ?_⟩
  · rw [steady.life]
    cases seat <;> exact Int.le_of_lt living
  · rw [steady.status] at won
    cases won

end

end Match

namespace Arena

variable {setup : Setup} {calls : List Call} {lobby : Lobby} {m : Match}

theorem judged_of_live (living : 0 < setup.rules.startingLife)
    (live : ((start setup).serveAll calls).lobbies lobby = .live m) : m.Judged :=
  kept_of_live Match.Judged (fun _ _ _ _ _ => Match.judged_start setup _ _ _ _ _ living)
    (fun _ placed legal judged => judged.play placed legal) live

/-- A match that has ended stays as it is until it is closed. -/
theorem finished_stays (ended : m.table.isActive = false) {arena : Arena} {call : Call}
    (live : arena.lobbies lobby = .live m) (other : call ≠ .closeMatch lobby) :
    (arena.serve call).2.lobbies lobby = .live m := by
  have step := (serve_lobby arena lobby call).2
  rw [live] at step
  generalize (arena.serve call).2.lobbies lobby = state at step ⊢
  generalize (arena.playIn? lobby call).toList = plays at step
  cases step with
  | same => rfl
  | played legal =>
    obtain ⟨_, _, -, active, -⟩ := Match.play_ok legal
    rw [ended] at active
    cases active
  | closed called => exact absurd called other

theorem finished_stays_all (ended : m.table.isActive = false) {arena : Arena}
    (live : arena.lobbies lobby = .live m) (later : List Call)
    (others : ∀ call ∈ later, call ≠ .closeMatch lobby) :
    (arena.serveAll later).lobbies lobby = .live m := by
  induction later generalizing arena with
  | nil => exact live
  | cons call later ih =>
    exact ih (finished_stays ended live (others call List.mem_cons_self))
      fun call hcall => others call (List.mem_cons_of_mem _ hcall)

/-- In every live match: while it goes on both players have life points, and the log does not
say that it has ended.  Once it has ended the log says so, once and last, and names the winner and
the reason, and no other winner or reason; whoever has lost by life points has none, and if neither
has any it is the one whose turn it is not; whoever has lost by the deck is in the Draw Phase with
an empty deck.  Nothing changes the match after that until it is closed. -/
theorem match_verdict (setup : Setup) (living : 0 < setup.rules.startingLife) (calls : List Call)
    (lobby : Lobby) (m : Match)
    (live : ((start setup).serveAll calls).lobbies lobby = .live m) :
    (m.table.status = .active →
      (∀ seat, 0 < (m.side seat).life) ∧ ∀ e ∈ m.log.events, e.type ≠ .gameEnd) ∧
    ∀ winner reason, m.table.status = .finished winner reason →
      (∃ before last, m.log.events = before ++ [last] ∧ (∀ e ∈ before, e.type ≠ .gameEnd) ∧
        last.type = .gameEnd ∧
        (∀ seat, last.details.get? "winner" = some (.text seat.label) ↔ seat = winner) ∧
        ∀ other, last.details.get? "reason" = some (.text other.label) ↔ other = reason) ∧
      (reason = .lifePoints → (m.side winner.other).life = 0 ∧
        ((m.side winner).life = 0 → winner = m.table.current)) ∧
      (reason = .deckOut → winner.other = m.table.current ∧ (m.side winner.other).deck = [] ∧
        m.table.phase = .draw) ∧
      ∀ later : List Call, (∀ call ∈ later, call ≠ .closeMatch lobby) →
        ((start setup).serveAll (calls ++ later)).lobbies lobby = .live m := by
  have judged := judged_of_live living live
  refine ⟨fun active => ?_, fun winner reason won => ?_⟩
  · have active : m.table.isActive := by simp [Table.isActive, active]
    obtain ⟨undecided, quiet⟩ := judged.going active
    exact ⟨Match.life_pos_of_undecided undecided, quiet⟩
  · have ended : m.table.isActive = false := by simp [Table.isActive, won]
    obtain ⟨⟨before, last, log, quiet, type, who, how⟩, lifePoints, deckOut⟩ :=
      judged.ended winner reason won
    refine ⟨⟨before, last, log, quiet, type, Details.tells_iff Seat.label_injective who,
      Details.tells_iff WinReason.label_injective how⟩, lifePoints, deckOut, fun later others => ?_⟩
    rw [serveAll, List.foldl_append]
    exact finished_stays_all ended live later others

/-- The host surrenders.  The log says that, and no other reason, and then nothing happens any
more. -/
theorem surrender_verdict :
    let m := Sample.after Sample.rite [(.host, .surrender)]
    m.table.status = .finished .opponent .surrender ∧
      (∃ before last, m.log.events = before ++ [last] ∧ last.type = .gameEnd ∧
        last.details.get? "reason" = some (.text WinReason.surrender.label) ∧
        last.details.get? "reason" ≠ some (.text WinReason.lifePoints.label)) ∧
      ((start Sample.setup).serveAll (Sample.calls Sample.rite [(.host, .surrender)] ++
        [.play (.user Sample.players.host) Sample.lobby .endTurn])).lobbies Sample.lobby =
          .live m := by
  intro m
  let calls := Sample.calls Sample.rite [(.host, .surrender)]
  have live : ((start Sample.setup).serveAll calls).lobbies Sample.lobby = .live m := by rfl
  have won : m.table.status = .finished .opponent .surrender := by decide +kernel
  obtain ⟨⟨before, last, log, -, type, -, how⟩, -, -, stays⟩ :=
    (match_verdict Sample.setup (by decide) calls Sample.lobby m live).2 .opponent .surrender won
  refine ⟨won, ⟨before, last, log, type, (how _).2 rfl, mt (how _).1 (by decide)⟩,
    stays _ fun call hcall => ?_⟩
  rw [List.mem_singleton.1 hcall]
  exact nofun

end Arena

end CardDuel
