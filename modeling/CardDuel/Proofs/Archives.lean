import CardDuel.Proofs.Isolation
import CardDuel.Proofs.Verdict
import CardDuel.Proofs.Widths

/-!
# The life of a lobby

A lobby is vacant until a match is opened in it, and that match is live until it is over and
closed.  Then there is only its archive, and the lobby is of no more use.

* `Arena.accepted`: the calls that were not refused, and `Call.isTurnover`: those that open or
  close a match in a lobby.
* `Lifetime`: what a lobby has come to by them.  There are two of them at most.
* `Call.refusalWhenClosed`: how a closed lobby answers.
* `Match.Announced`: the log of a match that has ended says so last, and no other log does.
* `Archive.Faithful`: an archive holds what there was to know about the match.
* `Arena.archived_once`: the statement over all calls that an arena may serve.
-/

namespace CardDuel

/-! ## Opening and closing -/

/-- The call opens or closes a match in a lobby. -/
def Call.isTurnover (lobby : Lobby) : Call → Bool
  | .createMatch l .. => l = lobby
  | .closeMatch l => l = lobby
  | _ => false

/-- The calls that open or close a match in a lobby, and what the lobby has come to by them. -/
inductive Lifetime (lobby : Lobby) : List Call → LobbyState → Prop where
  | vacant : Lifetime lobby [] .vacant
  | live (game : GameName) (players : Seats User) (decks : Seats (List CardId)) (seed : UInt64)
      (m : Match) : Lifetime lobby [.createMatch lobby game players decks seed] (.live m)
  | closed (game : GameName) (players : Seats User) (decks : Seats (List CardId))
      (seed : UInt64) :
      Lifetime lobby [.createMatch lobby game players decks seed, .closeMatch lobby] .closed

/-- How a call is refused on a closed lobby. -/
def Call.refusalWhenClosed : Call → Refusal
  | .createMatch lobby .. => .illegal (.lobbyTaken lobby)
  | .play .anonymous _ _ => .notAuthenticated
  | call => .matchNotFound call.lobby

theorem Match.result?_eq_some {m : Match} {winner : Seat} {reason : WinReason} :
    m.result? = some (winner, reason) ↔ m.table.status = .finished winner reason := by
  unfold Match.result?
  cases m.table.status <;> simp

namespace Arena

variable {setup : Setup} {arena after : Arena} {lobby : Lobby} {call : Call} {calls : List Call}
  {reply : Reply}

/-- The calls that are not refused, of some that are served. -/
def accepted (arena : Arena) : List Call → List Call
  | [] => []
  | call :: calls =>
    (if (arena.serve call).1.toBool then [call] else []) ++ (arena.serve call).2.accepted calls

theorem accepted_of_error {refusal : Refusal} (handled : arena.handle call = .error refusal) :
    arena.accepted [call] = [] := by
  simp [accepted, serve_of_error handled, Except.toBool]

theorem accepted_of_ok (handled : arena.handle call = .ok (reply, after)) :
    arena.accepted [call] = [call] := by
  simp [accepted, serve_of_ok handled, Except.toBool]

theorem accepted_snoc (arena : Arena) (calls : List Call) (call : Call) :
    arena.accepted (calls ++ [call]) =
      arena.accepted calls ++ (arena.serveAll calls).accepted [call] := by
  induction calls generalizing arena with
  | nil => rfl
  | cons first calls ih =>
    rw [List.cons_append, accepted, accepted, ih, List.append_assoc]
    rfl

/-- A match can be closed if it is live and over, and is archived then. -/
theorem closeMatch_eq_ok {archive : Archive} :
    arena.closeMatch lobby = .ok (archive, after) ↔
      ∃ m winner reason, arena.lobbies lobby = .live m ∧
        m.table.status = .finished winner reason ∧
        archive = Arena.archive m winner reason ∧ after = arena.put lobby .closed := by
  unfold closeMatch
  simp only [bind_eq_ok, find_ok, ← Match.result?_eq_some]
  refine exists_congr fun m => ?_
  cases m.result? with
  | none => simp [throw, throwThe, MonadExceptOf.throw]
  | some result =>
    obtain ⟨won, how⟩ := result
    simp only [pure_eq_ok, Prod.mk.injEq, Option.some.injEq]
    constructor
    · rintro ⟨live, rfl, rfl⟩
      exact ⟨won, how, live, ⟨rfl, rfl⟩, rfl, rfl⟩
    · rintro ⟨_, _, live, ⟨rfl, rfl⟩, rfl, rfl⟩
      exact ⟨live, rfl, rfl⟩

theorem serve_closeMatch {archive : Archive} :
    arena.serve (.closeMatch lobby) = (.ok (.closed archive), after) ↔
      ∃ m winner reason, arena.lobbies lobby = .live m ∧
        m.table.status = .finished winner reason ∧
        archive = Arena.archive m winner reason ∧ after = arena.put lobby .closed := by
  rw [← closeMatch_eq_ok]
  cases closing : arena.closeMatch lobby with
  | error refusal =>
    have handled : arena.handle (.closeMatch lobby) = .error refusal := by
      rw [handle, closing]
      rfl
    rw [serve_of_error handled]
    simp
  | ok made =>
    have handled : arena.handle (.closeMatch lobby) = .ok (.closed made.1, made.2) := by
      rw [handle, closing]
      rfl
    rw [serve_of_ok handled]
    simp [Prod.ext_iff]

end Arena

/-! ## What a lobby has come to -/

section

open Arena

variable {arena : Arena} {lobby : Lobby} {turnovers : List Call} {state : LobbyState}

theorem Lifetime.more (h : Lifetime lobby turnovers state) :
    Lifetime lobby (turnovers ++ []) state := by
  rw [List.append_nil]
  exact h

theorem Lifetime.serve (h : Lifetime lobby turnovers (arena.lobbies lobby))
    (call : Call) :
    Lifetime lobby (turnovers ++ (arena.accepted [call]).filter (·.isTurnover lobby))
      ((arena.serve call).2.lobbies lobby) := by
  cases handled : arena.handle call with
  | error refusal =>
    rw [accepted_of_error handled, List.filter_nil, List.append_nil, serve_of_error handled]
    exact h
  | ok made =>
    obtain ⟨reply, after⟩ := made
    rw [accepted_of_ok handled, serve_of_ok handled]
    -- In another lobby nothing has been opened or closed, and the state of this one is kept.
    cases call with
    | createMatch l game players decks seed =>
      obtain ⟨_, opening, heq⟩ := bind_eq_ok.1 handled
      cases pure_eq_ok.1 heq
      obtain ⟨free, -, rfl, -⟩ := createMatch_ok opening
      by_cases here : l = lobby
      · subst here
        rw [free] at h
        cases h
        rw [put_self, List.filter_cons_of_pos (by simp [Call.isTurnover])]
        exact .live game players decks seed _
      · rw [put_of_ne _ _ (Ne.symm here), List.filter_cons_of_neg (by simpa [Call.isTurnover])]
        exact h.more
    | closeMatch l =>
      obtain ⟨⟨archive, _⟩, closing, heq⟩ := bind_eq_ok.1 handled
      cases pure_eq_ok.1 heq
      obtain ⟨m, live, rfl⟩ := closeMatch_ok closing
      by_cases here : l = lobby
      · subst here
        rw [live] at h
        cases h
        rw [put_self, List.filter_cons_of_pos (by simp [Call.isTurnover])]
        exact .closed _ _ _ _
      · rw [put_of_ne _ _ (Ne.symm here), List.filter_cons_of_neg (by simpa [Call.isTurnover])]
        exact h.more
    | play caller l move =>
      obtain ⟨⟨report, _⟩, playing, heq⟩ := bind_eq_ok.1 handled
      cases pure_eq_ok.1 heq
      obtain ⟨_, m, made, -, live, -, rfl⟩ := play_ok playing
      by_cases here : l = lobby
      · subst here
        rw [live] at h
        cases h
        rw [put_self]
        exact .live _ _ _ _ made
      · rw [put_of_ne _ _ (Ne.symm here)]
        exact h.more
    | ask l query =>
      obtain ⟨answer, -, heq⟩ := bind_eq_ok.1 handled
      cases pure_eq_ok.1 heq
      exact h.more

end

namespace Arena

variable {setup : Setup} {arena : Arena} {lobby : Lobby} {call : Call}

/-- Whatever calls an arena has served, a lobby has come to what was opened and closed in it. -/
theorem lifetime (setup : Setup) (calls : List Call) (lobby : Lobby) :
    Lifetime lobby (((start setup).accepted calls).filter (·.isTurnover lobby))
      (((start setup).serveAll calls).lobbies lobby) := by
  induction calls using List.reverseRecOn with
  | nil => exact .vacant
  | append_singleton calls call ih =>
    rw [accepted_snoc, List.filter_append, serveAll_snoc]
    exact ih.serve call

/-! ## Closed lobbies -/

theorem closed_stays_all (closed : arena.lobbies lobby = .closed) (later : List Call) :
    (arena.serveAll later).lobbies lobby = .closed := by
  induction later generalizing arena with
  | nil => exact closed
  | cons call later ih => exact ih (closed_stays closed call)

/-- Every call on a closed lobby is refused. -/
theorem serve_closed (closed : arena.lobbies call.lobby = .closed) :
    (arena.serve call).1 = .error call.refusalWhenClosed := by
  have gone {lobby : Lobby} (closed : arena.lobbies lobby = .closed) :
      arena.find lobby = .error (.matchNotFound lobby) := by
    rw [find, closed]
  have refused {refusal : Refusal} (handled : arena.handle call = .error refusal) :
      (arena.serve call).1 = .error refusal := by
    rw [serve_of_error handled]
  apply refused
  cases call with
  | createMatch l game players decks seed =>
    have closed : arena.lobbies l = .closed := closed
    simp only [handle, createMatch, isTaken, closed]
    rfl
  | closeMatch l =>
    have gone : arena.find l = _ := gone closed
    rw [handle, closeMatch, gone]
    rfl
  | play caller l move =>
    have gone : arena.find l = _ := gone closed
    cases caller with
    | anonymous => rfl
    | user user =>
      simp only [handle, play, gone]
      rfl
  | ask l query =>
    have gone : arena.find l = _ := gone closed
    cases query <;> simp only [handle, ask, effectiveAttack, gone] <;> rfl

end Arena

/-! ## The last event -/

namespace Match

variable {setup : Setup} {m m' : Match} {seat : Seat} {move : Move}

/-- As long as the match goes on no event says that it has ended.  Then the last one does, and it
tells who has won and how. -/
structure Announced (m : Match) : Prop where
  going : m.table.isActive → ∀ e ∈ m.log.events, e.type ≠ .gameEnd
  ended : ∀ winner reason, m.table.status = .finished winner reason →
    ∃ before last, m.log.events = before ++ [last] ∧ (∀ e ∈ before, e.type ≠ .gameEnd) ∧
      last.type = .gameEnd ∧ last.details.get? "winner" = some (.text winner.label) ∧
        last.details.get? "reason" = some (.text reason.label)

theorem announced_finish (quiet : ∀ e ∈ m.log.events, e.type ≠ .gameEnd) (winner : Seat)
    (reason : WinReason) : (m.finish winner reason).Announced where
  going active := by
    rw [isActive_finish] at active
    cases active
  ended winner' reason' won := by
    cases (finish_spec winner reason m).1.symm.trans won
    exact told_finish quiet winner reason

theorem Ending.announced (ending : Ending seat move m m')
    (quiet : ∀ e ∈ m.log.events, e.type ≠ .gameEnd) : m'.Announced := by
  cases ending with
  | lost _ => exact announced_finish quiet _ _
  | deckOut _ _ _ => exact announced_finish quiet _ _
  | surrender _ => exact announced_finish quiet _ _

theorem Announced.play {p : Play} (h : p.before.Announced) (placed : p.before.table.Placed [])
    (legal : p.Legal setup) : p.after.Announced := by
  obtain ⟨seat, moved, -, active, action, result⟩ := play_action placed legal
  have quiet : ∀ e ∈ moved.log.events, e.type ≠ .gameEnd :=
    action.quiet placed (h.going active)
  rcases result with ⟨rfl, -⟩ | ending
  · have going : p.after.table.isActive := (action.isActive placed).trans active
    refine ⟨fun _ => quiet, fun winner reason won => ?_⟩
    simp [Table.isActive, won] at going
  · exact ending.announced quiet

end Match

/-! ## Archives -/

/-- The archive of a match that has ended: the bytes of the last table, the whole log, and how it
has ended. -/
structure Archive.Faithful (archive : Archive) (m : Match) : Prop where
  snapshot : archive.snapshot = m.table.snapshot
  audited : m.table.misplaced? = none
  unchained : m.table.chained = .empty
  events : archive.events = m.log.events
  numbered : ∀ (i : Nat) (e : Event), archive.events[i]? = some e → e.sequence = i
  status : m.table.status = .finished archive.winner archive.reason
  turns : archive.turns = m.table.turn
  last : ∃ before last, archive.events = before ++ [last] ∧ (∀ e ∈ before, e.type ≠ .gameEnd) ∧
    last.type = .gameEnd ∧ last.turn = archive.turns ∧
      (∀ seat, last.details.get? "winner" = some (.text seat.label) ↔ seat = archive.winner) ∧
      ∀ reason, last.details.get? "reason" = some (.text reason.label) ↔ reason = archive.reason

namespace Arena

variable {setup : Setup} {calls : List Call} {lobby : Lobby} {m : Match}

theorem announced_of_live (live : ((start setup).serveAll calls).lobbies lobby = .live m) :
    m.Announced := by
  refine kept_of_live Match.Announced (fun lobby game players decks seed => ?_)
    (fun _ placed legal announced => announced.play placed legal) live
  refine ⟨fun _ => Match.quiet_start setup _ _ _ _ _, fun winner reason won => ?_⟩
  rw [(Match.steady_start setup lobby game players decks seed).status] at won
  cases won

theorem faithful_archive (live : ((start setup).serveAll calls).lobbies lobby = .live m)
    {winner : Seat} {reason : WinReason} (won : m.table.status = .finished winner reason) :
    (archive m winner reason).Faithful m := by
  have ended : m.table.isActive = false := by simp [Table.isActive, won]
  have coupled := coupled_of_live live
  obtain ⟨chronicled, before, last, log, turn⟩ : m.toScene.Chronicled ∧ m.toScene.UpToDate :=
    written (fun s => s.Chronicled ∧ s.UpToDate) (chronicled_start setup)
      (fun _ _ line h => line.chronicled h) live
  obtain ⟨before', last', log', quiet, type, who, how⟩ :=
    (announced_of_live live).ended winner reason won
  obtain ⟨rfl, same⟩ := List.append_inj' (log.symm.trans log') rfl
  cases same
  exact {
    snapshot := rfl
    audited := (placed_of_live live).misplaced?
    unchained := (coupled.rests (coupled.finished ended)).2
    events := rfl
    numbered := fun i e he => (chronicled.numbered i e he).1
    status := won
    turns := rfl
    last := ⟨before, last, log, quiet, type, turn, Details.tells_iff Seat.label_injective who,
      Details.tells_iff WinReason.label_injective how⟩ }

/-- Whatever calls an arena has served, one match at most was opened in a lobby and closed at most
once after that, and the lobby is vacant, live or closed accordingly.  When it is closed it stays
so, and every call on it is refused.  It can be closed exactly if it is live and its match has
ended.  Then it is closed, and what is archived is faithful: no card is out of its place or on the
chain; the events are the whole log; and the winner, the reason and the number of turns are those
of the table and of the last event, which says that the match has ended and names no other winner
or reason.  If 4 and 8 bytes have room for the numbers on the printed cards and for the life points
at the start, and 4 bytes for the number of cards in the two decks, the last table comes back from
the snapshot, with its turns modulo 2 ^ 32. -/
theorem archived_once (setup : Setup) (calls : List Call) (lobby : Lobby) :
    let arena := (start setup).serveAll calls
    Lifetime lobby (((start setup).accepted calls).filter (·.isTurnover lobby))
        (arena.lobbies lobby) ∧
      (arena.lobbies lobby = .closed → ∀ later : List Call,
        (arena.serveAll later).lobbies lobby = .closed ∧
        ∀ call : Call, call.lobby = lobby →
          ((arena.serveAll later).serve call).1 = .error call.refusalWhenClosed) ∧
      ((∃ archive, (arena.serve (.closeMatch lobby)).1 = .ok (.closed archive)) ↔
        ∃ m winner reason, arena.lobbies lobby = .live m ∧
          m.table.status = .finished winner reason) ∧
      ∀ archive, (arena.serve (.closeMatch lobby)).1 = .ok (.closed archive) →
        (arena.serve (.closeMatch lobby)).2.lobbies lobby = .closed ∧
        ∃ m, arena.lobbies lobby = .live m ∧ archive.Faithful m ∧
          (setup.Sized → FewCards lobby calls →
            Table.restore archive.snapshot = .ok m.table.inWords ∧
            (IsWord m.table.turn → Table.restore archive.snapshot = .ok m.table)) := by
  intro arena
  have closing {archive : Archive}
      (closed : (arena.serve (.closeMatch lobby)).1 = .ok (.closed archive)) :
      ∃ m winner reason, arena.lobbies lobby = .live m ∧
        m.table.status = .finished winner reason ∧ archive = Arena.archive m winner reason ∧
        (arena.serve (.closeMatch lobby)).2 = arena.put lobby .closed :=
    serve_closeMatch.1 (Prod.ext closed rfl)
  refine ⟨lifetime setup calls lobby, fun closed later => ?_, ⟨?_, ?_⟩, fun archive closed => ?_⟩
  · have closed := closed_stays_all closed later
    exact ⟨closed, fun call own => serve_closed (own ▸ closed)⟩
  · rintro ⟨archive, closed⟩
    obtain ⟨m, winner, reason, live, won, -⟩ := closing closed
    exact ⟨m, winner, reason, live, won⟩
  · rintro ⟨m, winner, reason, live, won⟩
    exact ⟨_, congrArg Prod.fst (serve_closeMatch.2 ⟨m, winner, reason, live, won, rfl, rfl⟩)⟩
  · obtain ⟨m, winner, reason, live, won, rfl, after⟩ := closing closed
    rw [after, put_self]
    refine ⟨rfl, m, live, faithful_archive live won, fun sized few => ?_⟩
    have restored := restore_of_live sized few live
    exact ⟨restored, fun short => inWords_of_live live short ▸ restored⟩

/-- The host surrenders while the rite is still on the chain, and the match is closed. -/
theorem rite_archived :
    let moves := Sample.linking ++ [(.host, .surrender)]
    let calls := Sample.calls Sample.rite moves
    let m := Sample.after Sample.rite moves
    let archive := Arena.archive m .opponent .surrender
    let closed := (start Sample.setup).serveAll (calls ++ [.closeMatch Sample.lobby])
    (((start Sample.setup).serveAll calls).serve (.closeMatch Sample.lobby)).1 =
        .ok (.closed archive) ∧
      Table.restore archive.snapshot = .ok m.table ∧
      (∃ before last, archive.events = before ++ [last] ∧ last.type = .gameEnd ∧
        last.details.get? "reason" = some (.text WinReason.surrender.label) ∧
        last.details.get? "reason" ≠ some (.text WinReason.deckOut.label)) ∧
      closed.lobbies Sample.lobby = .closed ∧
      (closed.serve (.ask Sample.lobby .whole)).1 = .error (.matchNotFound Sample.lobby) := by
  intro moves calls m archive closed
  have live : ((start Sample.setup).serveAll calls).lobbies Sample.lobby = .live m := by rfl
  have won : m.table.status = .finished .opponent .surrender := by decide +kernel
  have sized : Sample.setup.Sized := ⟨by decide, by decide⟩
  have few : FewCards Sample.lobby calls := by
    intro game players decks seed called
    rcases List.mem_cons.1 called with opens | moves
    · cases opens
      decide
    · obtain ⟨_, -, plays⟩ := List.mem_map.1 moves
      cases plays
  have served : closed = (((start Sample.setup).serveAll calls).serve (.closeMatch _)).2 :=
    serveAll_snoc _ _ _
  obtain ⟨-, -, closable, archived⟩ := archived_once Sample.setup calls Sample.lobby
  obtain ⟨kept, reply⟩ := closable.2 ⟨m, .opponent, .surrender, live, won⟩
  obtain ⟨gone, m', live', faithful, restores⟩ := archived kept reply
  cases live.symm.trans live'
  have same : kept = archive := by
    obtain ⟨_, _, _, live', won', rfl, -⟩ := serve_closeMatch.1 (Prod.ext reply rfl)
    cases live.symm.trans live'
    cases won.symm.trans won'
    rfl
  subst same
  obtain ⟨before, last, log, -, type, -, -, how⟩ := faithful.last
  rw [← served] at gone
  have refused := ((archived_once Sample.setup _ Sample.lobby).2.1 gone []).2
    (.ask Sample.lobby .whole) rfl
  exact ⟨reply, (restores sized few).2 (by decide +kernel),
    ⟨before, last, log, type, (how _).2 rfl, mt (how _).1 (by decide +kernel)⟩, gone, refused⟩

end Arena

end CardDuel
