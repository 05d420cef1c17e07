import CardDuel.Proofs.Entries

/-!
# The log is only added to

A reader who follows a match asks for the events from a cursor on, and goes on from the cursor
that came with the answer.  This loses nothing only if the log is never rewritten, not even by a
move that is refused halfway, and if its events are numbered as they come.

* `Scene.Chronicled`: events are numbered, name the accounts at the seats, and are stamped with
  turns in their order.
* `Line.chronicled`: whatever is written down keeps this.
* `Arena.log_grows`: a call adds to the log of a live match, or leaves it alone.
* `Reader` and `Arena.watch`: calls and the polls of a reader in any order.
* `Reader.Abreast`: what a reader has received is a stretch of the log.
* `Arena.polling_lossless`: the statement over all calls that an arena may serve.
-/

namespace CardDuel

open Resolution

/-! ## Events in their order -/

namespace Scene

variable {s s' : Scene}

/-- Every event has its number and the account at its seat, and none comes from a later turn than
the next one or than the present one. -/
structure Chronicled (s : Scene) : Prop where
  numbered : ∀ (i : Nat) (e : Event), s.log.events[i]? = some e →
    e.sequence = i ∧ e.user = e.seat.map s.log.players.get
  ordered : s.log.events.Pairwise (·.turn ≤ ·.turn)
  past : ∀ e ∈ s.log.events, e.turn ≤ s.table.turn

/-- The last event is of the present turn. -/
def UpToDate (s : Scene) : Prop :=
  ∃ before last, s.log.events = before ++ [last] ∧ last.turn = s.table.turn

theorem upToDate_record (s : Scene) (news : News) : (s.record news).UpToDate := ⟨_, _, rfl, rfl⟩

theorem Chronicled.record (h : s.Chronicled) (news : News) : (s.record news).Chronicled where
  numbered i e he := by
    have he : (s.log.events ++ [s.log.stamp s.table.turn news])[i]? = some e := he
    rcases Nat.lt_or_ge i s.log.events.length with old | new
    · rw [List.getElem?_append_left old] at he
      exact h.numbered i e he
    · rw [List.getElem?_append_right new, List.getElem?_singleton] at he
      split at he
      · next last =>
        cases he
        exact ⟨Nat.le_antisymm new (Nat.le_of_sub_eq_zero last), rfl⟩
      · cases he
  ordered := by
    refine List.pairwise_append.2 ⟨h.ordered, List.pairwise_singleton _ _, fun e he last hl => ?_⟩
    rw [List.mem_singleton.1 hl]
    exact h.past e he
  past e he := by
    rcases List.mem_append.1 he with old | new
    · exact h.past e old
    · rw [List.mem_singleton.1 new]
      exact Nat.le_refl _

/-- A change of the table that is not told leaves the log alone. -/
theorem Chronicled.untold (h : s.Chronicled) (log : s'.log = s.log)
    (later : s.table.turn ≤ s'.table.turn) : s'.Chronicled := by
  obtain ⟨numbered, ordered, past⟩ := h
  rw [← log] at numbered ordered past
  exact ⟨numbered, ordered, fun e he => Nat.le_trans (past e he) later⟩

theorem Chronicled.change (h : s.Chronicled) {f : Table → Table}
    (later : s.table.turn ≤ (f s.table).turn) : (s.change f).Chronicled :=
  h.untold rfl later

end Scene

section

variable {setup : Setup} {s s' : Scene}

theorem chronicled_payTributes (seat : Seat) (tributes : List CardRef) (h : s.Chronicled) :
    (s.each (Match.payTribute setup seat) tributes).2.Chronicled := by
  have step (tribute : CardRef) (s : Scene) (h : s.Chronicled) :
      (Match.payTribute setup seat tribute s).2.Chronicled := by
    have moved := s.table.pared_moveToPile tribute .graveyard .top
    exact (h.change (Nat.le_of_eq moved.turn.symm)).record _
  exact Scene.each_keeps step tributes h

theorem Entry.chronicled (entry : Entry setup s s') (h : s.Chronicled) : s'.Chronicled := by
  cases entry with
  | silent shift log => exact h.untold log (Nat.le_of_eq shift.course.turn.symm)
  | aside kind => exact h.record _
  | life seat change s => exact (h.change (Nat.le_refl _)).record _
  | phase seat phase s => exact (h.change (Nat.le_refl _)).record _
  | @play m seat tributes printed monster news placed ok onTurn proper kind told names =>
    have paid : Scene.Chronicled (m.toScene.each (Match.payTribute setup seat) tributes).2 :=
      chronicled_payTributes seat tributes h
    exact (paid.change (Nat.le_refl _)).record news

theorem Entry.upToDate (entry : Entry setup s s') (h : s.UpToDate) : s'.UpToDate := by
  cases entry with
  | silent shift same =>
    obtain ⟨before, last, log, turn⟩ := h
    exact ⟨before, last, same ▸ log, turn.trans shift.course.turn.symm⟩
  | aside kind => exact Scene.upToDate_record _ _
  | life seat change s => exact Scene.upToDate_record _ _
  | phase seat phase s => exact Scene.upToDate_record _ _
  | play placed ok onTurn proper kind told names => exact Scene.upToDate_record _ _

/-- Whatever is written down comes after what was written before. -/
theorem Line.chronicled (line : Line setup s s') (h : s.Chronicled ∧ s.UpToDate) :
    s'.Chronicled ∧ s'.UpToDate := by
  cases line with
  | entry entry => exact ⟨entry.chronicled h.1, entry.upToDate h.2⟩
  | turn m =>
    have ended := (h.1.change (f := Match.restTable) (Nat.le_refl _)).record
      (Match.turnEndNews m.table.current m.table.turn)
    have begun := (ended.change (f := fun t => { t with
      current := m.table.current.other, turn := m.table.turn + 1, phase := .draw })
      (Nat.le_succ _)).record (Match.turnNews m.table.current.other (m.table.turn + 1))
    exact ⟨begun.record _, Scene.upToDate_record _ _⟩

theorem chronicled_start (setup : Setup) (lobby : Lobby) (game : GameName) (players : Seats User)
    (decks : Seats (List CardId)) (seed : UInt64) :
    let m := Match.start setup lobby game players decks seed
    m.toScene.Chronicled ∧ m.toScene.UpToDate := by
  intro m
  obtain ⟨dealt, drawn, dealing, drawing, started⟩ :=
    Match.start_entries setup lobby game players decks seed
  have empty : Scene.Chronicled (Match.ready setup (.start lobby game players) decks seed) :=
    ⟨fun _ _ he => absurd (List.mem_of_getElem? he) List.not_mem_nil, .nil,
      fun _ he => absurd he List.not_mem_nil⟩
  have hands := keeps_along dealing (fun _ _ => Entry.chronicled) empty
  have begun := hands.record (Match.turnNews .host 1)
  have ready := keeps_along drawing (fun _ _ => Entry.chronicled) begun
  rw [started]
  exact ⟨(ready.change (Nat.le_refl _)).record _, Scene.upToDate_record _ _⟩

end

/-! ## Readers -/

/-- Somebody who reads the log of a match: the pages received, and the cursor that came with the
last of them. -/
structure Reader where
  cursor : Nat
  pages : List EventPage

namespace Reader

/-- A reader who begins at a cursor. -/
def start (cursor : Nat) : Reader := ⟨cursor, []⟩

/-- All events received. -/
def received (reader : Reader) : List Event := reader.pages.flatMap (·.events)

/-- The reader with the answer to a poll.  One that is refused is of no use. -/
def receive (reader : Reader) : Except Refusal Reply → Reader
  | .ok (.asked (.page page)) => ⟨page.nextCursor, reader.pages ++ [page]⟩
  | _ => reader

/-- What the reader has received is the log from the first cursor up to the present one. -/
structure Abreast (first : Nat) (log : Log) (reader : Reader) : Prop where
  begun : first ≤ reader.cursor
  within : reader.cursor ≤ log.size
  received : reader.received = (log.events.take reader.cursor).drop first

end Reader

/-- What happens while a reader looks on: any call is served, or the reader polls. -/
inductive Happening where
  | call (call : Call)
  | poll

namespace Arena

/-- The arena and the reader after a call or a poll. -/
def follow (lobby : Lobby) : Arena × Reader → Happening → Arena × Reader
  | (arena, reader), .call call => ((arena.serve call).2, reader)
  | (arena, reader), .poll =>
    let (reply, after) := arena.serve (.ask lobby (.poll reader.cursor))
    (after, reader.receive reply)

/-- The arena and the reader after calls and polls. -/
def watch (lobby : Lobby) (happenings : List Happening) (state : Arena × Reader) : Arena × Reader :=
  happenings.foldl (follow lobby) state

end Arena

namespace Reader

variable {first : Nat} {log log' : Log} {reader : Reader}

theorem abreast_start (within : first ≤ log.size) : (start first).Abreast first log := by
  refine ⟨Nat.le_refl _, within, ?_⟩
  show [] = (log.events.take first).drop first
  rw [List.drop_eq_nil_of_le (List.length_take_le _ _)]

/-- A log that is added to keeps what was read. -/
theorem Abreast.extends (h : reader.Abreast first log) {suffix : List Event}
    (grown : log'.events = log.events ++ suffix) : reader.Abreast first log' where
  begun := h.begun
  within := by
    have within := h.within
    simp only [Log.size, grown, List.length_append] at within ⊢
    omega
  received := by
    rw [h.received, grown, List.take_append_of_le_length h.within]

/-- After a poll the reader has received everything. -/
theorem Abreast.poll (h : reader.Abreast first log) :
    (reader.receive (.ok (.asked (.page (log.poll reader.cursor))))).received =
        log.events.drop first ∧
      (reader.receive (.ok (.asked (.page (log.poll reader.cursor))))).Abreast first log := by
  have all : (reader.receive (.ok (.asked (.page (log.poll reader.cursor))))).received =
      log.events.drop first := by
    have length : (log.events.take reader.cursor).length = reader.cursor :=
      List.length_take_of_le h.within
    calc (reader.pages ++ [log.poll reader.cursor]).flatMap (·.events)
      _ = reader.received ++ log.events.drop reader.cursor := by
        rw [List.flatMap_append, List.flatMap_singleton]
        rfl
      _ = (log.events.take reader.cursor).drop first ++ log.events.drop reader.cursor := by
        rw [h.received]
      _ = (log.events.take reader.cursor ++ log.events.drop reader.cursor).drop first :=
        (List.drop_append_of_le_length (by rw [length]; exact h.begun)).symm
      _ = log.events.drop first := by rw [List.take_append_drop]
  refine ⟨all, Nat.le_trans h.begun h.within, Nat.le_refl _, ?_⟩
  show _ = (log.events.take log.events.length).drop first
  rw [List.take_length]
  exact all

end Reader

namespace Arena

variable {setup : Setup} {calls : List Call} {lobby : Lobby} {m : Match}

/-- A call that is refused changes nothing. -/
theorem serve_refused {arena : Arena} {call : Call} {refusal : Refusal}
    (refused : (arena.serve call).1 = .error refusal) : (arena.serve call).2 = arena := by
  cases handled : arena.handle call with
  | error _ => rw [serve_of_error handled]
  | ok made =>
    rw [serve_of_ok handled] at refused
    cases refused

/-- A call closes a live match, or adds to its log. -/
theorem log_grows (live : ((start setup).serveAll calls).lobbies lobby = .live m) (call : Call) :
    ((start setup).serveAll (calls ++ [call])).lobbies lobby = .closed ∨
      ∃ m', ((start setup).serveAll (calls ++ [call])).lobbies lobby = .live m' ∧
        ∃ suffix, m'.log.events = m.log.events ++ suffix := by
  have step := (serve_lobby ((start setup).serveAll calls) lobby call).2
  rw [setup_serveAll, live] at step
  rw [serveAll_snoc]
  generalize (((start setup).serveAll calls).serve call).2.lobbies lobby = state at step ⊢
  generalize (((start setup).serveAll calls).playIn? lobby call).toList = plays at step
  cases step with
  | same => exact .inr ⟨m, rfl, [], (List.append_nil _).symm⟩
  | @played p legal =>
    have stages := Match.play_stages (placed_of_live live) legal
    obtain ⟨suffix, grown⟩ := (Match.log_of_stages stages).events
    exact .inr ⟨p.after, rfl, suffix, grown.symm⟩
  | closed called => exact .inl rfl

/-- A lobby is closed for good. -/
theorem closed_stays {arena : Arena} (closed : arena.lobbies lobby = .closed) (call : Call) :
    (arena.serve call).2.lobbies lobby = .closed := by
  have step := (serve_lobby arena lobby call).2
  rw [closed] at step
  generalize (arena.serve call).2.lobbies lobby = state at step ⊢
  generalize (arena.playIn? lobby call).toList = plays at step
  cases step
  rfl

theorem closed_stays_watch {arena : Arena} (closed : arena.lobbies lobby = .closed)
    (reader : Reader) (happenings : List Happening) :
    (watch lobby happenings (arena, reader)).1.lobbies lobby = .closed := by
  induction happenings generalizing arena reader with
  | nil => exact closed
  | cons happening happenings ih =>
    cases happening with
    | call call => exact ih (closed_stays closed call) reader
    | poll => exact ih (closed_stays closed _) _

theorem serve_poll {arena : Arena} (live : arena.lobbies lobby = .live m) (cursor : Nat) :
    arena.serve (.ask lobby (.poll cursor)) =
      (.ok (.asked (.page (m.log.poll cursor))), arena) := by
  have found : arena.find lobby = .ok m := find_ok.2 live
  apply serve_of_ok
  simp only [handle, ask, found, bind, Except.bind, pure, Except.pure]

/-- However calls and polls follow each other, the reader stays abreast of the match. -/
theorem abreast_watch {first : Nat} {reader : Reader} {m' : Match} (happenings : List Happening)
    (live : ((start setup).serveAll calls).lobbies lobby = .live m)
    (h : reader.Abreast first m.log)
    (live' : (watch lobby happenings ((start setup).serveAll calls, reader)).1.lobbies lobby =
      .live m') :
    (watch lobby happenings ((start setup).serveAll calls, reader)).2.Abreast first m'.log := by
  induction happenings generalizing calls reader m with
  | nil =>
    cases live.symm.trans live'
    exact h
  | cons happening happenings ih =>
    rw [watch, List.foldl_cons] at live' ⊢
    cases happening with
    | call call =>
      have served : Arena.follow lobby ((start setup).serveAll calls, reader) (.call call) =
          ((start setup).serveAll (calls ++ [call]), reader) := by
        rw [serveAll_snoc]
        rfl
      rw [served] at live' ⊢
      rcases log_grows live call with closed | ⟨later, live, suffix, grown⟩
      · have gone := closed_stays_watch closed reader happenings
        cases live'.symm.trans gone
      · exact ih live (h.extends grown) live'
    | poll =>
      have polled : Arena.follow lobby ((start setup).serveAll calls, reader) .poll =
          ((start setup).serveAll calls,
            reader.receive (.ok (.asked (.page (m.log.poll reader.cursor))))) := by
        rw [Arena.follow, serve_poll live]
      rw [polled] at live' ⊢
      exact ih live h.poll.2 live'

theorem watch_calls (arena : Arena) (reader : Reader) (later : List Call) :
    (watch lobby (later.map .call) (arena, reader)).2 = reader := by
  induction later generalizing arena with
  | nil => rfl
  | cons call later ih => exact ih (arena.serve call).2

/-- In every live match the events are numbered, name the accounts at their seats, and come from
turns that never decrease up to the present one.  A call that is refused changes nothing, and one
that is served adds to the log if it does not close the match.  So a reader who polls the match
among any calls, and always goes on from the cursor of the last answer, has received the log from
the first cursor on, as far as it was written at the last poll. -/
theorem polling_lossless (setup : Setup) (calls : List Call) (lobby : Lobby) (m : Match)
    (live : ((start setup).serveAll calls).lobbies lobby = .live m) :
    (∀ (i : Nat) (e : Event), m.log.events[i]? = some e →
      e.sequence = i ∧ e.user = e.seat.map m.players.get) ∧
    m.log.events.Pairwise (·.turn ≤ ·.turn) ∧
    (∃ before last, m.log.events = before ++ [last] ∧ last.turn = m.table.turn) ∧
    (∀ call refusal, (((start setup).serveAll calls).serve call).1 = .error refusal →
      (((start setup).serveAll calls).serve call).2 = (start setup).serveAll calls) ∧
    (∀ call m', (((start setup).serveAll calls).serve call).2.lobbies lobby = .live m' →
      ∃ suffix, m'.log.events = m.log.events ++ suffix) ∧
    ∀ first ≤ m.log.size, ∀ (happenings : List Happening) (m' : Match),
      (watch lobby happenings ((start setup).serveAll calls, .start first)).1.lobbies lobby =
          .live m' →
        (watch lobby happenings ((start setup).serveAll calls, .start first)).2.Abreast first
          m'.log ∧
        ∀ later : List Call,
          (watch lobby (happenings ++ .poll :: later.map .call)
            ((start setup).serveAll calls, .start first)).2.received =
          m'.log.events.drop first := by
  have kept : m.toScene.Chronicled ∧ m.toScene.UpToDate :=
    written (fun s => s.Chronicled ∧ s.UpToDate) (chronicled_start setup)
      (fun _ _ line h => line.chronicled h) live
  refine ⟨kept.1.numbered, kept.1.ordered, kept.2, fun _ _ => serve_refused,
    fun call m' live' => ?_, fun first within happenings m' live' => ?_⟩
  · rw [← serveAll_snoc] at live'
    rcases log_grows live call with closed | ⟨later, live, grown⟩
    · cases closed.symm.trans live'
    · cases live.symm.trans live'
      exact grown
  · have abreast := abreast_watch happenings live (Reader.abreast_start within) live'
    refine ⟨abreast, fun later => ?_⟩
    rw [watch, List.foldl_append, List.foldl_cons]
    show (watch lobby (later.map .call) (follow lobby (watch lobby happenings
      ((start setup).serveAll calls, .start first)) .poll)).2.received = _
    rw [follow, serve_poll live', watch_calls]
    exact abreast.poll.1

/-- The reader polls, the host surrenders, and the reader polls again: the second page holds the
one event that has come since. -/
theorem surrender_read :
    let opened := Sample.after Sample.rite []
    let ended := Sample.after Sample.rite [(.host, .surrender)]
    let surrender : Call := .play (.user Sample.players.host) Sample.lobby .surrender
    let reader := (watch Sample.lobby [.poll, .call surrender, .poll]
      ((start Sample.setup).serveAll (Sample.calls Sample.rite []), .start 0)).2
    reader.received = ended.log.events ∧
      reader.pages.map (·.nextCursor) = [opened.log.size, opened.log.size + 1] := by
  intro opened ended surrender reader
  have live : ((start Sample.setup).serveAll (Sample.calls Sample.rite [])).lobbies
      Sample.lobby = .live opened := by rfl
  have still : (watch Sample.lobby [.poll, .call surrender]
      ((start Sample.setup).serveAll (Sample.calls Sample.rite []), .start 0)).1.lobbies
        Sample.lobby = .live ended := by rfl
  obtain ⟨-, -, -, -, -, reading⟩ :=
    polling_lossless Sample.setup (Sample.calls Sample.rite []) Sample.lobby opened live
  have read := (reading 0 (Nat.zero_le _) [.poll, .call surrender] ended still).2 []
  exact ⟨read, by decide +kernel⟩

end Arena

end CardDuel
