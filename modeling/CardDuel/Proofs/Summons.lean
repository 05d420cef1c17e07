import CardDuel.Proofs.Chronicle
import CardDuel.Proofs.Replay

/-!
# One monster from the hand in a turn

A player may play one monster from the hand in a turn, face-up or face-down, and pays the tributes
for it first.  What stands for this rule is one mark at the side of the player.  Two moves make it,
and only the end of the turn takes it off: Special Summons, monsters that go back to the hand and
moves that are refused leave it alone.  So it has to be compared with all that the log holds of
the turn.

* `Log.playsIn` and `Log.tributesIn`: what the log holds of the monsters that were played in a
  turn, and of the tributes for them.
* `PaidFor`: no monster was played in a turn, or one by the player whose turn it was, for as many
  tributes as it costs.
* `Scene.Idle`: a stretch of the log in which no monster is played.
* `accounted_played` and `Line.accounted`: whatever is written down keeps every turn paid for.
* `Arena.one_summon_a_turn`: the statement over all calls that an arena may serve.
-/

namespace CardDuel

open Resolution

/-! ## Events of a turn -/

namespace Log

variable {log : Log} {turn now : Nat} {news : News} {kind : EventType → Bool}

/-- The events of a turn that are of some kind. -/
def toldIn (log : Log) (kind : EventType → Bool) (turn : Nat) : List Event :=
  (log.ofTurn turn).filter (kind ·.type)

/-- The events of a turn that tell of a monster played from the hand. -/
def playsIn (log : Log) (turn : Nat) : List Event := log.toldIn EventType.isPlay turn

/-- The events of a turn that tell of a tribute. -/
def tributesIn (log : Log) (turn : Nat) : List Event := log.toldIn (· == .tributePaid) turn

theorem toldIn_record (log : Log) (kind : EventType → Bool) (turn now : Nat) (news : News) :
    (log.record now news).toldIn kind turn =
      if now = turn ∧ kind news.type then log.toldIn kind turn ++ [log.stamp now news]
      else log.toldIn kind turn := by
  rw [toldIn, ofTurn, events_record, List.filter_append, List.filter_append]
  by_cases this : now = turn <;> by_cases kept : kind news.type <;>
    simp [toldIn, ofTurn, stamp, this, kept]

theorem toldIn_record_of_other (other : kind news.type = false) :
    (log.record now news).toldIn kind turn = log.toldIn kind turn := by
  rw [toldIn_record, if_neg fun told => Bool.false_ne_true (other.symm.trans told.2)]

/-- Nothing is known of a turn that has not begun. -/
theorem toldIn_eq_nil (past : ∀ e ∈ log.events, e.turn ≤ now) (later : now < turn) :
    log.toldIn kind turn = [] := by
  have none : log.ofTurn turn = [] := by
    refine List.filter_eq_nil_iff.2 fun e he same => ?_
    have same : e.turn = turn := by simpa using same
    have := past e he
    omega
  rw [toldIn, none]
  rfl

end Log

/-! ## Turns that are paid for -/

section

variable {setup : Setup} {t t' : Table} {s s' : Scene} {turn : Nat} {plays tributes : List Event}

/-- In a turn no monster was played from the hand and no tribute paid, or one monster was played
by the player whose turn it was, for as many tributes as its level costs. -/
inductive PaidFor (setup : Setup) (t : Table) (turn : Nat) : List Event → List Event → Prop where
  | nothing : PaidFor setup t turn [] []
  | one {e : Event} {card : CardRef} {printed : Card} {tributes : List Event}
      (owner : e.seat = some (Seat.onTurn turn))
      (names : e.details.get? "cardId" = some (.nat card.number))
      (known : setup.card? t card = some printed)
      (paid : tributes.length = setup.rules.tributesFor printed.level) :
      PaidFor setup t turn [e] tributes

theorem PaidFor.cases_plays (h : PaidFor setup t turn plays tributes) :
    plays = [] ∧ tributes = [] ∨
      ∃ e card printed, plays = [e] ∧ e.seat = some (Seat.onTurn turn) ∧
        e.details.get? "cardId" = some (.nat card.number) ∧
        setup.card? t card = some printed ∧
        tributes.length = setup.rules.tributesFor printed.level := by
  cases h with
  | nothing => exact .inl ⟨rfl, rfl⟩
  | one owner names known paid => exact .inr ⟨_, _, _, rfl, owner, names, known, paid⟩

theorem PaidFor.of_copies (h : PaidFor setup t turn plays tributes)
    (copies : t'.copies = t.copies) : PaidFor setup t' turn plays tributes := by
  cases h with
  | nothing => exact .nothing
  | one owner names known paid =>
    exact .one owner names ((Setup.card?_of_copies copies _).trans known) paid

/-- Every turn is paid for, and there is nothing to pay for in the present one as long as its
player has not used up the Normal Summon. -/
structure Scene.Accounted (setup : Setup) (s : Scene) : Prop where
  paid : ∀ turn, PaidFor setup s.table turn (s.log.playsIn turn) (s.log.tributesIn turn)
  fresh : (s.table.side s.table.current).hasSummoned = false →
    s.log.playsIn s.table.turn = [] ∧ s.log.tributesIn s.table.turn = []

/-- No monster is played from the hand, and whether one was stays as it is. -/
structure Scene.Idle (s s' : Scene) : Prop where
  turn : s'.table.turn = s.table.turn
  current : s'.table.current = s.table.current
  copies : s'.table.copies = s.table.copies
  hasSummoned : ∀ seat, (s'.table.side seat).hasSummoned = (s.table.side seat).hasSummoned
  plays : ∀ turn, s'.log.playsIn turn = s.log.playsIn turn
  tributes : ∀ turn, s'.log.tributesIn turn = s.log.tributesIn turn

theorem Scene.Idle.accounted (idle : Scene.Idle s s') (h : s.Accounted setup) :
    s'.Accounted setup where
  paid turn := by
    rw [idle.plays, idle.tributes]
    exact (h.paid turn).of_copies idle.copies
  fresh unused := by
    rw [idle.current, idle.hasSummoned] at unused
    rw [idle.turn, idle.plays, idle.tributes]
    exact h.fresh unused

/-- News of anything else, with a change of the table within the turn that leaves the mark
alone. -/
theorem idle_record {f : Table → Table} {news : News}
    (course : (f s.table).turn = s.table.turn ∧ (f s.table).current = s.table.current ∧
      (f s.table).copies = s.table.copies)
    (hasSummoned : ∀ seat, ((f s.table).side seat).hasSummoned = (s.table.side seat).hasSummoned)
    (play : news.type.isPlay = false) (tribute : (news.type == .tributePaid) = false) :
    Scene.Idle s ((s.change f).record news) where
  turn := course.1
  current := course.2.1
  copies := course.2.2
  hasSummoned := hasSummoned
  plays _ := Log.toldIn_record_of_other play
  tributes _ := Log.toldIn_record_of_other tribute

/-! ## Tributes -/

theorem playsIn_payTributes (seat : Seat) (cards : List CardRef) (turn : Nat) (s : Scene) :
    (s.each (Match.payTribute setup seat) cards).2.log.playsIn turn = s.log.playsIn turn := by
  let Kept (s' : Scene) : Prop := s'.log.playsIn turn = s.log.playsIn turn
  have step (card : CardRef) (s' : Scene) (kept : Kept s') :
      Kept (Match.payTribute setup seat card s').2 := by
    have untold : (Match.payTribute setup seat card s').2.log.playsIn turn = s'.log.playsIn turn :=
      Log.toldIn_record_of_other rfl
    exact untold.trans kept
  exact Scene.each_keeps step cards (Eq.refl (s.log.playsIn turn))

/-- Each tribute is told in the turn in which it is paid. -/
theorem tributesIn_payTributes (seat : Seat) (cards : List CardRef) (turn : Nat) (s : Scene) :
    ∃ told, (s.each (Match.payTribute setup seat) cards).2.log.tributesIn turn =
        s.log.tributesIn turn ++ told ∧
      told.length = if s.table.turn = turn then cards.length else 0 := by
  induction cards generalizing s with
  | nil => exact ⟨[], (List.append_nil _).symm, by simp⟩
  | cons card cards ih =>
    let paid := (Match.payTribute setup seat card s).2
    have now : paid.table.turn = s.table.turn :=
      (s.table.pared_moveToPile card .graveyard .top).turn
    obtain ⟨told, more, length⟩ := ih paid
    have one : paid.log.tributesIn turn = _ := s.log.toldIn_record _ turn paid.table.turn _
    rw [Scene.each_cons, more, one, now]
    rw [now] at length
    split
    · next this =>
      rw [if_pos this.1] at length
      refine ⟨[_] ++ told, List.append_assoc _ _ _, ?_⟩
      rw [if_pos this.1, List.length_append, length, List.length_cons, Nat.add_comm]
      rfl
    · next others =>
      have others : s.table.turn ≠ turn := fun this => others ⟨this, rfl⟩
      rw [if_neg others] at length
      exact ⟨told, rfl, by rw [length, if_neg others]⟩

/-! ## Monsters that are played -/

section

variable {m : Match} {seat : Seat} {cards : List CardRef} {monster : Monster} {news : News}

/-- The news of a monster that is played are told after its tributes. -/
theorem playsIn_played (kind : news.type.isPlay) (turn : Nat) :
    ∃ e : Event, e.seat = news.seat ∧ e.details = news.details ∧
      (m.played setup seat cards monster news).log.playsIn turn =
        if m.table.turn = turn then m.log.playsIn turn ++ [e] else m.log.playsIn turn := by
  let paid := (m.toScene.each (Match.payTribute setup seat) cards).2
  have now : paid.table.turn = m.table.turn :=
    (pared_payTributes setup seat cards m.toScene).turn
  have before : paid.log.toldIn EventType.isPlay turn = m.log.playsIn turn :=
    playsIn_payTributes seat cards turn m.toScene
  have told : (m.played setup seat cards monster news).log.playsIn turn = _ :=
    paid.log.toldIn_record EventType.isPlay turn paid.table.turn news
  refine ⟨paid.log.stamp paid.table.turn news, rfl, rfl, ?_⟩
  rw [told, before, now]
  simp only [kind, and_true]

theorem tributesIn_played (kind : news.type.isPlay) (turn : Nat) :
    ∃ told, (m.played setup seat cards monster news).log.tributesIn turn =
        m.log.tributesIn turn ++ told ∧
      told.length = if m.table.turn = turn then cards.length else 0 := by
  obtain ⟨told, more, length⟩ := tributesIn_payTributes seat cards turn m.toScene
  refine ⟨told, Eq.trans ?_ more, length⟩
  refine Log.toldIn_record_of_other ?_
  cases type : news.type <;> first | rfl | (rw [type] at kind; cases kind)

/-- Playing a monster uses up the Normal Summon of the turn. -/
theorem hasSummoned_played :
    ((m.played setup seat cards monster news).table.side seat).hasSummoned = true := by
  show ((Table.modifySide _ seat _).side seat).hasSummoned = true
  rw [Table.side_modifySide_self]
  rfl

/-- A monster that is played is the first of its turn, and paid for. -/
theorem accounted_played {printed : Card}
    (ok : Match.Summonable setup m seat monster.card cards printed)
    (onTurn : m.table.current = seat) (kind : news.type.isPlay) (told : news.seat = some seat)
    (names : news.details.get? "cardId" = some (.nat monster.card.number))
    (takeTurns : m.toScene.TakeTurns) (h : m.toScene.Accounted setup) :
    (m.played setup seat cards monster news).toScene.Accounted setup := by
  have paying := pared_payTributes setup seat cards m.toScene
  have copies : (m.played setup seat cards monster news).table.copies = m.table.copies :=
    paying.copies
  refine ⟨fun turn => ?_, fun unused => ?_⟩
  · obtain ⟨e, owner, details, plays⟩ := playsIn_played kind turn
    obtain ⟨paid, tributes, length⟩ := tributesIn_played kind turn
    rw [plays, tributes]
    by_cases now : m.table.turn = turn
    · subst now
      -- the mark is not made yet, so this is the only one
      obtain ⟨noPlays, noTributes⟩ := h.fresh (by rw [onTurn]; exact ok.first)
      rw [if_pos rfl] at length ⊢
      rw [noPlays, noTributes]
      refine .one ?_ (details ▸ names) ((Setup.card?_of_copies copies _).trans ok.known)
        (length.trans ok.owed)
      rw [owner, told, ← takeTurns.now, onTurn]
    · rw [if_neg now] at length ⊢
      rw [List.length_eq_zero_iff.1 length, List.append_nil]
      exact (h.paid turn).of_copies copies
  · have current : (m.played setup seat cards monster news).table.current = seat :=
      paying.current.trans onTurn
    rw [current, hasSummoned_played] at unused
    cases unused

end

/-! ## What is written down is paid for -/

theorem Entry.accounted (entry : Entry setup s s') (takeTurns : s.TakeTurns)
    (h : s.Accounted setup) : s'.Accounted setup := by
  have course := entry.turn
  cases entry with
  | silent shift log =>
    exact Scene.Idle.accounted ⟨course.1, course.2.1, course.2.2, shift.course.hasSummoned,
      fun _ => by rw [log], fun _ => by rw [log]⟩ h
  | aside kind =>
    simp only [EventType.isAside, Bool.and_eq_true, Bool.not_eq_true', bne] at kind
    have idle : Scene.Idle s (s.record _) :=
      idle_record (f := id) course (fun _ => rfl) kind.1.2 kind.2
    exact idle.accounted h
  | life seat change s =>
    refine (idle_record course (fun seat' => ?_) rfl rfl).accounted h
    rw [Table.side_modifySide]
    split
    · next own => rw [own]
    · rfl
  | phase seat phase s => exact (idle_record course (fun _ => rfl) rfl rfl).accounted h
  | play placed ok onTurn proper kind told names =>
    exact accounted_played ok onTurn kind told names takeTurns h

theorem Entries.accounted (entries : Entries setup s s') (takeTurns : s.TakeTurns)
    (h : s.Accounted setup) : s'.TakeTurns ∧ s'.Accounted setup := by
  let Kept (s : Scene) : Prop := s.TakeTurns ∧ s.Accounted setup
  have one (s s' : Scene) (entry : Entry setup s s') (h : Kept s) : Kept s' :=
    ⟨entry.takeTurns h.1, entry.accounted h.1 h.2⟩
  have kept : Kept s' := keeps_along entries one ⟨takeTurns, h⟩
  exact kept

/-- When the turn is handed over, the mark is taken off, and nothing has been played in the turn
that begins. -/
theorem accounted_handOver {m : Match} (past : ∀ e ∈ m.log.events, e.turn ≤ m.table.turn)
    (h : m.toScene.Accounted setup) (seat next : Seat) :
    (m.handOver seat next).toScene.Accounted setup := by
  have told {kind : EventType → Bool} (others : kind .turnEnd = false ∧ kind .turnStart = false ∧
      kind .phaseChanged = false) (turn : Nat) :
      (m.handOver seat next).log.toldIn kind turn = m.log.toldIn kind turn := by
    obtain ⟨ends, begins, phase⟩ := others
    rw [log_handOver, Log.toldIn_record_of_other phase, Log.toldIn_record_of_other begins,
      Log.toldIn_record_of_other ends]
  have plays (turn : Nat) : (m.handOver seat next).log.playsIn turn = m.log.playsIn turn :=
    told ⟨rfl, rfl, rfl⟩ turn
  have tributes (turn : Nat) :
      (m.handOver seat next).log.tributesIn turn = m.log.tributesIn turn :=
    told ⟨rfl, rfl, rfl⟩ turn
  refine ⟨fun turn => ?_, fun _ => ⟨?_, ?_⟩⟩
  · rw [plays, tributes]
    exact (h.paid turn).of_copies rfl
  · exact (plays _).trans (Log.toldIn_eq_nil past (Nat.lt_succ_self _))
  · exact (tributes _).trans (Log.toldIn_eq_nil past (Nat.lt_succ_self _))

/-- Whatever is written down keeps every turn paid for. -/
theorem Line.accounted (line : Line setup s s') (past : ∀ e ∈ s.log.events, e.turn ≤ s.table.turn)
    (takeTurns : s.TakeTurns) (h : s.Accounted setup) : s'.Accounted setup := by
  cases line with
  | entry entry => exact entry.accounted takeTurns h
  | turn m => exact accounted_handOver past h _ _

theorem accounted_start (setup : Setup) (lobby : Lobby) (game : GameName) (players : Seats User)
    (decks : Seats (List CardId)) (seed : UInt64) :
    (Match.start setup lobby game players decks seed).toScene.Accounted setup := by
  obtain ⟨dealt, drawn, dealing, drawing, started⟩ :=
    Match.start_entries setup lobby game players decks seed
  have first := takeTurns_decked setup lobby game players decks seed
  have empty : Scene.Accounted setup (Match.ready setup (.start lobby game players) decks seed) :=
    ⟨fun _ => .nothing, fun _ => ⟨rfl, rfl⟩⟩
  have begun : (dealt.record (Match.turnNews .host 1)).Accounted setup := by
    have idle : Scene.Idle dealt (dealt.record (Match.turnNews .host 1)) :=
      idle_record (f := id) ⟨rfl, rfl, rfl⟩ (fun _ => rfl) rfl rfl
    exact idle.accounted (dealing.accounted first empty).2
  obtain ⟨-, -, took⟩ := takeTurns_begun dealing
  obtain ⟨took, drew⟩ := drawing.accounted took begun
  have entry : Entry setup drawn _ := .phase .host .main1 drawn
  rw [started]
  exact entry.accounted took drew

end

/-! ## One monster in every turn -/

namespace Sample

/-- A monster that costs a tribute. -/
def titan : Card where
  id := ⟨3⟩
  name := "Ash Titan"
  type := .creature
  attack := 2000
  defense := 2000
  level := 5

/-- A duel with the titan too, and two cards in each hand at the start. -/
def pyre : Setup where
  catalog := ⟨⟨titan, titan.ability, rfl⟩ :: setup.catalog.entries⟩
  rules := { startingHand := 2 }

/-- The host summons the moth, and in the next turn but one pays it for the titan. -/
def burning : List Call :=
  let decks : Seats (List CardId) :=
    ⟨[moth.id, titan.id, moth.id], [moth.id, moth.id, moth.id]⟩
  .createMatch lobby ⟨"game"⟩ players decks 0 ::
    [(.host, .normalSummon ⟨0⟩ [] .attack), (.host, .endTurn), (.opponent, .endTurn),
      (.host, .normalSummon ⟨1⟩ [⟨0⟩] .attack)].map fun (seat, move) =>
        .play (.user (players.get seat)) lobby move

end Sample

namespace Arena

/-- In every live match and for every turn, either no monster was played from the hand in the turn
and no tribute was paid, or one monster was played, by the player whose turn it was, and as many
tributes were paid as the card that the event names costs.  The host has the odd turns: so the
log tells of each turn when it begins, and so it is in the present one. -/
theorem one_summon_a_turn (setup : Setup) (calls : List Call) (lobby : Lobby) (m : Match)
    (live : ((start setup).serveAll calls).lobbies lobby = .live m) :
    m.table.current = Seat.onTurn m.table.turn ∧
    (∀ e ∈ m.log.ofType .turnStart, e.seat = some (Seat.onTurn e.turn)) ∧
    ∀ turn,
      let plays := (m.log.ofTurn turn).filter (·.type.isPlay)
      let tributes := (m.log.ofTurn turn).filter (·.type == .tributePaid)
      plays = [] ∧ tributes = [] ∨
        ∃ e card printed, plays = [e] ∧ e.seat = some (Seat.onTurn turn) ∧
          e.details.get? "cardId" = some (.nat card.number) ∧
          setup.card? m.table card = some printed ∧
          tributes.length = setup.rules.tributesFor printed.level := by
  let Kept (s : Scene) : Prop :=
    (s.Chronicled ∧ s.UpToDate) ∧ s.Replays setup.rules.startingLife ∧ s.Accounted setup
  have kept : Kept m.toScene := by
    refine written Kept (fun _ _ _ _ _ => ⟨chronicled_start _ _ _ _ _ _,
      replays_start _ _ _ _ _ _, accounted_start _ _ _ _ _ _⟩) (fun _ _ line h => ?_) live
    exact ⟨line.chronicled h.1, line.replays h.2.1,
      line.accounted h.1.1.past h.2.1.takeTurns h.2.2⟩
  obtain ⟨-, replays, accounted⟩ := kept
  refine ⟨replays.takeTurns.now, replays.takeTurns.told, fun turn => ?_⟩
  exact (accounted.paid turn).cases_plays

/-- The titan is the one monster of the third turn, and the host has paid one tribute. -/
theorem titan_costs_moth :
    ∃ m e, ((start Sample.pyre).serveAll Sample.burning).lobbies Sample.lobby = .live m ∧
      (m.log.ofTurn 3).filter (·.type.isPlay) = [e] ∧ e.seat = some .host ∧
      e.whole? "cardId" = some 1 ∧
      ((m.log.ofTurn 3).filter (·.type == .tributePaid)).length = 1 := by
  have played : (((start Sample.pyre).serveAll Sample.burning).find Sample.lobby).toOption.map
      (fun m => (((m.log.ofTurn 3).filter (·.type.isPlay)).map (·.whole? "cardId"),
        Sample.pyre.card? m.table ⟨1⟩)) = some ([some 1], some Sample.titan) := by decide +kernel
  obtain ⟨m, live, shown⟩ := exists_live played
  obtain ⟨ids, titan⟩ := Prod.mk.inj shown
  obtain ⟨-, -, turns⟩ := one_summon_a_turn Sample.pyre Sample.burning Sample.lobby m live
  rcases turns 3 with ⟨none, -⟩ | ⟨e, ⟨number⟩, printed, one, owner, names, known, paid⟩
  · rw [none] at ids
    cases ids
  · rw [one, List.map_singleton] at ids
    have id : e.whole? "cardId" = some 1 := List.head_eq_of_cons_eq ids
    have told : e.whole? "cardId" = some (number : Int) := by
      rw [Event.whole?, names]
      rfl
    obtain rfl : number = 1 := Int.ofNat.inj (Option.some.inj (told.symm.trans id))
    cases known.symm.trans titan
    exact ⟨m, e, live, one, owner, id, paid⟩

end Arena

end CardDuel
