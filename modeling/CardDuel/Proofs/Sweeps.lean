import CardDuel.Proofs.Spans
import CardDuel.Proofs.Standing

/-!
# Sweeps of the board

At the beginning of the Battle Phase and at the end of a turn the effects of all face-up monsters
of a board happen, one monster after the other.  The list of the monsters is made before the first
effect is carried out, and the effects may bring further monsters onto the board.  Still each
monster of the list is there when its turn comes, because what happens by itself takes nothing off
a board, and a monster that comes later is not in the list.

* `Event.SetOffAt`: the event tells that an effect happened by itself at a timing.
* `Scene.TellsAt`: the new events of this kind tell some news, and `fireWithin_tellsAt`: at another
  timing there are none.
* `Scene.pending`: the effects of the face-up monsters in their order.
* `Scene.Swept`: these were carried out, each once and in their order, and no others are told of.
  `Match.swept_fireForBoard`: so it is after every sweep.
* `Arena.sweeps_exact`: the statements over all calls that an arena may serve.
-/

namespace CardDuel

open Resolution

/-! ## What is told of a timing -/

namespace Event

/-- What the event tells, without its place in the log. -/
def news (event : Event) : News := ⟨event.type, event.seat, event.description, event.details⟩

/-- The event tells that an effect happened by itself at the timing. -/
def SetOffAt (timing : Timing) (event : Event) : Prop :=
  event.type = .effectActivated ∧
    (event.details.get? "trigger").bind (·.text?) = some timing.label

instance (timing : Timing) : DecidablePred (SetOffAt timing) :=
  fun event => inferInstanceAs (Decidable (event.type = _ ∧ _))

end Event

theorem Resolution.triggerNews_of_copies {setup : Setup} {t t' : Table}
    (copies : t'.copies = t.copies) (card : CardRef) (seat : Seat) (timing : Timing) (e : Effect) :
    triggerNews setup t' card seat timing e = triggerNews setup t card seat timing e := by
  have name : setup.nameOf t' card = setup.nameOf t card := Setup.nameOf_of_copies copies card
  simp only [triggerNews, Setup.cardDetails, name]

namespace Scene

variable {setup : Setup} {s s' s'' : Scene} {timing : Timing} {told told' : List News}

/-- The log has grown, and these are the news in it of effects that happened by themselves at the
timing. -/
def TellsAt (timing : Timing) (told : List News) (s s' : Scene) : Prop :=
  ∃ new, s'.log.events = s.log.events ++ new ∧
    (new.filter (·.SetOffAt timing)).map (·.news) = told

theorem TellsAt.refl (s : Scene) : TellsAt timing [] s s := ⟨[], (List.append_nil _).symm, rfl⟩

theorem TellsAt.trans (h : TellsAt timing told s s') (h' : TellsAt timing told' s' s'') :
    TellsAt timing (told ++ told') s s'' := by
  obtain ⟨new, log, same⟩ := h
  obtain ⟨new', log', same'⟩ := h'
  refine ⟨new ++ new', by rw [log', log, List.append_assoc], ?_⟩
  rw [List.filter_append, List.map_append, same, same']

/-- Two stretches in which nothing is told of the timing. -/
theorem TellsAt.still (h : TellsAt timing [] s s') (h' : TellsAt timing [] s' s'') :
    TellsAt timing [] s s'' :=
  h.trans h'

/-- A change of the table with news of it. -/
theorem tellsAt_report (timing : Timing) (f : Table → Table) {news : News}
    (other : news.type ≠ .effectActivated) :
    TellsAt timing [] s ((s.change f).record news) := by
  refine ⟨[_], rfl, ?_⟩
  rw [List.filter_cons_of_neg fun setOff => other (of_decide_eq_true setOff).1]
  rfl

/-- The news that an effect happens by itself. -/
theorem tellsAt_trigger (setup : Setup) (card : CardRef) (seat : Seat) (timing : Timing)
    (e : Effect) (s : Scene) :
    TellsAt timing [triggerNews setup s.table card seat timing e] s
      (s.record (triggerNews setup s.table card seat timing e)) := by
  refine ⟨[_], rfl, ?_⟩
  rw [List.filter_cons_of_pos]
  · rfl
  · refine decide_eq_true ⟨rfl, ?_⟩
    simp [Log.stamp, triggerNews, Setup.cardDetails, Details.get?, Document.text?]

theorem tellsAt_trigger_of_ne {timing' : Timing} (ne : timing' ≠ timing) (card : CardRef)
    (seat : Seat) (e : Effect) (s : Scene) :
    TellsAt timing [] s (s.record (triggerNews setup s.table card seat timing' e)) := by
  refine ⟨[_], rfl, ?_⟩
  rw [List.filter_cons_of_neg]
  · rfl
  · intro setOff
    have label : some timing'.label = some timing.label := by
      simpa [Log.stamp, triggerNews, Setup.cardDetails, Details.get?, Document.text?] using
        (of_decide_eq_true setOff).2
    exact ne (Timing.label_injective (Option.some.inj label))

end Scene

namespace Resolution

variable {setup : Setup} {s s' : Scene} {timing : Timing} {r : Request}

/-- No effect tells by itself that something was set off. -/
theorem Deed.tellsAt (deed : Deed setup s s') (timing : Timing) : s.TellsAt timing [] s' := by
  have ofCards {type : EventType} (kind : type.isOfCards) : type ≠ .effectActivated := by
    rintro rfl
    cases kind
  cases deed with
  | nothing => exact .refl s
  | mark rng used kept => exact ⟨[], (List.append_nil _).symm, rfl⟩
  | negate target kind told => exact Scene.tellsAt_report timing _ (by rw [kind]; decide)
  | move kind about => exact Scene.tellsAt_report timing _ (ofCards kind)
  | turnOver mark kind names about =>
    exact Scene.tellsAt_report (s := { s with overrun := mark }) timing _ (ofCards kind)
  | shuffle seat kind about => exact Scene.tellsAt_report timing _ (ofCards kind)
  | arrive held room known monster kind about =>
    exact Scene.tellsAt_report timing _ (by rw [kind]; decide)
  | boost e there changed => exact Scene.tellsAt_report timing _ nofun
  | life seat change => exact Scene.tellsAt_report timing _ nofun

theorem Acts.tellsAt (acts : Acts setup s s') (timing : Timing) : s.TellsAt timing [] s' := by
  induction acts with
  | refl => exact .refl s
  | tail _ act ih => exact ih.still (act.deed.tellsAt timing)

section

variable {followUp : FollowUp}
  (follows : ∀ card seat (s : Scene), s.TellsAt timing [] (followUp card seat .onSummon s).2)

include follows

/-- Only a summons sets further effects off when there are no targets. -/
theorem runWith_tellsAt (none : r.targets = []) (s : Scene) :
    s.TellsAt timing [] (runWith setup followUp r s).2 := by
  have performed : s.TellsAt timing [] (perform setup followUp r s).2 := by
    by_cases destroys : r.effect.kind = .destroy
    · unfold perform destroy
      rw [destroys, none]
      exact .refl s
    · by_cases summons : r.effect.kind = .summon
      · unfold perform summon
        rw [summons]
        dsimp only
        split
        · exact .refl s
        · next card _ there summoned =>
          have arrived := (deed_specialSummoned summoned).tellsAt timing
          exact arrived.still (follows card r.actor there)
      · exact (perform_acts setup followUp destroys summons s).tellsAt timing
  unfold runWith
  split
  · exact .refl s
  · dsimp only
    split
    · have used : Act setup (perform setup followUp r s).2
          (markUsed r (perform setup followUp r s).2) := .use r _
      exact performed.still (used.deed.tellsAt timing)
    · exact performed

theorem trigger_tellsAt (card : CardRef) (seat : Seat) (e : Effect) (s : Scene) :
    s.TellsAt timing [triggerNews setup s.table card seat timing e]
      (trigger setup followUp card seat timing e s).2 := by
  have told := Scene.tellsAt_trigger setup card seat timing e s
  let r : Request := ⟨e, seat, some card, []⟩
  have ran (s : Scene) : s.TellsAt timing [] (runWith setup followUp r s).2 :=
    runWith_tellsAt follows rfl s
  exact told.trans (ran _)

theorem trigger_tellsAt_of_ne {timing' : Timing} (ne : timing' ≠ timing) (card : CardRef)
    (seat : Seat) (e : Effect) (s : Scene) :
    s.TellsAt timing [] (trigger setup followUp card seat timing' e s).2 := by
  have told : s.TellsAt timing [] (s.record (triggerNews setup s.table card seat timing' e)) :=
    Scene.tellsAt_trigger_of_ne ne card seat e s
  exact told.still (runWith_tellsAt follows rfl _)

end

/-- What is set off at another timing tells nothing of this one, unless it is that of summons. -/
theorem fireWithin_tellsAt {timing' : Timing} (summons : timing ≠ .onSummon) (ne : timing' ≠ timing)
    (depth : Nat) (card : CardRef) (seat : Seat) (s : Scene) :
    s.TellsAt timing [] (fireWithin setup depth card seat timing' s).2 := by
  induction depth generalizing card seat timing' s with
  | zero => exact .refl s
  | succ depth ih =>
    have follows (card : CardRef) (seat : Seat) (s : Scene) :
        s.TellsAt timing [] (fireWithin setup depth card seat .onSummon s).2 :=
      ih summons.symm card seat s
    refine Scene.each_keeps (fun e _ told => told.still ?_) _ (.refl s)
    exact trigger_tellsAt_of_ne follows ne card seat e _

end Resolution

/-! ## Sweeps -/

namespace Scene

section

variable {α β γ : Type}

theorem each_append (act : α → Scene → β × Scene) (xs ys : List α) (s : Scene) :
    s.each act (xs ++ ys) =
      ((s.each act xs).1 ++ ((s.each act xs).2.each act ys).1,
        ((s.each act xs).2.each act ys).2) := by
  induction xs generalizing s with
  | nil => rfl
  | cons x xs ih =>
    rw [List.cons_append, each_cons, ih]
    rfl

theorem each_map (act : β → Scene → γ × Scene) (f : α → β) (xs : List α) (s : Scene) :
    s.each act (xs.map f) = s.each (fun x => act (f x)) xs := by
  induction xs generalizing s with
  | nil => rfl
  | cons x xs ih => rw [List.map_cons, each_cons, each_cons, ih]

end

/-- The effects at a timing of the monsters that are face-up on a board, in the order of the board
and, for each monster, of its text. -/
def pending (setup : Setup) (seat : Seat) (timing : Timing) (s : Scene) :
    List (CardRef × Effect) :=
  (((s.side seat).board.filter (!·.isFaceDown)).map (·.card)).flatMap fun card =>
    ((setup.abilityOf s.table card).triggered timing).map (card, ·)

/-- The effects that waited at the beginning are carried out, each once and in their order, and
the log tells of no others at the timing. -/
structure Swept (setup : Setup) (seat : Seat) (timing : Timing) (s : Scene)
    (outcomes : List Outcome) (s' : Scene) : Prop where
  carried : ∃ depth, setup.rules.triggerDepth = depth + 1 ∧
    s.each (fun p => trigger setup (fireWithin setup depth) p.1 seat timing p.2)
      (s.pending setup seat timing) = (outcomes, s')
  told : s.TellsAt timing ((s.pending setup seat timing).map fun p =>
    triggerNews setup s.table p.1 seat timing p.2) s'
  stands : s.Stands s'

end Scene

namespace Match

variable {setup : Setup} {s : Scene} {seat : Seat} {timing : Timing} {loose : List CardRef}

/-- A monster that lies face-up on a board is found there. -/
theorem isFaceUp_of_mem (placed : s.table.Placed loose) {monster : Monster}
    (there : monster ∈ (s.side seat).board) (up : monster.isFaceDown = false) :
    isFaceUp s seat monster.card := by
  have found : ((s.side seat).monster? monster.card).isSome :=
    List.find?_isSome.2 ⟨monster, there, beq_self_eq_true _⟩
  obtain ⟨first, found⟩ := Option.isSome_iff_exists.1 found
  have same : first.card = monster.card := by simpa using List.find?_some found
  obtain rfl : first = monster := List.inj_on_of_nodup_map (placed.nodup_cardsIn seat .board)
    (List.mem_of_find?_eq_some found) there same
  unfold isFaceUp
  rw [found, Option.any_some, up]
  rfl

/-- The monsters of a list are all still face-up when their turn comes, so all their effects are
carried out one after the other. -/
theorem each_fireIfFaceUp {depth : Nat} (deep : setup.rules.triggerDepth = depth + 1)
    (cards : List CardRef) {s s' : Scene} (up : ∀ card ∈ cards, isFaceUp s seat card)
    (stands : s.Stands s') (copies : s'.table.copies = s.table.copies)
    (placed : s'.table.Placed loose) :
    s'.each (fun p => trigger setup (fireWithin setup depth) p.1 seat timing p.2)
        (cards.flatMap fun card => ((setup.abilityOf s.table card).triggered timing).map (card, ·)) =
      ((s'.each (fireIfFaceUp setup seat timing) cards).1.flatten,
        (s'.each (fireIfFaceUp setup seat timing) cards).2) := by
  induction cards generalizing s' with
  | nil => rfl
  | cons card cards ih =>
    have still : isFaceUp s' seat card := stands.isFaceUp (up card List.mem_cons_self)
    have ability : setup.abilityOf s'.table card = setup.abilityOf s.table card :=
      Setup.abilityOf_of_copies copies card
    let fired := fireWithin setup (depth + 1) card seat timing s'
    have first : fireIfFaceUp setup seat timing card s' = fired := by
      rw [fireIfFaceUp, if_pos still, fire, deep]
    have one : s'.each (fun p => trigger setup (fireWithin setup depth) p.1 seat timing p.2)
        (((setup.abilityOf s.table card).triggered timing).map (card, ·)) = fired := by
      rw [Scene.each_map, ← ability]
      rfl
    have steps : Steps setup s' fired.2 :=
      (fireWithin_course (depth + 1) card seat timing s').steps
    have table := steps.affected.table
    have others := ih (fun other hm => up other (List.mem_cons_of_mem card hm))
      (stands.trans (fireWithin_stands setup (depth + 1) card seat timing ⟨loose, placed⟩))
      (table.copies.trans copies) (placed.rearranged table.toRearranged)
    rw [List.flatMap_cons, Scene.each_append, one, others, Scene.each_cons, first]
    rfl

/-- Effects that are set off one after the other at a timing are told, and nothing else is. -/
theorem each_trigger_tellsAt (summons : timing ≠ .onSummon) (depth : Nat)
    (pending : List (CardRef × Effect)) {s s' : Scene}
    (copies : s'.table.copies = s.table.copies) :
    s'.TellsAt timing (pending.map fun p => triggerNews setup s.table p.1 seat timing p.2)
      (s'.each (fun p => trigger setup (fireWithin setup depth) p.1 seat timing p.2)
        pending).2 := by
  induction pending generalizing s' with
  | nil => exact .refl s'
  | cons p pending ih =>
    let ran := (trigger setup (fireWithin setup depth) p.1 seat timing p.2 s').2
    have steps : Steps setup s' ran :=
      (trigger_course (fireWithin_course depth) p.1 seat timing p.2 s').steps
    have told : s'.TellsAt timing [triggerNews setup s'.table p.1 seat timing p.2] ran :=
      trigger_tellsAt (fun card seat s => fireWithin_tellsAt summons summons.symm depth card seat s)
        p.1 seat p.2 s'
    rw [triggerNews_of_copies copies] at told
    exact told.trans (ih (steps.affected.table.copies.trans copies))

/-- A sweep carries out what waited when it began. -/
theorem swept_fireForBoard (summons : timing ≠ .onSummon) (deep : 0 < setup.rules.triggerDepth)
    (seat : Seat) (placed : s.table.Placed loose) :
    s.Swept setup seat timing (fireForBoard setup seat timing s).1
      (fireForBoard setup seat timing s).2 := by
  let cards := ((s.side seat).board.filter (!·.isFaceDown)).map (·.card)
  have up (card : CardRef) (hm : card ∈ cards) : isFaceUp s seat card := by
    obtain ⟨monster, there, rfl⟩ := List.mem_map.1 hm
    obtain ⟨there, up⟩ := List.mem_filter.1 there
    exact isFaceUp_of_mem placed there (by simpa using up)
  obtain ⟨depth, deep⟩ : ∃ depth, setup.rules.triggerDepth = depth + 1 :=
    Nat.exists_eq_add_one.2 deep
  have carried : s.each (fun p => trigger setup (fireWithin setup depth) p.1 seat timing p.2)
      (s.pending setup seat timing) = fireForBoard setup seat timing s :=
    each_fireIfFaceUp deep cards up (.refl s) rfl placed
  refine ⟨⟨depth, deep, carried⟩, ?_, ?_⟩
  · rw [← carried]
    exact each_trigger_tellsAt summons depth (s.pending setup seat timing) rfl
  · let Kept (s' : Scene) : Prop := s'.table.Placed loose ∧ s.Stands s'
    have begins : Kept s := ⟨placed, .refl s⟩
    suffices kept : Kept (fireForBoard setup seat timing s).2 from kept.2
    refine Scene.each_keeps (fun card s' kept => ?_) cards begins
    unfold fireIfFaceUp
    split
    · have steps : Steps setup s' (fire setup card seat timing s').2 :=
        (fire_course card seat timing s').steps
      exact ⟨kept.1.rearranged steps.affected.table.toRearranged,
        kept.2.trans (fireWithin_stands setup _ card seat timing ⟨loose, kept.1⟩)⟩
    · exact kept

/-! ## Moves that sweep -/

/-- The Battle Phase begins with a sweep of the board of the player whose turn it is. -/
theorem advancePhase_battle {report : PhaseReport} {m after : Match}
    (h : m.advancePhase setup seat = .ok (report, after)) (battle : report.entered = .battle) :
    let swept := fireForBoard setup seat .onBattleStart (m.enterPhase seat .battle).toScene
    report.triggered = swept.1 ∧ after = (m.enterPhase seat .battle).withScene swept.2 := by
  unfold advancePhase at h
  simp only [bind_eq_ok, exists_unit, requireNoChain_ok] at h
  obtain ⟨-, entered, -, heq⟩ := h
  cases pure_eq_ok.1 heq
  obtain rfl : entered = .battle := battle
  exact ⟨rfl, rfl⟩

/-- Only a move to the next phase is answered with the phase. -/
theorem advancePhase_of_report {move : Move} {report : PhaseReport} {m made : Match}
    (h : m.make setup seat move = .ok (.phaseEntered report, made)) :
    move = .advancePhase ∧ m.advancePhase setup seat = .ok (report, made) := by
  cases move with
  | advancePhase =>
    obtain ⟨_, advanced, same⟩ := reported_eq_ok.1 h
    cases same
    exact ⟨rfl, advanced⟩
  | surrender => cases h
  | _ =>
    obtain ⟨_, -, other⟩ := reported_eq_ok.1 h
    cases other

/-- Only the end of a turn is answered with the turn. -/
theorem endTurn_of_report {move : Move} {report : TurnReport} {m made : Match}
    (h : m.make setup seat move = .ok (.turnEnded report, made)) :
    move = .endTurn ∧ m.endTurn setup seat = .ok (report, made) := by
  cases move with
  | endTurn =>
    obtain ⟨_, ended, same⟩ := reported_eq_ok.1 h
    cases same
    exact ⟨rfl, ended⟩
  | surrender => cases h
  | _ =>
    obtain ⟨_, -, other⟩ := reported_eq_ok.1 h
    cases other

theorem extends_settleLife (m : Match) : Log.Extends m.log m.settleLife.log := by
  unfold settleLife
  split
  · split
    · exact Log.extends_record _ _ _
    · exact .refl _
  · exact .refl _

/-- The log grows in what follows on the End Phase. -/
theorem extends_nextTurn {m : Match} (seat : Seat) (placed : m.table.Placed []) :
    Log.Extends m.log (m.nextTurn setup seat).log := by
  obtain ⟨ended, moved, trimming, beginning, draws⟩ := nextTurn_motions setup seat m
  have going : Log.Extends m.log moved.log := (calm_turn placed trimming beginning).log
  rcases draws with drawn | ⟨-, -, out⟩
  · rw [drawn]
    exact going
  · rw [out]
    exact going.trans (Log.extends_record _ _ _)

/-- A turn ends with a sweep of the board of its player, and then one of the other board. -/
theorem endTurn_sweeps {report : TurnReport} {m after : Match} (deep : 0 < setup.rules.triggerDepth)
    (placed : m.table.Placed []) (h : m.endTurn setup seat = .ok (report, after)) :
    ∃ own others s s', (m.atEndPhase seat).Swept setup seat .onEnd own s ∧
      s.Swept setup seat.other .onEnd others s' ∧ report.effects = own ++ others ∧
      m.endPhase setup seat = (own ++ others, ((m.atEndPhase seat).withScene s').settleLife) ∧
      s'.log.events <+: after.log.events := by
  obtain ⟨-, effects, rfl⟩ := endTurn_ok h
  let there := m.atEndPhase seat
  let own := fireForBoard setup seat .onEnd there.toScene
  let others := fireForBoard setup seat.other .onEnd own.2
  let swept := there.withScene others.2
  have atEnd : there.table.Placed [] :=
    placed.rearranged ((atEndPhase_motions setup seat m).calm placed).table
  have first : Motion setup there (there.withScene own.2) := motion_fireForBoard seat .onEnd atEnd
  have between : own.2.table.Placed [] := atEnd.rearranged (first.calm atEnd).table
  have second : Motion setup (there.withScene own.2) swept :=
    motion_fireForBoard seat.other .onEnd between
  have after : swept.table.Placed [] := between.rearranged (second.calm between).table
  have summons : Timing.onEnd ≠ .onSummon := by decide
  refine ⟨own.1, others.1, own.2, others.2, swept_fireForBoard summons deep seat atEnd,
    swept_fireForBoard summons deep seat.other between, effects, rfl, ?_⟩
  show swept.log.events <+: (if swept.settleLife.table.isActive
    then swept.settleLife.nextTurn setup seat else swept.settleLife).log.events
  split
  · next active =>
    rw [(active_settleLife active).1]
    exact (extends_nextTurn seat after).events
  · exact (extends_settleLife swept).events

end Match

namespace Sample

/-- A monster that calls another one at the end of the turn. -/
def herald : Card where
  id := ⟨7⟩
  name := "Dusk Herald"
  type := .creature
  attack := 400
  text := some "During the End Phase: Special Summon 1 monster from your hand."

/-- What is read from its text. -/
def heralding : Ability :=
  ⟨[{ kind := .summon, value := 1, timing := some .onEnd, source := some .hand,
      text := "During the End Phase: Special Summon 1 monster from your hand" }]⟩

theorem ability_herald : heralding = herald.ability := by decide +kernel

/-- A duel with this card, and two cards in each hand at the start. -/
def dusk : Setup where
  catalog := ⟨[⟨herald, heralding, ability_herald⟩]⟩
  rules := { startingHand := 2 }

/-- The host holds two heralds and summons the first. -/
def heralds : Seats (List CardId) :=
  ⟨[herald.id, herald.id], [herald.id, herald.id, herald.id]⟩

def called : List (Seat × Move) := [(.host, .normalSummon ⟨0⟩ [] .attack)]

end Sample

/-! ## Over all calls -/

namespace Arena

/-- Whatever move is made in a live match: what happens by itself in the course of it, at any depth,
takes no monster off a board and flips none.  If anything may happen by itself at all, the Battle
Phase begins by carrying out the effects that waited for it on the board of the player whose turn
it is, each once and in the order of board and text.  So does the end of a turn on the board of its
player, and then on the other board.  The log tells of exactly these effects at the timing. -/
theorem sweeps_exact (setup : Setup) (calls : List Call) (lobby : Lobby) (m : Match)
    (live : ((start setup).serveAll calls).lobbies lobby = .live m) (user : User) (move : Move)
    (report : MoveReport) (after : Match) (played : m.play setup user move = .ok (report, after)) :
    (∀ card seat timing before outcomes done,
      Span.firing card seat timing before outcomes done ∈
          Play.spans setup ⟨m, user, move, report, after⟩ →
        (∃ depth, fireWithin setup depth card seat timing before = (outcomes, done)) ∧
        before.Stands done) ∧
      (0 < setup.rules.triggerDepth →
        (∀ phases, report = .phaseEntered phases → phases.entered = .battle →
          ∃ s, (m.enterPhase m.table.current .battle).Swept setup m.table.current .onBattleStart
              phases.triggered s ∧
            after = ((m.enterPhase m.table.current .battle).withScene s).settleLife) ∧
        ∀ turns, report = .turnEnded turns →
          ∃ own others s s',
            (m.atEndPhase m.table.current).Swept setup m.table.current .onEnd own s ∧
            s.Swept setup m.table.current.other .onEnd others s' ∧
            turns.effects = own ++ others ∧ s'.log.events <+: after.log.events ∧
            m.endPhase setup m.table.current =
              (own ++ others, ((m.atEndPhase m.table.current).withScene s').settleLife)) := by
  let p : Play := ⟨m, user, move, report, after⟩
  have tidy : p.before.toScene.Tidy setup := tidy_of_live live
  obtain ⟨seat, made, -, -, onTurn, hmade, ended⟩ := Match.play_ok played
  refine ⟨fun card seat timing before outcomes done hm => ?_, fun deep => ⟨?_, ?_⟩⟩
  · obtain ⟨ordered, depth, fired⟩ := Play.spans_ordered tidy played _ hm
    have fired : fireWithin setup depth card seat timing before = (outcomes, done) := fired
    have placed : ∃ loose, before.table.Placed loose := ordered.placed
    have stands := fireWithin_stands setup depth card seat timing placed
    rw [fired] at stands
    exact ⟨⟨depth, fired⟩, stands⟩
  · rintro phases rfl battle
    obtain ⟨rfl, advanced⟩ := Match.advancePhase_of_report hmade
    obtain rfl : m.table.current = seat := onTurn.resolve_left nofun
    obtain ⟨triggered, rfl⟩ := Match.advancePhase_battle advanced battle
    have entering : Match.Motion setup m (m.enterPhase m.table.current .battle) :=
      .enter _ .battle fun _ => rfl
    have placed := tidy.placed.rearranged (entering.calm tidy.placed).table
    have summons : Timing.onBattleStart ≠ .onSummon := by decide
    refine ⟨_, ?_, ended⟩
    rw [triggered]
    exact Match.swept_fireForBoard summons deep m.table.current placed
  · rintro turns rfl
    obtain ⟨rfl, turned⟩ := Match.endTurn_of_report hmade
    obtain rfl : m.table.current = seat := onTurn.resolve_left nofun
    obtain ⟨own, others, s, s', first, second, effects, whole, grows⟩ :=
      Match.endTurn_sweeps deep tidy.placed turned
    have later : made.log.events <+: after.log.events := by
      rw [ended]
      exact (Match.extends_settleLife made).events
    exact ⟨own, others, s, s', first, second, effects, grows.trans later, whole⟩

/-- At the end of the turn the first herald calls the second one, which then does not call. -/
theorem herald_calls_once :
    let before := Sample.reached Sample.dusk Sample.heralds Sample.called
    ∃ turns after own s, before.play Sample.dusk Sample.players.host .endTurn =
        .ok (.turnEnded turns, after) ∧
      (before.atEndPhase .host).Swept Sample.dusk .host .onEnd own s ∧ own.length = 1 ∧
      (after.side .host).board.map (·.card) = [⟨0⟩, ⟨1⟩] := by
  intro before
  let calls := Sample.dueling Sample.heralds Sample.called
  have live : ((start Sample.dusk).serveAll calls).lobbies Sample.lobby = .live before := by rfl
  obtain ⟨turns, ended, made, room, boards⟩ : ∃ turns ended,
      before.make Sample.dusk .host .endTurn = .ok (.turnEnded turns, ended) ∧
        ended.overrun = false ∧ (ended.settleLife.side .host).board.map (·.card) = [⟨0⟩, ⟨1⟩] :=
    ⟨_, _, rfl, by decide +kernel, by decide +kernel⟩
  let after := ended.settleLife
  have played : before.play Sample.dusk Sample.players.host .endTurn =
      .ok (.turnEnded turns, after) :=
    Match.play_eq_ok_iff.2
      ⟨.host, ended, by decide +kernel, by decide +kernel, .inr (by decide +kernel), made, room,
        rfl⟩
  obtain ⟨-, sweeps⟩ := sweeps_exact Sample.dusk calls Sample.lobby before live
    Sample.players.host .endTurn (.turnEnded turns) after played
  obtain ⟨own, others, s, s', swept, -⟩ := (sweeps (by decide)).2 turns rfl
  have swept : (before.atEndPhase .host).Swept Sample.dusk .host .onEnd own s := swept
  obtain ⟨depth, -, carried⟩ := swept.carried
  let act (p : CardRef × Effect) : Scene → Outcome × Scene :=
    trigger Sample.dusk (fireWithin Sample.dusk depth) p.1 .host .onEnd p.2
  have each : own.length = ((before.atEndPhase .host).pending Sample.dusk .host .onEnd).length := by
    rw [← Scene.length_each act _ (before.atEndPhase .host).toScene, carried]
  have pending : ((before.atEndPhase .host).pending Sample.dusk .host .onEnd).length = 1 := by
    decide +kernel
  exact ⟨turns, after, own, s, played, swept, each.trans pending, boards⟩

end Arena

end CardDuel
