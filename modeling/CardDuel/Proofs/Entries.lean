import CardDuel.Proofs.Clearing

/-!
# How a match is written down

The log is written next to each change of the table, so what it says of the turn, the life points
and the Normal Summons agrees with the table only if no change is made without its event.  This
file says what comes about between two handings over of the turn: there are five kinds of entries.

* `Entry`: one entry of the log with the change that it tells, and `Entries`: some of them within
  a turn.
* `Line`: an entry, or the turn is handed over, and `Lines`: some of them in the course of a match.
* `Deed.entries`, `Motion.entries`, `Response.entries` and `Action.lines`: whatever is done in a
  match is written down in this way.
* `Arena.written`: what holds at the beginning of a match and is kept by every line of its log
  holds of every live match.
-/

namespace CardDuel

open Resolution

/-! ## Kinds of events -/

namespace EventType

/-- Whether the event tells of the turn, the phase or the life points. -/
def isOfCourse : EventType → Bool
  | turnStart | phaseChanged | lifeChanged => true
  | _ => false

/-- Whether the event tells that a monster was played from the hand. -/
def isPlay : EventType → Bool
  | normalSummon | tributeSummon | monsterSet => true
  | _ => false

/-- Whether the event tells of anything else than the course of the match and the monsters that
are played in it. -/
def isAside (type : EventType) : Bool :=
  !type.isOfCourse && !type.isPlay && type != tributePaid

theorem isAside_of_isPlain {type : EventType} (h : type.isPlain) : type.isAside := by
  cases type <;> first | rfl | cases h

theorem isOfCourse_of_isPlay {type : EventType} (h : type.isPlay) : type.isOfCourse = false := by
  cases type <;> first | rfl | cases h

end EventType

/-! ## Entries -/

/-- An entry of the log, with the change of the table that it tells.  The turn stays the same. -/
inductive Entry (setup : Setup) : Scene → Scene → Prop where
  /-- The table changes, and it is told apart from the change. -/
  | silent {s s' : Scene} (shift : Table.Shift setup s.table s'.table) (log : s'.log = s.log) :
      Entry setup s s'
  | aside {s : Scene} {news : News} (kind : news.type.isAside) : Entry setup s (s.record news)
  | life (seat : Seat) (change : Int) (s : Scene) : Entry setup s (changeLife seat change s)
  | phase (seat : Seat) (phase : Phase) (s : Scene) :
      Entry setup s ((s.change ({ · with phase := phase })).record (Match.phaseNews seat phase))
  /-- A monster is played from the hand, and the tributes for it are paid first. -/
  | play {m : Match} {seat : Seat} {tributes : List CardRef} {printed : Card}
      {monster : Monster} {news : News} (placed : m.table.Placed [])
      (ok : Match.Summonable setup m seat monster.card tributes printed)
      (onTurn : m.table.current = seat) (proper : monster.Proper setup m.table)
      (kind : news.type.isPlay) (told : news.seat = some seat)
      (names : news.details.get? "cardId" = some (.nat monster.card.number)) :
      Entry setup m.toScene (m.played setup seat tributes monster news).toScene

/-- Some entries one after the other, within one turn. -/
abbrev Entries (setup : Setup) : Scene → Scene → Prop := Relation.ReflTransGen (Entry setup)

/-- What is written down in the course of a match: an entry, or that the turn is handed over. -/
inductive Line (setup : Setup) : Scene → Scene → Prop where
  | entry {s s' : Scene} (entry : Entry setup s s') : Line setup s s'
  | turn (m : Match) :
      Line setup m.toScene (m.handOver m.table.current m.table.current.other).toScene

/-- Some lines of the log one after the other. -/
abbrev Lines (setup : Setup) : Scene → Scene → Prop := Relation.ReflTransGen (Line setup)

/-- What each step keeps, any number of steps keeps. -/
theorem keeps_along {α : Type} {Step : α → α → Prop} {Keeps : α → Prop} {x y : α}
    (steps : Relation.ReflTransGen Step x y) (one : ∀ x y, Step x y → Keeps x → Keeps y)
    (h : Keeps x) : Keeps y := by
  induction steps with
  | refl => exact h
  | tail _ step ih => exact one _ _ step ih

section

variable {setup : Setup} {s s' : Scene}

/-- A change of the table with news of it. -/
theorem entries_report {f : Table → Table} {news : News}
    (shift : Table.Shift setup s.table (f s.table)) (kind : news.type.isAside) :
    Entries setup s ((s.change f).record news) :=
  have changed : Entry setup s (s.change f) := .silent shift rfl
  .tail (.single changed) (.aside kind)

/-- What goes out of the way is written down. -/
theorem Clearing.entries (clearing : Clearing s s') : Entries setup s s' := by
  refine Relation.ReflTransGen.mono (fun before after clear => ?_) _ _ clearing
  cases clear with
  | pare pared log => exact .silent (.pare pared) log
  | tell plain => exact .aside (EventType.isAside_of_isPlain plain)

theorem Entries.lines (entries : Entries setup s s') : Lines setup s s' :=
  Relation.ReflTransGen.mono (fun _ _ => Line.entry) _ _ entries

theorem pared_payTributes (setup : Setup) (seat : Seat) (tributes : List CardRef) (s : Scene) :
    Table.Pared s.table (s.each (Match.payTribute setup seat) tributes).2.table := by
  let Kept (s' : Scene) : Prop := Table.Pared s.table s'.table
  have step (tribute : CardRef) (s' : Scene) (kept : Kept s') :
      Kept (Match.payTribute setup seat tribute s').2 :=
    kept.trans (Table.pared_moveToPile _ tribute .graveyard .top)
  exact Scene.each_keeps step tributes (Table.Pared.refl s.table)

/-- Playing a monster costs no life points. -/
theorem life_played (seat seat' : Seat) (tributes : List CardRef) (monster : Monster) (news : News)
    (m : Match) :
    ((m.played setup seat tributes monster news).table.side seat').life =
      (m.table.side seat').life := by
  rw [← ((pared_payTributes setup seat tributes m.toScene).sides seat').life]
  show ((Table.modifySide _ seat _).side seat').life = _
  rw [Table.side_modifySide]
  split <;> rfl

/-- When the turn is handed over, the marks of the turn are taken off both sides. -/
theorem side_handOver (seat next seat' : Seat) (m : Match) :
    (m.handOver seat next).table.side seat' = Match.restSide (m.table.side seat') := by
  let rested := m.table.modifySide .host Match.restSide
  show (rested.modifySide .opponent Match.restSide).side seat' = _
  cases seat' with
  | host =>
    rw [Table.side_modifySide_of_ne _ _ (by decide), Table.side_modifySide_self]
  | opponent =>
    rw [Table.side_modifySide_self, Table.side_modifySide_of_ne _ _ (by decide)]

/-- Three events tell that the turn is handed over. -/
theorem log_handOver (seat next : Seat) (m : Match) :
    (m.handOver seat next).log =
      ((m.log.record m.table.turn (Match.turnEndNews seat m.table.turn)).record (m.table.turn + 1)
        (Match.turnNews next (m.table.turn + 1))).record (m.table.turn + 1)
        (Match.phaseNews next .draw) := rfl

/-- An entry is written within one turn. -/
theorem Entry.turn (entry : Entry setup s s') :
    s'.table.turn = s.table.turn ∧ s'.table.current = s.table.current ∧
      s'.table.copies = s.table.copies := by
  cases entry with
  | silent shift log => exact ⟨shift.course.turn, shift.course.current, shift.course.copies⟩
  | aside kind => exact ⟨rfl, rfl, rfl⟩
  | life seat change s => exact ⟨rfl, rfl, rfl⟩
  | phase seat phase s => exact ⟨rfl, rfl, rfl⟩
  | @play m seat tributes _ _ _ _ _ _ _ _ _ _ =>
    have paying := pared_payTributes setup seat tributes m.toScene
    exact ⟨paying.turn, paying.current, paying.copies⟩

theorem Entries.turn (entries : Entries setup s s') :
    s'.table.turn = s.table.turn ∧ s'.table.current = s.table.current ∧
      s'.table.copies = s.table.copies := by
  induction entries with
  | refl => exact ⟨rfl, rfl, rfl⟩
  | tail _ entry ih =>
    obtain ⟨turn, current, copies⟩ := entry.turn
    exact ⟨turn.trans ih.1, current.trans ih.2.1, copies.trans ih.2.2⟩

end

/-! ## What effects write down -/

namespace Resolution

variable {setup : Setup} {s s' : Scene}

theorem Deed.entries (deed : Deed setup s s') : Entries setup s s' := by
  cases deed with
  | nothing => exact .refl
  | mark rng used kept =>
    exact .single (.silent (.pare ⟨rfl, rfl, rfl, rfl, fun _ => .refl _⟩) rfl)
  | negate target kind told =>
    exact (clearing_cards ⟨rfl, rfl, rfl, rfl, fun _ => .refl _⟩ (by rw [kind]; rfl)).entries
  | move kind about => exact (clearing_cards (Table.pared_moveToPile _ _ _ _) kind).entries
  | turnOver mark kind names about => exact (clearing_turnOver s mark _ _ _ kind).entries
  | shuffle seat kind about =>
    exact (clearing_cards (Table.pared_shuffleDeck _ seat) kind).entries
  | arrive held room known monster kind about =>
    have aside : EventType.isAside .specialSummon := rfl
    have proper := Monster.proper_arrival .attack known monster
    exact entries_report (.arrive room proper) (kind ▸ aside)
  | @boost target controller m now e there changed =>
    have there' : s.table.modifyMonster target (boosted · e.value e.untilEndOfTurn) =
        s.table.modifySide controller
          (·.modifyMonster target (boosted · e.value e.untilEndOfTurn)) := by
      rw [Table.modifyMonster, there]
    refine entries_report ?_ rfl
    rw [there']
    refine .alter fun monster _ proper => ?_
    unfold boosted
    split <;> exact ⟨proper.printed, proper.entered, proper.hidden⟩
  | life seat change => exact .single (.life seat change s)

theorem Steps.entries (steps : Steps setup s s') : Entries setup s s' := by
  induction steps with
  | refl => exact .refl
  | tail _ step ih =>
    refine ih.trans ?_
    cases step with
    | act act => exact act.deed.entries
    | trigger card seat timing e s => exact .single (.aside rfl)

end Resolution

namespace Chain

variable {setup : Setup}

theorem entries_settleLinks (links : List Link) (s : Scene) :
    Entries setup s (s.each (settleLink setup) links).2 := by
  let Kept (s' : Scene) : Prop := Entries setup s s'
  have step (link : Link) (s' : Scene) (kept : Kept s') : Kept (settleLink setup link s').2 :=
    (kept.trans (runLink_steps link s').entries).trans (clearing_spend setup link.card _).entries
  exact Scene.each_keeps step links .refl

end Chain

/-! ## What moves write down -/

namespace Match

variable {setup : Setup} {m m' : Match} {ids : List LinkId} {seat : Seat} {card : CardRef}

/-- A monster that is flipped, turned or marked stays what it is. -/
theorem entries_alter {change : Monster → Monster} {news : News} (kind : news.type.isAside)
    (kept : ∀ monster, (m.side seat).monster? card = some monster →
      monster.Proper setup m.table → (change monster).Proper setup m.table) :
    Entries setup m.toScene
      ((m.change (·.modifySide seat (·.modifyMonster card change))).record news).toScene :=
  entries_report (.alter kept) kind

/-- Whatever happens while no link waits is written down. -/
theorem Motion.entries (motion : Motion setup m m') (placed : m.table.Placed []) :
    Entries setup m.toScene m'.toScene := by
  cases motion with
  | effects steps => exact steps.steps.entries
  | summon ok onTurn stance =>
    refine .single (.play placed ok onTurn (Monster.proper_arrival stance ok.known ok.monster)
      ?_ rfl (by simp [summonNews, Details.get?, arrival, Monster.faceUp]))
    unfold summonNews
    dsimp only
    split <;> rfl
  | flip there printed stance =>
    refine entries_alter rfl fun monster _ proper =>
      ⟨proper.printed, proper.entered, fun hidden => ?_⟩
    cases hidden
  | @lay seat card printed ok =>
    let laid : SetCard := .laid card m.table.turn
    have proper : laid.Proper setup m.table :=
      ⟨⟨printed, ok.known, by simpa [CardType.isMonster] using ok.type⟩, Nat.le_refl _, rfl, rfl⟩
    have laying : Table.Shift setup m.table (m.table.modifySide seat fun side =>
        (side.remove .hand laid.card).placeSpellTrap laid) := .lay ok.room proper
    refine entries_report laying ?_
    unfold layNews
    dsimp only
    split <;> rfl
  | activate ok targets =>
    obtain ⟨ran, running, away⟩ := activate_stages targets
    exact ((clearing_lifted _ _).entries.trans running.entries).trans away.entries
  | enter seat phase playable => exact .single (.phase seat phase m.toScene)
  | trim seat => exact (clearing_enforceHandLimit setup seat m).entries

theorem Motions.entries (motions : Motions setup m m') (placed : m.table.Placed []) :
    Entries setup m.toScene m'.toScene := by
  induction motions with
  | refl => exact .refl
  | tail before motion ih =>
    have there := placed.rearranged (Motions.calm before placed).table
    exact ih.trans (motion.entries there)

/-- Whatever happens while links wait is written down. -/
theorem Response.entries (response : Response setup m ids m') :
    Entries setup m.toScene m'.toScene := by
  cases response with
  | @turn seat card monster there faceUp name stance =>
    refine entries_alter rfl fun monster' there' proper => ?_
    obtain rfl : monster = monster' := Option.some.inj (there.symm.trans there')
    refine ⟨proper.printed, proper.entered, fun hidden => ?_⟩
    have hidden : monster.facing = .down := hidden
    simp [Monster.isFaceDown, hidden] at faceUp
  | @link seat card zone printed effect targets id chain ok added =>
    exact (clearing_report (m.table.pared_liftCard seat card zone) rfl).entries
  | pass passed => exact .refl
  | resolve resolved =>
    obtain ⟨-, -, -, rfl⟩ := Chain.resolve_ok resolved
    exact .tail (Chain.entries_settleLinks m.chain.links.reverse m.toScene) (.aside rfl)

/-- Whatever a move does is written down. -/
theorem Action.lines {move : Move} (action : Action setup seat move m ids m')
    (placed : m.table.Placed []) : Lines setup m.toScene m'.toScene := by
  cases action with
  | none => exact .refl
  | response response => exact response.entries.lines
  | motions _ motions => exact (motions.entries placed).lines
  | set sets ok onTurn hidden =>
    subst hidden
    exact .single (.entry (.play placed ok onTurn (Monster.proper_faceDown ok.known ok.monster)
      rfl rfl (by simp [setNews, Details.get?, Monster.faceDown, Monster.faceUp])))
  | @turn ended _ ends onTurn noChain before after =>
    have ending : Entries setup m.toScene ended.toScene := before.entries placed
    have still : ended.table.current = seat := ending.turn.2.1.trans onTurn
    have begun : (ended.handOver seat seat.other).table.Placed [] :=
      placed.rearranged ((before.calm placed).trans (calm_handOver seat seat.other ended)).table
    have handed : Line setup ended.toScene (ended.handOver seat seat.other).toScene := by
      rw [← still]
      exact .turn ended
    exact (ending.lines.tail handed).trans (after.entries begun).lines

theorem play_lines {p : Play} (placed : p.before.table.Placed []) (legal : p.Legal setup) :
    Lines setup p.before.toScene p.after.toScene := by
  obtain ⟨_, moved, -, -, action, ⟨rfl, -⟩ | ending⟩ := play_action placed legal
  · exact action.lines placed
  · exact (action.lines placed).trans ending.clearing.entries.lines

/-! ## The first entries -/

/-- Before the first turn begins both players have drawn their cards, and maybe the host draws
one more before the first phase. -/
theorem start_entries (setup : Setup) (lobby : Lobby) (game : GameName) (players : Seats User)
    (decks : Seats (List CardId)) (seed : UInt64) :
    ∃ dealt drawn,
      Entries setup (ready setup (.start lobby game players) decks seed) dealt ∧
      Entries setup (dealt.record (turnNews .host 1)) drawn ∧
      (start setup lobby game players decks seed).toScene =
        (drawn.change ({ · with phase := .main1 })).record (phaseNews .host .main1) := by
  let ready := ready setup (.start lobby game players) decks seed
  let Kept (s : Scene) : Prop := Entries setup ready s
  have drawing (seat : Seat) (s : Scene) (kept : Kept s) :
      Kept (draw seat setup.rules.startingHand s).2 :=
    kept.trans (deed_draw setup seat _ s).entries
  have started : Kept (ready.record (startNews players seed)) := .single (.aside rfl)
  refine ⟨_, _, Scene.each_keeps drawing Seat.all started, ?_, rfl⟩
  dsimp only
  split
  · exact (deed_draw setup .host 1 _).entries
  · exact .refl

end Match

namespace Arena

variable {setup : Setup} {calls : List Call} {lobby : Lobby} {m : Match}

/-- What holds at the beginning of a match, and is kept by every line of its log, holds of every
live match. -/
theorem written (Keeps : Scene → Prop)
    (begins : ∀ lobby game players decks seed,
      Keeps (Match.start setup lobby game players decks seed).toScene)
    (line : ∀ s s', Line setup s s' → Keeps s → Keeps s')
    (live : ((start setup).serveAll calls).lobbies lobby = .live m) : Keeps m.toScene :=
  kept_of_live (Keeps ·.toScene) begins
    (fun _ placed legal => keeps_along (Match.play_lines placed legal) line) live

end Arena

end CardDuel
