import CardDuel.Proofs.Ratings

/-!
# Once a turn a monster changes its position

A monster that is flipped or changes its stance is marked, and the mark stands until the turn is
handed over.  A monster that comes into play carries no mark, and so the same card may change its
position twice in a turn, if it has left the board and come back in between.

* `Move.turns?`: the card whose position a move changes.
* `Scene.Dates`: no monster in play came there later than it is stamped.
* `Scene.Holds`: a monster that has changed its position stays marked as long as it stays, in the
  same turn.
* `Fate.dates` and `Fate.holds`: whatever happens to the monsters in play, this is kept.
* `Arena.one_change_a_turn`: the statement over all calls that an arena may serve.
-/

namespace CardDuel

open Resolution

/-- The card whose position the move changes, if it is such a move. -/
def Move.turns? : Move → Option CardRef
  | .flipSummon card _ | .changePosition card => some card
  | _ => none

/-- The event tells that a monster changed its position. -/
def Event.Turns (card : CardRef) (e : Event) : Prop :=
  (e.type = .flipSummon ∨ e.type = .positionChanged) ∧ e.details.About card

/-! ## What becomes of a monster in play -/

/-- The monster stays in play.  It is not hidden, and within the turn it stays marked. -/
structure Monster.Stays (within : Prop) (m m' : Monster) : Prop where
  card : m'.card = m.card
  entered : m'.enteredOn = m.enteredOn
  shown : m.facing = .up → m'.facing = .up
  moved : within → m.hasMoved → m'.hasMoved

/-- While some events are told, each monster in play has stayed there, or one of them tells that it
came into play. -/
structure Scene.Passes (s : Scene) (told : List Event) (s' : Scene) : Prop where
  log : s'.log.events = s.log.events ++ told
  later : s.table.turn ≤ s'.table.turn
  board : ∀ seat, ∀ m' ∈ (s'.side seat).board,
    (m'.enteredOn = s'.table.turn ∧ ∃ e ∈ told, e.Enters m'.card) ∨
    ∃ m ∈ (s.side seat).board, m.Stays (s'.table.turn = s.table.turn) m' ∧
      ∀ e ∈ told, ¬ e.Enters m.card

section

variable {setup : Setup} {s s' : Scene} {news : News} {f : Table → Table} {m : Monster}
  {told : List Event} {card : CardRef}

theorem Monster.Stays.refl (within : Prop) (m : Monster) : m.Stays within m :=
  ⟨rfl, rfl, id, fun _ => id⟩

theorem Monster.stays_boosted (within : Prop) (m : Monster) (value : Int) (untilEndOfTurn : Bool) :
    m.Stays within (boosted m value untilEndOfTurn) := by
  cases untilEndOfTurn <;> exact ⟨rfl, rfl, id, fun _ => id⟩

theorem Monster.Turned.stays {m' : Monster} (h : m.Turned m') (within : Prop) : m.Stays within m' :=
  ⟨h.card, h.entered, h.shown, fun _ _ => h.moved⟩

/-- One event is told within a turn, and it tells of no other monster than `card` that it came into
play. -/
theorem Scene.passes_report (turn : (f s.table).turn = s.table.turn)
    (board : ∀ seat, ∀ m' ∈ ((f s.table).side seat).board,
      (m'.enteredOn = s.table.turn ∧ news.type.isEntry ∧ news.details.About m'.card) ∨
      ∃ m ∈ (s.side seat).board,
        m.Stays True m' ∧ (news.type.isEntry → ¬ news.details.About m.card)) :
    s.Passes [s.log.stamp (f s.table).turn news] ((s.change f).record news) where
  log := rfl
  later := turn.ge
  board seat m' there := by
    obtain ⟨entered, kind, about⟩ | ⟨m, before, stays, other⟩ := board seat m' there
    · exact .inl ⟨entered.trans turn.symm, _, List.mem_singleton_self _, kind, about⟩
    · refine .inr ⟨m, before,
        ⟨stays.card, stays.entered, stays.shown, fun _ => stays.moved trivial⟩,
        fun e among enters => ?_⟩
      obtain rfl := List.mem_singleton.1 among
      exact other enters.1 enters.2

/-- Whatever happens to the monsters in play, those that are there have stayed or are told of. -/
theorem Fate.passes (fate : Fate setup s s') : ∃ told, s.Passes told s' := by
  cases fate with
  | thin thinned log =>
    refine ⟨[], by rw [log, List.append_nil], thinned.turn.ge,
      fun seat m there => .inr ⟨m, (thinned.boards seat).subset there, .refl _ m,
        List.forall_mem_nil _⟩⟩
  | @tell s news other =>
    refine ⟨_, Scene.passes_report (f := id) rfl fun seat m there =>
      .inr ⟨m, there, .refl _ m, fun entry => ?_⟩⟩
    exact absurd other (by simp [EventType.isOfMonsters_of_isEntry entry])
  | enter placed held fresh placing kind about =>
    refine ⟨_, Scene.passes_report rfl fun seat m there => ?_⟩
    obtain rfl | ⟨before, other⟩ := placed.mem_board_enter held placing there
    · exact .inl ⟨fresh.entered, kind, about⟩
    · exact .inr ⟨m, before, .refl _ m, fun _ same => other (same.unique about)⟩
  | @boost s seat target news loose placed there value untilEndOfTurn kind about told lasts =>
    refine ⟨_, Scene.passes_report rfl fun seat' m now => .inr ?_⟩
    have none : news.type.isEntry → False := by
      rw [kind]
      nofun
    have held : target.card ∈ (s.side seat).cardsIn .board := List.mem_map_of_mem there
    obtain ⟨before, onBoard, -, rfl⟩ | ⟨before, -⟩ := placed.mem_board_alter held now
    · exact ⟨before, onBoard, before.stays_boosted _ _ _, fun entry => (none entry).elim⟩
    · exact ⟨m, before, .refl _ m, fun entry => (none entry).elim⟩
  | @turn s seat card change news loose placed held turned kind about =>
    refine ⟨_, Scene.passes_report rfl fun seat' m now => .inr ?_⟩
    have none : news.type.isEntry → False := by
      obtain kind | kind := kind <;> rw [kind] <;> nofun
    obtain ⟨before, onBoard, -, rfl⟩ | ⟨before, -⟩ := placed.mem_board_alter held now
    · exact ⟨before, onBoard, (turned before).stays _, fun entry => (none entry).elim⟩
    · exact ⟨m, before, .refl _ m, fun entry => (none entry).elim⟩
  | rest m seat next =>
    obtain ⟨told, log, other⟩ := Match.events_handOver seat next m
    refine ⟨told, log, Nat.le_succ m.table.turn, fun seat' m' there => ?_⟩
    have there : m' ∈ ((m.handOver seat next).table.side seat').board := there
    rw [side_handOver] at there
    obtain ⟨before, held, rfl⟩ := List.mem_map.1 there
    refine .inr ⟨before, held, ⟨rfl, rfl, id, fun same => ?_⟩, fun e among => ?_⟩
    · exact absurd same (Nat.succ_ne_self m.table.turn)
    · exact (Event.apart_of_other fun kind => absurd (other e among) (by simp [kind])).1

end

/-! ## When monsters came into play -/

/-- Every monster in play is stamped with the turn in which it last came there. -/
structure Scene.Dates (s : Scene) : Prop where
  stamped : ∀ seat, ∀ m ∈ (s.side seat).board, m.enteredOn ≤ s.table.turn
  entered : ∀ seat, ∀ m ∈ (s.side seat).board, ∀ e ∈ s.log.events, e.Enters m.card →
    e.turn ≤ m.enteredOn

section

variable {setup : Setup} {s s' : Scene} {told base : List Event} {card : CardRef} {turn : Nat}

theorem Scene.Passes.dates (h : s.Passes told s')
    (past : ∀ e ∈ s'.log.events, e.turn ≤ s'.table.turn) (dates : s.Dates) : s'.Dates where
  stamped seat m' there := by
    obtain ⟨now, -⟩ | ⟨m, before, stays, -⟩ := h.board seat m' there
    · exact now.le
    · exact stays.entered ▸ (dates.stamped seat m before).trans h.later
  entered seat m' there e among enters := by
    obtain ⟨now, -⟩ | ⟨m, before, stays, none⟩ := h.board seat m' there
    · exact now ▸ past e among
    · rw [stays.card] at enters
      rw [h.log, List.mem_append] at among
      rw [stays.entered]
      exact dates.entered seat m before e (among.resolve_right fun new => none e new enters) enters

/-! ## What has changed its position stays marked -/

/-- Since the log was `base` the card has come into play, or it is marked within the turn. -/
structure Scene.Marks (base : List Event) (card : CardRef) (turn : Nat) (s : Scene) : Prop where
  later : turn ≤ s.table.turn
  told : ∃ later, s.log.events = base ++ later ∧ ((∃ e ∈ later, e.Enters card) ∨
    (s.table.turn = turn → ∀ seat, ∀ m ∈ (s.side seat).board, m.card = card →
      m.facing = .up ∧ m.hasMoved))

theorem Scene.Passes.marks (h : s.Passes told s') (marks : s.Marks base card turn) :
    s'.Marks base card turn := by
  obtain ⟨later, log, entered | marked⟩ := marks.told
  · refine ⟨marks.later.trans h.later, later ++ told, ?_, .inl ?_⟩
    · rw [h.log, log, List.append_assoc]
    · obtain ⟨e, among, enters⟩ := entered
      exact ⟨e, List.mem_append_left _ among, enters⟩
  · refine ⟨marks.later.trans h.later, later ++ told, ?_, ?_⟩
    · rw [h.log, log, List.append_assoc]
    · by_cases came : ∃ e ∈ told, e.Enters card
      · obtain ⟨e, among, enters⟩ := came
        exact .inl ⟨e, List.mem_append_right _ among, enters⟩
      · refine .inr fun now seat m' there same => ?_
        have still : s.table.turn = turn :=
          le_antisymm (h.later.trans now.le) marks.later
        obtain ⟨-, enters⟩ | ⟨m, before, stays, -⟩ := h.board seat m' there
        · exact absurd (same ▸ enters) came
        · obtain ⟨up, moved⟩ := marked still seat m before (stays.card.symm.trans same)
          exact ⟨stays.shown up, stays.moved (now.trans still.symm) moved⟩

end

/-! ## Moves that change a position -/

theorem Scene.Marks.along {setup : Setup} {s s' : Scene} {base : List Event} {card : CardRef}
    {turn : Nat} (marks : s.Marks base card turn) (fates : Fates setup s s') :
    s'.Marks base card turn :=
  keeps_along fates
    (fun _ _ fate marks => fate.passes.elim fun _ passes => passes.marks marks) marks

/-- A monster that has just changed its position is marked. -/
theorem Scene.marks_turned {s : Scene} {seat : Seat} {card : CardRef} {change : Monster → Monster}
    {loose : List CardRef} (placed : s.table.Placed loose)
    (held : card ∈ (s.side seat).cardsIn .board)
    (marked : ∀ seat', ∀ m ∈ (s.side seat').board, m.card = card →
      (change m).facing = .up ∧ (change m).hasMoved) (news : News) :
    ((s.change (·.modifySide seat (·.modifyMonster card change))).record news).Marks
      (s.log.events ++ [s.log.stamp s.table.turn news]) card s.table.turn where
  later := Nat.le_refl _
  told := by
    refine ⟨[], (List.append_nil _).symm, .inr fun _ seat' m' there same => ?_⟩
    obtain ⟨m, before, own, rfl⟩ | ⟨-, other⟩ := placed.mem_board_alter held there
    · exact marked seat' m before own
    · exact absurd same other

namespace Match

variable {setup : Setup} {m after : Match} {seat : Seat} {card : CardRef} {stance : Stance}

theorem fates_settleLife (setup : Setup) (m : Match) :
    Fates setup m.toScene m.settleLife.toScene := by
  unfold settleLife
  split
  · split
    · exact (clearing_finish _ _ m).fates
    · exact .refl
  · exact .refl

theorem faceDown_of_flipSummon {report : FlipReport}
    (h : m.flipSummon setup seat card stance = .ok (report, after)) :
    ∃ monster, (m.side seat).monster? card = some monster ∧ monster.isFaceDown := by
  unfold flipSummon at h
  simp only [bind_eq_ok, exists_unit, require_eq_ok_iff, monsterOf_ok] at h
  obtain ⟨-, -, -, -, -, monster, there, down, -⟩ := h
  exact ⟨monster, there, down⟩

end Match

namespace Play

variable {setup : Setup} {p : Play} {card : CardRef}

/-- A move that changes the position of a card finds it face-down or unmarked, tells of the change
and leaves it marked. -/
theorem turns_card (placed : p.before.table.Placed []) (legal : p.Legal setup)
    (turns : p.move.turns? = some card) :
    (∃ seat, ∃ m ∈ (p.before.side seat).board, m.card = card ∧
      (m.facing = .down ∨ m.hasMoved = false)) ∧
    ∃ e : Event, e.Turns card ∧
      p.after.toScene.Marks (p.before.log.events ++ [e]) card p.before.table.turn := by
  obtain ⟨seat, made, -, -, -, hmade, settled⟩ := Match.play_ok legal
  rw [settled]
  cases hmove : p.move with
  | flipSummon c stance =>
    rw [hmove] at hmade turns
    obtain rfl : c = card := Option.some.inj turns
    obtain ⟨report, flips, -⟩ := Match.reported_eq_ok.1 hmade
    obtain ⟨printed, -, held, -, -, rfl⟩ := Match.flipSummon_ok flips
    obtain ⟨monster, there, down⟩ := Match.faceDown_of_flipSummon flips
    have flipped : Match.Motion setup p.before (p.before.flipped seat c printed stance) :=
      .flip held printed stance
    have placed' := placed.rearranged (flipped.calm placed).table
    have firing := Match.motion_fire setup seat .onFlip placed' (Match.shown_flipped held placed')
    refine ⟨⟨seat, monster, List.mem_of_find?_eq_some there, by simpa using List.find?_some there,
      .inl (by simpa [Monster.isFaceDown] using down)⟩,
      p.before.log.stamp p.before.table.turn (Match.flipNews seat c printed.name stance),
      ⟨.inl rfl, Details.about_cardId _ _⟩, ?_⟩
    exact (Scene.marks_turned placed held (fun _ _ _ _ => ⟨rfl, rfl⟩) _).along
      ((firing.fates placed').trans (Match.fates_settleLife setup _))
  | changePosition c =>
    rw [hmove] at hmade turns
    obtain rfl : c = card := Option.some.inj turns
    obtain ⟨stance, changes, -⟩ := Match.reported_eq_ok.1 hmade
    obtain ⟨printed, monster, ok, -, rfl⟩ := Match.changePosition_eq_ok.1 changes
    have there := List.mem_of_find?_eq_some ok.there
    have same : monster.card = c := by simpa using List.find?_some ok.there
    let turned (m : Monster) : Monster := { m with stance := m.stance.toggled, hasMoved := true }
    have marked : ∀ seat', ∀ m ∈ (p.before.side seat').board, m.card = c →
        (turned m).facing = .up ∧ (turned m).hasMoved := by
      intro seat' m onBoard own
      refine ⟨?_, rfl⟩
      by_contra hidden
      have down : m.isFaceDown := by
        cases facing : m.facing with
        | up => exact absurd facing hidden
        | down => simp [Monster.isFaceDown, facing]
      exact placed.shown_of_faceUp there ok.faceUp ⟨seat', m, onBoard, own.trans same.symm, down⟩
    refine ⟨⟨seat, monster, there, same, .inr ok.unmoved⟩,
      p.before.log.stamp p.before.table.turn (Match.stanceNews seat c printed.name stance),
      ⟨.inr rfl, Details.about_cardId _ _⟩, ?_⟩
    refine Scene.Marks.along ?_
      (Match.fates_settleLife setup (p.before.turned seat c printed.name stance))
    exact Scene.marks_turned placed ok.owned.2 marked _
  | _ => simp [hmove, Move.turns?] at turns

end Play

/-! ## The statement -/

namespace Arena

variable {setup : Setup} {calls : List Call} {lobby : Lobby} {m : Match}

theorem dates_of_live (live : ((start setup).serveAll calls).lobbies lobby = .live m) :
    m.toScene.Dates := by
  let Kept (s : Scene) : Prop := s.Recounts setup ∧ s.Dates
  have begins (lobby : Lobby) (game : GameName) (players : Seats User)
      (decks : Seats (List CardId)) (seed : UInt64) :
      Kept (Match.start setup lobby game players decks seed).toScene := by
    have none (seat : Seat) (m : Monster)
        (there : m ∈ ((Match.start setup lobby game players decks seed).side seat).board) : False :=
      List.not_mem_nil (Match.board_start setup lobby game players decks seed seat ▸ there)
    exact ⟨Match.recounts_start setup lobby game players decks seed,
      fun seat m there => (none seat m there).elim, fun seat m there => (none seat m there).elim⟩
  have step (s s' : Scene) (fate : Fate setup s s') (h : Kept s) : Kept s' := by
    obtain ⟨told, passes⟩ := fate.passes
    have recounts := fate.recounts h.1
    exact ⟨recounts, passes.dates recounts.past h.2⟩
  exact (kept_of_live (fun m => Kept m.toScene) begins
    (fun _ placed legal h => keeps_along (Match.play_fates placed legal) step h) live).2

/-- The marks of a card stand while moves are made. -/
theorem marks_of_plays {m m' : Match} {plays : List Play} {base : List Event} {card : CardRef}
    {turn : Nat} (h : Plays setup m plays m') (placed : m.table.Placed [])
    (marks : m.toScene.Marks base card turn) : m'.toScene.Marks base card turn := by
  let Kept (m : Match) : Prop := m.table.Placed [] ∧ m.toScene.Marks base card turn
  have step (p : Play) (legal : p.Legal setup) (kept : Kept p.before) : Kept p.after :=
    ⟨(Match.placed_of_stages (Match.play_stages kept.1 legal) kept.1).1,
      kept.2.along (Match.play_fates kept.1 legal)⟩
  exact (h.keeps Kept step ⟨placed, marks⟩).2

/-- Over all calls that an arena may serve: if two moves change the position of the same card in
one turn, then between them it is told that the card came into play again.  And a move that turns a
monster to its other stance finds it face-up, and every event that tells that it came into play is
of an earlier turn. -/
theorem one_change_a_turn (setup : Setup) (calls : List Call) (lobby : Lobby) :
    (∀ card p q front between back,
      (start setup).plays lobby calls = front ++ p :: (between ++ q :: back) →
      p.move.turns? = some card → q.move.turns? = some card →
      q.before.table.turn = p.before.table.turn →
      ∃ turning later, q.before.log.events = p.before.log.events ++ turning :: later ∧
        turning.Turns card ∧ ∃ e ∈ later, e.Enters card) ∧
    ∀ p ∈ (start setup).plays lobby calls, ∀ card, p.move = .changePosition card →
      ∃ seat, p.before.seatOf? p.user = some seat ∧
        ∃ monster, (p.before.side seat).monster? card = some monster ∧ monster.facing = .up ∧
          (∃ e ∈ p.before.log.events, e.Enters card) ∧
          ∀ e ∈ p.before.log.events, e.Enters card → e.turn < p.before.table.turn := by
  refine ⟨fun card p q front between back made turns turns' turn => ?_, fun p there card move => ?_⟩
  · have first : p ∈ (start setup).plays lobby calls := by rw [made]; simp
    have second : q ∈ (start setup).plays lobby calls := by rw [made]; simp
    obtain ⟨legal, _, live⟩ := mem_plays first
    obtain ⟨legal', _, live'⟩ := mem_plays second
    have placed := placed_of_live live
    obtain ⟨-, turning, turned, marks⟩ := Play.turns_card placed legal turns
    obtain ⟨⟨seat, monster, onBoard, own, unturned⟩, -⟩ :=
      Play.turns_card (placed_of_live live') legal' turns'
    -- from the first of the moves to the second
    obtain ⟨m, m', whole⟩ := exists_plays setup calls lobby
    rw [made] at whole
    obtain ⟨_, -, rest⟩ := whole.split
    cases rest with
    | next _ rest =>
      obtain ⟨_, meanwhile, rest⟩ := rest.split
      cases rest with
      | next =>
        have after := (Match.placed_of_stages (Match.play_stages placed legal) placed).1
        obtain ⟨-, later, log, entered | marked⟩ := marks_of_plays meanwhile after marks
        · refine ⟨turning, later, ?_, turned, entered⟩
          rw [log, List.append_assoc]
          rfl
        · obtain ⟨up, moved⟩ := marked turn seat monster onBoard own
          obtain down | unmoved := unturned
          · rw [up] at down
            cases down
          · rw [moved] at unmoved
            cases unmoved
  · obtain ⟨legal, _, live⟩ := mem_plays there
    obtain ⟨seat, made, seated, -, -, hmade, -⟩ := Match.play_ok legal
    rw [move] at hmade
    obtain ⟨stance, changes, -⟩ := Match.reported_eq_ok.1 hmade
    obtain ⟨printed, monster, ok, -, -⟩ := Match.changePosition_eq_ok.1 changes
    have onBoard := List.mem_of_find?_eq_some ok.there
    obtain rfl : monster.card = card := by simpa using List.find?_some ok.there
    have dates := dates_of_live live
    have earlier : monster.enteredOn < p.before.table.turn :=
      lt_of_le_of_ne (dates.stamped seat monster onBoard) ok.settled
    refine ⟨seat, seated, monster, ok.there, ?_,
      ((recounts_of_live live).monsters seat monster onBoard).entered, fun e among enters => ?_⟩
    · cases facing : monster.facing with
      | up => rfl
      | down => simpa [Monster.isFaceDown, facing] using ok.faceUp
    · exact (dates.entered seat monster onBoard e among enters).trans_lt earlier

end Arena

namespace Sample

/-- A monster without an ability. -/
def tumbler : Card where
  id := ⟨25⟩
  name := "Tumbler"
  type := .creature
  attack := 800
  defense := 800

/-- A spell that takes a monster back to the hand. -/
def rope : Card where
  id := ⟨26⟩
  name := "Vaulting Rope"
  type := .spell
  text := some "Return 1 target monster to its owner's hand."

/-- What is read from the text of the rope. -/
def vaulting : Ability :=
  ⟨[{ kind := .toHand, value := 1, source := some .board,
      text := "Return 1 target monster to its owner's hand" }]⟩

theorem ability_rope : vaulting = rope.ability := by decide +kernel

def circus : Setup where
  catalog := ⟨[⟨tumbler, tumbler.ability, rfl⟩, ⟨rope, vaulting, ability_rope⟩]⟩
  rules := { startingHand := 2 }

/-- The host turns the tumbler, takes it back to the hand, sets it again and flips it. -/
def tumbling : List Call :=
  dueling ⟨[tumbler.id, rope.id, tumbler.id], [tumbler.id, tumbler.id, tumbler.id]⟩
    [(.host, .normalSummon ⟨0⟩ [] .attack), (.host, .endTurn), (.opponent, .endTurn),
      (.host, .changePosition ⟨0⟩), (.host, .activateSpell ⟨1⟩ [⟨0⟩]),
      (.host, .setMonster ⟨0⟩ []), (.host, .flipSummon ⟨0⟩ .attack)]

end Sample

namespace Arena

/-- The tumbler changes its position twice in one turn, and came into play again in between. -/
theorem tumbler_turns_twice :
    ∃ p q front between back,
      (start Sample.circus).plays Sample.lobby Sample.tumbling =
          front ++ p :: (between ++ q :: back) ∧
        p.move = .changePosition ⟨0⟩ ∧ q.move = .flipSummon ⟨0⟩ .attack ∧
        q.before.table.turn = p.before.table.turn ∧
        (∃ turning later, q.before.log.events = p.before.log.events ++ turning :: later ∧
          turning.Turns ⟨0⟩ ∧ ∃ e ∈ later, e.Enters ⟨0⟩) ∧
        ∀ e ∈ p.before.log.events, e.Enters ⟨0⟩ → e.turn < p.before.table.turn := by
  have made : ((start Sample.circus).plays Sample.lobby Sample.tumbling).map
      (fun p => (p.move, p.before.table.turn)) =
      [(.normalSummon ⟨0⟩ [] .attack, 1), (.endTurn, 1), (.endTurn, 2)] ++
        (.changePosition ⟨0⟩, 3) :: ([(.activateSpell ⟨1⟩ [⟨0⟩], 3), (.setMonster ⟨0⟩ [], 3)] ++
          [(.flipSummon ⟨0⟩ .attack, 3)]) := by decide +kernel
  obtain ⟨front, _, split, -, made⟩ := List.map_eq_append_iff.1 made
  obtain ⟨p, _, rfl, first, made⟩ := List.map_eq_cons_iff.1 made
  obtain ⟨between, _, rfl, -, made⟩ := List.map_eq_append_iff.1 made
  obtain ⟨q, back, rfl, second, -⟩ := List.map_eq_cons_iff.1 made
  obtain ⟨move, turn⟩ := Prod.mk.inj first
  obtain ⟨move', turn'⟩ := Prod.mk.inj second
  obtain ⟨once, settled⟩ := one_change_a_turn Sample.circus Sample.tumbling Sample.lobby
  have turns : p.move.turns? = some ⟨0⟩ := by rw [move]; rfl
  have turns' : q.move.turns? = some ⟨0⟩ := by rw [move']; rfl
  have among : p ∈ (start Sample.circus).plays Sample.lobby Sample.tumbling := by rw [split]; simp
  obtain ⟨_, -, _, -, -, -, earlier⟩ := settled p among ⟨0⟩ move
  exact ⟨p, q, front, between, back, split, move, move', turn'.trans turn.symm,
    once ⟨0⟩ p q front between back split turns turns' (turn'.trans turn.symm), earlier⟩

end Arena

end CardDuel
