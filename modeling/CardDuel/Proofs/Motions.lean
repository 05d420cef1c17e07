import CardDuel.Proofs.Concealment

/-!
# What moves are made of

There are few things that a move can do, and each move does some of them one after the other.
While links wait on the chain only four are possible, each for itself.  All others are for a
match in which no link waits, and they happen within a turn.  The last move of a turn hands the
turn over in between.  Setting a monster stands for itself, because nothing else hides a card that
was to be seen.  The end of the match, if a move brings it about, comes last.

* `Match.Motion`: what can happen in a turn while no link waits, and `Match.Motions`: some of it.
* `Match.Response`: what can happen while links wait too.
* `Match.Action`: what a move does to a match that goes on, and `Match.Ending`: how it may end
  the match then.
* `make_action` and `play_action`: every move that was made is an action, with or without an
  ending.
* `play_stages`: so it goes through stages, and what all stages keep is kept.
-/

namespace CardDuel

open Resolution

/-- The ids of the links that a move has added, by its report. -/
def MoveReport.ids : MoveReport → List LinkId
  | .linked id => [id]
  | _ => []

/-- Whether the players may do something in the phase.  The Draw Phase and the Standby Phase are
only passed through. -/
def Phase.isPlayable : Phase → Bool
  | draw | standby => false
  | _ => true

namespace Match

/-- What can happen in a turn while no link waits. -/
inductive Motion (setup : Setup) (m : Match) : Match → Prop where
  | effects {s : Scene} (steps : OpenSteps setup m.toScene s) : Motion setup m (m.withScene s)
  | summon {seat : Seat} {card : CardRef} {tributes : List CardRef} {printed : Card}
      (ok : Summonable setup m seat card tributes printed) (onTurn : m.table.current = seat)
      (stance : Stance) :
      Motion setup m (m.summoned setup seat card printed tributes stance)
  | flip {seat : Seat} {card : CardRef} (there : card ∈ (m.side seat).cardsIn .board)
      (printed : Card) (stance : Stance) : Motion setup m (m.flipped seat card printed stance)
  | lay {seat : Seat} {card : CardRef} {printed : Card}
      (ok : Layable setup m seat card printed) :
      Motion setup m ((m.change (·.modifySide seat fun side =>
        (side.remove .hand card).placeSpellTrap (.laid card m.table.turn))).record
          (layNews seat card printed.type))
  | activate {seat : Seat} {card : CardRef} {zone : Zone} {printed : Card}
      (ok : Activatable setup m seat card zone printed) (targets : List CardRef) :
      Motion setup m (m.activate setup seat card zone printed targets).2
  | enter (seat : Seat) (phase : Phase)
      (playable : m.table.phase.isPlayable → phase.isPlayable) :
      Motion setup m (m.enterPhase seat phase)
  | trim (seat : Seat) : Motion setup m (m.enforceHandLimit setup seat).2

/-- Some motions one after the other. -/
abbrev Motions (setup : Setup) : Match → Match → Prop := Relation.ReflTransGen (Motion setup)

/-- What can happen while links wait too, with the ids of the links that are added. -/
inductive Response (setup : Setup) (m : Match) : List LinkId → Match → Prop where
  | turn {seat : Seat} {card : CardRef} {monster : Monster}
      (there : (m.side seat).monster? card = some monster) (faceUp : monster.isFaceDown = false)
      (name : String) (stance : Stance) :
      Response setup m [] ((m.change (·.modifySide seat (·.modifyMonster card fun monster =>
        { monster with stance := monster.stance.toggled, hasMoved := true }))).record
          (stanceNews seat card name stance))
  | link {seat : Seat} {card : CardRef} {zone : Zone} {printed : Card} {effect : Effect}
      {targets : List CardRef} {id : LinkId} {chain : Chain}
      (ok : Linkable setup m seat card zone printed effect)
      (added : m.chain.add card seat effect targets = .ok (id, chain)) :
      Response setup m [id] ({ m.change (liftCard seat card zone) with chain := chain }.record
        (linkNews seat card printed.name chain.links.length effect zone))
  | pass {seat : Seat} {awaiting : Option Seat} {chain : Chain}
      (passed : m.chain.pass seat = .ok (awaiting, chain)) :
      Response setup m [] { m with chain := chain }
  | resolve {reports : List LinkReport} {chain : Chain} {s : Scene}
      (resolved : m.chain.resolve setup m.toScene = .ok (reports, chain, s)) :
      Response setup m [] ⟨s, chain⟩

/-- What a move of a player does, apart from ending the match. -/
inductive Action (setup : Setup) (seat : Seat) (move : Move) (m : Match) :
    List LinkId → Match → Prop where
  | none : Action setup seat move m [] m
  | response {m' : Match} {ids : List LinkId} (response : Response setup m ids m') :
      Action setup seat move m ids m'
  | motions {m' : Match} (noChain : m.chain.links = []) (motions : Motions setup m m') :
      Action setup seat move m [] m'
  | set {card : CardRef} {tributes : List CardRef} {printed : Card} {monster : Monster}
      (sets : move = .setMonster card tributes)
      (ok : Summonable setup m seat card tributes printed) (onTurn : m.table.current = seat)
      (hidden : monster = .faceDown card printed.attack printed.defense m.table.turn
        (setup.catalog.ability printed.id).protection) :
      Action setup seat move m []
        (m.played setup seat tributes monster (setNews seat card tributes.length))
  /-- The turn is handed over. -/
  | turn {ended m' : Match} (ends : move = .endTurn) (onTurn : m.table.current = seat)
      (noChain : m.chain.links = []) (before : Motions setup m ended)
      (after : Motions setup (ended.handOver seat seat.other) m') :
      Action setup seat move m [] m'

/-- How a move of a player ends the match. -/
inductive Ending (seat : Seat) (move : Move) (m : Match) : Match → Prop where
  | lost {loser : Seat} (lost : loser? m.table = some loser) :
      Ending seat move m (m.finish loser.other .lifePoints)
  | deckOut (noChain : m.chain.links = []) (draw : m.table.phase = .draw)
      (empty : (m.side m.table.current).deck = []) :
      Ending seat move m (m.finish m.table.current.other .deckOut)
  | surrender (gives : move = .surrender) : Ending seat move m (m.finish seat.other .surrender)

variable {setup : Setup} {m m' made after : Match} {ids : List LinkId} {seat : Seat} {move : Move}

/-! ## Actions go through stages -/

theorem Motion.calm (motion : Motion setup m m') (h : m.table.Placed []) : Calm m m' := by
  cases motion with
  | effects steps => exact calm_act (f := fun _ => ((), _)) steps.steps.affected
  | summon ok onTurn stance => exact calm_played h ok rfl
  | flip there printed stance => exact calm_flipped _ _ printed stance m
  | @lay seat card printed ok =>
    let laid : SetCard := .laid card m.table.turn
    have inHand : laid.card ∈ (m.side seat).cardsIn .hand := ok.inHand
    exact (calm_lay inHand).trans (calm_record _ _)
  | activate ok targets => exact calm_activate h ok
  | enter seat phase playable => exact calm_enterPhase seat phase m
  | trim seat => exact calm_enforceHandLimit seat m

theorem Motions.calm (motions : Motions setup m m') (h : m.table.Placed []) : Calm m m' := by
  induction motions with
  | refl => exact .refl m
  | tail _ motion ih => exact ih.trans (motion.calm (h.rearranged ih.table))

theorem monster?_modifyMonster {change : Monster → Monster} (h : ∀ m, (change m).card = m.card)
    (side : Side) (card c : CardRef) :
    (side.modifyMonster card change).monster? c =
      if c = card then (side.monster? c).map change else side.monster? c := by
  have general (board : List Monster) :
      (updateFirst (·.card == card) change board).find? (·.card == c) =
        if c = card then (board.find? (·.card == c)).map change
        else board.find? (·.card == c) := by
    induction board with
    | nil => simp [updateFirst]
    | cons m board ih =>
      rw [updateFirst]
      by_cases hm : m.card = card
      · by_cases hc : c = card
        · simp [hm, hc, h]
        · have hne : ¬ card = c := fun heq => hc heq.symm
          simp [hm, hc, h, hne]
      · by_cases hc : m.card = c
        · have hne : ¬ c = card := fun heq => hm (hc.trans heq)
          simp [hc, hne]
        · simp [hm, hc, ih]
  exact general side.board

theorem Response.stage (response : Response setup m ids m') (active : m.table.isActive) :
    Stage setup m ids m' := by
  cases response with
  | @turn seat card monster there faceUp name stance =>
    let turned (monster : Monster) : Monster :=
      { monster with stance := monster.stance.toggled, hasMoved := true }
    have sameCard (monster : Monster) : (turned monster).card = monster.card := rfl
    have calm : Calm m (m.change (·.modifySide seat (·.modifyMonster card turned))) :=
      calm_modifyMonster sameCard m seat card
    -- Turning a monster to its other stance hides no monster.
    refine .calm (calm.trans (calm_record _ _)) (.inr fun seat' c up => ?_)
    show ((((m.table.modifySide seat (·.modifyMonster card turned)).side seat').monster? c).any
      (!·.isFaceDown)) = true
    rw [Table.side_modifySide]
    split
    · rw [monster?_modifyMonster sameCard]
      split
      · rw [Option.any_map]
        exact up
      · exact up
    · exact up
  | link ok added => exact .link active ok added
  | pass passed => exact .pass passed
  | resolve resolved => exact .resolve resolved

/-- Handing the turn over changes where cards are, whatever happens around it. -/
theorem calm_turn {ended : Match} (h : m.table.Placed []) (before : Motions setup m ended)
    (after : Motions setup (ended.handOver seat seat.other) m') : Calm m m' := by
  have begun : Calm m (ended.handOver seat seat.other) :=
    (before.calm h).trans (calm_handOver seat seat.other ended)
  exact begun.trans (after.calm (h.rearranged begun.table))

theorem Action.stages (action : Action setup seat move m ids m') (h : m.table.Placed [])
    (active : m.table.isActive) : Stages setup m ids m' := by
  cases action with
  | none => exact .refl m
  | response response => exact .single (response.stage active)
  | motions noChain motions => exact (motions.calm h).stages noChain
  | set sets ok onTurn hidden => exact (calm_played h ok (by rw [hidden]; rfl)).stages ok.noChain
  | turn ends onTurn noChain before after => exact (calm_turn h before after).stages noChain

theorem Ending.stages (ending : Ending seat move m m') : Stages setup m [] m' := by
  cases ending with
  | lost _ => exact .single (.finish _ _ m)
  | deckOut _ _ _ => exact .single (.finish _ _ m)
  | surrender _ => exact .single (.finish _ _ m)

/-- An action leaves the match active, whatever becomes of it then. -/
theorem Action.isActive (action : Action setup seat move m ids m') (h : m.table.Placed []) :
    m'.table.isActive = m.table.isActive := by
  cases action with
  | none => rfl
  | response response =>
    cases response with
    | turn _ _ _ _ => rfl
    | link _ _ => exact Table.isActive_congr (status_liftCard m.table)
    | pass _ => rfl
    | resolve resolved =>
      obtain ⟨-, -, -, rfl⟩ := Chain.resolve_ok resolved
      exact Table.isActive_congr (Chain.status_settleLinks m.chain.links.reverse m.toScene)
  | motions _ motions => exact Table.isActive_congr (motions.calm h).status
  | set sets ok onTurn hidden =>
    exact Table.isActive_congr (calm_played h ok (by rw [hidden]; rfl)).status
  | turn _ _ _ before after => exact Table.isActive_congr (calm_turn h before after).status

/-! ## The end of a match -/

theorem settleLife_of_undecided (h : loser? m.table = none) : m.settleLife = m := by
  unfold settleLife
  rw [h]
  split <;> rfl

theorem isActive_finish (winner : Seat) (reason : WinReason) (m : Match) :
    (m.finish winner reason).table.isActive = false := by
  obtain ⟨sides, rng, chained, cleared⟩ :=
    m.chain.cleared_frame { m.table with status := .finished winner reason }
  show (m.chain.cleared _).isActive = false
  rw [cleared]
  rfl

theorem Ending.isActive (ending : Ending seat move m m') : m'.table.isActive = false := by
  cases ending with
  | lost _ => exact isActive_finish _ _ m
  | deckOut _ _ _ => exact isActive_finish _ _ m
  | surrender _ => exact isActive_finish _ _ m

/-- After it is checked whether a player has lost, the match is as it was and nobody has, or it
has ended. -/
theorem settleLife_ending (seat : Seat) (move : Move) (active : m.table.isActive) :
    m.settleLife = m ∧ loser? m.table = none ∨ Ending seat move m m.settleLife := by
  cases lost : loser? m.table with
  | none => exact .inl ⟨settleLife_of_undecided lost, rfl⟩
  | some loser =>
    have ended : m.settleLife = m.finish loser.other .lifePoints := by
      unfold settleLife
      rw [if_pos active, lost]
    rw [ended]
    exact .inr (.lost lost)

theorem settleLife_of_finished (ended : m.table.isActive = false) : m.settleLife = m := by
  unfold settleLife
  rw [ended]
  rfl

theorem active_settleLife (active : m.settleLife.table.isActive) :
    m.settleLife = m ∧ m.table.isActive := by
  cases before : m.table.isActive with
  | false =>
    rw [settleLife_of_finished before, before] at active
    cases active
  | true =>
    rcases settleLife_ending .host .surrender before with ⟨same, -⟩ | ending
    · exact ⟨same, rfl⟩
    · rw [ending.isActive] at active
      cases active

/-! ## The end of a turn -/

theorem motion_fire (setup : Setup) {card : CardRef} (seat : Seat) (timing : Timing)
    (h : m.table.Placed []) (shown : ¬ m.table.Hides card) :
    Motion setup m (m.act (fire setup card seat timing)).2 :=
  .effects (fire_open seat timing h shown)

theorem shown_of_isFaceUp {s : Scene} {card : CardRef} (h : s.table.Placed [])
    (up : isFaceUp s seat card) : ¬ s.table.Hides card := by
  obtain ⟨monster, there, faceUp⟩ := (Option.any_eq_true _ _).1 up
  have same : monster.card = card := by simpa using List.find?_some there
  exact same ▸ h.shown_of_faceUp (List.mem_of_find?_eq_some there) (by simpa using faceUp)

theorem motion_fireForBoard (seat : Seat) (timing : Timing) (h : m.table.Placed []) :
    Motion setup m (m.act (fireForBoard setup seat timing)).2 := by
  have each (card : CardRef) (s : Scene) (steps : OpenSteps setup m.toScene s) :
      OpenSteps setup s (fireIfFaceUp setup seat timing card s).2 := by
    have placed := steps.placed h
    unfold fireIfFaceUp
    split
    · next up => exact fire_open seat timing placed (shown_of_isFaceUp placed up)
    · exact .refl
  have fired : OpenSteps setup m.toScene (fireForBoard setup seat timing m.toScene).2 :=
    each_open each _
  exact .effects fired

/-- A monster that was played face-up is not hidden. -/
theorem shown_summoned {card : CardRef} {printed : Card} {tributes : List CardRef}
    {stance : Stance} (h : (m.summoned setup seat card printed tributes stance).table.Placed []) :
    ¬ (m.summoned setup seat card printed tributes stance).table.Hides card := by
  let arrived := arrival setup card printed stance m.table.turn
  have there :
      arrived ∈ ((m.summoned setup seat card printed tributes stance).side seat).board := by
    show arrived ∈ ((Table.modifySide _ seat (playMonster card arrived)).side seat).board
    rw [Table.side_modifySide_self]
    exact List.mem_append_right _ (List.mem_singleton_self arrived)
  exact h.shown_of_faceUp there rfl

/-- A monster that was flipped is not hidden. -/
theorem shown_flipped {card : CardRef} {printed : Card} {stance : Stance}
    (there : card ∈ (m.side seat).cardsIn .board)
    (h : (m.flipped seat card printed stance).table.Placed []) :
    ¬ (m.flipped seat card printed stance).table.Hides card := by
  suffices up : isFaceUp (m.flipped seat card printed stance).toScene seat card from
    shown_of_isFaceUp h up
  obtain ⟨monster, onBoard, same⟩ := List.mem_map.1 there
  obtain ⟨first, found⟩ : ∃ first, (m.side seat).monster? card = some first :=
    Option.isSome_iff_exists.1 (List.find?_isSome.2 ⟨monster, onBoard, by simp [same]⟩)
  let turned (monster : Monster) : Monster :=
    { monster with facing := .up, stance := stance, hasMoved := true }
  have sameCard (monster : Monster) : (turned monster).card = monster.card := rfl
  show (((m.table.modifySide seat (·.modifyMonster card turned)).side seat).monster? card).any
    (!·.isFaceDown) = true
  rw [Table.side_modifySide_self, monster?_modifyMonster sameCard, if_pos rfl]
  show (((m.side seat).monster? card).map turned).any (!·.isFaceDown) = true
  rw [found]
  rfl

theorem atEndPhase_motions (setup : Setup) (seat : Seat) (m : Match) :
    Motions setup m (m.atEndPhase seat) := by
  unfold atEndPhase
  split
  · exact .refl
  · exact .single (.enter seat .finish fun _ => rfl)

/-- After the End Phase it is checked whether a player has lost. -/
theorem endPhase_motions (setup : Setup) (seat : Seat) (h : m.table.Placed []) :
    ∃ others, Motions setup m others ∧ (m.endPhase setup seat).2 = others.settleLife := by
  let there := m.atEndPhase seat
  let own := (there.act (fireForBoard setup seat .onEnd)).2
  have arriving : Motions setup m there := atEndPhase_motions setup seat m
  have placed : there.table.Placed [] := h.rearranged (arriving.calm h).table
  have firing : Motion setup there own := motion_fireForBoard seat .onEnd placed
  have placed : own.table.Placed [] := placed.rearranged (firing.calm placed).table
  exact ⟨_, (arriving.tail firing).tail (motion_fireForBoard seat.other .onEnd placed), rfl⟩

/-- The match goes on if there is a card to draw. -/
theorem drawPhase_of_active {next : Seat} (going : (m.drawPhase next).2.table.isActive) :
    (m.side next).deck ≠ [] ∧
      m.drawPhase next = (((draw next 1 m.toScene).2.side next).hand.length -
        (m.side next).hand.length, (m.act (draw next 1)).2.enterPhase next .main1) := by
  unfold drawPhase at going ⊢
  split at going
  · rw [isActive_finish] at going
    cases going
  · next more =>
    rw [if_neg more]
    exact ⟨fun none => more (List.isEmpty_iff.2 none), rfl⟩

/-- The next turn begins, or its player has no card to draw. -/
theorem nextTurn_motions (setup : Setup) (seat : Seat) (m : Match) :
    ∃ ended moved, Motions setup m ended ∧ Motions setup (ended.handOver seat seat.other) moved ∧
      (m.nextTurn setup seat = moved ∨
        moved.table.phase = .draw ∧ (moved.side moved.table.current).deck = [] ∧
          m.nextTurn setup seat = moved.finish moved.table.current.other .deckOut) := by
  let ended := (m.enforceHandLimit setup seat).2
  let begun := ended.handOver seat seat.other
  have draws : m.nextTurn setup seat = (begun.drawPhase seat.other).2 := rfl
  refine ⟨ended, ?_⟩
  unfold drawPhase at draws
  split at draws
  · next none =>
    exact ⟨begun, .single (.trim seat), .refl, .inr ⟨rfl, List.isEmpty_iff.1 none, draws⟩⟩
  · have drawn : Motion setup begun (begun.act (draw seat.other 1)).2 :=
      .effects (draw_acts seat.other 1 begun.toScene).openSteps
    have main : Motion setup (begun.act (draw seat.other 1)).2 _ :=
      .enter seat.other .main1 fun _ => rfl
    exact ⟨_, .single (.trim seat), .tail (.single drawn) main, .inl draws⟩

theorem endTurn_action {report : TurnReport} (h : m.table.Placed []) (active : m.table.isActive)
    (onTurn : m.table.current = seat) (hmade : m.endTurn setup seat = .ok (report, made)) :
    ∃ moved, Action setup seat .endTurn m [] moved ∧
      (made = moved ∨ Ending seat .endTurn moved made) := by
  obtain ⟨noChain, -, rfl⟩ := endTurn_ok hmade
  obtain ⟨others, ending, settled⟩ := endPhase_motions setup seat h
  have going : others.table.isActive :=
    (Table.isActive_congr (ending.calm h).status).trans active
  rw [settled]
  rcases settleLife_ending seat .endTurn going with ⟨same, -⟩ | lost
  · rw [same, if_pos going]
    obtain ⟨ended, moved, trimming, beginning, draws⟩ := nextTurn_motions setup seat others
    have whole : Motions setup m ended := ending.trans trimming
    refine ⟨moved, .turn rfl onTurn noChain whole beginning, ?_⟩
    rcases draws with drawn | ⟨draw, empty, out⟩
    · exact .inl drawn
    · rw [out]
      have links : moved.chain.links = [] := by rw [(calm_turn h whole beginning).chain, noChain]
      exact .inr (.deckOut links draw empty)
  · have ended : ¬ others.settleLife.table.isActive := by
      rw [lost.isActive]
      exact Bool.false_ne_true
    rw [if_neg ended]
    exact ⟨others, .motions noChain ending, .inr lost⟩

/-! ## Moves -/

/-- From a phase in which the players may do something a player moves on to another such phase. -/
theorem playable_following {phase entered : Phase} (follows : following phase = .ok entered)
    (playable : phase.isPlayable) : entered.isPlayable := by
  cases phase <;> cases follows <;> first | rfl | cases playable

/-- A move that was made is an action, which may have ended the match already. -/
theorem make_action {report : MoveReport} (h : m.table.Placed []) (active : m.table.isActive)
    (onTurn : move.needsTurn = false ∨ m.table.current = seat)
    (hmade : m.make setup seat move = .ok (report, made)) :
    ∃ moved, Action setup seat move m report.ids moved ∧
      (made = moved ∨ Ending seat move moved made) := by
  cases move with
  | normalSummon card tributes stance =>
    obtain ⟨_, hmove, rfl⟩ := reported_eq_ok.1 hmade
    obtain ⟨printed, ok, -, rfl⟩ := normalSummon_ok hmove
    have summoned : Motion setup m (m.summoned setup seat card printed tributes stance) :=
      .summon ok (onTurn.resolve_left nofun) stance
    have placed := h.rearranged (summoned.calm h).table
    have firing := motion_fire setup seat .onSummon placed (shown_summoned placed)
    exact ⟨_, .motions ok.noChain (.tail (.single summoned) firing), .inl rfl⟩
  | setMonster card tributes =>
    obtain ⟨_, hmove, rfl⟩ := reported_eq_ok.1 hmade
    obtain ⟨printed, monster, ok, hidden, rfl⟩ := setMonster_ok hmove
    exact ⟨_, .set rfl ok (onTurn.resolve_left nofun) hidden, .inl rfl⟩
  | flipSummon card stance =>
    obtain ⟨_, hmove, rfl⟩ := reported_eq_ok.1 hmade
    obtain ⟨printed, noChain, there, -, -, rfl⟩ := flipSummon_ok hmove
    have flipped : Motion setup m (m.flipped seat card printed stance) := .flip there _ _
    have placed := h.rearranged (flipped.calm h).table
    have firing := motion_fire setup seat .onFlip placed (shown_flipped there placed)
    exact ⟨_, .motions noChain (.tail (.single flipped) firing), .inl rfl⟩
  | changePosition card =>
    obtain ⟨_, hmove, rfl⟩ := reported_eq_ok.1 hmade
    obtain ⟨printed, monster, there, faceUp, rfl⟩ := changePosition_ok hmove
    exact ⟨_, .response (.turn there faceUp printed.name _), .inl rfl⟩
  | setSpellTrap card =>
    obtain ⟨_, hmove, rfl⟩ := reported_eq_ok.1 hmade
    obtain ⟨printed, ok, rfl⟩ := setSpellTrap_ok hmove
    exact ⟨_, .motions ok.noChain (.single (.lay ok)), .inl rfl⟩
  | activateSpell card targets =>
    obtain ⟨_, hmove, rfl⟩ := reported_eq_ok.1 hmade
    obtain ⟨printed, zone, ok, heq⟩ := activateSpell_ok hmove
    exact ⟨_, .motions ok.noChain (.single (.activate ok targets)), .inl (congrArg Prod.snd heq)⟩
  | activateTrap card targets =>
    obtain ⟨_, hmove, rfl⟩ := reported_eq_ok.1 hmade
    obtain ⟨printed, ok, heq⟩ := activateTrap_ok hmove
    exact ⟨_, .motions ok.noChain (.single (.activate ok targets)), .inl (congrArg Prod.snd heq)⟩
  | addToChain card targets =>
    obtain ⟨_, hmove, rfl⟩ := reported_eq_ok.1 hmade
    obtain ⟨printed, zone, effect, chain, ok, added, rfl⟩ := addToChain_ok hmove
    exact ⟨_, .response (.link ok added), .inl rfl⟩
  | passPriority =>
    obtain ⟨_, hmove, rfl⟩ := reported_eq_ok.1 hmade
    obtain ⟨chain, passed, rfl⟩ := passPriority_ok hmove
    exact ⟨_, .response (.pass passed), .inl rfl⟩
  | resolveChain =>
    obtain ⟨_, hmove, rfl⟩ := reported_eq_ok.1 hmade
    exact ⟨_, .response (.resolve (resolveChain_ok hmove)), .inl rfl⟩
  | advancePhase =>
    obtain ⟨_, hmove, rfl⟩ := reported_eq_ok.1 hmade
    obtain ⟨entered, noChain, follows, -, rfl⟩ := advancePhase_ok hmove
    have arriving : Motions setup m (m.enterPhase seat entered) :=
      .single (.enter _ _ (playable_following follows))
    refine ⟨_, .motions noChain ?_, .inl rfl⟩
    split
    · exact arriving.tail
        (motion_fireForBoard seat .onBattleStart (h.rearranged (arriving.calm h).table))
    · exact arriving
  | endTurn =>
    obtain ⟨_, hmove, rfl⟩ := reported_eq_ok.1 hmade
    exact endTurn_action h active (onTurn.resolve_left nofun) hmove
  | surrender =>
    cases pure_eq_ok.1 hmade
    exact ⟨m, .none, .inr (.surrender rfl)⟩

/-- A move that was played is an action.  Then nobody has lost, or the match ends. -/
theorem play_action {user : User} {report : MoveReport} (h : m.table.Placed [])
    (played : m.play setup user move = .ok (report, after)) :
    ∃ seat moved, m.seatOf? user = some seat ∧ m.table.isActive ∧
      Action setup seat move m report.ids moved ∧
      (after = moved ∧ loser? moved.table = none ∨ Ending seat move moved after) := by
  obtain ⟨seat, made, hseat, active, onTurn, hmade, rfl⟩ := play_ok played
  obtain ⟨moved, action, result⟩ := make_action h active onTurn hmade
  refine ⟨seat, moved, hseat, active, action, ?_⟩
  rcases result with rfl | ending
  · exact settleLife_ending seat move ((action.isActive h).trans active)
  · rw [settleLife_of_finished ending.isActive]
    exact .inr ending

/-- A move that was played goes through stages. -/
theorem play_stages {user : User} {report : MoveReport} (h : m.table.Placed [])
    (played : m.play setup user move = .ok (report, after)) :
    Stages setup m report.ids after := by
  obtain ⟨_, moved, -, active, action, ⟨rfl, -⟩ | ending⟩ := play_action h played
  · exact action.stages h active
  · exact (action.stages h active).then ending.stages

end Match

end CardDuel
