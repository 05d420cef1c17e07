import CardDuel.Proofs.Beats

/-!
# Effects that work once per turn

A once-per-turn effect is marked as used only after it has worked, and whatever it sets off
runs before that.  So a card whose once-per-turn effects set each other off may succeed more
than once in a turn, but in no other way: its successes in a turn run one inside the other.

* `Execution.successes`: the executions of a card's once-per-turn effects that succeed, at any
  depth, the outermost first.
* `SpentOnce`: what holds of any stretch of play without a rest in between.
  `spentOnce_of_course` shows it for effects, by induction on what they set off.
* `Season`: stretches of play with rests in between.  `Match.make_season` shows that every move
  is one.
* `Arena.successes_nested`: over all calls that an arena may serve, the successes of a card in
  a turn are nested, and there are several exactly if one runs inside another.
-/

namespace CardDuel

open Resolution

namespace Execution

/-- A once-per-turn effect of the card succeeds. -/
def spends (card : CardRef) (e : Execution) : Bool :=
  e.request.effect.oncePerTurn && e.request.source == some card && e.outcome.success

/-- The successes of once-per-turn effects of a card, at any depth. -/
def successes (card : CardRef) (es : List Execution) : List Execution :=
  (flat es).filter (·.spends card)

variable {card : CardRef} {e : Execution} {es es' : List Execution}

theorem successes_nil : successes card [] = [] := by
  rw [successes, flat_nil, List.filter_nil]

theorem successes_append :
    successes card (es ++ es') = successes card es ++ successes card es' := by
  rw [successes, flat_append, List.filter_append]
  rfl

theorem successes_of_spends (h : e.spends card) :
    successes card [e] = e :: successes card e.inside := by
  rw [successes, flat_cons, flat_nil, List.append_nil, List.filter_cons_of_pos h]
  rfl

theorem successes_of_not_spends (h : ¬ e.spends card) :
    successes card [e] = successes card e.inside := by
  rw [successes, flat_cons, flat_nil, List.append_nil, List.filter_cons_of_neg h]
  rfl

mutual

theorem tree_sublist : ∀ {root : Execution}, e ∈ root.tree →
    (e :: flat e.inside).Sublist root.tree
  | ⟨request, outcome, inside⟩, h => by
    rw [tree] at h ⊢
    rcases List.mem_cons.1 h with rfl | h
    · exact .refl _
    · exact (flat_sublist h).cons _

/-- What runs inside an execution comes after it in the list of all. -/
theorem flat_sublist : ∀ {es : List Execution}, e ∈ flat es →
    (e :: flat e.inside).Sublist (flat es)
  | [], h => absurd h List.not_mem_nil
  | root :: rest, h => by
    rw [flat] at h ⊢
    rcases List.mem_append.1 h with h | h
    · exact (tree_sublist h).trans (List.sublist_append_left _ _)
    · exact (flat_sublist h).trans (List.sublist_append_right _ _)

end

theorem successes_sublist (h : e ∈ successes card es) :
    (e :: successes card e.inside).Sublist (successes card es) := by
  obtain ⟨hmem, spends⟩ := List.mem_filter.1 h
  have all := (flat_sublist hmem).filter (Execution.spends card)
  rwa [List.filter_cons_of_pos spends] at all

end Execution

open Execution

/-! ## Effects -/

/-- A stretch of play without a rest.  Once a card is marked, its once-per-turn effects fail.
When they have succeeded, the card is marked, and the successes run one inside the other. -/
structure SpentOnce (card : CardRef) (s : Scene) (es : List Execution) (s' : Scene) : Prop where
  grows : card ∈ s.table.used → card ∈ s'.table.used
  spent : card ∈ s.table.used → successes card es = []
  marks : successes card es ≠ [] → card ∈ s'.table.used
  nested : (successes card es).Pairwise fun e e' => e' ∈ flat e.inside

variable {setup : Setup} {card : CardRef} {s s' s'' : Scene} {es es' : List Execution}

/-- Nothing succeeds. -/
theorem SpentOnce.of_none (none : successes card es = [])
    (grows : card ∈ s.table.used → card ∈ s'.table.used) : SpentOnce card s es s' := by
  refine ⟨grows, fun _ => none, fun h => absurd none h, ?_⟩
  rw [none]
  exact .nil

/-- Nothing is carried out. -/
theorem SpentOnce.quiet (grows : card ∈ s.table.used → card ∈ s'.table.used) :
    SpentOnce card s [] s' :=
  .of_none successes_nil grows

theorem SpentOnce.nested_append (h : SpentOnce card s es s')
    (spent : card ∈ s'.table.used → successes card es' = [])
    (nested : (successes card es').Pairwise fun e e' => e' ∈ flat e.inside) :
    (successes card (es ++ es')).Pairwise fun e e' => e' ∈ flat e.inside := by
  rw [successes_append]
  by_cases first : successes card es = []
  · rw [first, List.nil_append]
    exact nested
  · rw [spent (h.marks first), List.append_nil]
    exact h.nested

theorem SpentOnce.trans (h : SpentOnce card s es s') (h' : SpentOnce card s' es' s'') :
    SpentOnce card s (es ++ es') s'' := by
  refine ⟨h'.grows ∘ h.grows, fun used => ?_, fun some => ?_, h.nested_append h'.spent h'.nested⟩
  · rw [successes_append, h.spent used, h'.spent (h.grows used), List.append_nil]
  · rw [successes_append] at some
    by_cases first : successes card es = []
    · rw [first, List.nil_append] at some
      exact h'.marks some
    · exact h'.grows (h.marks first)

/-- An effect of a card that is marked is refused. -/
theorem not_used_of_allowed {r : Request} {t : Table} (allowed : fault? setup r t = none)
    (once : r.effect.oncePerTurn) (source : r.source = some card) : card ∉ t.used := by
  intro used
  unfold fault? at allowed
  rw [Option.or_eq_none_iff, source] at allowed
  have free := allowed.1
  simp only [Option.bind_some] at free
  split at free
  · cases free
  · simp [once, used] at free

theorem used_markUsed (r : Request) (s : Scene) (h : card ∈ s.table.used) :
    card ∈ (markUsed r s).table.used := by
  unfold markUsed
  split
  · split
    · exact CardSet.mem_insert.2 (.inr h)
    · exact h
  · exact h

theorem markUsed_source {r : Request} (once : r.effect.oncePerTurn) (source : r.source = some card)
    (s : Scene) : card ∈ (markUsed r s).table.used := by
  unfold markUsed
  rw [source]
  simp only [once, if_true]
  exact CardSet.mem_insert.2 (.inl rfl)

theorem SpentOnce.carried {r : Request} {outcome : Outcome} (h : SpentOnce card s es s')
    (allowed : fault? setup r s.table = none) :
    SpentOnce card s [⟨r, outcome, es⟩] (if outcome.success then markUsed r s' else s') := by
  have grows (used : card ∈ s'.table.used) :
      card ∈ (if outcome.success then markUsed r s' else s').table.used := by
    split
    · exact used_markUsed r s' used
    · exact used
  by_cases spends : Execution.spends card ⟨r, outcome, es⟩
  · have all := successes_of_spends spends
    simp only [Execution.spends, Bool.and_eq_true, beq_iff_eq] at spends
    obtain ⟨⟨once, source⟩, success⟩ := spends
    have free := not_used_of_allowed allowed once source
    refine ⟨fun used => absurd used free, fun used => absurd used free, fun _ => ?_, ?_⟩
    · rw [if_pos success]
      exact markUsed_source once source s'
    · rw [all]
      refine List.pairwise_cons.2 ⟨fun e he => ?_, h.nested⟩
      exact (List.mem_filter.1 he).1
  · have all := successes_of_not_spends spends
    refine ⟨grows ∘ h.grows, ?_, ?_, ?_⟩ <;> rw [all]
    · exact h.spent
    · exact grows ∘ h.marks
    · exact h.nested

theorem spentOnce_of_course (h : Course setup s es s') : SpentOnce card s es s' := by
  induction h with
  | done s => exact .quiet id
  | step step => exact .quiet (step.affected.table.used card)
  | @refused r s fault refusal =>
    have fails : ¬ Execution.spends card ⟨r, .failed fault, []⟩ := by
      simp [Execution.spends, Outcome.failed]
    exact .of_none ((successes_of_not_spends fails).trans successes_nil) id
  | carried allowed _ ih => exact ih.carried allowed
  | trans _ _ ih ih' => exact ih.trans ih'

theorem spentOnce_each {α β : Type} {act : α → Scene → β × Scene}
    {trace : α → Scene → List Execution}
    (h : ∀ x s, SpentOnce card s (trace x s) (act x s).2) (xs : List α) (s : Scene) :
    SpentOnce card s (traceEach act trace xs s) (s.each act xs).2 := by
  induction xs generalizing s with
  | nil => exact .quiet id
  | cons x xs ih =>
    rw [Scene.each_cons]
    exact (h x s).trans (ih (act x s).2)

/-! ## Moves -/

namespace Chain

theorem spentOnce_settleLink (link : Link) (s : Scene) :
    SpentOnce card s (linkTrace setup link s) (settleLink setup link s).2 := by
  have ran : SpentOnce card s (linkTrace setup link s) (runLink setup link s).2 := by
    unfold linkTrace runLink
    split
    · exact .quiet id
    · exact spentOnce_of_course (run_course _ s)
  rw [← List.append_nil (linkTrace setup link s)]
  refine ran.trans (.quiet fun used => ?_)
  show card ∈ (spend setup link.card (runLink setup link s).2).table.used
  rwa [(marks_spend setup _ _).1]

end Chain

/-! ## Turns -/

/-- Stretches of play with rests in between.  Nothing is said of what happens around a rest. -/
inductive Season (card : CardRef) : Scene → List Beat → Scene → Prop where
  | done (s : Scene) : Season card s [] s
  | stretch {s s' s'' : Scene} {es : List Execution} {beats : List Beat}
      (once : SpentOnce card s es s') (more : Season card s' beats s'') :
      Season card s (es.map .carried ++ beats) s''
  | rest {s s' s'' : Scene} {beats : List Beat} (more : Season card s' beats s'') :
      Season card s (.rest :: beats) s''

namespace Season

variable {beats beats' : List Beat}

theorem of_spentOnce (h : SpentOnce card s es s') : Season card s (es.map .carried) s' := by
  have whole : Season card s (es.map .carried ++ []) s' := .stretch h (.done s')
  rwa [List.append_nil] at whole

theorem quiet (grows : card ∈ s.table.used → card ∈ s'.table.used) : Season card s [] s' :=
  of_spentOnce (.quiet grows)

theorem trans (h : Season card s beats s') (h' : Season card s' beats' s'') :
    Season card s (beats ++ beats') s'' := by
  induction h with
  | done s => exact h'
  | stretch once _ ih =>
    rw [List.append_assoc]
    exact .stretch once (ih h')
  | rest _ ih => exact .rest (ih h')

/-- In every turn the successes of the card run one inside the other. -/
theorem nested (h : Season card s beats s') :
    (card ∈ s.table.used → successes card (turnOf 0 beats) = []) ∧
      ∀ k, (successes card (turnOf k beats)).Pairwise fun e e' => e' ∈ flat e.inside := by
  induction h with
  | done s =>
    have none (k : Nat) : successes card (turnOf k []) = [] := by
      cases k <;> exact successes_nil
    refine ⟨fun _ => none 0, fun k => ?_⟩
    rw [none]
    exact .nil
  | stretch once _ ih =>
    refine ⟨fun used => ?_, fun k => ?_⟩
    · rw [turnOf_zero_append, successes_append, once.spent used, ih.1 (once.grows used)]
      rfl
    · cases k with
      | zero =>
        rw [turnOf_zero_append]
        exact once.nested_append ih.1 (ih.2 0)
      | succ k =>
        rw [turnOf_succ_append]
        exact ih.2 (k + 1)
  | rest _ ih =>
    refine ⟨fun _ => successes_nil, fun k => ?_⟩
    cases k with
    | zero =>
      rw [turnOf, successes_nil]
      exact .nil
    | succ k => exact ih.2 k

end Season

namespace Match

variable {m after : Match} {seat : Seat}

theorem spentOnce_fireForBoard (seat : Seat) (timing : Timing) (s : Scene) :
    SpentOnce card s (boardTrace setup seat timing s) (fireForBoard setup seat timing s).2 := by
  have each (c : CardRef) (s : Scene) :
      SpentOnce card s (if isFaceUp s seat c then fireTrace setup c seat timing s else [])
        (fireIfFaceUp setup seat timing c s).2 := by
    unfold fireIfFaceUp
    split
    · exact spentOnce_of_course (fire_course c seat timing s)
    · exact .quiet id
  exact spentOnce_each each _ s

theorem spentOnce_endPhase (seat : Seat) (m : Match) :
    SpentOnce card m.toScene (m.endPhaseTrace setup seat) (m.endPhase setup seat).2.toScene := by
  let there := m.atEndPhase seat
  let own := (there.act (fireForBoard setup seat .onEnd)).2
  let others := (own.act (fireForBoard setup seat.other .onEnd)).2
  have arriving : SpentOnce card m.toScene [] there.toScene := by
    refine .quiet fun used => ?_
    show card ∈ (m.atEndPhase seat).table.used
    unfold atEndPhase
    split
    · exact used
    · exact used
  have first : SpentOnce card there.toScene (boardTrace setup seat .onEnd there.toScene)
      own.toScene := spentOnce_fireForBoard seat .onEnd there.toScene
  have second : SpentOnce card own.toScene (boardTrace setup seat.other .onEnd own.toScene)
      others.toScene := spentOnce_fireForBoard seat.other .onEnd own.toScene
  have settled : SpentOnce card others.toScene [] others.settleLife.toScene :=
    .quiet fun used => by rwa [(marks_settleLife _).1]
  have whole := arriving.trans ((first.trans second).trans settled)
  rwa [List.append_nil] at whole

theorem spentOnce_activate {c : CardRef} {zone : Zone} {printed : Card}
    {targets : List CardRef} (ok : Activatable setup m seat c zone printed) :
    SpentOnce card m.toScene (m.activateTrace setup seat c targets)
      (m.activate setup seat c zone printed targets).2.toScene := by
  let lifted := m.lifted seat c zone printed
  let ran := (runAbility setup c seat targets lifted.toScene).2
  have lifting : SpentOnce card m.toScene [] lifted.toScene := .quiet id
  have running : SpentOnce card lifted.toScene
      (runAbilityTrace setup c seat targets lifted.toScene) ran :=
    spentOnce_of_course (runAbility_course c seat targets lifted.toScene)
  have putting : SpentOnce card ran []
      (m.activate setup seat c zone printed targets).2.toScene := by
    obtain ⟨sides, rng, put⟩ := ran.table.placeInPile_frame c .graveyard .top
    refine .quiet fun used => ?_
    show card ∈ (ran.table.placeInPile c .graveyard .top).used
    rw [put]
    exact used
  have whole := lifting.trans (running.trans putting)
  rw [activateTrace_eq ok]
  rwa [List.append_nil] at whole

/-- What a move does with once-per-turn effects. -/
theorem make_season {move : Move} {report : MoveReport}
    (made : m.make setup seat move = .ok (report, after)) :
    Season card m.toScene (m.beats setup seat move) after.toScene := by
  cases move with
  | normalSummon c tributes stance =>
    obtain ⟨_, hmove, -⟩ := reported_eq_ok.1 made
    obtain ⟨printed, ok, -, rfl⟩ := normalSummon_ok hmove
    simp only [beats, ok.known]
    have paid : SpentOnce card m.toScene []
        (m.summoned setup seat c printed tributes stance).toScene :=
      .quiet ((affected_payTributes tributes m.toScene).table.used card)
    exact .of_spentOnce (paid.trans (spentOnce_of_course (fire_course c seat .onSummon _)))
  | setMonster c tributes =>
    obtain ⟨_, hmove, -⟩ := reported_eq_ok.1 made
    obtain ⟨printed, monster, -, -, rfl⟩ := setMonster_ok hmove
    exact .quiet ((affected_payTributes tributes m.toScene).table.used card)
  | flipSummon c stance =>
    obtain ⟨_, hmove, -⟩ := reported_eq_ok.1 made
    obtain ⟨printed, -, -, known, -, rfl⟩ := flipSummon_ok hmove
    simp only [beats, known]
    have flipped : SpentOnce card m.toScene [] (m.flipped seat c printed stance).toScene :=
      .quiet id
    exact .of_spentOnce (flipped.trans (spentOnce_of_course (fire_course c seat .onFlip _)))
  | changePosition c =>
    obtain ⟨_, hmove, -⟩ := reported_eq_ok.1 made
    obtain ⟨printed, monster, -, -, rfl⟩ := changePosition_ok hmove
    exact .quiet id
  | setSpellTrap c =>
    obtain ⟨_, hmove, -⟩ := reported_eq_ok.1 made
    obtain ⟨printed, -, rfl⟩ := setSpellTrap_ok hmove
    exact .quiet id
  | activateSpell c targets =>
    obtain ⟨_, hmove, -⟩ := reported_eq_ok.1 made
    obtain ⟨printed, zone, ok, heq⟩ := activateSpell_ok hmove
    have hafter : after = _ := congrArg Prod.snd heq
    rw [hafter]
    exact .of_spentOnce (spentOnce_activate ok)
  | activateTrap c targets =>
    obtain ⟨_, hmove, -⟩ := reported_eq_ok.1 made
    obtain ⟨printed, ok, heq⟩ := activateTrap_ok hmove
    have hafter : after = _ := congrArg Prod.snd heq
    rw [hafter]
    exact .of_spentOnce (spentOnce_activate ok)
  | addToChain c targets =>
    obtain ⟨_, hmove, -⟩ := reported_eq_ok.1 made
    obtain ⟨printed, zone, effect, chain, -, -, rfl⟩ := addToChain_ok hmove
    refine .quiet fun used => ?_
    show card ∈ (liftCard seat c zone m.table).used
    unfold liftCard
    split
    · exact used
    · exact used
  | passPriority =>
    obtain ⟨_, hmove, -⟩ := reported_eq_ok.1 made
    obtain ⟨chain, -, rfl⟩ := passPriority_ok hmove
    exact .quiet id
  | resolveChain =>
    obtain ⟨reports, hmove, -⟩ := reported_eq_ok.1 made
    obtain ⟨-, -, -, hafter⟩ := Chain.resolve_ok (resolveChain_ok hmove)
    have settled : SpentOnce card m.toScene (m.chain.resolveTrace setup m.toScene)
        (m.toScene.each (Chain.settleLink setup) m.chain.links.reverse).2 :=
      spentOnce_each Chain.spentOnce_settleLink _ m.toScene
    have recorded : SpentOnce card
        (m.toScene.each (Chain.settleLink setup) m.chain.links.reverse).2 [] after.toScene := by
      refine .quiet fun used => ?_
      rw [hafter]
      exact used
    have whole := settled.trans recorded
    rw [List.append_nil] at whole
    exact .of_spentOnce whole
  | advancePhase =>
    obtain ⟨_, hmove, -⟩ := reported_eq_ok.1 made
    obtain ⟨entered, -, hentered, -, rfl⟩ := advancePhase_ok hmove
    have arriving : SpentOnce card m.toScene [] (m.enterPhase seat entered).toScene := .quiet id
    by_cases battle : entered = .battle
    · subst battle
      simp only [beats, hentered, if_true]
      exact .of_spentOnce (arriving.trans (spentOnce_fireForBoard seat .onBattleStart _))
    · have none : m.beats setup seat .advancePhase = [] := by
        simp only [beats, hentered]
        cases entered <;> first | rfl | exact absurd rfl battle
      rw [none, if_neg battle]
      exact .of_spentOnce arriving
  | endTurn =>
    obtain ⟨_, hmove, -⟩ := reported_eq_ok.1 made
    obtain ⟨-, -, rfl⟩ := endTurn_ok hmove
    have ended : Season card m.toScene ((m.endPhaseTrace setup seat).map .carried)
        (m.endPhase setup seat).2.toScene := .of_spentOnce (spentOnce_endPhase seat m)
    refine ended.trans ?_
    split
    · exact .rest (.done _)
    · exact .done _
  | surrender =>
    cases pure_eq_ok.1 made
    exact .quiet fun used => by rwa [surrender, (marks_finish _ _ _).1]

end Match

theorem Play.season {p : Play} (legal : p.Legal setup) :
    Season card p.before.toScene (p.beats setup) p.after.toScene := by
  obtain ⟨seat, made, hseat, -, -, hmade, hafter⟩ := Match.play_ok legal
  unfold beats
  rw [hseat, hafter]
  have settled : Season card made.toScene [] made.settleLife.toScene :=
    .quiet fun used => by rwa [(Match.marks_settleLife _).1]
  have whole := (Match.make_season hmade).trans settled
  rwa [List.append_nil] at whole

theorem season_of_plays {m m' : Match} {plays : List Play} (h : Plays setup m plays m') :
    Season card m.toScene (plays.flatMap (·.beats setup)) m'.toScene := by
  induction h with
  | done m => exact .done m.toScene
  | next legal _ ih => exact (Play.season legal).trans ih

namespace Arena

theorem exists_season (setup : Setup) (calls : List Call) (lobby : Lobby) (card : CardRef) :
    ∃ s s', Season card s (beats setup calls lobby) s' := by
  obtain ⟨_, _, plays⟩ := exists_plays setup calls lobby
  exact ⟨_, _, season_of_plays plays⟩

/-- In every turn of a match the successes of a card's once-per-turn effects run one inside the
other, the later ones inside the earlier ones.  So there is at most one of them exactly if none
runs inside another. -/
theorem successes_nested (setup : Setup) (calls : List Call) (lobby : Lobby) (card : CardRef)
    (turn : Nat) :
    let all := successes card (turnOf turn (beats setup calls lobby))
    all.Pairwise (fun e e' => e' ∈ flat e.inside) ∧
      (all.length ≤ 1 ↔ ∀ e ∈ all, ∀ e' ∈ flat e.inside, ¬ e'.spends card) := by
  obtain ⟨s, s', season⟩ := exists_season setup calls lobby card
  have nested := season.nested.2 turn
  refine ⟨nested, fun few e he e' he' spends => ?_, fun flatten => ?_⟩
  · have two := (successes_sublist he).length_le
    rw [List.length_cons] at two
    have inside : 0 < (successes card e.inside).length :=
      List.length_pos_of_mem (List.mem_filter.2 ⟨he', spends⟩)
    have few : (successes card (turnOf turn (beats setup calls lobby))).length ≤ 1 := few
    omega
  · cases hall : successes card (turnOf turn (beats setup calls lobby)) with
    | nil => exact Nat.zero_le 1
    | cons e rest =>
      cases rest with
      | nil => exact Nat.le_refl 1
      | cons e' rest =>
        rw [hall] at nested
        have inside := (List.pairwise_cons.1 nested).1 e' List.mem_cons_self
        have first : e ∈ successes card (turnOf turn (beats setup calls lobby)) := by
          rw [hall]
          exact List.mem_cons_self
        have second : e' ∈ successes card (turnOf turn (beats setup calls lobby)) := by
          rw [hall]
          exact List.mem_cons_of_mem _ List.mem_cons_self
        exact absurd (List.mem_filter.1 second).2 (flatten e first e' inside)

/-- The moth destroys itself, and both of its once-per-turn effects work. -/
theorem moth_spends_twice :
    let moves : List (Seat × Move) := [(.host, .normalSummon ⟨0⟩ [] .attack),
      (.host, .addToChain ⟨0⟩ [⟨0⟩]), (.opponent, .passPriority), (.host, .passPriority),
      (.host, .resolveChain)]
    let all := successes ⟨0⟩ (turnOf 0 (beats Sample.setup (Sample.calls Sample.moth moves)
      Sample.lobby))
    all.length = 2 ∧ ∃ e ∈ all, ∃ e' ∈ flat e.inside, e'.spends ⟨0⟩ := by
  intro moves all
  have two : all.length = 2 := by decide +kernel
  have nested := successes_nested Sample.setup (Sample.calls Sample.moth moves) Sample.lobby ⟨0⟩ 0
  refine ⟨two, ?_⟩
  by_contra none
  have one : all.length ≤ 1 :=
    nested.2.2 fun e he e' he' spends => none ⟨e, he, e', he', spends⟩
  omega

end Arena

end CardDuel
