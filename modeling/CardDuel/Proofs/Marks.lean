import CardDuel.Proofs.Beats
import CardDuel.Proofs.Coupling

/-!
# What a move marks

While effects are carried out, cards are marked as used or negated, and the scene is marked when
more room is asked for than there is.  Nothing else touches these marks until the turn ends.

* `Scene.marks`: the marks of a scene.  `marks_mill`, `marks_search` and so on: most effects leave
  them as they are.
* `Execution.overdraws` and `overdrawn`: an execution that asks for more room than there is, and
  whether there is one among some, at any depth.
* `Scene.Marked`: what may be marked on the way from one scene to another.  `marked_perform`,
  `marked_fire`, `marked_run` and so on: effects mark no more than that.
* `Match.marked_make`: neither does a move.  It is overrun exactly if an execution in it asks for
  too much room.
-/

namespace CardDuel

open Resolution

/-! ## Marks -/

/-- The marks of a scene, and the cards that there are. -/
structure Marks where
  copies : CardMap Copy
  nextCard : Nat
  used : CardSet
  negated : CardSet
  overrun : Bool

namespace Scene

variable {s s' : Scene}

def marks (s : Scene) : Marks where
  copies := s.table.copies
  nextCard := s.table.nextCard
  used := s.table.used
  negated := s.table.negated
  overrun := s.overrun

/-- Cards that change places leave the marks as they are. -/
theorem marks_change {f : Table → Table}
    (frame : ∃ sides rng chained,
      f s.table = { s.table with sides := sides, rng := rng, chained := chained }) :
    (s.change f).marks = s.marks := by
  obtain ⟨sides, rng, chained, frame⟩ := frame
  unfold marks change
  dsimp only
  rw [frame]

@[simp] theorem marks_modifySide (s : Scene) (seat : Seat) (change : Side → Side) :
    (s.change (·.modifySide seat change)).marks = s.marks := rfl

theorem marks_moveToPile? {card : CardRef} {pile : Pile} {place : DeckPlace} {zone : Zone}
    {moved : Table} (there : s.table.moveToPile? card pile place = some (zone, moved)) :
    (s.change fun _ => moved).marks = s.marks := by
  obtain ⟨owner, holder, -, -, rfl⟩ := Table.moveToPile?_eq_some.1 there
  rfl

@[simp] theorem marks_moveToPile (s : Scene) (card : CardRef) (pile : Pile) (place : DeckPlace) :
    (s.change (·.moveToPile card pile place)).marks = s.marks := by
  cases there : s.table.moveToPile? card pile place with
  | none =>
    refine marks_change ⟨s.table.sides, s.table.rng, s.table.chained, ?_⟩
    rw [Table.moveToPile, there]
  | some moved =>
    obtain ⟨zone, moved⟩ := moved
    rw [← marks_moveToPile? there]
    simp only [change, Table.moveToPile, there]

@[simp] theorem marks_placeInPile (s : Scene) (card : CardRef) (pile : Pile) (place : DeckPlace) :
    (s.change (·.placeInPile card pile place)).marks = s.marks := by
  obtain ⟨sides, rng, frame⟩ := s.table.placeInPile_frame card pile place
  exact marks_change ⟨sides, rng, s.table.chained, frame⟩

@[simp] theorem marks_modifyMonster (s : Scene) (card : CardRef) (change : Monster → Monster) :
    (s.change (·.modifyMonster card change)).marks = s.marks := by
  refine marks_change ?_
  unfold Table.modifyMonster
  split
  · exact ⟨_, _, _, rfl⟩
  · exact ⟨_, _, _, rfl⟩

/-- If each item leaves the marks as they are, so do all items. -/
theorem marks_each {α β : Type} {act : α → Scene → β × Scene}
    (h : ∀ x s, (act x s).2.marks = s.marks) (xs : List α) (s : Scene) :
    (s.each act xs).2.marks = s.marks := by
  let Kept (s' : Scene) : Prop := s'.marks = s.marks
  have step (x : α) (s' : Scene) (kept : Kept s') : Kept (act x s').2 := (h x s').trans kept
  exact each_keeps step xs (Eq.refl s.marks)

end Scene

namespace Resolution

variable {setup : Setup} {r : Request} {s s' : Scene}

theorem marks_mill (seat : Seat) (count : Nat) (s : Scene) :
    (mill setup seat count s).2.marks = s.marks := by
  have milled (cards : List CardRef) : (s.each (millTop setup seat) cards).2.marks = s.marks :=
    Scene.marks_each (fun card s => Scene.marks_modifySide s seat _) cards s
  unfold mill
  dsimp only
  split
  · rfl
  · split <;> exact milled _

theorem marks_discard (seat : Seat) (count : Nat) (targets : List CardRef) (s : Scene) :
    (discard setup seat count targets s).2.marks = s.marks := by
  have discarded (cards : List CardRef) (rng : Rng) :
      ((s.change ({ · with rng := rng })).each (discardCard setup seat) cards).2.marks = s.marks :=
    Scene.marks_each (fun card s => Scene.marks_moveToPile s card .graveyard .top) cards _
  unfold discard
  dsimp only
  generalize (if targets.isEmpty then s.table.rng.shuffle (s.side seat).hand else _ :
    List CardRef × Rng) = pool
  split
  · rfl
  · split <;> exact discarded _ _

theorem marks_search (r : Request) (s : Scene) : (search setup r s).2.marks = s.marks := by
  have taken (cards : List CardRef) :
      (s.each (takeFromDeck setup r.actor) cards).2.marks = s.marks :=
    Scene.marks_each (fun card s => Scene.marks_moveToPile s card .hand .top) cards s
  unfold search
  dsimp only
  split
  · rfl
  · exact taken _

theorem marks_returnToHand (actor : Seat) (card : CardRef) (s : Scene) :
    (returnToHand setup actor card s).2.marks = s.marks := by
  unfold returnToHand
  split
  · rfl
  · next there => exact Scene.marks_moveToPile? there

theorem marks_toHand (r : Request) (s : Scene) : (toHand setup r s).2.marks = s.marks := by
  have all (cards : List CardRef) : (s.each (returnToHand setup r.actor) cards).2.marks = s.marks :=
    Scene.marks_each (marks_returnToHand r.actor) cards s
  unfold toHand
  dsimp only
  split
  · rfl
  · generalize (if r.effect.source.getD .graveyard = .board then _ else _ : List CardRef) = cards
    split
    · rfl
    · exact all cards

theorem marks_sendToGraveyard (actor : Seat) (card : CardRef) (s : Scene) :
    (sendToGraveyard setup actor card s).2.marks = s.marks := by
  unfold sendToGraveyard
  split
  · rfl
  · next there => exact Scene.marks_moveToPile? there

theorem marks_toGraveyard (r : Request) (s : Scene) :
    (toGraveyard setup r s).2.marks = s.marks := by
  have all (cards : List CardRef) (outcome : Outcome) :
      (if cards.isEmpty then (noTarget, s)
        else (outcome, (s.each (sendToGraveyard setup r.actor) cards).2)).2.marks = s.marks := by
    split
    · rfl
    · exact Scene.marks_each (marks_sendToGraveyard r.actor) cards s
  exact all _ _

theorem marks_returnToDeck (r : Request) (s : Scene) :
    (returnToDeck setup r s).2.marks = s.marks := by
  unfold returnToDeck
  dsimp only
  split
  · rfl
  · split
    · rfl
    · split
      · exact Scene.marks_moveToPile _ _ _ _
      · rfl

theorem marks_banishCard (source : Option Zone) (target : CardRef) (s : Scene) :
    (banishCard setup source target s).2.marks = s.marks := by
  unfold banishCard
  dsimp only
  split
  · rfl
  · split
    · rfl
    · exact Scene.marks_moveToPile _ _ _ _

theorem marks_banish (r : Request) (s : Scene) : (banish setup r s).2.marks = s.marks := by
  unfold banish
  split
  · rfl
  · exact Scene.marks_each (marks_banishCard r.effect.source) _ s

theorem marks_modifyAttack (r : Request) (s : Scene) :
    (modifyAttack setup r s).2.marks = s.marks := by
  unfold modifyAttack
  dsimp only
  split
  · rfl
  · split
    · rfl
    · split
      · rfl
      · exact Scene.marks_modifyMonster _ _ _

theorem marks_destroyed {target : CardRef} {owner : Seat}
    (gone : destroyed setup target s = .ok (owner, s')) : s'.marks = s.marks := by
  unfold destroyed at gone
  dsimp only at gone
  split at gone
  · cases gone
  · split at gone
    · cases gone
    · split at gone
      · cases gone
      · cases gone
        exact Scene.marks_moveToPile _ _ _ _

theorem marks_specialSummoned {card : CardRef} {printed : Card}
    (there : specialSummoned setup r s = .ok (card, printed, s')) : s'.marks = s.marks := by
  obtain ⟨-, -, -, -, _, -, rfl⟩ := specialSummoned_eq_ok.1 there
  rfl

end Resolution

/-! ## Executions that ask for too much room -/

/-- The effect asks for more room than there is. -/
def Request.overdraws (r : Request) : Bool := r.effect.kind == .draw && decide (listRoom < r.count)

/-- Room is asked for only by what is carried out. -/
def Execution.overdraws (e : Execution) : Bool := e.outcome.success && e.request.overdraws

/-- Some execution, at any depth, asks for more room than there is. -/
def overdrawn (es : List Execution) : Bool := (Execution.flat es).any (·.overdraws)

theorem overdrawn_iff {es : List Execution} :
    overdrawn es ↔ ∃ e ∈ Execution.flat es, e.outcome.success ∧ e.request.effect.kind = .draw ∧
      listRoom < e.request.count := by
  simp [overdrawn, Execution.overdraws, Request.overdraws]

@[simp] theorem overdrawn_nil : overdrawn [] = false := rfl

@[simp] theorem overdrawn_append (es es' : List Execution) :
    overdrawn (es ++ es') = (overdrawn es || overdrawn es') := by
  rw [overdrawn, Execution.flat_append, List.any_append]
  rfl

theorem overdrawn_singleton (e : Execution) :
    overdrawn [e] = (e.overdraws || overdrawn e.inside) := by
  rw [overdrawn, Execution.flat_cons, Execution.flat_nil, List.append_nil, List.any_cons]
  rfl

/-! ## What may be marked -/

/-- What may be marked on the way from one scene to another: cards that there are, and the scene if
too much room was asked for. -/
structure Scene.Marked (s : Scene) (beyond : Bool) (s' : Scene) : Prop where
  copies : s'.table.copies = s.table.copies
  nextCard : s'.table.nextCard = s.table.nextCard
  used : ∀ card ∈ s'.table.used, card ∈ s.table.used ∨ s.table.knows card
  negated : ∀ card ∈ s'.table.negated, card ∈ s.table.negated ∨ s.table.knows card
  overrun : s'.overrun = (s.overrun || beyond)

namespace Scene

variable {s s' s'' : Scene} {beyond beyond' : Bool}

theorem marked_of_eq (h : s'.marks = s.marks) : Marked s false s' := by
  obtain ⟨copies, nextCard, used, negated, overrun⟩ := (Marks.mk.injEq ..).mp h
  refine ⟨copies, nextCard, fun card hc => .inl (used ▸ hc), fun card hc => .inl (negated ▸ hc), ?_⟩
  rw [overrun, Bool.or_false]

theorem Marked.refl (s : Scene) : Marked s false s := marked_of_eq rfl

theorem Marked.trans (h : Marked s beyond s') (h' : Marked s' beyond' s'') :
    Marked s (beyond || beyond') s'' := by
  refine ⟨h'.copies.trans h.copies, h'.nextCard.trans h.nextCard, fun card hc => ?_,
    fun card hc => ?_, ?_⟩
  · rcases h'.used card hc with hc | known
    · exact h.used card hc
    · exact .inr (Table.knows_of_copies h.copies card ▸ known)
  · rcases h'.negated card hc with hc | known
    · exact h.negated card hc
    · exact .inr (Table.knows_of_copies h.copies card ▸ known)
  · rw [h'.overrun, h.overrun, Bool.or_assoc]

/-- What is done before, and marks nothing. -/
theorem Marked.after (h : Marked s' beyond s'') (before : s'.marks = s.marks) :
    Marked s beyond s'' := by
  have whole := (marked_of_eq before).trans h
  rwa [Bool.false_or] at whole

/-- What is done then, and marks nothing. -/
theorem Marked.before (h : Marked s beyond s') (after : s''.marks = s'.marks) :
    Marked s beyond s'' := by
  have whole := h.trans (marked_of_eq after)
  rwa [Bool.or_false] at whole

end Scene

namespace Resolution

variable {setup : Setup} {s s' : Scene}

theorem marked_draw (seat : Seat) (count : Nat) (s : Scene) :
    Scene.Marked s (decide (listRoom < count)) (draw seat count s).2 := by
  unfold draw
  dsimp only
  split
  all_goals exact ⟨rfl, rfl, fun _ hc => .inl hc, fun _ hc => .inl hc, rfl⟩

theorem success_draw (seat : Seat) (count : Nat) (s : Scene) :
    (draw seat count s).1.success = true := by
  unfold draw
  dsimp only
  split <;> rfl

theorem marked_negate (r : Request) (s : Scene) :
    Scene.Marked s false (negate setup r s).2 := by
  unfold negate
  split
  · exact .refl s
  · next target _ _ =>
    split
    · next known =>
      refine ⟨rfl, rfl, fun _ hc => .inl hc, fun card hc => ?_, (Bool.or_false _).symm⟩
      rcases CardSet.mem_insert.1 hc with rfl | hc
      · exact .inr known
      · exact .inl hc
    · exact .refl s

theorem marked_markUsed {r : Request} (known : ∀ card, r.source = some card → s.table.knows card) :
    Scene.Marked s false (markUsed r s) := by
  unfold markUsed
  split
  · next source hsource =>
    split
    · refine ⟨rfl, rfl, fun card hc => ?_, fun _ hc => .inl hc, (Bool.or_false _).symm⟩
      rcases CardSet.mem_insert.1 hc with rfl | hc
      · exact .inr (known _ hsource)
      · exact .inl hc
    · exact .refl s
  · exact .refl s

theorem marked_each {α β : Type} {act : α → Scene → β × Scene}
    {trace : α → Scene → List Execution} {xs : List α}
    (h : ∀ x ∈ xs, ∀ s', s'.table.copies = s.table.copies →
      Scene.Marked s' (overdrawn (trace x s')) (act x s').2) :
    Scene.Marked s (overdrawn (traceEach act trace xs s)) (s.each act xs).2 := by
  induction xs generalizing s with
  | nil => exact .refl s
  | cons x xs ih =>
    have first := h x List.mem_cons_self s rfl
    have rest := ih fun y hy s' same => h y (List.mem_cons_of_mem x hy) s' (same.trans first.copies)
    rw [Scene.each_cons, traceEach, overdrawn_append]
    exact first.trans rest

section

variable {followUp : FollowUp} {trace : FollowUpTrace}
  (follows : ∀ card seat timing s, Scene.Marked s (overdrawn (trace card seat timing s))
    (followUp card seat timing s).2)

include follows

theorem marked_destroyCard (target : CardRef) (s : Scene) :
    Scene.Marked s (overdrawn (destroyCardTrace setup trace target s))
      (destroyCard setup followUp target s).2 := by
  unfold destroyCard destroyCardTrace
  cases hd : destroyed setup target s with
  | error fault => exact .refl s
  | ok gone => exact (follows target gone.1 .onDestroy gone.2).after (marks_destroyed hd)

theorem marked_destroy (r : Request) (s : Scene) :
    Scene.Marked s (overdrawn (destroyTrace setup followUp trace r s))
      (destroy setup followUp r s).2 := by
  unfold destroy destroyTrace
  split
  · exact .refl s
  · exact marked_each fun target _ s' _ => marked_destroyCard follows target s'

theorem marked_summon (r : Request) (s : Scene) :
    Scene.Marked s (overdrawn (summonTrace setup trace r s)) (summon setup followUp r s).2 := by
  unfold summon summonTrace
  cases hs : specialSummoned setup r s with
  | error fault => exact .refl s
  | ok there =>
    obtain ⟨card, printed, there⟩ := there
    exact (follows card r.actor .onSummon there).after (marks_specialSummoned hs)

/-- What an effect marks, by its kind. -/
theorem marked_perform (r : Request) (s : Scene) :
    Scene.Marked s (r.overdraws || overdrawn (performTrace setup followUp trace r s))
      (perform setup followUp r s).2 := by
  unfold Request.overdraws performTrace perform
  cases kind : r.effect.kind with
  | draw =>
    simp only [beq_self_eq_true, Bool.true_and, overdrawn_nil, Bool.or_false]
    exact marked_draw _ _ s
  | mill => exact Scene.marked_of_eq (marks_mill _ _ s)
  | discard => exact Scene.marked_of_eq (marks_discard _ _ _ s)
  | destroy => exact marked_destroy follows r s
  | banish => exact Scene.marked_of_eq (marks_banish r s)
  | damage => exact Scene.marked_of_eq rfl
  | gainLife => exact Scene.marked_of_eq rfl
  | toHand => exact Scene.marked_of_eq (marks_toHand r s)
  | search => exact Scene.marked_of_eq (marks_search r s)
  | toGraveyard => exact Scene.marked_of_eq (marks_toGraveyard r s)
  | returnToDeck => exact Scene.marked_of_eq (marks_returnToDeck r s)
  | modifyAttack => exact Scene.marked_of_eq (marks_modifyAttack r s)
  | summon => exact marked_summon follows r s
  | negate => exact marked_negate r s
  | protection => exact .refl s

theorem marked_runWith {r : Request}
    (known : ∀ card, r.source = some card → s.table.knows card) :
    Scene.Marked s (overdrawn [runWithTrace setup followUp trace r s])
      (runWith setup followUp r s).2 := by
  rw [overdrawn_singleton]
  unfold runWithTrace runWith
  cases hfault : fault? setup r s.table with
  | some fault => exact .refl s
  | none =>
    have ran : Scene.Marked s (r.overdraws || overdrawn (performTrace setup followUp trace r s))
        (perform setup followUp r s).2 := marked_perform follows r s
    have told : ((perform setup followUp r s).1.success && r.overdraws) = r.overdraws := by
      by_cases draws : r.effect.kind = .draw
      · have success : (perform setup followUp r s).1.success = true := by
          rw [perform, draws]
          exact success_draw _ _ s
        rw [success, Bool.true_and]
      · simp [Request.overdraws, draws]
    have marking : Scene.Marked (perform setup followUp r s).2 false
        (markUsed r (perform setup followUp r s).2) :=
      marked_markUsed fun card source =>
        (Table.knows_of_copies ran.copies card).trans (known card source)
    have whole := ran.trans marking
    rw [Bool.or_false] at whole
    simp only [Execution.overdraws, told, Option.isSome_none, Bool.false_eq_true, if_false]
    split
    · exact whole
    · exact ran

end

theorem marked_fireWithin (depth : Nat) (card : CardRef) (seat : Seat) (timing : Timing)
    (s : Scene) :
    Scene.Marked s (overdrawn (fireWithinTrace setup depth card seat timing s))
      (fireWithin setup depth card seat timing s).2 := by
  induction depth generalizing card seat timing s with
  | zero => exact .refl s
  | succ depth ih =>
    refine marked_each fun e he s' same => ?_
    have known : s'.table.knows card :=
      (Table.knows_of_copies same card).trans (Setup.knows_of_effect (List.mem_of_mem_filter he))
    exact (marked_runWith ih fun _ source => Option.some.inj source ▸ known).after rfl

/-- What the effects of a card at a timing mark. -/
theorem marked_fire (card : CardRef) (seat : Seat) (timing : Timing) (s : Scene) :
    Scene.Marked s (overdrawn (fireTrace setup card seat timing s))
      (fire setup card seat timing s).2 :=
  marked_fireWithin _ card seat timing s

/-- What an activated effect marks. -/
theorem marked_run {r : Request} (known : ∀ card, r.source = some card → s.table.knows card) :
    Scene.Marked s (overdrawn [runTrace setup r s]) (run setup r s).2 :=
  marked_runWith marked_fire known

theorem marked_runAbility (card : CardRef) (seat : Seat) (targets : List CardRef) (s : Scene) :
    Scene.Marked s (overdrawn (runAbilityTrace setup card seat targets s))
      (runAbility setup card seat targets s).2 := by
  refine marked_each fun e he s' same => ?_
  have known : s'.table.knows card :=
    (Table.knows_of_copies same card).trans (Setup.knows_of_effect (List.mem_of_mem_filter he))
  exact marked_run fun _ source => Option.some.inj source ▸ known

end Resolution

/-! ## Moves -/

namespace Chain

variable {setup : Setup} {s : Scene} {link : Link} {links : List Link}

@[simp] theorem overrun_spend (card : CardRef) (s : Scene) :
    (spend setup card s).overrun = s.overrun := by
  unfold spend
  split
  · dsimp only
    split <;> rfl
  · rfl

theorem marks_spend_eq (card : CardRef) (s : Scene) : (spend setup card s).marks = s.marks := by
  obtain ⟨sides, rng, chained, spent⟩ := spend_frame setup card s
  unfold Scene.marks
  rw [overrun_spend, spent]

theorem marked_settleLink (known : s.table.knows link.card) :
    Scene.Marked s (overdrawn (linkTrace setup link s)) (settleLink setup link s).2 := by
  have ran : Scene.Marked s (overdrawn (linkTrace setup link s)) (runLink setup link s).2 := by
    unfold linkTrace runLink
    split
    · exact .refl s
    · refine marked_run fun _ source => ?_
      cases source
      exact known
  exact ran.before (marks_spend_eq link.card _)

theorem marked_settleLinks (known : ∀ link ∈ links, s.table.knows link.card) :
    Scene.Marked s (overdrawn (traceEach (settleLink setup) (linkTrace setup) links s))
      (s.each (settleLink setup) links).2 :=
  marked_each fun link hlink _ same =>
    marked_settleLink ((Table.knows_of_copies same link.card).trans (known link hlink))

end Chain

namespace Match

variable {setup : Setup} {m after : Match} {seat : Seat} {card : CardRef}

theorem marks_payTributes (tributes : List CardRef) (s : Scene) :
    (s.each (payTribute setup seat) tributes).2.marks = s.marks :=
  Scene.marks_each (fun tribute s => Scene.marks_moveToPile s tribute .graveyard .top) tributes s

theorem marks_finish_eq (winner : Seat) (reason : WinReason) (m : Match) :
    (m.finish winner reason).toScene.marks = m.toScene.marks := by
  obtain ⟨sides, rng, chained, cleared⟩ :=
    m.chain.cleared_frame { m.table with status := .finished winner reason }
  show Marks.mk (m.chain.cleared _).copies (m.chain.cleared _).nextCard (m.chain.cleared _).used
    (m.chain.cleared _).negated m.overrun = _
  rw [cleared]
  rfl

theorem marks_settleLife_eq (m : Match) : m.settleLife.toScene.marks = m.toScene.marks := by
  unfold settleLife
  split
  · split
    · exact marks_finish_eq _ _ m
    · rfl
  · rfl

theorem marked_fireForBoard (seat : Seat) (timing : Timing) (s : Scene) :
    Scene.Marked s (overdrawn (boardTrace setup seat timing s))
      (fireForBoard setup seat timing s).2 := by
  refine marked_each fun card _ s' _ => ?_
  unfold fireIfFaceUp
  split
  · exact marked_fire card seat timing s'
  · exact .refl s'

theorem marked_endPhase (seat : Seat) (m : Match) :
    Scene.Marked m.toScene (overdrawn (m.endPhaseTrace setup seat))
      (m.endPhase setup seat).2.toScene := by
  let there := m.atEndPhase seat
  let own := (there.act (fireForBoard setup seat .onEnd)).2
  have arriving : there.toScene.marks = m.toScene.marks := by
    show (m.atEndPhase seat).toScene.marks = _
    unfold atEndPhase
    split <;> rfl
  have first : Scene.Marked there.toScene (overdrawn (boardTrace setup seat .onEnd there.toScene))
      own.toScene := marked_fireForBoard seat .onEnd there.toScene
  have second : Scene.Marked own.toScene
      (overdrawn (boardTrace setup seat.other .onEnd own.toScene))
      (own.act (fireForBoard setup seat.other .onEnd)).2.toScene :=
    marked_fireForBoard seat.other .onEnd own.toScene
  unfold endPhaseTrace
  rw [overdrawn_append]
  exact ((first.trans second).after arriving).before (marks_settleLife_eq _)

/-- The marks of the turn are taken off when it ends, and the card that is drawn then has room. -/
theorem marked_nextTurn (m : Match) :
    Scene.Marked m.toScene false (m.nextTurn setup seat).toScene := by
  have trimmed : (m.enforceHandLimit setup seat).2.toScene.marks = m.toScene.marks := by
    unfold enforceHandLimit
    dsimp only
    split <;> rfl
  have rested (m : Match) : Scene.Marked m.toScene false (m.handOver seat seat.other).toScene :=
    ⟨rfl, rfl, fun card hc => absurd hc (CardSet.not_mem_empty card),
      fun card hc => absurd hc (CardSet.not_mem_empty card), (Bool.or_false _).symm⟩
  have drawn (m : Match) : Scene.Marked m.toScene false (m.drawPhase seat.other).2.toScene := by
    unfold drawPhase
    split
    · exact Scene.marked_of_eq (marks_finish_eq _ _ m)
    · exact (marked_draw seat.other 1 m.toScene).before rfl
  exact ((rested _).trans (drawn _)).after trimmed

theorem marked_activate {zone : Zone} {printed : Card} {targets : List CardRef}
    (ok : Activatable setup m seat card zone printed) :
    Scene.Marked m.toScene (overdrawn (m.activateTrace setup seat card targets))
      (m.activate setup seat card zone printed targets).2.toScene := by
  let lifted := m.lifted seat card zone printed
  let ran := (runAbility setup card seat targets lifted.toScene).2
  have running : Scene.Marked lifted.toScene
      (overdrawn (runAbilityTrace setup card seat targets lifted.toScene)) ran :=
    marked_runAbility card seat targets lifted.toScene
  have putting : (m.activate setup seat card zone printed targets).2.toScene.marks = ran.marks :=
    Scene.marks_placeInPile ran card .graveyard .top
  have lifting : lifted.toScene.marks = m.toScene.marks := rfl
  rw [activateTrace_eq ok]
  exact (running.after lifting).before putting

/-- What a move marks.  It is overrun if an execution in it asks for too much room. -/
theorem marked_make {move : Move} {report : MoveReport}
    (known : ∀ link ∈ m.chain.links, m.table.knows link.card)
    (made : m.make setup seat move = .ok (report, after)) :
    Scene.Marked m.toScene (overdrawn (turnOf 0 (m.beats setup seat move))) after.toScene := by
  cases move with
  | normalSummon c tributes stance =>
    obtain ⟨_, hmove, -⟩ := reported_eq_ok.1 made
    obtain ⟨printed, ok, -, rfl⟩ := normalSummon_ok hmove
    simp only [beats, ok.known, turnOf_carried]
    exact (marked_fire c seat .onSummon _).after (marks_payTributes tributes m.toScene)
  | setMonster c tributes =>
    obtain ⟨_, hmove, -⟩ := reported_eq_ok.1 made
    obtain ⟨printed, monster, -, -, rfl⟩ := setMonster_ok hmove
    exact Scene.marked_of_eq (marks_payTributes tributes m.toScene)
  | flipSummon c stance =>
    obtain ⟨_, hmove, -⟩ := reported_eq_ok.1 made
    obtain ⟨printed, -, -, known, -, rfl⟩ := flipSummon_ok hmove
    simp only [beats, known, turnOf_carried]
    exact (marked_fire c seat .onFlip _).after rfl
  | changePosition c =>
    obtain ⟨_, hmove, -⟩ := reported_eq_ok.1 made
    obtain ⟨printed, monster, -, -, rfl⟩ := changePosition_ok hmove
    exact Scene.marked_of_eq rfl
  | setSpellTrap c =>
    obtain ⟨_, hmove, -⟩ := reported_eq_ok.1 made
    obtain ⟨printed, -, rfl⟩ := setSpellTrap_ok hmove
    exact Scene.marked_of_eq rfl
  | activateSpell c targets =>
    obtain ⟨_, hmove, -⟩ := reported_eq_ok.1 made
    obtain ⟨printed, zone, ok, heq⟩ := activateSpell_ok hmove
    obtain ⟨-, rfl⟩ := Prod.mk.inj heq
    rw [beats, turnOf_carried]
    exact marked_activate ok
  | activateTrap c targets =>
    obtain ⟨_, hmove, -⟩ := reported_eq_ok.1 made
    obtain ⟨printed, ok, heq⟩ := activateTrap_ok hmove
    obtain ⟨-, rfl⟩ := Prod.mk.inj heq
    rw [beats, turnOf_carried]
    exact marked_activate ok
  | addToChain c targets =>
    obtain ⟨_, hmove, -⟩ := reported_eq_ok.1 made
    obtain ⟨printed, zone, effect, chain, -, -, rfl⟩ := addToChain_ok hmove
    have lifting : (m.toScene.change (liftCard seat c zone)).marks = m.toScene.marks := by
      refine Scene.marks_change ?_
      unfold liftCard
      split
      · exact ⟨_, _, _, rfl⟩
      · exact ⟨_, _, _, rfl⟩
    exact Scene.marked_of_eq lifting
  | passPriority =>
    obtain ⟨_, hmove, -⟩ := reported_eq_ok.1 made
    obtain ⟨chain, -, rfl⟩ := passPriority_ok hmove
    exact Scene.marked_of_eq rfl
  | resolveChain =>
    obtain ⟨reports, hmove, -⟩ := reported_eq_ok.1 made
    obtain ⟨-, -, -, hafter⟩ := Chain.resolve_ok (resolveChain_ok hmove)
    rw [beats, turnOf_carried, hafter]
    exact (Chain.marked_settleLinks fun link hlink => known link (List.mem_reverse.1 hlink)).before
      rfl
  | advancePhase =>
    obtain ⟨_, hmove, -⟩ := reported_eq_ok.1 made
    obtain ⟨entered, -, hentered, -, rfl⟩ := advancePhase_ok hmove
    cases entered with
    | battle =>
      simp only [beats, hentered, turnOf_carried]
      exact (marked_fireForBoard seat .onBattleStart _).after rfl
    | _ =>
      simp only [beats, hentered]
      exact Scene.marked_of_eq rfl
  | endTurn =>
    obtain ⟨_, hmove, -⟩ := reported_eq_ok.1 made
    obtain ⟨-, -, rfl⟩ := endTurn_ok hmove
    have ended : Scene.Marked m.toScene (overdrawn (m.endPhaseTrace setup seat))
        (m.endPhase setup seat).2.toScene := marked_endPhase seat m
    rw [beats, turnOf_zero_append]
    split
    · have begun : Scene.Marked (m.endPhase setup seat).2.toScene false
          ((m.endPhase setup seat).2.nextTurn setup seat).toScene := marked_nextTurn _
      have whole := ended.trans begun
      simpa only [turnOf, List.append_nil, Bool.or_false] using whole
    · simpa only [turnOf, List.append_nil] using ended
  | surrender =>
    cases pure_eq_ok.1 made
    exact Scene.marked_of_eq (marks_finish_eq _ _ m)

theorem Coupled.knows (h : Coupled setup m) (link : Link) (hlink : link ∈ m.chain.links) :
    m.table.knows link.card := by
  obtain ⟨printed, backed⟩ := h.backed link hlink
  exact Setup.knows_of_card? backed.known

/-- What a move that was played marks. -/
theorem marked_play {p : Play} (coupled : Coupled setup p.before) (legal : p.Legal setup) :
    Scene.Marked p.before.toScene (overdrawn (turnOf 0 (p.beats setup))) p.after.toScene := by
  obtain ⟨seat, made, hseat, -, -, hmade, hafter⟩ := Match.play_ok legal
  unfold Play.beats
  rw [hseat, hafter]
  exact (marked_make coupled.knows hmade).before (marks_settleLife_eq made)

end Match

namespace Arena

variable {setup : Setup} {calls : List Call} {lobby : Lobby} {m after : Match} {seat : Seat}
  {move : Move} {report : MoveReport}

/-- A move in a live match is overrun exactly if an execution in it asks for too much room. -/
theorem overrun_of_make (live : ((start setup).serveAll calls).lobbies lobby = .live m)
    (made : m.make setup seat move = .ok (report, after)) :
    after.overrun = overdrawn (turnOf 0 (m.beats setup seat move)) := by
  rw [(Match.marked_make (coupled_of_live live).knows made).overrun, overrun_of_live live,
    Bool.false_or]

end Arena

end CardDuel
