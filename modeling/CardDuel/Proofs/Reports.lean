import CardDuel.Proofs.Motions

/-!
# Moves are told

What moves do is told in the log: whatever card is moved is named, and as long as the match goes
on no event says that it has ended.

* `Chain.tells_settleLinks`: the links of a chain.
* `Motion.tells`, `Response.tells` and `Action.tells`: what moves are made of.
-/

namespace CardDuel

open Resolution

/-! ## The chain -/

namespace Chain

variable {setup : Setup} {s : Scene} {card c : CardRef}

/-- Putting a card of the chain away is told. -/
theorem tells_spend (card : CardRef) (h : s.table.Placed []) :
    Scene.Tells (·.isOfEffect) s (spend setup card s) := by
  unfold spend
  split
  · next hc =>
    obtain ⟨owner, placed, howner, hput, -⟩ := Table.unchains_place h hc
    let lifted : Table := { s.table with chained := s.table.chained.erase card }
    have put : lifted.placeInPile card .graveyard .top = placed := by
      rw [Table.placeInPile, hput]
      rfl
    simp only [Scene.change, howner, hput]
    refine Scene.tells_card (f := fun _ => placed) rfl (setup.names_cardDetails _ card _) ?_
    intro c hc
    rw [← put]
    exact (Table.stays_unchain s.table hc).trans (Table.stays_placeInPile lifted _ _ hc)
  · exact .refl s

/-- Whatever the links of a chain do is told. -/
theorem tells_settleLinks (setup : Setup) (links : List Link) (h : s.table.Placed []) :
    Scene.Tells (·.isOfEffect) s (s.each (settleLink setup) links).2 := by
  induction links generalizing s with
  | nil => exact .refl s
  | cons link links ih =>
    have ran : Steps setup s (runLink setup link s).2 := runLink_steps link s
    have spent : Scene.Tells (·.isOfEffect) (runLink setup link s).2 (settleLink setup link s).2 :=
      tells_spend link.card (h.rearranged ran.affected.table.toRearranged)
    rw [Scene.each_cons]
    exact (ran.tells.trans spent).trans (ih (unchains_settleLink link h).placed)

end Chain

/-! ## Moves -/

namespace Match

variable {setup : Setup} {m m' : Match} {ids : List LinkId} {seat : Seat} {card c : CardRef}
  {zone : Zone}

/-- A change to a monster that leaves it where it is. -/
theorem tells_modifyMonster {kinds : EventType → Prop} (change : Monster → Monster)
    (sameCard : ∀ monster, (change monster).card = monster.card) {news : News}
    (kind : kinds news.type) (m : Match) (seat : Seat) (card : CardRef) :
    Scene.Tells kinds m.toScene
      ((m.change (·.modifySide seat (·.modifyMonster card change))).record news).toScene :=
  Scene.tells_report kind fun _ =>
    .inr (Table.stays_modifySide (Side.stays_modifyMonster sameCard card))

theorem tells_payTributes (seat : Seat) (tributes : List CardRef) (s : Scene) :
    Scene.Tells (· ≠ .gameEnd) s (s.each (payTribute setup seat) tributes).2 :=
  Scene.tells_each (fun tribute s => Scene.tells_card (by simp)
    (setup.names_cardDetails s.table tribute []) fun _ hc => Table.stays_moveToPile _ _ _ hc) _ s

/-- A monster that is played, and the tributes for it, are named. -/
theorem tells_played {tributes : List CardRef} {monster : Monster} {news : News}
    (kind : news.type ≠ .gameEnd) (names : news.details.Names monster.card) :
    Scene.Tells (· ≠ .gameEnd) m.toScene
      (m.played setup seat tributes monster news).toScene := by
  let paid := (m.toScene.each (payTribute setup seat) tributes).2
  have entered : Scene.Tells (· ≠ .gameEnd) paid
      ((paid.change (·.modifySide seat (playMonster monster.card monster))).record news) := by
    refine Scene.tells_card kind names fun c hc => Table.stays_modifySide ?_
    have moved : Side.Stays c (paid.table.side seat)
        (((paid.table.side seat).remove .hand monster.card).placeMonster monster) :=
      (Side.stays_remove .hand hc).trans (Side.stays_placeMonster hc)
    exact moved.trans (Side.stays_of_cardsIn fun z => by cases z <;> rfl)
  exact (tells_payTributes seat tributes m.toScene).trans entered

theorem tells_activate {printed : Card} (targets : List CardRef) :
    Scene.Tells (· ≠ .gameEnd) m.toScene
      (m.activate setup seat card zone printed targets).2.toScene := by
  let lifted := m.lifted seat card zone printed
  let ran := (lifted.act (runAbility setup card seat targets)).2
  have lifting : Scene.Tells (· ≠ .gameEnd) m.toScene lifted.toScene := by
    refine Scene.tells_card ?_ (Details.names_cardId card _)
      fun c hc => Table.stays_modifySide (Side.stays_remove zone hc)
    unfold activationNews
    split <;> simp
  have running : Scene.Tells (·.isOfEffect) lifted.toScene ran.toScene :=
    (runAbility_course card seat targets lifted.toScene).steps.tells
  have putting : Scene.Tells (· ≠ .gameEnd) ran.toScene
      (m.activate setup seat card zone printed targets).2.toScene :=
    Scene.tells_card (by simp [spentNews]) (Details.names_cardId card _)
      fun c hc => Table.stays_placeInPile _ _ _ hc
  exact (lifting.trans (running.mono fun _ => EventType.ne_gameEnd)).trans putting

theorem tells_enterPhase (seat : Seat) (phase : Phase) (m : Match) :
    Scene.Tells (· ≠ .gameEnd) m.toScene (m.enterPhase seat phase).toScene :=
  Scene.tells_report (by simp [phaseNews]) fun _ => .inr (Table.stays_of_side (fun _ => rfl) rfl)

/-- The cards above the hand limit are named. -/
theorem tells_enforceHandLimit (seat : Seat) (m : Match) :
    Scene.Tells (· ≠ .gameEnd) m.toScene (m.enforceHandLimit setup seat).2.toScene := by
  let limit := setup.rules.handLimit
  let cards := excess limit (m.side seat)
  have stays (card : CardRef) (kept : card ∉ cards) :
      Table.Stays card m.table (m.table.modifySide seat (trimHand limit)) := by
    refine Table.stays_modifySide fun z => ?_
    have off : card ∉ (m.side seat).hand.drop limit := fun hm => kept (List.mem_reverse.2 hm)
    have hand : card ∈ (m.side seat).hand.take limit ↔ card ∈ (m.side seat).hand := by
      conv_rhs => rw [← List.take_append_drop limit (m.side seat).hand, List.mem_append]
      exact ⟨.inl, fun hm => hm.resolve_right off⟩
    have graveyard : card ∈ (m.side seat).graveyard ++ cards ↔ card ∈ (m.side seat).graveyard := by
      rw [List.mem_append]
      exact ⟨fun hm => hm.resolve_right kept, .inl⟩
    cases z <;> first | exact hand | exact graveyard | exact .rfl
  unfold enforceHandLimit
  dsimp only
  split
  · next none =>
    have none : cards = [] := List.isEmpty_iff.1 none
    exact Scene.tells_change (f := (·.modifySide seat (trimHand limit)))
      fun card => stays card (none ▸ List.not_mem_nil)
  · refine Scene.tells_report (by simp [limitNews]) fun card => ?_
    by_cases above : card ∈ cards
    · have listed : (limitNews seat limit cards).details.get? "cards" =
          some (.list (cards.map fun card => .nat card.number)) := by
        simp [limitNews, Details.get?]
      exact .inl (.inr ⟨_, listed, List.mem_map.2 ⟨card, above, rfl⟩⟩)
    · exact .inr (stays card above)

theorem stays_restTable (card : CardRef) (t : Table) : Table.Stays card t (restTable t) := by
  have rest (seat : Seat) (t : Table) : Table.Stays card t (t.modifySide seat restSide) := by
    refine Table.stays_modifySide (Side.stays_of_cardsIn fun z => ?_)
    cases z <;> first | rfl | simp [Side.cardsIn, restSide, Monster.rested]
  have both := (rest .host t).trans (rest .opponent _)
  exact ⟨both.zones, both.chained⟩

theorem tells_handOver (seat next : Seat) (m : Match) :
    Scene.Tells (· ≠ .gameEnd) m.toScene (m.handOver seat next).toScene := by
  let ended := (m.toScene.change restTable).record (turnEndNews seat m.table.turn)
  have ending : Scene.Tells (· ≠ .gameEnd) m.toScene ended :=
    Scene.tells_report (by simp [turnEndNews]) fun card => .inr (stays_restTable card m.table)
  have begun (turn : Nat) : Scene.Tells (· ≠ .gameEnd) ended
      ((ended.change ({ · with current := next, turn := turn, phase := .draw })).record
        (turnNews next turn)) :=
    Scene.tells_report (by simp [turnNews]) fun _ => .inr (Table.stays_of_side (fun _ => rfl) rfl)
  exact (ending.trans (begun _)).trans (Scene.tells_record (by simp [phaseNews]))

/-- Whatever happens while no link waits is told. -/
theorem Motion.tells (motion : Motion setup m m') :
    Scene.Tells (· ≠ .gameEnd) m.toScene m'.toScene := by
  cases motion with
  | effects steps => exact steps.steps.tells.mono fun _ => EventType.ne_gameEnd
  | summon ok onTurn stance =>
    refine tells_played ?_ (Details.names_cardId _ _)
    unfold summonNews
    dsimp only
    split <;> simp
  | @flip seat card there printed stance =>
    let turned (monster : Monster) : Monster :=
      { monster with facing := .up, stance := stance, hasMoved := true }
    exact tells_modifyMonster turned (fun _ => rfl) (by simp [flipNews]) m seat card
  | lay ok =>
    refine Scene.tells_card ?_ (Details.names_cardId _ _) fun c hc => Table.stays_modifySide
      ((Side.stays_remove .hand hc).trans (Side.stays_placeSpellTrap hc))
    unfold layNews
    split <;> simp
  | activate ok targets => exact tells_activate targets
  | enter seat phase playable => exact tells_enterPhase seat phase m
  | trim seat => exact tells_enforceHandLimit seat m

theorem stays_liftCard (t : Table) (hc : c ≠ card) :
    Table.Stays c t (liftCard seat card zone t) := by
  unfold liftCard
  split
  · exact .refl c t
  · exact (Table.stays_modifySide (Side.stays_remove zone hc)).trans (Table.stays_chain _ hc)

/-- Whatever happens while links wait is told. -/
theorem Response.tells (response : Response setup m ids m') (h : m.table.Placed []) :
    Scene.Tells (· ≠ .gameEnd) m.toScene m'.toScene := by
  cases response with
  | @turn seat card monster there faceUp name stance =>
    let turned (monster : Monster) : Monster :=
      { monster with stance := monster.stance.toggled, hasMoved := true }
    exact tells_modifyMonster turned (fun _ => rfl) (by simp [stanceNews]) m seat card
  | link ok added =>
    exact Scene.tells_card (by simp [linkNews]) (Details.names_cardId _ _)
      fun c hc => stays_liftCard m.table hc
  | pass passed => exact .refl m.toScene
  | resolve resolved =>
    obtain ⟨-, -, -, rfl⟩ := Chain.resolve_ok resolved
    have settled := Chain.tells_settleLinks setup m.chain.links.reverse h
    exact (settled.mono fun _ => EventType.ne_gameEnd).trans
      (Scene.tells_record (by simp [Chain.resolvedNews]))

theorem Motions.tells (motions : Motions setup m m') :
    Scene.Tells (· ≠ .gameEnd) m.toScene m'.toScene := by
  induction motions with
  | refl => exact .refl m.toScene
  | tail _ motion ih => exact ih.trans motion.tells

/-- Whatever a move does is told, and as long as the match goes on no event says that it has
ended. -/
theorem Action.tells {move : Move} (action : Action setup seat move m ids m')
    (h : m.table.Placed []) :
    Scene.Tells (· ≠ .gameEnd) m.toScene m'.toScene := by
  cases action with
  | none => exact .refl m.toScene
  | response response => exact response.tells h
  | motions _ motions => exact motions.tells
  | set sets ok onTurn hidden =>
    subst hidden
    exact tells_played (by simp [setNews]) (Details.names_cardId _ _)
  | turn _ _ _ before after =>
    exact (before.tells.trans (tells_handOver seat seat.other _)).trans after.tells

end Match

end CardDuel
