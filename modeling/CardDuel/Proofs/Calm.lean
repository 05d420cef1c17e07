import CardDuel.Proofs.Checks
import CardDuel.Proofs.Executions
import CardDuel.Proofs.Places

/-!
# Moves that leave the chain alone

Most of what a move does is calm: cards change places, and the chain and the cards on it stay
as they are.

* `Match.Calm`: the relation between the match before and after.  It is a preorder.
* `calm_act`, `calm_played`, `calm_activate` and so on: what moves are made of is calm.
* `marks_settleLife`, `Chain.marks_spend`: the marks of the turn outlast the end of a match or of a
  chain.
-/

namespace CardDuel

open Resolution

theorem Table.isActive_congr {t t' : Table} (h : t'.status = t.status) :
    t'.isActive = t.isActive := by
  rw [Table.isActive, h, Table.isActive]

namespace Match

variable {setup : Setup} {m m' m'' : Match} {seat : Seat} {card : CardRef}

/-- Cards have changed places, and the chain is as it was. -/
structure Calm (m m' : Match) : Prop where
  table : Table.Rearranged m.table m'.table
  chained : m'.table.chained = m.table.chained
  status : m'.table.status = m.table.status
  chain : m'.chain = m.chain
  log : Log.Extends m.log m'.log

theorem Calm.refl (m : Match) : Calm m m := ⟨.refl _, rfl, rfl, rfl, .refl _⟩

theorem Calm.trans (h : Calm m m') (h' : Calm m' m'') : Calm m m'' :=
  ⟨h.table.trans h'.table, h'.chained.trans h.chained, h'.status.trans h.status,
    h'.chain.trans h.chain, h.log.trans h'.log⟩

theorem calm_record (m : Match) (news : News) : Calm m (m.record news) :=
  ⟨.refl _, rfl, rfl, rfl, Log.extends_record _ _ _⟩

theorem calm_change {f : Table → Table} (h : Table.Rearranged m.table (f m.table))
    (hc : (f m.table).chained = m.table.chained) (hs : (f m.table).status = m.table.status) :
    Calm m (m.change f) :=
  ⟨h, hc, hs, rfl, .refl _⟩

/-- Effects are calm. -/
theorem calm_act {α : Type} {f : Scene → α × Scene}
    (h : Scene.Affected m.toScene (f m.toScene).2) : Calm m (m.act f).2 :=
  ⟨h.table.toRearranged, h.table.chained, h.table.status, rfl, h.log⟩

/-- A change of one side that moves its cards about. -/
theorem calm_modifySide {change : Side → Side}
    (h : (change (m.side seat)).cards.Perm (m.side seat).cards) :
    Calm m (m.change (·.modifySide seat change)) :=
  calm_change (Table.rearranged_modifySide h) rfl rfl

theorem calm_modifyMonster {change : Monster → Monster} (h : ∀ m, (change m).card = m.card)
    (m : Match) (seat : Seat) (card : CardRef) :
    Calm m (m.change (·.modifySide seat (·.modifyMonster card change))) :=
  calm_modifySide (.of_eq (Side.cards_congr (Side.cardsIn_modifyMonster h _ card)))

theorem calm_enterPhase (seat : Seat) (phase : Phase) (m : Match) :
    Calm m (m.enterPhase seat phase) :=
  (calm_change ⟨rfl, .refl _, id⟩ rfl rfl).trans (calm_record _ _)

/-! ## Moves that are calm -/

theorem calm_flipped (seat : Seat) (card : CardRef) (printed : Card) (stance : Stance)
    (m : Match) : Calm m (m.flipped seat card printed stance) := by
  let turned (monster : Monster) : Monster :=
    { monster with facing := .up, stance := stance, hasMoved := true }
  have sameCard (monster : Monster) : (turned monster).card = monster.card := rfl
  have turning : Calm m (m.change (·.modifySide seat (·.modifyMonster card turned))) :=
    calm_modifyMonster sameCard m seat card
  exact turning.trans (calm_record _ _)

theorem payTributes_keeps_hand {tributes : List CardRef} {s : Scene}
    (h : card ∈ (s.side seat).cardsIn .hand) (hne : card ∉ tributes) :
    card ∈ ((s.each (payTribute setup seat) tributes).2.side seat).cardsIn .hand := by
  induction tributes generalizing s with
  | nil => exact h
  | cons tribute rest ih =>
    rw [Scene.each_cons]
    refine ih ?_ (fun hm => hne (List.mem_cons_of_mem _ hm))
    have stays := Table.stays_moveToPile s.table .graveyard .top (List.ne_of_not_mem_cons hne)
    exact (stays.zones seat .hand).2 h

theorem affected_payTributes (tributes : List CardRef) (s : Scene) :
    Scene.Affected s (s.each (payTribute setup seat) tributes).2 := by
  have each (tribute : CardRef) (s : Scene) :
      Scene.Affected s (payTribute setup seat tribute s).2 :=
    Scene.affected_report (Table.affected_moveToPile _ _ _ _)
  exact Scene.each_keeps (fun tribute s hs => hs.trans (each tribute s)) tributes (.refl _)

theorem calm_payTributes (tributes : List CardRef) (m : Match) :
    Calm m (m.act (Scene.each (payTribute setup seat) tributes)).2 :=
  calm_act (affected_payTributes tributes m.toScene)

theorem playMonster_cards (card : CardRef) (monster : Monster) (side : Side) :
    (playMonster card monster side).cards =
      ((side.remove .hand card).placeMonster monster).cards :=
  Side.cards_congr fun z => by cases z <;> rfl

/-- Playing a monster from the hand. -/
theorem calm_played {tributes : List CardRef} {printed : Card} {monster : Monster} {news : News}
    (h : m.table.Placed []) (ok : Summonable setup m seat card tributes printed)
    (hcard : monster.card = card) :
    Calm m (m.played setup seat tributes monster news) := by
  have hne : card ∉ tributes := by
    intro hm
    exact absurd (h.zone_unique ok.inHand (ok.onBoard card hm)) (by decide)
  let paid := (m.act (Scene.each (payTribute setup seat) tributes)).2
  have held : card ∈ (paid.side seat).cardsIn .hand := payTributes_keeps_hand ok.inHand hne
  have entered : (playMonster monster.card monster (paid.side seat)).cards.Perm
      (paid.side seat).cards := by
    rw [playMonster_cards]
    subst hcard
    exact (Side.placeMonster_perm _ _).trans (Side.remove_perm held)
  have paying : Calm m paid := calm_payTributes tributes m
  exact paying.trans ((calm_modifySide entered).trans (calm_record _ _))

/-- Setting a spell or trap from the hand. -/
theorem calm_lay {laid : SetCard} (hand : laid.card ∈ (m.side seat).cardsIn .hand) :
    Calm m (m.change (·.modifySide seat fun side =>
      (side.remove .hand laid.card).placeSpellTrap laid)) :=
  calm_modifySide ((Side.placeSpellTrap_perm _ _).trans (Side.remove_perm hand))

/-- Activating a card: it is lifted, and put away in the end. -/
theorem calm_activate {zone : Zone} {printed : Card} {targets : List CardRef}
    (h : m.table.Placed []) (ok : Activatable setup m seat card zone printed) :
    Calm m (m.activate setup seat card zone printed targets).2 := by
  let lifted := m.lifted seat card zone printed
  let ran := (lifted.act (runAbility setup card seat targets)).2
  have liftedPlaced : lifted.table.Placed [card] := h.remove ok.held
  have running : Calm lifted ran := calm_act (runAbility_course card seat targets _).steps.affected
  have ranPlaced := liftedPlaced.rearranged running.table
  obtain ⟨owner, -, hput, putPlaced⟩ := ranPlaced.placeInPile? .graveyard .top
  have put : ran.table.placeInPile card .graveyard .top =
      ran.table.push owner .graveyard card .top := by
    rw [Table.placeInPile, hput]
    rfl
  let final := (m.activate setup seat card zone printed targets).2
  have htable : final.table = ran.table.push owner .graveyard card .top := put
  have table : Table.Rearranged m.table final.table := by
    rw [htable]
    refine ⟨running.table.copies, ?_, fun _ => putPlaced.owned⟩
    have onPile := ran.table.census_push owner .graveyard card .top
    have same := running.table.census.cons card
    exact onPile.trans (same.trans (Table.census_remove ok.held))
  refine ⟨table, ?_, ?_, rfl, ?_⟩
  · show final.table.chained = m.table.chained
    rw [htable]
    exact running.chained
  · show final.table.status = m.table.status
    rw [htable]
    exact running.status
  · exact (Log.extends_record _ _ _).trans (running.log.trans (Log.extends_record _ _ _))

/-! ## The course of turns -/

theorem trimHand_perm (limit : Nat) (side : Side) :
    (trimHand limit side).cards.Perm side.cards := by
  rw [List.perm_iff_count]
  intro card
  have split := congrArg (List.count card) (List.take_append_drop limit side.hand)
  simp only [Side.count_cards, trimHand, excess, Side.cardsIn, List.count_append,
    List.count_reverse] at split ⊢
  omega

theorem calm_enforceHandLimit (seat : Seat) (m : Match) :
    Calm m (m.enforceHandLimit setup seat).2 := by
  have trimmed : Calm m (m.change (·.modifySide seat (trimHand setup.rules.handLimit))) :=
    calm_modifySide (trimHand_perm _ _)
  unfold enforceHandLimit
  dsimp only
  split
  · exact trimmed
  · exact trimmed.trans (calm_record _ _)

theorem rearranged_restTable (t : Table) : Table.Rearranged t (restTable t) := by
  have rest (seat : Seat) (t : Table) : Table.Rearranged t (t.modifySide seat restSide) := by
    refine Table.rearranged_of_cardsIn fun z => ?_
    cases z <;> first | rfl | simp [Side.cardsIn, restSide, Monster.rested]
  have both := (rest .host t).trans (rest .opponent _)
  exact ⟨both.copies, both.census, both.owned⟩

theorem calm_handOver (seat next : Seat) (m : Match) : Calm m (m.handOver seat next) := by
  have rested : Calm m (m.change restTable) := calm_change (rearranged_restTable _) rfl rfl
  have begun : Calm (m.change restTable) (m.handOver seat next) :=
    ⟨⟨rfl, .refl _, id⟩, rfl, rfl, rfl,
      ((Log.extends_record _ _ _).trans (Log.extends_record _ _ _)).trans (Log.extends_record _ _ _)⟩
  exact rested.trans begun

/-! ## Marks of the turn -/

theorem marks_finish (winner : Seat) (reason : WinReason) (m : Match) :
    (m.finish winner reason).table.used = m.table.used ∧
      (m.finish winner reason).table.negated = m.table.negated := by
  obtain ⟨sides, rng, chained, cleared⟩ :=
    m.chain.cleared_frame { m.table with status := .finished winner reason }
  show (m.chain.cleared _).used = _ ∧ (m.chain.cleared _).negated = _
  rw [cleared]
  exact ⟨rfl, rfl⟩

/-- When life points decide a match, the marks of the turn stay. -/
theorem marks_settleLife (m : Match) :
    m.settleLife.table.used = m.table.used ∧ m.settleLife.table.negated = m.table.negated := by
  unfold settleLife
  split
  · split
    · exact marks_finish _ _ m
    · exact ⟨rfl, rfl⟩
  · exact ⟨rfl, rfl⟩

end Match

/-- When a card on the chain is put away, the marks of the turn stay. -/
theorem Chain.marks_spend (setup : Setup) (card : CardRef) (s : Scene) :
    (spend setup card s).table.used = s.table.used ∧
      (spend setup card s).table.negated = s.table.negated := by
  obtain ⟨sides, rng, chained, spent⟩ := spend_frame setup card s
  rw [spent]
  exact ⟨rfl, rfl⟩

end CardDuel
