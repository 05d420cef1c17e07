import CardDuel.Proofs.Executions
import CardDuel.Proofs.Sources

/-!
# What happens by itself takes nothing off a board

An effect that a player activates has the targets that the player chose, and may take them off a
board.  An effect that is set off has no targets.  Then it may still summon a monster, and move cards
in the hands, decks and graveyards about, but every monster that was on a board stays there as it
lies.

* `Side.faces`: the monsters of a board in order, each with the way it faces.
* `Scene.Stands`: both boards have at most grown at their ends, and no monster was flipped.
* `perform_stands`: this holds of every effect without targets, if it holds of what it sets off.
* `fireWithin_stands`: so it holds of everything that happens by itself, up to any depth.
-/

namespace CardDuel

open Resolution

/-! ## The faces of a board -/

namespace Side

variable {side : Side} {zone : Zone} {card : CardRef}

/-- The monsters of the board in their order, each with the way it faces. -/
def faces (side : Side) : List (CardRef × Facing) := side.board.map fun m => (m.card, m.facing)

theorem faces_setPile (side : Side) (pile : Pile) (cards : List CardRef) :
    (side.setPile pile cards).faces = side.faces := by
  cases pile <;> rfl

theorem faces_push (side : Side) (pile : Pile) (card : CardRef) (place : DeckPlace) (rng : Rng) :
    (side.push pile card place rng).1.faces = side.faces := by
  obtain ⟨cards, hside, -⟩ := side.push_eq pile card place rng
  rw [hside, faces_setPile]

theorem faces_remove (off : zone ≠ .board) : (side.remove zone card).faces = side.faces := by
  cases zone <;> first | rfl | exact absurd rfl off

theorem faces_turnOver (side : Side) (count : Nat) (pile : Pile) :
    (side.turnOver count pile).faces = side.faces := by
  unfold turnOver
  rw [faces_setPile]
  rfl

theorem faces_modifyMonster {change : Monster → Monster}
    (h : ∀ m, ((change m).card, (change m).facing) = (m.card, m.facing)) (side : Side)
    (card : CardRef) : (side.modifyMonster card change).faces = side.faces :=
  map_updateFirst h side.board

theorem cards_faces (side : Side) : side.faces.map Prod.fst = side.cardsIn .board :=
  List.map_map

/-- A monster is face-up if the first face of its card is. -/
theorem any_monster? (side : Side) (card : CardRef) :
    (side.monster? card).any (!·.isFaceDown) =
      (side.faces.find? (·.1 == card)).any (·.2 != .down) := by
  rw [faces, List.find?_map, Option.any_map]
  rfl

end Side

namespace Table

variable {t : Table} {seat : Seat} {card : CardRef}

theorem faces_modifySide {change : Side → Side} (h : ∀ side, (change side).faces = side.faces)
    (t : Table) (seat seat' : Seat) :
    ((t.modifySide seat change).side seat').faces = (t.side seat').faces := by
  rw [side_modifySide]
  split
  · exact h _
  · rfl

theorem faces_push (t : Table) (seat : Seat) (pile : Pile) (card : CardRef) (place : DeckPlace)
    (seat' : Seat) : ((t.push seat pile card place).side seat').faces = (t.side seat').faces :=
  faces_modifySide (fun side => side.faces_push pile card place t.rng) t seat seat'

/-- No card is off its board because another one, which is on none, goes to a pile. -/
theorem faces_moveToPile (off : ∀ seat, card ∉ (t.side seat).cardsIn .board) (pile : Pile)
    (place : DeckPlace) (seat : Seat) :
    ((t.moveToPile card pile place).side seat).faces = (t.side seat).faces := by
  rw [moveToPile]
  split
  · next zone moved there =>
    obtain ⟨owner, holder, -, located, rfl⟩ := moveToPile?_eq_some.1 there
    have elsewhere : zone ≠ .board := by
      rintro rfl
      exact off holder (mem_of_locate? located)
    rw [faces_push, faces_modifySide fun side => side.faces_remove elsewhere]
  · rfl

end Table

/-- What lies elsewhere lies on no board. -/
theorem Table.Placed.off_board {t : Table} {loose : List CardRef} {seat : Seat} {zone : Zone}
    {card : CardRef} (h : t.Placed loose) (there : card ∈ (t.side seat).cardsIn zone)
    (off : zone ≠ .board) (seat' : Seat) : card ∉ (t.side seat').cardsIn .board :=
  fun onBoard => off (h.place_unique there onBoard).2

/-! ## What leaves the boards standing -/

namespace Scene

variable {s s' s'' : Scene}

/-- Every monster of both boards is in its place and faces the way it did.  Others may have come
after them. -/
def Stands (s s' : Scene) : Prop := ∀ seat, (s.side seat).faces <+: (s'.side seat).faces

theorem Stands.refl (s : Scene) : Stands s s := fun _ => List.prefix_rfl

theorem Stands.trans (h : Stands s s') (h' : Stands s' s'') : Stands s s'' :=
  fun seat => (h seat).trans (h' seat)

theorem stands_of_faces (same : ∀ seat, (s'.side seat).faces = (s.side seat).faces) :
    Stands s s' :=
  fun seat => (same seat).symm ▸ List.prefix_rfl

/-- A change of one side that touches no face, with news of it. -/
theorem stands_side {change : Side → Side} (h : ∀ side, (change side).faces = side.faces)
    (seat : Seat) (news : News) : Stands s ((s.change (·.modifySide seat change)).record news) :=
  stands_of_faces (Table.faces_modifySide h s.table seat)

/-- A face-up monster is still there, and still face-up. -/
theorem Stands.isFaceUp (h : Stands s s') {seat : Seat} {card : CardRef}
    (up : Match.isFaceUp s seat card) : Match.isFaceUp s' seat card := by
  unfold Match.isFaceUp at up ⊢
  rw [Side.any_monster?] at up ⊢
  obtain ⟨face, found, faces⟩ := (Option.any_eq_true _ _).1 up
  obtain ⟨more, longer⟩ := h seat
  rw [← longer, List.find?_append, found]
  exact faces

/-- What holds before and is kept by each item of a list holds in the end. -/
theorem each_keeps_mem {α β : Type} {act : α → Scene → β × Scene} {Keeps : Scene → Prop}
    (xs : List α) (step : ∀ x ∈ xs, ∀ s, Keeps s → Keeps (act x s).2) (h : Keeps s) :
    Keeps (s.each act xs).2 := by
  induction xs generalizing s with
  | nil => exact h
  | cons x xs ih =>
    exact ih (fun y hy => step y (List.mem_cons_of_mem x hy)) (step x List.mem_cons_self s h)

end Scene

namespace Resolution

variable {setup : Setup} {s s' : Scene} {loose : List CardRef} {r : Request}

/-- Cards that lie on no board are moved one after the other. -/
theorem stands_each_moved {β : Type} {act : CardRef → Scene → β × Scene} {cards : List CardRef}
    (moves : ∀ card s, (∀ seat, card ∉ (s.side seat).cardsIn .board) → ∀ seat,
      ((act card s).2.side seat).faces = (s.side seat).faces)
    (off : ∀ card ∈ cards, ∀ seat, card ∉ (s.side seat).cardsIn .board) :
    s.Stands (s.each act cards).2 := by
  let Same (s' : Scene) : Prop := ∀ seat, (s'.side seat).faces = (s.side seat).faces
  suffices same : Same (s.each act cards).2 from Scene.stands_of_faces same
  refine Scene.each_keeps_mem cards (fun card hm s' same seat => ?_) fun _ => rfl
  have still (seat : Seat) : card ∉ (s'.side seat).cardsIn .board := by
    rw [← Side.cards_faces, same seat, Side.cards_faces]
    exact off card hm seat
  exact (moves card s' still seat).trans (same seat)

theorem stands_mill (seat : Seat) (count : Nat) (s : Scene) :
    s.Stands (mill setup seat count s).2 := by
  have top (card : CardRef) (s : Scene) : s.Stands (millTop setup seat card s).2 :=
    Scene.stands_side (fun side => side.faces_turnOver 1 .graveyard) seat _
  have all : s.Stands (s.each (millTop setup seat) ((s.side seat).deck.take count)).2 :=
    Scene.each_keeps (fun card s h => h.trans (top card s)) _ (.refl s)
  unfold mill
  dsimp only
  split
  · exact .refl s
  · split <;> exact all

/-- Without a choice cards of the hand are discarded. -/
theorem stands_discard (seat : Seat) (count : Nat) (placed : s.table.Placed loose) :
    s.Stands (discard setup seat count [] s).2 := by
  let pool := s.table.rng.shuffle (s.side seat).hand
  let drawn := s.change ({ · with rng := pool.2 })
  have inHand (card : CardRef) (hm : card ∈ pool.1.take count) :
      card ∈ (s.side seat).cardsIn .hand :=
    (Rng.shuffle_perm (s.side seat).hand s.table.rng).subset (List.mem_of_mem_take hm)
  have off (card : CardRef) (hm : card ∈ pool.1.take count) (seat' : Seat) :
      card ∉ (drawn.side seat').cardsIn .board :=
    placed.off_board (inHand card hm) (by decide) seat'
  have moved : drawn.Stands (drawn.each (discardCard setup seat) (pool.1.take count)).2 :=
    stands_each_moved (fun card s off => Table.faces_moveToPile off .graveyard .top) off
  unfold discard
  simp only [List.isEmpty_nil, ↓reduceIte]
  split
  · exact .refl s
  · split <;> exact moved

theorem off_board_of_candidate {zone : Zone} {card : CardRef} (placed : s.table.Placed loose)
    (off : zone ≠ .board) (chosen : card ∈ r.candidates setup s.table r.actor zone)
    (seat : Seat) : card ∉ (s.side seat).cardsIn .board :=
  placed.off_board (Request.mem_of_candidate chosen) off seat

theorem stands_search (r : Request) (placed : s.table.Placed loose) :
    s.Stands (search setup r s).2 := by
  let cards := r.candidates setup s.table r.actor .deck
  have off (card : CardRef) (hm : card ∈ cards) (seat : Seat) :
      card ∉ (s.side seat).cardsIn .board := off_board_of_candidate placed (by decide) hm seat
  have taken : s.Stands (s.each (takeFromDeck setup r.actor) cards).2 :=
    stands_each_moved (fun card s off => Table.faces_moveToPile off .hand .top) off
  unfold search
  dsimp only
  split
  · exact .refl s
  · let found := (s.each (takeFromDeck setup r.actor) cards).2
    have shuffled (side : Side) :
        ({ side with deck := (found.table.rng.shuffle (found.side r.actor).deck).1 } : Side).faces =
          side.faces := rfl
    exact taken.trans (Scene.stands_of_faces (Table.faces_modifySide shuffled found.table r.actor))

/-- Without a choice cards come back to the hand from the graveyard only. -/
theorem stands_toHand (none : r.targets = [])
    (sourced : r.effect.source = some .graveyard ∨ r.effect.source = some .board)
    (placed : s.table.Placed loose) : s.Stands (toHand setup r s).2 := by
  let cards := r.candidates setup s.table r.actor .graveyard
  have off (card : CardRef) (hm : card ∈ cards) (seat : Seat) :
      card ∉ (s.side seat).cardsIn .board := off_board_of_candidate placed (by decide) hm seat
  have moves (card : CardRef) (s : Scene) (off : ∀ seat, card ∉ (s.side seat).cardsIn .board)
      (seat : Seat) :
      ((returnToHand setup r.actor card s).2.side seat).faces = (s.side seat).faces := by
    have moved := Table.faces_moveToPile off .hand .top seat
    unfold Table.moveToPile at moved
    unfold returnToHand
    split
    · rfl
    · next there =>
      rw [there] at moved
      exact moved
  have returned : s.Stands (s.each (returnToHand setup r.actor) cards).2 :=
    stands_each_moved moves off
  unfold toHand
  rcases sourced with source | source
  · simp only [source, Option.getD_some, reduceCtorEq, decide_false, Bool.false_and,
      Bool.false_eq_true, ↓reduceIte]
    split
    · exact .refl s
    · exact returned
  · simp only [source, none, Option.getD_some, decide_true, List.isEmpty_nil, Bool.and_self,
      ↓reduceIte]
    exact .refl s

/-- Without a choice nothing is sent to the graveyard. -/
theorem toGraveyard_of_idle (none : r.targets = []) (sourced : r.effect.source = .none) :
    toGraveyard setup r s = (noTarget, s) := by
  unfold toGraveyard
  simp [none, sourced]

theorem stands_modifyAttack (r : Request) (s : Scene) : s.Stands (modifyAttack setup r s).2 := by
  have boosting (target : CardRef) (value : Int) (untilEnd : Bool) (seat : Seat) :
      ((s.table.modifyMonster target (boosted · value untilEnd)).side seat).faces =
        (s.side seat).faces := by
    unfold Table.modifyMonster
    split
    · refine Table.faces_modifySide (fun side => side.faces_modifyMonster (fun m => ?_) target) _ _ _
      unfold boosted
      split <;> rfl
    · rfl
  unfold modifyAttack
  dsimp only
  split
  · exact .refl s
  · split
    · exact .refl s
    · split
      · exact .refl s
      · exact Scene.stands_of_faces (boosting _ _ _)

/-- Without a choice the card that is summoned does not come from a board. -/
theorem off_board_of_summonCandidate {zone left : Zone} {card : CardRef} (none : r.targets = [])
    (off : zone ≠ .board) (placed : s.table.Placed loose)
    (chosen : summonCandidate? setup r zone s.table = some card)
    (held : (s.side r.actor).zoneOf? card = some left) : left ≠ .board := by
  unfold summonCandidate? at chosen
  dsimp only at chosen
  split at chosen
  · obtain ⟨-, elsewhere⟩ := Option.filter_eq_some_iff.1 chosen
    have held : (s.table.side r.actor).zoneOf? card = some left := held
    rw [held] at elsewhere
    simpa using elsewhere
  · rw [none] at chosen
    have there : card ∈ (s.side r.actor).cardsIn zone := List.mem_of_find?_eq_some chosen
    exact placed.zone_unique there (Side.mem_of_zoneOf? held) ▸ off

theorem stands_specialSummoned {card : CardRef} {printed : Card} (none : r.targets = [])
    (sourced : r.effect.source.getD .hand ≠ .board) (placed : s.table.Placed loose)
    (there : specialSummoned setup r s = .ok (card, printed, s')) : s.Stands s' := by
  obtain ⟨-, chosen, -, -, left, held, rfl⟩ := specialSummoned_eq_ok.1 there
  have off : left ≠ .board := off_board_of_summonCandidate none sourced placed chosen held
  intro seat
  show (s.side seat).faces <+: ((s.table.modifySide r.actor fun side =>
    (side.remove left card).placeMonster (arrival setup card printed .attack s.table.turn)).side
      seat).faces
  rw [Table.side_modifySide]
  split
  · have kept : ((s.side seat).remove left card).faces = (s.side seat).faces :=
      Side.faces_remove off
    show (s.side seat).faces <+: Side.faces (Side.placeMonster _ _)
    rw [← kept, Side.faces, Side.faces, Side.placeMonster, List.map_append]
    exact List.prefix_append _ _
  · exact List.prefix_rfl

/-! ## What happens by itself leaves the boards standing -/

section

variable {followUp : FollowUp}
  (follows : ∀ card seat (s : Scene), (∃ loose, s.table.Placed loose) →
    s.Stands (followUp card seat .onSummon s).2)

include follows

/-- An effect without targets takes no monster off a board. -/
theorem perform_stands (none : r.targets = []) (sourced : r.effect.Sourced)
    (placed : s.table.Placed loose) : s.Stands (perform setup followUp r s).2 := by
  have life (seat : Seat) (change : Int) : s.Stands (changeLife seat change s) := by
    have same (side : Side) :
        ({ side with life := max (wrap ((s.side seat).life + change)) 0 } : Side).faces =
          side.faces := rfl
    exact Scene.stands_side same seat _
  unfold perform
  cases kind : r.effect.kind with
  | draw =>
    have drawn (news : News) : s.Stands (((s.reserve r.count).change
        (·.modifySide r.affectedSeat (·.turnOver r.count .hand))).record news) :=
      Scene.stands_side (s := s) (fun side => side.faces_turnOver r.count .hand)
        r.affectedSeat news
    dsimp only [draw]
    split <;> exact drawn _
  | mill => exact stands_mill r.affectedSeat r.count s
  | discard =>
    dsimp only
    rw [none]
    exact stands_discard r.affectedSeat r.count placed
  | destroy =>
    dsimp only [destroy]
    rw [none]
    exact .refl s
  | banish =>
    dsimp only [banish]
    rw [none]
    exact .refl s
  | damage => exact life _ _
  | gainLife => exact life _ _
  | toHand => exact stands_toHand none (sourced.toHand kind) placed
  | search => exact stands_search r placed
  | toGraveyard =>
    dsimp only
    rw [toGraveyard_of_idle none (sourced.toGraveyard kind)]
    exact .refl s
  | returnToDeck =>
    dsimp only [returnToDeck]
    rw [none]
    exact .refl s
  | modifyAttack => exact stands_modifyAttack r s
  | summon =>
    dsimp only [summon]
    split
    · exact .refl s
    · next card printed there summoned =>
      obtain ⟨zone, source, off⟩ := sourced.summon kind
      have sourced : r.effect.source.getD .hand ≠ .board := by rwa [source]
      have placed' : there.table.Placed loose := placed.rearranged
        (deed_specialSummoned summoned).affected.table.toRearranged
      exact (stands_specialSummoned none sourced placed summoned).trans
        (follows card r.actor there ⟨loose, placed'⟩)
  | negate =>
    dsimp only [Resolution.negate]
    rw [none]
    exact .refl s
  | protection => exact .refl s

theorem runWith_stands (none : r.targets = []) (sourced : r.effect.Sourced)
    (placed : s.table.Placed loose) : s.Stands (runWith setup followUp r s).2 := by
  unfold runWith
  split
  · exact .refl s
  · have performed : s.Stands (perform setup followUp r s).2 :=
      perform_stands follows none sourced placed
    dsimp only
    split
    · refine performed.trans (Scene.stands_of_faces fun seat => ?_)
      unfold markUsed
      split
      · split <;> rfl
      · rfl
    · exact performed

end

/-- No monster leaves a board or is flipped by what happens by itself, up to any depth. -/
theorem fireWithin_stands (setup : Setup) (depth : Nat) (card : CardRef) (seat : Seat)
    (timing : Timing) (placed : ∃ loose, s.table.Placed loose) :
    s.Stands (fireWithin setup depth card seat timing s).2 := by
  induction depth generalizing card seat timing s with
  | zero => exact .refl s
  | succ depth ih =>
    obtain ⟨loose, placed⟩ := placed
    let Kept (s' : Scene) : Prop := s'.table.Placed loose ∧ s.Stands s'
    suffices kept : Kept (fireWithin setup (depth + 1) card seat timing s).2 from kept.2
    refine Scene.each_keeps_mem _ (fun e among s' kept => ?_) ⟨placed, .refl s⟩
    have steps : Steps setup s' (trigger setup (fireWithin setup depth) card seat timing e s').2 :=
      (trigger_course (fireWithin_course depth) card seat timing e s').steps
    refine ⟨kept.1.rearranged steps.affected.table.toRearranged, kept.2.trans ?_⟩
    let told := s'.record (triggerNews setup s'.table card seat timing e)
    let r : Request := ⟨e, seat, some card, []⟩
    have sourced : r.effect.Sourced := Setup.sourced_of_triggered among
    have ran : told.Stands (runWith setup (fireWithin setup depth) r told).2 :=
      runWith_stands (fun card seat _ placed => ih card seat .onSummon placed) rfl sourced kept.1
    exact ran

end Resolution

end CardDuel
