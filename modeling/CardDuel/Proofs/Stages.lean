import CardDuel.Proofs.Calm

/-!
# The stages of a move

Every move goes through a few stages, and there are only five kinds of them.  What each stage
keeps is kept by every move.

* `Table.Unchains`: cards are taken off the chain and put away, which is what resolving the
  chain and clearing it come to.
* `Match.Stage`: one stage, and `Match.Stages`: some stages one after the other.
* `Stage.placed`, `Stage.copies` and `Stage.log`: what all stages keep.
-/

namespace CardDuel

open Resolution

/-! ## Taking cards off the chain -/

namespace Table

variable {t t' t'' : Table} {card : CardRef} {cards cards' : List CardRef}

/-- Some cards, as far as they were on the chain, have been put away, and every card is in
its place. -/
structure Unchains (cards : List CardRef) (t t' : Table) : Prop where
  copies : t'.copies = t.copies
  placed : t'.Placed []
  chained : ∀ card, card ∈ t'.chained ↔ card ∈ t.chained ∧ card ∉ cards

theorem Unchains.refl (h : t.Placed []) : Unchains [] t t := ⟨rfl, h, by simp⟩

theorem Unchains.trans (h : Unchains cards t t') (h' : Unchains cards' t' t'') :
    Unchains (cards ++ cards') t t'' := by
  refine ⟨h'.copies.trans h.copies, h'.placed, fun card => ?_⟩
  rw [h'.chained, h.chained, List.mem_append, not_or, and_assoc]

theorem unchains_of_not_mem (h : t.Placed []) (hc : card ∉ t.chained) : Unchains [card] t t := by
  refine ⟨rfl, h, fun c => ?_⟩
  rw [List.mem_singleton]
  exact ⟨fun hm => ⟨hm, fun heq => hc (heq ▸ hm)⟩, And.left⟩

/-- A card on the chain can be put into the graveyard of its owner. -/
theorem unchains_place (h : t.Placed []) (hc : card ∈ t.chained) :
    ∃ owner placed, t.owner? card = some owner ∧
      ({ t with chained := t.chained.erase card } : Table).placeInPile? card .graveyard .top =
        some placed ∧ Unchains [card] t placed := by
  obtain ⟨owner, howner, hput, hplaced⟩ := (h.unchain hc).placeInPile? .graveyard .top
  refine ⟨owner, _, howner, hput, rfl, hplaced, fun c => ?_⟩
  rw [List.mem_singleton]
  exact CardSet.mem_erase

end Table

namespace Chain

variable {setup : Setup} {s : Scene}

theorem unchains_spend (card : CardRef) (h : s.table.Placed []) :
    Table.Unchains [card] s.table (spend setup card s).table := by
  unfold spend
  split
  · next hc =>
    obtain ⟨owner, placed, howner, hput, hunchains⟩ := Table.unchains_place h hc
    simp only [Scene.change, howner, hput]
    exact hunchains
  · next hc => exact Table.unchains_of_not_mem h hc

theorem unchains_dropLink {t : Table} (link : Link) (h : t.Placed []) :
    Table.Unchains [link.card] t (dropLink t link) := by
  unfold dropLink
  split
  · next hc =>
    obtain ⟨owner, placed, -, hput, hunchains⟩ := Table.unchains_place h hc
    rw [Table.placeInPile, hput]
    exact hunchains
  · next hc => exact Table.unchains_of_not_mem h hc

theorem unchains_cleared (chain : Chain) {t : Table} (h : t.Placed []) :
    Table.Unchains (chain.links.map (·.card)) t (chain.cleared t) := by
  have general : ∀ (links : List Link) (t : Table), t.Placed [] →
      Table.Unchains (links.map (·.card)) t (links.foldl dropLink t) := by
    intro links
    induction links with
    | nil => exact fun t h => .refl h
    | cons link links ih =>
      intro t h
      have first := unchains_dropLink link h
      exact first.trans (ih _ first.placed)
  exact general chain.links t h

theorem runLink_steps (link : Link) (s : Scene) : Steps setup s (runLink setup link s).2 := by
  unfold runLink
  split
  · exact .refl
  · exact (run_course _ s).steps

theorem unchains_settleLink (link : Link) (h : s.table.Placed []) :
    Table.Unchains [link.card] s.table (settleLink setup link s).2.table := by
  have ran : Scene.Affected s (runLink setup link s).2 := (runLink_steps link s).affected
  have ranPlaced := h.rearranged ran.table.toRearranged
  have spent : Table.Unchains [link.card] (runLink setup link s).2.table
    (settleLink setup link s).2.table := unchains_spend link.card ranPlaced
  refine ⟨spent.copies.trans ran.table.copies, spent.placed, fun c => ?_⟩
  rw [← ran.table.chained]
  exact spent.chained c

/-- Nothing on the chain decides who has won. -/
theorem status_settleLinks (links : List Link) (s : Scene) :
    (s.each (settleLink setup) links).2.table.status = s.table.status := by
  let Kept (s' : Scene) : Prop := s'.table.status = s.table.status
  have step (link : Link) (s' : Scene) (kept : Kept s') : Kept (settleLink setup link s').2 := by
    obtain ⟨_, _, _, spent⟩ := spend_frame setup link.card (runLink setup link s').2
    show (spend setup link.card (runLink setup link s').2).table.status = s.table.status
    rw [spent]
    exact (runLink_steps link s').affected.table.status.trans kept
  exact Scene.each_keeps step links (Eq.refl s.table.status)

theorem extends_spend (card : CardRef) (s : Scene) :
    Log.Extends s.log (spend setup card s).log := by
  unfold spend
  dsimp only
  split
  · split
    · exact Log.extends_record _ _ _
    · exact .refl _
  · exact .refl _

theorem extends_settleLink (link : Link) (s : Scene) :
    Log.Extends s.log (settleLink setup link s).2.log :=
  (runLink_steps link s).affected.log.trans (extends_spend link.card _)

/-- Carrying out the links of a chain puts all their cards away. -/
theorem unchains_settleLinks (links : List Link) (h : s.table.Placed []) :
    Table.Unchains (links.map (·.card)) s.table (s.each (settleLink setup) links).2.table := by
  induction links generalizing s with
  | nil => exact .refl h
  | cons link links ih =>
    have first : Table.Unchains [link.card] s.table (settleLink setup link s).2.table :=
      unchains_settleLink link h
    rw [Scene.each_cons]
    exact first.trans (ih first.placed)

end Chain

namespace Match

variable {setup : Setup} {m m' after : Match} {seat : Seat} {card : CardRef}

theorem unchains_finish (winner : Seat) (reason : WinReason) (h : m.table.Placed []) :
    Table.Unchains (m.chain.links.map (·.card)) m.table (m.finish winner reason).table := by
  let won : Table := { m.table with status := .finished winner reason }
  have hwon : won.Placed [] := ⟨h.once, h.owned⟩
  have cleared := m.chain.unchains_cleared hwon
  exact ⟨cleared.copies, cleared.placed, cleared.chained⟩

/-! ## Stages -/

/-- One stage of a move, with the ids of the links that it adds. -/
inductive Stage (setup : Setup) : Match → List LinkId → Match → Prop where
  /-- Cards change places.  If there are links, the monsters that are face-up stay so. -/
  | calm {m m' : Match} (calm : Calm m m')
      (quiet : m.chain.links = [] ∨
        ∀ seat card, isFaceUp m.toScene seat card → isFaceUp m'.toScene seat card) :
      Stage setup m [] m'
  | link {m : Match} {seat : Seat} {card : CardRef} {zone : Zone} {printed : Card}
      {effect : Effect} {targets : List CardRef} {id : LinkId} {chain : Chain} {news : News}
      (active : m.table.isActive) (ok : Linkable setup m seat card zone printed effect)
      (added : m.chain.add card seat effect targets = .ok (id, chain)) :
      Stage setup m [id] ({ m.change (liftCard seat card zone) with chain := chain }.record news)
  | pass {m : Match} {seat : Seat} {awaiting : Option Seat} {chain : Chain}
      (passed : m.chain.pass seat = .ok (awaiting, chain)) :
      Stage setup m [] { m with chain := chain }
  | resolve {m : Match} {reports : List LinkReport} {chain : Chain} {s : Scene}
      (resolved : m.chain.resolve setup m.toScene = .ok (reports, chain, s)) :
      Stage setup m [] ⟨s, chain⟩
  | finish (winner : Seat) (reason : WinReason) (m : Match) :
      Stage setup m [] (m.finish winner reason)

/-- Stages one after the other. -/
inductive Stages (setup : Setup) : Match → List LinkId → Match → Prop where
  | refl (m : Match) : Stages setup m [] m
  | tail {m m' m'' : Match} {ids ids' : List LinkId} (stages : Stages setup m ids m')
      (stage : Stage setup m' ids' m'') : Stages setup m (ids ++ ids') m''

theorem Stages.single {ids : List LinkId} (stage : Stage setup m ids m') :
    Stages setup m ids m' :=
  (Stages.refl m).tail stage

theorem Stages.trans {ids ids' : List LinkId} (first : Stages setup m ids m')
    (second : Stages setup m' ids' after) : Stages setup m (ids ++ ids') after := by
  induction second with
  | refl =>
    rw [List.append_nil]
    exact first
  | tail _ stage ih =>
    rw [← List.append_assoc]
    exact ih.tail stage

/-- Stages that add no link. -/
theorem Stages.then {ids : List LinkId} (first : Stages setup m ids m')
    (second : Stages setup m' [] after) : Stages setup m ids after := by
  rw [← List.append_nil ids]
  exact first.trans second

theorem Calm.stages (calm : Calm m m') (noChain : m.chain.links = []) : Stages setup m [] m' :=
  .single (.calm calm (.inl noChain))

/-! ## What stages keep -/

theorem copies_liftCard {zone : Zone} (t : Table) :
    (liftCard seat card zone t).copies = t.copies := by
  unfold liftCard
  split <;> rfl

theorem status_liftCard {zone : Zone} (t : Table) :
    (liftCard seat card zone t).status = t.status := by
  unfold liftCard
  split <;> rfl

theorem placed_liftCard {t : Table} {zone : Zone} (h : t.Placed [])
    (held : card ∈ (t.side seat).cardsIn zone) : (liftCard seat card zone t).Placed [] := by
  unfold liftCard
  split
  · exact h
  · exact (h.remove held).chain

theorem Stage.placed {ids : List LinkId} (stage : Stage setup m ids m') (h : m.table.Placed []) :
    m'.table.Placed [] := by
  cases stage with
  | calm calm _ => exact h.rearranged calm.table
  | link _ ok _ => exact placed_liftCard h (linkZone_ok ok.zone).1
  | pass _ => exact h
  | resolve resolved =>
    obtain ⟨-, -, -, rfl⟩ := Chain.resolve_ok resolved
    exact (Chain.unchains_settleLinks _ h).placed
  | finish winner reason => exact (unchains_finish winner reason h).placed

theorem Stage.copies {ids : List LinkId} (stage : Stage setup m ids m') (h : m.table.Placed []) :
    m'.table.copies = m.table.copies := by
  cases stage with
  | calm calm _ => exact calm.table.copies
  | link _ ok _ => exact copies_liftCard m.table
  | pass _ => rfl
  | resolve resolved =>
    obtain ⟨-, -, -, rfl⟩ := Chain.resolve_ok resolved
    exact (Chain.unchains_settleLinks _ h).copies
  | finish winner reason => exact (unchains_finish winner reason h).copies

theorem Stage.log {ids : List LinkId} (stage : Stage setup m ids m') :
    Log.Extends m.log m'.log := by
  cases stage with
  | calm calm _ => exact calm.log
  | link _ _ _ => exact Log.extends_record _ _ _
  | pass _ => exact .refl _
  | resolve resolved =>
    obtain ⟨-, -, -, rfl⟩ := Chain.resolve_ok resolved
    have step (link : Link) (s : Scene) (h : Log.Extends m.log s.log) :
        Log.Extends m.log (Chain.settleLink setup link s).2.log :=
      h.trans (Chain.extends_settleLink link s)
    have settled := Scene.each_keeps step m.chain.links.reverse (.refl m.log)
    exact settled.trans (Log.extends_record _ _ _)
  | finish winner reason => exact Log.extends_record _ _ _

end Match

end CardDuel
