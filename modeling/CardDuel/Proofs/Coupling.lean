import CardDuel.Proofs.Conservation

/-!
# The chain and the table belong together

The links, the state of the protocol and the cards that have been lifted onto the chain are
three pieces of data, kept in two places.  In every match that can come about they agree.

* `Match.Coupled`: what it means that they agree.
* `Coupled.stage`: every stage of a move keeps it.
* `ids_of_stages`: the ids of links are given out in order, and never twice.
* `Arena.chain_coupled`: the statement over all calls that an arena may serve.
-/

namespace CardDuel

open Resolution

/-! ## The protocol -/

namespace Chain

variable {chain chain' : Chain} {card : CardRef} {seat : Seat} {effect : Effect}
  {targets : List CardRef}

theorem add_ok {id : LinkId} (h : chain.add card seat effect targets = .ok (id, chain')) :
    chain.hasCard card = false ∧ id = ⟨chain.nextLink⟩ ∧
      chain'.links =
        chain.links ++ [⟨id, chain.links.length + 1, card, seat, effect, targets⟩] ∧
      chain'.state = .window seat.other 0 ∧ chain'.nextLink = chain.nextLink + 1 := by
  unfold add at h
  split at h
  · cases h
  · next free =>
    cases h
    refine ⟨?_, rfl, rfl, rfl, rfl⟩
    unfold addFault? at free
    rw [Option.or_eq_none_iff] at free
    cases linked : chain.hasCard card with
    | false => rfl
    | true => simp [linked] at free

theorem pass_ok {awaiting : Option Seat} (h : chain.pass seat = .ok (awaiting, chain')) :
    ∃ passes, chain.state = .window seat passes ∧ chain'.links = chain.links ∧
      chain'.nextLink = chain.nextLink ∧
      (0 < passes ∧ chain'.state = .resolving ∨
        passes = 0 ∧ chain'.state = .window seat.other 1) := by
  unfold pass at h
  split at h
  · cases h
  · cases h
  · next there passes hstate =>
    split at h
    · cases h
    · next turn =>
      have hseat : seat = there := Decidable.not_not.1 turn
      subst hseat
      refine ⟨passes, hstate, ?_⟩
      split at h
      · next enough =>
        cases h
        exact ⟨rfl, rfl, .inl ⟨by omega, rfl⟩⟩
      · next few =>
        have none : passes = 0 := by omega
        subst none
        cases h
        exact ⟨rfl, rfl, .inr ⟨rfl, rfl⟩⟩

theorem hasCard_eq_false : chain.hasCard card = false ↔ card ∉ chain.links.map (·.card) := by
  simp [hasCard]

/-- The links and the state of the protocol agree. -/
structure Sound (chain : Chain) : Prop where
  idle : chain.state = .idle ↔ chain.links = []
  numbered : ∀ i link, chain.links[i]? = some link → link.number = i + 1
  nodup : (chain.links.map (·.card)).Nodup
  passes : ∀ awaiting passes, chain.state = .window awaiting passes → passes ≤ 1

theorem sound_emptied (chain : Chain) : chain.emptied.Sound where
  idle := ⟨fun _ => rfl, fun _ => rfl⟩
  numbered i link h := by simp [emptied] at h
  nodup := .nil
  passes awaiting passes h := by simp [emptied] at h

theorem Sound.add {id : LinkId} (h : chain.Sound)
    (added : chain.add card seat effect targets = .ok (id, chain')) : chain'.Sound := by
  obtain ⟨fresh, -, links, state, -⟩ := add_ok added
  refine ⟨?_, ?_, ?_, ?_⟩
  · simp [links, state]
  · intro i link hi
    rw [links] at hi
    rcases Nat.lt_or_ge i chain.links.length with old | new
    · rw [List.getElem?_append_left old] at hi
      exact h.numbered i link hi
    · rw [List.getElem?_append_right new, List.getElem?_singleton] at hi
      split at hi
      · cases hi
        show chain.links.length + 1 = i + 1
        omega
      · cases hi
  · rw [links, List.map_append, List.nodup_append]
    refine ⟨h.nodup, by simp, ?_⟩
    rintro c hc _ hnew rfl
    rw [List.mem_singleton.1 hnew] at hc
    exact hasCard_eq_false.1 fresh hc
  · intro awaiting passes hw
    rw [state] at hw
    cases hw
    exact Nat.zero_le 1

theorem Sound.pass {awaiting : Option Seat} (h : chain.Sound)
    (passed : chain.pass seat = .ok (awaiting, chain')) : chain'.Sound := by
  obtain ⟨passes, hstate, links, -, state⟩ := pass_ok passed
  have answered : chain.links ≠ [] := by
    intro none
    rw [h.idle.2 none] at hstate
    cases hstate
  refine ⟨?_, ?_, ?_, ?_⟩
  · rw [links]
    refine ⟨fun idle => ?_, fun none => absurd none answered⟩
    rcases state with ⟨-, ready⟩ | ⟨-, window⟩
    · simp [ready] at idle
    · simp [window] at idle
  · rw [links]
    exact h.numbered
  · rw [links]
    exact h.nodup
  · intro awaiting passes hw
    rcases state with ⟨-, ready⟩ | ⟨-, window⟩
    · simp [ready] at hw
    · rw [window] at hw
      cases hw
      exact Nat.le_refl 1

end Chain

theorem CardSet.eq_empty {s : CardSet} (h : ∀ card, card ∉ s) : s = .empty := by
  have none : s.toList = [] := List.eq_nil_iff_forall_not_mem.2 h
  cases s
  cases none
  rfl

/-! ## Coupling -/

/-- A link has its card: a monster that is face-up on the board of the controller, or a card
of the controller that has been lifted onto the chain. -/
structure Link.Backed (setup : Setup) (s : Scene) (link : Link) (printed : Card) : Prop where
  known : setup.card? s.table link.card = some printed
  owned : s.table.owner? link.card = some link.controller
  faceUp : printed.type = .creature → Match.isFaceUp s link.controller link.card
  lifted : printed.type ≠ .creature → link.card ∈ s.table.chained

theorem Table.owner?_of_copies {t t' : Table} (h : t'.copies = t.copies) (card : CardRef) :
    t'.owner? card = t.owner? card := by
  simp only [Table.owner?, h]

/-- A link keeps its card if monsters stay face-up and cards stay lifted. -/
theorem Link.Backed.mono {setup : Setup} {s s' : Scene} {link : Link} {printed : Card}
    (h : link.Backed setup s printed) (copies : s'.table.copies = s.table.copies)
    (up : ∀ seat card, Match.isFaceUp s seat card → Match.isFaceUp s' seat card)
    (lifted : ∀ card ∈ s.table.chained, card ∈ s'.table.chained) :
    link.Backed setup s' printed where
  known := (Setup.card?_of_copies copies _).trans h.known
  owned := (Table.owner?_of_copies copies _).trans h.owned
  faceUp creature := up _ _ (h.faceUp creature)
  lifted other := lifted _ (h.lifted other)

namespace Match

/-- The links, the state of the protocol and the table agree. -/
structure Coupled (setup : Setup) (m : Match) : Prop where
  sound : m.chain.Sound
  backed : ∀ link ∈ m.chain.links, ∃ printed, link.Backed setup m.toScene printed
  /-- Only cards of links have been lifted. -/
  linked : ∀ card ∈ m.table.chained, ∃ link ∈ m.chain.links, link.card = card ∧
    ∃ printed, setup.card? m.table card = some printed ∧ printed.type ≠ .creature
  finished : m.table.isActive = false → m.chain.links = []

variable {setup : Setup} {m m' : Match} {ids : List LinkId}

/-- Without links nothing has been lifted. -/
theorem coupled_of_emptied {chain : Chain} {s : Scene} (h : ∀ card, card ∉ s.table.chained) :
    Coupled setup ⟨s, chain.emptied⟩ where
  sound := chain.sound_emptied
  backed _ hl := absurd hl List.not_mem_nil
  linked card hc := absurd hc (h card)
  finished _ := rfl

/-- Without links the protocol rests, and no card has been lifted. -/
theorem Coupled.rests (h : Coupled setup m) (noLinks : m.chain.links = []) :
    m.chain.state = .idle ∧ m.table.chained = .empty := by
  refine ⟨h.sound.idle.2 noLinks, CardSet.eq_empty fun card hc => ?_⟩
  obtain ⟨link, hlink, -⟩ := h.linked card hc
  rw [noLinks] at hlink
  cases hlink

theorem Coupled.calm (h : Coupled setup m) (calm : Calm m m')
    (quiet : m.chain.links = [] ∨
      ∀ seat card, isFaceUp m.toScene seat card → isFaceUp m'.toScene seat card) :
    Coupled setup m' := by
  have copies := calm.table.copies
  refine ⟨?_, ?_, ?_, ?_⟩
  · rw [calm.chain]
    exact h.sound
  · intro link hlink
    rw [calm.chain] at hlink
    rcases quiet with none | up
    · rw [none] at hlink
      cases hlink
    · obtain ⟨printed, backed⟩ := h.backed link hlink
      exact ⟨printed, backed.mono copies up fun card hc => calm.chained ▸ hc⟩
  · intro card hc
    rw [calm.chain, Setup.card?_of_copies copies]
    exact h.linked card (calm.chained ▸ hc)
  · intro ended
    rw [calm.chain]
    exact h.finished ((Table.isActive_congr calm.status).symm.trans ended)

theorem Coupled.pass {seat : Seat} {awaiting : Option Seat} {chain : Chain}
    (h : Coupled setup m) (passed : m.chain.pass seat = .ok (awaiting, chain)) :
    Coupled setup { m with chain := chain } := by
  obtain ⟨-, -, links, -, -⟩ := Chain.pass_ok passed
  refine ⟨h.sound.pass passed, ?_, ?_, ?_⟩
  all_goals simp only [links]
  · exact h.backed
  · exact h.linked
  · exact h.finished

/-! ## Adding a link -/

section

variable {seat : Seat} {card : CardRef} {zone : Zone}

/-- Lifting a card changes nobody's life points. -/
theorem life_liftCard (t : Table) (seat' : Seat) :
    ((liftCard seat card zone t).side seat').life = (t.side seat').life := by
  unfold liftCard
  split
  · rfl
  · show ((t.modifySide seat (·.remove zone card)).side seat').life = _
    rw [Table.side_modifySide]
    split
    · cases zone <;> rfl
    · rfl

theorem current_liftCard (t : Table) : (liftCard seat card zone t).current = t.current := by
  unfold liftCard
  split <;> rfl

theorem mem_chained_liftCard {t : Table} {c : CardRef} :
    c ∈ (liftCard seat card zone t).chained ↔ c ∈ t.chained ∨ c = card ∧ zone ≠ .board := by
  unfold liftCard
  split
  · next board => simp [board]
  · next off =>
    show c ∈ t.chained.insert card ↔ _
    rw [CardSet.mem_insert]
    tauto

/-- Lifting a card leaves the monsters on the board alone. -/
theorem board_liftCard (t : Table) (seat' : Seat) :
    ((liftCard seat card zone t).side seat').board = (t.side seat').board := by
  unfold liftCard
  split
  · rfl
  · next off =>
    show ((t.modifySide seat (·.remove zone card)).side seat').board = _
    rw [Table.side_modifySide]
    split
    · cases zone <;> first | rfl | exact absurd rfl off
    · rfl

theorem isFaceUp_liftCard {s s' : Scene} (lifted : s'.table = liftCard seat card zone s.table)
    (seat' : Seat) (c : CardRef) : isFaceUp s' seat' c = isFaceUp s seat' c := by
  unfold isFaceUp Side.monster? Scene.side
  rw [lifted, board_liftCard]

end

section

variable {seat : Seat} {card : CardRef} {zone : Zone} {printed : Card} {effect : Effect}

/-- The new link has its card. -/
theorem backed_of_linkable {s : Scene} (lifted : s.table = liftCard seat card zone m.table)
    (placed : m.table.Placed []) (ok : Linkable setup m seat card zone printed effect)
    (id : LinkId) (number : Nat) (targets : List CardRef) :
    Link.Backed setup s ⟨id, number, card, seat, effect, targets⟩ printed := by
  obtain ⟨held, kind⟩ := linkZone_ok ok.zone
  have copies : s.table.copies = m.table.copies := by rw [lifted, copies_liftCard]
  refine ⟨?_, ?_, fun creature => ?_, fun other => ?_⟩
  · exact (Setup.card?_of_copies copies _).trans ok.known
  · exact (Table.owner?_of_copies copies _).trans (placed.owned seat zone card held)
  · rw [isFaceUp_liftCard lifted]
    rcases kind with ⟨-, -, up⟩ | ⟨type, -⟩
    · exact up
    · exact absurd creature type
  · rw [lifted]
    refine mem_chained_liftCard.2 (.inr ⟨rfl, ?_⟩)
    rcases kind with ⟨creature, -, -⟩ | ⟨-, rfl | rfl⟩
    · exact absurd creature other
    · decide
    · decide

theorem Coupled.link {targets : List CardRef} {id : LinkId} {chain : Chain} {news : News}
    (h : Coupled setup m) (placed : m.table.Placed []) (active : m.table.isActive)
    (ok : Linkable setup m seat card zone printed effect)
    (added : m.chain.add card seat effect targets = .ok (id, chain)) :
    Coupled setup ({ m.change (liftCard seat card zone) with chain := chain }.record news) := by
  let lifted := (m.toScene.change (liftCard seat card zone)).record news
  have copies : lifted.table.copies = m.table.copies := copies_liftCard _
  obtain ⟨-, -, links, -, -⟩ := Chain.add_ok added
  have new : Link.Backed setup lifted _ printed :=
    backed_of_linkable rfl placed ok id (m.chain.links.length + 1) targets
  refine ⟨h.sound.add added, ?_, ?_, ?_⟩
  · show ∀ link ∈ chain.links, ∃ printed, link.Backed setup lifted printed
    intro link hlink
    rw [links] at hlink
    rcases List.mem_append.1 hlink with old | added
    · obtain ⟨printed, backed⟩ := h.backed link old
      refine ⟨printed, backed.mono copies (fun s c up => ?_) fun c hc => ?_⟩
      · rw [isFaceUp_liftCard rfl]
        exact up
      · exact mem_chained_liftCard.2 (.inl hc)
    · rw [List.mem_singleton.1 added]
      exact ⟨printed, new⟩
  · show ∀ c ∈ lifted.table.chained, ∃ link ∈ chain.links, link.card = c ∧
      ∃ printed, setup.card? lifted.table c = some printed ∧ printed.type ≠ .creature
    intro c hc
    rw [links]
    rcases mem_chained_liftCard.1 hc with old | ⟨rfl, off⟩
    · rw [Setup.card?_of_copies copies]
      obtain ⟨link, hlink, rest⟩ := h.linked c old
      exact ⟨link, List.mem_append_left _ hlink, rest⟩
    · refine ⟨_, List.mem_append_right _ List.mem_cons_self, rfl, printed, new.known, ?_⟩
      rcases (linkZone_ok ok.zone).2 with ⟨-, board, -⟩ | ⟨type, -⟩
      · exact absurd board off
      · exact type
  · intro ended
    have same : lifted.table.isActive = m.table.isActive := Table.isActive_congr (status_liftCard _)
    have ended : lifted.table.isActive = false := ended
    rw [same, active] at ended
    cases ended

end

/-! ## Every stage -/

theorem Coupled.stage (h : Coupled setup m) (placed : m.table.Placed [])
    (stage : Stage setup m ids m') : Coupled setup m' := by
  have linked (c : CardRef) (hc : c ∈ m.table.chained) : c ∈ m.chain.links.map (·.card) := by
    obtain ⟨link, hlink, heq, -⟩ := h.linked c hc
    exact List.mem_map.2 ⟨link, hlink, heq⟩
  cases stage with
  | calm calm quiet => exact h.calm calm quiet
  | link active ok added => exact h.link placed active ok added
  | pass passed => exact h.pass passed
  | resolve resolved =>
    obtain ⟨-, rfl, -, rfl⟩ := Chain.resolve_ok resolved
    refine coupled_of_emptied fun c hc => ?_
    have settled := ((Chain.unchains_settleLinks m.chain.links.reverse placed).chained c).1 hc
    rw [List.map_reverse, List.mem_reverse] at settled
    exact settled.2 (linked c settled.1)
  | finish winner reason =>
    refine coupled_of_emptied fun c hc => ?_
    have cleared := ((unchains_finish winner reason placed).chained c).1 hc
    exact cleared.2 (linked c cleared.1)

theorem coupled_of_stages (stages : Stages setup m ids m') (h : Coupled setup m)
    (placed : m.table.Placed []) : Coupled setup m' := by
  induction stages with
  | refl => exact h
  | tail stages stage ih => exact ih.stage (placed_of_stages stages placed).1 stage

/-! ## The ids of links -/

/-- A stage gives out the ids from the next one on. -/
theorem ids_of_stage (stage : Stage setup m ids m') :
    ids = (List.range' m.chain.nextLink ids.length).map LinkId.mk ∧
      m'.chain.nextLink = m.chain.nextLink + ids.length := by
  cases stage with
  | calm calm _ => exact ⟨rfl, by rw [calm.chain]; rfl⟩
  | link _ _ added =>
    obtain ⟨-, rfl, -, -, next⟩ := Chain.add_ok added
    exact ⟨rfl, next⟩
  | pass passed =>
    obtain ⟨-, -, -, next, -⟩ := Chain.pass_ok passed
    exact ⟨rfl, next⟩
  | resolve resolved =>
    obtain ⟨-, rfl, -, rfl⟩ := Chain.resolve_ok resolved
    exact ⟨rfl, rfl⟩
  | finish winner reason => exact ⟨rfl, rfl⟩

/-- Ids that are given out one after the other. -/
theorem ids_append {ids ids' : List LinkId} {first next last : Nat}
    (h : ids = (List.range' first ids.length).map LinkId.mk ∧ next = first + ids.length)
    (h' : ids' = (List.range' next ids'.length).map LinkId.mk ∧ last = next + ids'.length) :
    ids ++ ids' = (List.range' first (ids ++ ids').length).map LinkId.mk ∧
      last = first + (ids ++ ids').length := by
  obtain ⟨hids, rfl⟩ := h
  obtain ⟨hids', rfl⟩ := h'
  refine ⟨?_, ?_⟩
  · rw [List.length_append, ← List.range'_append_1, List.map_append, ← hids, ← hids']
  · rw [List.length_append]
    omega

theorem ids_of_stages (stages : Stages setup m ids m') :
    ids = (List.range' m.chain.nextLink ids.length).map LinkId.mk ∧
      m'.chain.nextLink = m.chain.nextLink + ids.length := by
  induction stages with
  | refl => exact ⟨rfl, rfl⟩
  | tail _ stage ih => exact ids_append ih (ids_of_stage stage)

theorem coupled_of_plays {plays : List Play} (h : Plays setup m plays m')
    (placed : m.table.Placed []) (coupled : Coupled setup m) :
    Coupled setup m' ∧
      plays.flatMap (·.report.ids) =
        (List.range' m.chain.nextLink (plays.flatMap (·.report.ids)).length).map LinkId.mk ∧
      m'.chain.nextLink = m.chain.nextLink + (plays.flatMap (·.report.ids)).length := by
  induction h with
  | done m => exact ⟨coupled, rfl, rfl⟩
  | next legal rest ih =>
    have stages := play_stages placed legal
    obtain ⟨coupled', ids'⟩ :=
      ih (placed_of_stages stages placed).1 (coupled_of_stages stages coupled placed)
    exact ⟨coupled', ids_append (ids_of_stages stages) ids'⟩

theorem coupled_start (setup : Setup) (lobby : Lobby) (game : GameName) (players : Seats User)
    (decks : Seats (List CardId)) (seed : UInt64) :
    Coupled setup (start setup lobby game players decks seed) := by
  show Coupled setup ⟨(start setup lobby game players decks seed).toScene, Chain.empty.emptied⟩
  refine coupled_of_emptied fun card hc => ?_
  rw [(steady_start setup lobby game players decks seed).chained] at hc
  exact CardSet.not_mem_empty card hc

end Match

namespace Arena

variable {setup : Setup} {calls : List Call} {lobby : Lobby} {m : Match}

theorem coupled_of_live (live : ((start setup).serveAll calls).lobbies lobby = .live m) :
    m.Coupled setup := by
  obtain ⟨opened, ⟨_, _, game, players, decks, seed, -, -, -, rfl⟩, hplays⟩ := live_history live
  exact (Match.coupled_of_plays hplays (Match.placed_start _ _ _ _ _ _)
    (Match.coupled_start _ _ _ _ _ _)).1

/-- Every link that is added has the number of links that were added before as its id. -/
theorem ids_of_live (live : ((start setup).serveAll calls).lobbies lobby = .live m) (k : Nat)
    (id : LinkId)
    (added : (((start setup).plays lobby calls).flatMap (·.report.ids))[k]? = some id) :
    id = ⟨k⟩ := by
  obtain ⟨opened, ⟨_, _, game, players, decks, seed, -, -, -, rfl⟩, hplays⟩ := live_history live
  obtain ⟨-, ids, -⟩ := Match.coupled_of_plays hplays (Match.placed_start _ _ _ _ _ _)
    (Match.coupled_start _ _ _ _ _ _)
  have first : (Match.start setup lobby game players decks seed).chain.nextLink = 0 := rfl
  rw [ids, first, List.getElem?_map] at added
  obtain ⟨n, hn, rfl⟩ := Option.map_eq_some_iff.1 added
  obtain ⟨inside, heq⟩ := List.getElem?_eq_some_iff.1 hn
  rw [List.getElem_range'] at heq
  rw [← heq, Nat.zero_add, Nat.one_mul]

/-- In every live match the links, the state of the protocol and the table agree, and the ids
of links are given out in order over the whole life of the match. -/
theorem chain_coupled (setup : Setup) (calls : List Call) (lobby : Lobby) (m : Match)
    (live : ((start setup).serveAll calls).lobbies lobby = .live m) :
    (m.chain.state = .idle ↔ m.chain.links = []) ∧
      (∀ i link, m.chain.links[i]? = some link → link.number = i + 1) ∧
      (m.chain.links.map (·.card)).Nodup ∧
      (∀ link ∈ m.chain.links, m.table.owner? link.card = some link.controller) ∧
      (∀ card, card ∈ m.table.chained ↔ ∃ link ∈ m.chain.links, link.card = card ∧
        ∃ printed, setup.card? m.table card = some printed ∧ printed.type ≠ .creature) ∧
      (∀ card ∈ m.table.chained, m.table.locate? card = none) ∧
      (∀ link ∈ m.chain.links, ∀ printed, setup.card? m.table link.card = some printed →
        printed.type = .creature → ∃ monster,
          (m.side link.controller).monster? link.card = some monster ∧ monster.facing = .up) ∧
      (∀ awaiting passes, m.chain.state = .window awaiting passes → passes ≤ 1) ∧
      (∀ (k : Nat) (id : LinkId),
        (((start setup).plays lobby calls).flatMap (·.report.ids))[k]? = some id → id = ⟨k⟩) ∧
      (m.result?.isSome → m.chain.state = .idle ∧ m.table.chained = .empty) := by
  have placed := placed_of_live live
  obtain ⟨⟨idle, numbered, nodup, passes⟩, backed, linked, finished⟩ := coupled_of_live live
  have lifted (card : CardRef) : card ∈ m.table.chained ↔
      ∃ link ∈ m.chain.links, link.card = card ∧
        ∃ printed, setup.card? m.table card = some printed ∧ printed.type ≠ .creature := by
    refine ⟨linked card, ?_⟩
    rintro ⟨link, hlink, rfl, printed, known, other⟩
    obtain ⟨printed', backing⟩ := backed link hlink
    rw [backing.known] at known
    cases known
    exact backing.lifted other
  refine ⟨idle, numbered, nodup, fun link hlink => ?_, lifted,
    fun card hc => placed.locate?_of_chained hc, fun link hlink printed known creature => ?_,
    passes, ids_of_live live, fun ended => ?_⟩
  · obtain ⟨printed, backing⟩ := backed link hlink
    exact backing.owned
  · obtain ⟨printed', backing⟩ := backed link hlink
    rw [backing.known] at known
    cases known
    obtain ⟨monster, hmonster, up⟩ := (Option.any_eq_true _ _).1 (backing.faceUp creature)
    refine ⟨monster, hmonster, ?_⟩
    cases hf : monster.facing with
    | up => rfl
    | down => simp [Monster.isFaceDown, hf] at up
  · have inactive : m.table.isActive = false := by
      unfold Match.result? at ended
      cases status : m.table.status with
      | active => simp [status] at ended
      | finished winner reason => simp [Table.isActive, status]
    exact (coupled_of_live live).rests (finished inactive)

/-- The rite is on the chain in the only link. -/
theorem rite_coupled :
    ((start Sample.setup).serveAll (Sample.calls Sample.rite Sample.linking)).lobbies
        Sample.lobby = .live (Sample.after Sample.rite Sample.linking) ∧
      (Sample.after Sample.rite Sample.linking).chain.links.map (·.card) = [⟨0⟩] ∧
      (Sample.after Sample.rite Sample.linking).table.locate? ⟨0⟩ = none := by
  have live : ((start Sample.setup).serveAll (Sample.calls Sample.rite Sample.linking)).lobbies
      Sample.lobby = .live (Sample.after Sample.rite Sample.linking) := by rfl
  have coupled := chain_coupled Sample.setup (Sample.calls Sample.rite Sample.linking)
    Sample.lobby (Sample.after Sample.rite Sample.linking) live
  refine ⟨live, by decide +kernel, coupled.2.2.2.2.2.1 ⟨0⟩ ?_⟩
  decide +kernel

end Arena

end CardDuel
