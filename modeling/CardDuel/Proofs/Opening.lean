import CardDuel.Match
import CardDuel.Proofs.Steps

/-!
# How a match begins

The physical cards of a match are those of the two decks.  They are numbered in the order of
the lists, those of the host first, and every card lies in its place from the beginning.

* `numbered`: the physical cards of one deck.
* `Table.Fresh`: the numbers that are yet to be given are not in use.
* `copies_start` and `placed_start`: the cards of a match that begins, and where they lie.
* `players_start`: who plays in it.
-/

namespace CardDuel

open Resolution

/-- The physical cards of a deck, numbered from `first` on. -/
def numbered (owner : Seat) (first : Nat) (definitions : List CardId) : List (CardRef × Copy) :=
  (definitions.zipIdx first).map fun (definition, number) =>
    (⟨number⟩, ⟨⟨number⟩, definition, owner⟩)

namespace CardMap

variable {α : Type}

theorem toList_insert_of_lt {m : CardMap α} {card : CardRef} (value : α)
    (h : ∀ c ∈ m.keys, c < card) : (m.insert card value).toList = m.toList ++ [(card, value)] :=
  insertInto_of_lt fun e he => h e.1 (List.mem_map_of_mem he)

end CardMap

namespace Table

variable {t : Table}

/-- The numbers from the next one on are not in use. -/
def Fresh (t : Table) : Prop := ∀ card ∈ t.copies.keys, card < ⟨t.nextCard⟩

theorem fresh_start (rules : Rules) (seed : UInt64) : (start rules seed).Fresh :=
  fun _ h => absurd h List.not_mem_nil

theorem placed_of_start (rules : Rules) (seed : UInt64) : (start rules seed).Placed [] := by
  refine ⟨.refl _, fun seat zone card hm => ?_⟩
  cases seat <;> cases zone <;> exact absurd hm List.not_mem_nil

section

variable (owner : Seat) (definition : CardId)

theorem copies_addCard (fresh : t.Fresh) :
    (t.addCard owner definition).2.copies.toList =
      t.copies.toList ++ numbered owner t.nextCard [definition] :=
  CardMap.toList_insert_of_lt _ fresh

theorem keys_addCard (fresh : t.Fresh) :
    (t.addCard owner definition).2.copies.keys = t.copies.keys ++ [⟨t.nextCard⟩] := by
  rw [CardMap.keys, copies_addCard owner definition fresh, List.map_append]
  rfl

theorem fresh_addCard (fresh : t.Fresh) : (t.addCard owner definition).2.Fresh := by
  intro card hm
  rw [keys_addCard owner definition fresh] at hm
  show card.number < t.nextCard + 1
  rcases List.mem_append.1 hm with old | new
  · exact Nat.lt_succ_of_lt (fresh card old)
  · rw [List.mem_singleton.1 new]
    exact Nat.lt_succ_self _

theorem placed_addCard (h : t.Placed []) (fresh : t.Fresh) :
    (t.addCard owner definition).2.Placed [] := by
  let card : CardRef := ⟨t.nextCard⟩
  let dealt : Table := { t with
    nextCard := t.nextCard + 1
    copies := t.copies.insert card ⟨card, definition, owner⟩ }
  let change (side : Side) : Side := { side with deck := side.deck ++ [card] }
  have added : (change (dealt.side owner)).cards.Perm (card :: (dealt.side owner).cards) := by
    show ((dealt.side owner).setPile .deck ((dealt.side owner).pile .deck ++ [card])).cards.Perm _
    exact Side.setPile_perm [] [card] (List.perm_append_singleton _ _)
  refine ⟨?_, ?_⟩
  · rw [keys_addCard owner definition fresh]
    have census : (t.addCard owner definition).2.census.Perm (card :: t.census) :=
      census_modifySide [] [card] added
    refine census.trans ((h.once.cons card).trans ?_)
    exact (List.perm_append_singleton _ _).symm
  · have known (c : CardRef) (hc : c ≠ card) : dealt.owner? c = t.owner? c := by
      show ((t.copies.insert card _).get? c).map _ = _
      rw [CardMap.get?_insert, if_neg hc]
      rfl
    have mine : dealt.owner? card = some owner := by
      show ((t.copies.insert card _).get? card).map _ = _
      rw [CardMap.get?_insert, if_pos rfl]
      rfl
    have owned : dealt.Owned := by
      intro seat zone c hm
      have old : c ∈ t.copies.keys := mem_keys_iff.2 (h.knows_of_held hm)
      have hc : c ≠ card := by
        rintro rfl
        exact CardRef.lt_irrefl card (fresh card old)
      rw [known c hc]
      exact h.owned seat zone c hm
    refine owned.modifySide fun c hc => ?_
    rcases List.mem_cons.1 (added.mem_iff.1 hc) with rfl | hm
    · exact .inr mine
    · exact .inl hm

end

/-- Adding a deck keeps every card in its place, and gives the cards their numbers. -/
theorem addCards_spec (owner : Seat) (definitions : List CardId) (h : t.Placed [])
    (fresh : t.Fresh) :
    (t.addCards owner definitions).Placed [] ∧ (t.addCards owner definitions).Fresh ∧
      (t.addCards owner definitions).nextCard = t.nextCard + definitions.length ∧
      (t.addCards owner definitions).copies.toList =
        t.copies.toList ++ numbered owner t.nextCard definitions := by
  induction definitions generalizing t with
  | nil => exact ⟨h, fresh, rfl, (List.append_nil _).symm⟩
  | cons definition rest ih =>
    obtain ⟨placed, fresh', next, copies⟩ :=
      ih (placed_addCard owner definition h fresh) (fresh_addCard owner definition fresh)
    refine ⟨placed, fresh', ?_, ?_⟩
    · refine next.trans ?_
      show t.nextCard + 1 + rest.length = t.nextCard + (rest.length + 1)
      omega
    · refine copies.trans ?_
      rw [copies_addCard owner definition fresh, List.append_assoc]
      rfl

/-! ## What dealing leaves alone -/

/-- It is the same turn, and the life points, the field and the cards on the chain are as they
were. -/
structure Steady (t t' : Table) : Prop where
  status : t'.status = t.status
  turn : t'.turn = t.turn
  current : t'.current = t.current
  chained : t'.chained = t.chained
  life : ∀ seat, (t'.side seat).life = (t.side seat).life
  board : ∀ seat, (t'.side seat).board = (t.side seat).board
  spellTraps : ∀ seat, (t'.side seat).spellTraps = (t.side seat).spellTraps

theorem Steady.refl (t : Table) : Steady t t :=
  ⟨rfl, rfl, rfl, rfl, fun _ => rfl, fun _ => rfl, fun _ => rfl⟩

theorem Steady.trans {t' t'' : Table} (h : Steady t t') (h' : Steady t' t'') : Steady t t'' :=
  ⟨h'.status.trans h.status, h'.turn.trans h.turn, h'.current.trans h.current,
    h'.chained.trans h.chained, fun seat => (h'.life seat).trans (h.life seat),
    fun seat => (h'.board seat).trans (h.board seat),
    fun seat => (h'.spellTraps seat).trans (h.spellTraps seat)⟩

/-- A change of the piles of one side. -/
theorem steady_modifySide (t : Table) (seat : Seat) (change : Side → Side)
    (h : ∀ side, (change side).life = side.life ∧ (change side).board = side.board ∧
      (change side).spellTraps = side.spellTraps) : Steady t (t.modifySide seat change) := by
  refine ⟨rfl, rfl, rfl, rfl, fun seat' => ?_, fun seat' => ?_, fun seat' => ?_⟩
  all_goals
    obtain ⟨life, board, spellTraps⟩ := h (t.side seat')
    rw [side_modifySide]
    split <;> first | rfl | assumption

theorem steady_shuffleDeck (t : Table) (seat : Seat) : Steady t (t.shuffleDeck seat) := by
  have turned := t.steady_modifySide seat
    ({ · with deck := (t.rng.shuffle (t.side seat).deck).1 }) fun _ => ⟨rfl, rfl, rfl⟩
  exact ⟨turned.status, turned.turn, turned.current, turned.chained, turned.life, turned.board,
    turned.spellTraps⟩

theorem steady_addCards (owner : Seat) (definitions : List CardId) :
    Steady t (t.addCards owner definitions) := by
  induction definitions generalizing t with
  | nil => exact .refl t
  | cons definition rest ih =>
    have first : Steady t (t.addCard owner definition).2 := by
      have placed := t.steady_modifySide owner
        (fun side => { side with deck := side.deck ++ [⟨t.nextCard⟩] }) fun _ => ⟨rfl, rfl, rfl⟩
      exact ⟨placed.status, placed.turn, placed.current, placed.chained, placed.life,
        placed.board, placed.spellTraps⟩
    exact first.trans ih

theorem steady_draw (seat : Seat) (count : Nat) (s : Scene) :
    Steady s.table (draw seat count s).2.table := by
  have turned := s.table.steady_modifySide seat (·.turnOver count .hand) fun _ => ⟨rfl, rfl, rfl⟩
  unfold draw
  dsimp only
  split <;> exact turned

/-- The cards of both decks, before anything is drawn. -/
theorem decked_spec (rules : Rules) (decks : Seats (List CardId)) (seed : UInt64) :
    (Match.decked rules decks seed).Placed [] ∧
      (Match.decked rules decks seed).copies.toList =
        numbered .host 0 decks.host ++ numbered .opponent decks.host.length decks.opponent := by
  let t₀ := start rules seed
  let t₁ := (t₀.addCards .host decks.host).shuffleDeck .host
  have host := addCards_spec .host decks.host (placed_of_start rules seed) (fresh_start rules seed)
  have shuffled : t₁.Placed [] := host.1.rearranged (rearranged_shuffleDeck _ _)
  have fresh : t₁.Fresh := host.2.1
  have opponent := addCards_spec .opponent decks.opponent shuffled fresh
  refine ⟨opponent.1.rearranged (rearranged_shuffleDeck _ _), ?_⟩
  refine opponent.2.2.2.trans ?_
  have next : t₁.nextCard = decks.host.length := host.2.2.1.trans (Nat.zero_add _)
  have copies : t₁.copies.toList = numbered .host 0 decks.host := host.2.2.2
  rw [next, copies]

theorem steady_decked (rules : Rules) (decks : Seats (List CardId)) (seed : UInt64) :
    Steady (start rules seed) (Match.decked rules decks seed) :=
  (((steady_addCards .host decks.host).trans (steady_shuffleDeck _ _)).trans
    (steady_addCards .opponent decks.opponent)).trans (steady_shuffleDeck _ _)

end Table

namespace Match

variable (setup : Setup) (lobby : Lobby) (game : GameName) (players : Seats User)
  (decks : Seats (List CardId)) (seed : UInt64)

/-- What is drawn before a match begins is only rearranged. -/
theorem start_spec :
    let m := start setup lobby game players decks seed
    Table.Rearranged (decked setup.rules decks seed) m.table ∧
      Table.Steady (decked setup.rules decks seed) m.table ∧
      Log.Extends (.start lobby game players) m.log := by
  let ready := ready setup (.start lobby game players) decks seed
  let Kept (s : Scene) : Prop := Scene.Affected ready s ∧ Table.Steady ready.table s.table
  have drawing (seat : Seat) (count : Nat) (s : Scene) (h : Kept s) : Kept (draw seat count s).2 :=
    ⟨h.1.trans (affected_draw setup seat count s), h.2.trans (Table.steady_draw seat count s)⟩
  have recording (news : News) (s : Scene) (h : Kept s) : Kept (s.record news) :=
    ⟨h.1.trans (Scene.affected_record s news), h.2⟩
  have started := recording (startNews players seed) ready ⟨.refl _, .refl _⟩
  have dealt := Scene.each_keeps (drawing · setup.rules.startingHand) Seat.all started
  have begun := recording (turnNews .host 1) _ dealt
  have mainPhase (s : Scene) (h : Kept s) :
      let there := (s.change ({ · with phase := .main1 })).record (phaseNews .host .main1)
      Table.Rearranged ready.table there.table ∧ Table.Steady ready.table there.table ∧
        Log.Extends ready.log there.log :=
    ⟨⟨h.1.table.copies, h.1.table.census, h.1.table.owned⟩,
      ⟨h.2.status, h.2.turn, h.2.current, h.2.chained, h.2.life, h.2.board, h.2.spellTraps⟩,
      h.1.log.trans (Log.extends_record _ _ _)⟩
  unfold start opening
  dsimp only
  split
  · exact mainPhase _ (drawing .host 1 _ begun)
  · exact mainPhase _ begun

theorem placed_start : (start setup lobby game players decks seed).table.Placed [] :=
  (Table.decked_spec setup.rules decks seed).1.rearranged
    (start_spec setup lobby game players decks seed).1

theorem copies_start :
    (start setup lobby game players decks seed).table.copies.toList =
      numbered .host 0 decks.host ++ numbered .opponent decks.host.length decks.opponent := by
  rw [(start_spec setup lobby game players decks seed).1.copies]
  exact (Table.decked_spec setup.rules decks seed).2

theorem players_start : (start setup lobby game players decks seed).players = players :=
  (start_spec setup lobby game players decks seed).2.2.players

theorem steady_start : Table.Steady (Table.start setup.rules seed)
    (start setup lobby game players decks seed).table :=
  (Table.steady_decked setup.rules decks seed).trans
    (start_spec setup lobby game players decks seed).2.1

theorem board_start (seat : Seat) :
    ((start setup lobby game players decks seed).table.side seat).board = [] := by
  rw [(steady_start setup lobby game players decks seed).board]
  cases seat <;> rfl

end Match

end CardDuel
