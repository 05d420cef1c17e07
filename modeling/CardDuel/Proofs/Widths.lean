import CardDuel.Proofs.Field
import CardDuel.Proofs.Marks
import CardDuel.Proofs.Ratings
import CardDuel.Proofs.Snapshots

/-!
# Live tables have room in the format

A snapshot has 4 bytes for the number of a card and 8 bytes for an amount.  What is printed on the
cards is kept in numbers of this width, and so are the life points at the start.  Then the table of
a live match has room in the format, since every sum is wrapped to an amount, and every card that
is named anywhere is one of the two decks.  Only the turns are counted without an end, and a
snapshot tells them modulo 2 ^ 32.

* `Setup.Sized`: what a duel is played with has room in numbers of 4 and 8 bytes.
* `Table.inWords`: a table with the turns that 4 bytes can tell.  `snapshot_inWords`: a snapshot
  tells no more of them.
* `Table.Numbered`: how many cards there are, and that only these are marked as used or negated.
  `numbered_start` and `numbered_of_plays`: the number of cards in the two decks, for a whole match.
* `Arena.sized_of_live`: the table of a live match has room, part by part.
* `Arena.restore_of_live`: so it comes back from its snapshot.
-/

namespace CardDuel

open Resolution

/-! ## What a duel is played with -/

/-- The numbers on a printed card have room: its id in 4 bytes, ATK and DEF in 8. -/
@[mk_iff]
structure Card.Sized (c : Card) : Prop where
  id : IsWord c.id.number
  attack : IsAmount c.attack
  defense : IsAmount c.defense

instance : DecidablePred Card.Sized := fun c => decidable_of_iff' _ (Card.sized_iff c)

/-- The numbers on all printed cards have room, and so have the life points at the start. -/
structure Setup.Sized (setup : Setup) : Prop where
  cards : ∀ entry ∈ setup.catalog.entries, entry.card.Sized
  life : IsAmount setup.rules.startingLife

namespace Setup.Sized

variable {setup : Setup} (h : setup.Sized)

include h

theorem printed {t : Table} {card : CardRef} {printed : Card}
    (known : setup.card? t card = some printed) : printed.Sized := by
  obtain ⟨id, -, listed⟩ := Option.bind_eq_some_iff.1 known
  obtain ⟨entry, found, rfl⟩ := Option.map_eq_some_iff.1 listed
  exact h.cards entry (List.mem_of_find?_eq_some found)

theorem definition {id : CardId} (listed : setup.catalog.contains id) : IsWord id.number := by
  obtain ⟨entry, found⟩ := Option.isSome_iff_exists.1 listed
  have same : entry.card.id = id := by simpa using List.find?_some found
  exact same ▸ (h.cards entry (List.mem_of_find?_eq_some found)).id

end Setup.Sized

/-! ## Turns in 4 bytes -/

/-- The monster with the turn that 4 bytes tell. -/
def Monster.inWords (m : Monster) : Monster := { m with enteredOn := m.enteredOn % 0x100000000 }

/-- The card with the turn that 4 bytes tell. -/
def SetCard.inWords (c : SetCard) : SetCard := { c with setOn := c.setOn % 0x100000000 }

/-- The side with the turns that 4 bytes tell. -/
def Side.inWords (s : Side) : Side where
  __ := s
  board := s.board.map (·.inWords)
  spellTraps := s.spellTraps.map (·.inWords)

/-- The table with the turns that 4 bytes tell. -/
def Table.inWords (t : Table) : Table where
  __ := t
  turn := t.turn % 0x100000000
  sides := ⟨t.sides.host.inWords, t.sides.opponent.inWords⟩

theorem Codec.digits_mod (width n : Nat) : digits width (n % capacity width) = digits width n := by
  induction width generalizing n with
  | zero => rfl
  | succ width ih =>
    have low : UInt8.ofNat (n % capacity (width + 1)) = UInt8.ofNat n := by
      refine UInt8.toNat_inj.1 ?_
      rw [UInt8.toNat_ofNat', UInt8.toNat_ofNat']
      exact Nat.mod_mul_right_mod n 256 (capacity width)
    have high : n % capacity (width + 1) / 256 = n / 256 % capacity width :=
      Nat.mod_mul_right_div_self n 256 (capacity width)
    rw [digits, digits, low, high, ih]

namespace Snapshot

open Codec

theorem word_mod (n : Nat) : word.write (n % 0x100000000) = word.write n := digits_mod 4 n

theorem items_map {α : Type} {c : Codec α} {f : α → α} (same : ∀ a, c.write (f a) = c.write a)
    (as : List α) : (items c).write (as.map f) = (items c).write as := by
  show (nat 8).write (as.map f).length ++ (as.map f).flatMap c.write = _
  rw [List.length_map, List.flatMap_map]
  simp only [same]
  rfl

theorem monster_inWords (m : Monster) : monster.write m.inWords = monster.write m := by
  simp only [monster, Codec.iso, Codec.convert, Codec.pair, Monster.inWords, word_mod]

theorem setCard_inWords (c : SetCard) : setCard.write c.inWords = setCard.write c := by
  simp only [setCard, Codec.iso, Codec.convert, Codec.pair, SetCard.inWords, word_mod]

theorem side_inWords (s : Side) : side.write s.inWords = side.write s := by
  simp only [side, Codec.iso, Codec.convert, Codec.pair, Side.inWords,
    items_map monster_inWords, items_map setCard_inWords]

end Snapshot

namespace Table

variable {t t' : Table} {count : Nat} {card : CardRef}

/-- A snapshot tells the turns in 4 bytes. -/
theorem snapshot_inWords (t : Table) : t.inWords.snapshot = t.snapshot := by
  simp only [snapshot, Snapshot.table, Snapshot.sides, Codec.iso, Codec.convert, Codec.pair,
    Table.inWords, Snapshot.word_mod, Snapshot.side_inWords]

/-! ## How many cards there are -/

/-- So many cards have been numbered, and only these are marked as used or negated. -/
structure Numbered (count : Nat) (t : Table) : Prop where
  next : t.nextCard = count
  fresh : t.Fresh
  used : ∀ card ∈ t.used, t.knows card
  negated : ∀ card ∈ t.negated, t.knows card

namespace Numbered

variable (h : t.Numbered count)

include h

theorem number_lt (known : t.knows card) : card.number < count := by
  have below : card.number < t.nextCard := h.fresh card (mem_keys_iff.2 known)
  rwa [h.next] at below

/-- Different cards are no more than there are numbers. -/
theorem length_le {cards : List CardRef} (once : cards.Nodup)
    (known : ∀ card ∈ cards, t.knows card) : cards.length ≤ count := by
  have apart : (cards.map (·.number)).Nodup :=
    once.map fun a b same => by cases a; cases b; simp_all
  have below : cards.map (·.number) ⊆ List.range count := by
    intro number given
    obtain ⟨card, hm, rfl⟩ := List.mem_map.1 given
    exact List.mem_range.2 (h.number_lt (known card hm))
  simpa using (List.subperm_of_subset apart below).length_le

/-- Different cards have room in a list. -/
theorem isList (few : IsWord count) {cards : List CardRef} (once : cards.Nodup)
    (known : ∀ card ∈ cards, t.knows card) : IsList CardRef.Sized cards :=
  ⟨Nat.lt_trans (Nat.lt_of_le_of_lt (h.length_le once known) few) (by decide),
    fun card hm => Nat.lt_trans (h.number_lt (known card hm)) few⟩

end Numbered

theorem marks_addCards (t : Table) (owner : Seat) (definitions : List CardId) :
    (t.addCards owner definitions).used = t.used ∧
      (t.addCards owner definitions).negated = t.negated := by
  induction definitions generalizing t with
  | nil => exact ⟨rfl, rfl⟩
  | cons definition rest ih => exact ih (t.addCard owner definition).2

theorem numbered_decked (rules : Rules) (decks : Seats (List CardId)) (seed : UInt64) :
    (Match.decked rules decks seed).Numbered (decks.host.length + decks.opponent.length) := by
  let t₁ := ((start rules seed).addCards .host decks.host).shuffleDeck .host
  obtain ⟨placed, fresh, next, -⟩ :=
    addCards_spec .host decks.host (placed_of_start rules seed) (fresh_start rules seed)
  have placed₁ : t₁.Placed [] := placed.rearranged (rearranged_shuffleDeck _ _)
  have fresh₁ : t₁.Fresh := fresh
  obtain ⟨-, fresh₂, next₂, -⟩ := addCards_spec .opponent decks.opponent placed₁ fresh₁
  obtain ⟨used, negated⟩ := marks_addCards (start rules seed) .host decks.host
  obtain ⟨used₂, negated₂⟩ := marks_addCards t₁ .opponent decks.opponent
  have unused : (Match.decked rules decks seed).used = .empty := used₂.trans used
  have unnegated : (Match.decked rules decks seed).negated = .empty := negated₂.trans negated
  refine ⟨next₂.trans ?_, fresh₂, fun card hm => ?_, fun card hm => ?_⟩
  · have next₁ : t₁.nextCard = decks.host.length := next.trans (Nat.zero_add _)
    rw [next₁]
  · rw [unused] at hm
    exact absurd hm (CardSet.not_mem_empty card)
  · rw [unnegated] at hm
    exact absurd hm (CardSet.not_mem_empty card)

end Table

theorem Scene.Marked.numbered {s s' : Scene} {beyond : Bool} {count : Nat} (h : s.Marked beyond s')
    (n : s.table.Numbered count) : s'.table.Numbered count where
  next := h.nextCard.trans n.next
  fresh card hm := by
    rw [h.copies] at hm
    rw [h.nextCard]
    exact n.fresh card hm
  used card hm := by
    rw [Table.knows_of_copies h.copies]
    exact (h.used card hm).elim (n.used card) id
  negated card hm := by
    rw [Table.knows_of_copies h.copies]
    exact (h.negated card hm).elim (n.negated card) id

namespace Match

variable {setup : Setup} {m m' : Match} {plays : List Play} {count : Nat}

theorem numbered_start (setup : Setup) (lobby : Lobby) (game : GameName) (players : Seats User)
    (decks : Seats (List CardId)) (seed : UInt64) :
    (start setup lobby game players decks seed).table.Numbered
      (decks.host.length + decks.opponent.length) := by
  let Kept (s : Scene) : Prop := s.table.Numbered (decks.host.length + decks.opponent.length)
  have drawing (seat : Seat) (count : Nat) (s : Scene) (h : Kept s) : Kept (draw seat count s).2 :=
    (marked_draw seat count s).numbered h
  have ready : Kept (ready setup (.start lobby game players) decks seed) :=
    Table.numbered_decked setup.rules decks seed
  have started : Kept ((Match.ready setup (.start lobby game players) decks seed).record
    (startNews players seed)) := ready
  have dealt : Kept (((Match.ready setup (.start lobby game players) decks seed).record
      (startNews players seed)).each (fun seat => draw seat setup.rules.startingHand) Seat.all).2 :=
    Scene.each_keeps (drawing · setup.rules.startingHand) Seat.all started
  have mainPhase (s : Scene) (h : Kept s) :
      Kept ((s.change ({ · with phase := .main1 })).record (phaseNews .host .main1)) :=
    ⟨h.next, h.fresh, h.used, h.negated⟩
  unfold start opening
  dsimp only
  split
  · exact mainPhase _ (drawing .host 1 _ dealt)
  · exact mainPhase _ dealt

theorem numbered_of_plays (h : Plays setup m plays m') (placed : m.table.Placed [])
    (coupled : Coupled setup m) (numbered : m.table.Numbered count) :
    m'.table.Numbered count := by
  let Kept (m : Match) : Prop :=
    m.table.Placed [] ∧ Coupled setup m ∧ m.table.Numbered count
  have step (p : Play) (legal : p.Legal setup) (kept : Kept p.before) : Kept p.after := by
    obtain ⟨placed, coupled, numbered⟩ := kept
    have stages := play_stages placed legal
    exact ⟨(placed_of_stages stages placed).1, coupled_of_stages stages coupled placed,
      (marked_play coupled legal).numbered numbered⟩
  exact (h.keeps Kept step ⟨placed, coupled, numbered⟩).2.2

end Match

/-- What a table knows of a numbered card. -/
theorem mem_numbered {owner : Seat} {first : Nat} {definitions : List CardId}
    {e : CardRef × Copy} (there : e ∈ numbered owner first definitions) :
    e.2.card = e.1 ∧ e.2.definition ∈ definitions := by
  obtain ⟨⟨definition, number⟩, listed, rfl⟩ := List.mem_map.1 there
  exact ⟨rfl, List.fst_mem_of_mem_zipIdx listed⟩

/-! ## Live tables -/

namespace Arena

variable {setup : Setup} {calls : List Call} {lobby : Lobby} {m : Match}

/-- Every match that is opened in the lobby has fewer cards than 4 bytes can number. -/
def FewCards (lobby : Lobby) (calls : List Call) : Prop :=
  ∀ game players decks seed, .createMatch lobby game players decks seed ∈ calls →
    IsWord (decks.host.length + decks.opponent.length)

/-- The cards of a live match, and what is known of them. -/
theorem numbered_of_live (sized : setup.Sized) (few : FewCards lobby calls)
    (live : ((start setup).serveAll calls).lobbies lobby = .live m) :
    ∃ count, IsWord count ∧ m.table.Numbered count ∧
      ∀ e ∈ m.table.copies.toList, e.2.card = e.1 ∧ IsWord e.2.definition.number := by
  obtain ⟨opened, ⟨earlier, later, game, players, decks, seed, hcalls, -, created, rfl⟩,
    hplays⟩ := live_history live
  have called : Call.createMatch lobby game players decks seed ∈ calls := by
    rw [hcalls]
    exact List.mem_append_right _ List.mem_cons_self
  have begins := Match.placed_start setup lobby game players decks seed
  refine ⟨_, few game players decks seed called,
    Match.numbered_of_plays hplays begins (Match.coupled_start _ _ _ _ _ _)
      (Match.numbered_start _ _ _ _ _ _), fun e hm => ?_⟩
  have listed := (created_ok created).1
  rw [setup_serveAll] at listed
  rw [(Match.placed_of_plays hplays begins).2, Match.copies_start] at hm
  rcases List.mem_append.1 hm with hm | hm
  · obtain ⟨same, definition⟩ := mem_numbered hm
    exact ⟨same, sized.definition (listed _ (List.mem_append_left _ definition))⟩
  · obtain ⟨same, definition⟩ := mem_numbered hm
    exact ⟨same, sized.definition (listed _ (List.mem_append_right _ definition))⟩

/-- A side of a live match has room. -/
theorem side_sized_of_live (sized : setup.Sized) (few : FewCards lobby calls)
    (live : ((start setup).serveAll calls).lobbies lobby = .live m) (seat : Seat) :
    (m.side seat).inWords.Sized := by
  obtain ⟨count, room, numbered, -⟩ := numbered_of_live sized few live
  have placed := placed_of_live live
  have legal := legal_of_live live
  have zone (zone : Zone) : IsList CardRef.Sized ((m.side seat).cardsIn zone) :=
    numbered.isList room (placed.nodup_cardsIn seat zone) fun _ held => placed.knows_of_held held
  have monster (monster : Monster) (hm : monster ∈ (m.side seat).board) :
      monster.inWords.Sized := by
    obtain ⟨-, ⟨printed, known, attack⟩, bonus, -⟩ :=
      (recounts_of_live live).monsters seat monster hm
    obtain ⟨printed', known', -, -, defense⟩ := (legal.monsters seat monster hm).printed
    obtain rfl : printed = printed' := Option.some.inj (known.symm.trans known')
    have printed := sized.printed known
    exact {
      card := (zone .board).2 monster.card (List.mem_map_of_mem hm)
      attack := by
        show IsAmount monster.attack
        rw [attack]
        exact isAmount_lasting printed.attack
      defense := by
        show IsAmount monster.defense
        rw [defense]
        exact printed.defense
      bonus := by
        show IsAmount monster.bonus
        rw [bonus]
        exact isAmount_wrap _
      enteredOn := Nat.mod_lt _ (by decide) }
  exact {
    hand := zone .hand
    deck := zone .deck
    graveyard := zone .graveyard
    banished := zone .banished
    board := by
      refine ⟨?_, fun m' there => ?_⟩
      · have few := (zone .board).1
        simpa [Side.inWords, Side.cardsIn] using few
      · obtain ⟨old, hm, rfl⟩ := List.mem_map.1 there
        exact monster old hm
    spellTraps := by
      refine ⟨?_, fun laid there => ?_⟩
      · have few := (zone .spellTrap).1
        simpa [Side.inWords, Side.cardsIn] using few
      · obtain ⟨old, hm, rfl⟩ := List.mem_map.1 there
        exact ⟨(zone .spellTrap).2 old.card (List.mem_map_of_mem hm), Nat.mod_lt _ (by decide)⟩
    life := ((replays_of_live live).life seat).amount sized.life |>.1 }

/-- The table of a live match has room in the format, apart from the number of its turns. -/
theorem sized_of_live (sized : setup.Sized) (few : FewCards lobby calls)
    (live : ((start setup).serveAll calls).lobbies lobby = .live m) : m.table.inWords.Sized := by
  obtain ⟨count, room, numbered, copies⟩ := numbered_of_live sized few live
  have placed := placed_of_live live
  have keys : IsList CardRef.Sized m.table.copies.keys :=
    numbered.isList room m.table.copies.nodup_keys fun card hm => Table.mem_keys_iff.1 hm
  exact {
    turn := Nat.mod_lt _ (by decide)
    host := side_sized_of_live sized few live .host
    opponent := side_sized_of_live sized few live .opponent
    copies := by
      refine ⟨by simpa [CardMap.keys, Table.inWords] using keys.1, fun e hm => ?_⟩
      have card : e.1.Sized := keys.2 e.1 (List.mem_map_of_mem hm)
      obtain ⟨same, definition⟩ := copies e hm
      exact ⟨card, same ▸ card, definition⟩
    used := numbered.isList room m.table.used.nodup fun card hm => numbered.used card hm
    negated := numbered.isList room m.table.negated.nodup fun card hm => numbered.negated card hm
    chained := numbered.isList room m.table.chained.nodup fun card hm => by
      have counted : card ∈ m.table.census := List.mem_append_right _ hm
      exact placed.knows counted
    nextCard := numbered.next ▸ room }

/-- The table of a live match comes back from its snapshot, with the turns that 4 bytes tell. -/
theorem restore_of_live (sized : setup.Sized) (few : FewCards lobby calls)
    (live : ((start setup).serveAll calls).lobbies lobby = .live m) :
    Table.restore m.table.snapshot = .ok m.table.inWords := by
  have read := (Table.isSnapshot_snapshot m.table.inWords).spells (sized_of_live sized few live) []
  rw [List.append_nil, Table.snapshot_inWords] at read
  rw [Table.restore, read]

/-- As long as 4 bytes can count the turns nothing is lost. -/
theorem inWords_of_live (live : ((start setup).serveAll calls).lobbies lobby = .live m)
    (short : IsWord m.table.turn) : m.table.inWords = m.table := by
  have legal := legal_of_live live
  have side (seat : Seat) : (m.side seat).inWords = m.side seat := by
    have board : (m.side seat).board.map (·.inWords) = (m.side seat).board := by
      refine (List.map_congr_left fun monster hm => ?_).trans (List.map_id _)
      have entered := (legal.monsters seat monster hm).entered
      rw [Monster.inWords, Nat.mod_eq_of_lt (Nat.lt_of_le_of_lt entered short)]
      rfl
    have spellTraps : (m.side seat).spellTraps.map (·.inWords) = (m.side seat).spellTraps := by
      refine (List.map_congr_left fun laid hm => ?_).trans (List.map_id _)
      have entered := (legal.setCards seat laid hm).entered
      rw [SetCard.inWords, Nat.mod_eq_of_lt (Nat.lt_of_le_of_lt entered short)]
      rfl
    rw [Side.inWords, board, spellTraps]
  have host : m.table.sides.host.inWords = m.table.sides.host := side .host
  have opponent : m.table.sides.opponent.inWords = m.table.sides.opponent := side .opponent
  rw [Table.inWords, Nat.mod_eq_of_lt short, host, opponent]

end Arena

end CardDuel
