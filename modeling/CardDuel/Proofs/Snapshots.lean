import CardDuel.Amount
import CardDuel.Snapshot
import Mathlib.Tactic.MkIffOfInductiveProp

/-!
# Snapshots bring tables back

A snapshot may list the map and the sets of a table in any order.  Whatever the order is, the
table comes back whole: every zone, every mark of the turn, and the place in the stream of
chances, so that the duel goes on with the same shuffles.  Bytes behind a snapshot do not matter,
and no part of a snapshot is taken for a whole one.

* `Codec.Spells`: bytes that are read as a value, in front of any others.
* `Table.Sized`: the tables whose numbers have room in the format.
* `Table.IsSnapshot`: the bytes that spell a table.
* `Table.restore_snapshot`: what is restored from them, from more and from less.
-/

namespace CardDuel

/-! ## Bytes that are read as a value -/

namespace Codec

variable {α β : Type} {c : Codec α} {d : Codec β} {bytes more front : List UInt8} {a : α} {b : β}

/-- The bytes are read as the value, in front of any others. -/
def Spells (c : Codec α) (bytes : List UInt8) (a : α) : Prop :=
  ∀ rest, c.read (bytes ++ rest) = some (a, rest)

theorem spells_write (fits : c.Fits a) : c.Spells (c.write a) a :=
  fun rest => c.read_write a rest fits

theorem Spells.pair (first : c.Spells bytes a) (second : d.Spells more b) :
    (c.pair d).Spells (bytes ++ more) (a, b) := by
  intro rest
  have front : c.read (bytes ++ more ++ rest) = some (a, more ++ rest) := by
    rw [List.append_assoc]
    exact first (more ++ rest)
  have back : d.read (more ++ rest) = some (b, rest) := second rest
  simp only [Codec.pair, front, back, Option.bind_some, Option.map_some]

theorem Spells.iso {out : β → α} {into : α → β} {inverse : ∀ b, into (out b) = b}
    (h : c.Spells bytes a) : (c.iso out into inverse).Spells bytes (into a) := by
  intro rest
  simp only [Codec.iso, convert, h rest, Option.bind_some, Option.map_some]

/-- Bytes that are only the beginning of what spells a value hold no value. -/
theorem Spells.read_front (h : c.Spells bytes a) (part : front <+: bytes) (less : front ≠ bytes) :
    c.read front = none := by
  obtain ⟨missing, rfl⟩ := part
  cases found : c.read front with
  | none => rfl
  | some taken =>
    obtain ⟨b, rest⟩ := taken
    have long : c.read (front ++ missing) = some (b, rest ++ missing) :=
      c.read_append front rest missing b found
    have whole := h []
    rw [List.append_nil, long] at whole
    obtain ⟨-, nothing⟩ := Prod.mk.inj (Option.some.inj whole)
    have none : missing = [] := (List.append_eq_nil_iff.1 nothing).2
    rw [none, List.append_nil] at less
    exact absurd rfl less

end Codec

/-! ## What has room in the format -/

/-- A number that has room in 4 bytes. -/
def IsWord (n : Nat) : Prop := n < 0x100000000

instance : DecidablePred IsWord := fun n => inferInstanceAs (Decidable (n < 0x100000000))

/-- A list whose length has room in 8 bytes and whose items have room. -/
def IsList {α : Type} (Room : α → Prop) (as : List α) : Prop :=
  as.length < 0x10000000000000000 ∧ ∀ a ∈ as, Room a

/-- A physical card whose number has room. -/
def CardRef.Sized (card : CardRef) : Prop := IsWord card.number

instance : DecidablePred CardRef.Sized := fun card =>
  inferInstanceAs (Decidable (IsWord card.number))

@[mk_iff]
structure Monster.Sized (m : Monster) : Prop where
  card : m.card.Sized
  attack : IsAmount m.attack
  defense : IsAmount m.defense
  bonus : IsAmount m.bonus
  enteredOn : IsWord m.enteredOn

@[mk_iff]
structure SetCard.Sized (c : SetCard) : Prop where
  card : c.card.Sized
  setOn : IsWord c.setOn

@[mk_iff]
structure Side.Sized (s : Side) : Prop where
  hand : IsList CardRef.Sized s.hand
  deck : IsList CardRef.Sized s.deck
  graveyard : IsList CardRef.Sized s.graveyard
  banished : IsList CardRef.Sized s.banished
  board : IsList Monster.Sized s.board
  spellTraps : IsList SetCard.Sized s.spellTraps
  life : IsAmount s.life

@[mk_iff]
structure Copy.Sized (c : Copy) : Prop where
  card : c.card.Sized
  definition : IsWord c.definition.number

/-- A table whose numbers have room in the format. -/
@[mk_iff]
structure Table.Sized (t : Table) : Prop where
  turn : IsWord t.turn
  host : t.sides.host.Sized
  opponent : t.sides.opponent.Sized
  copies : IsList (fun e => e.1.Sized ∧ e.2.Sized) t.copies.toList
  used : IsList CardRef.Sized t.used.toList
  negated : IsList CardRef.Sized t.negated.toList
  chained : IsList CardRef.Sized t.chained.toList
  nextCard : IsWord t.nextCard

instance {α : Type} (Room : α → Prop) [DecidablePred Room] : DecidablePred (IsList Room) :=
  fun as => inferInstanceAs (Decidable (as.length < 0x10000000000000000 ∧ ∀ a ∈ as, Room a))

instance : DecidablePred Monster.Sized := fun m => decidable_of_iff' _ (Monster.sized_iff m)

instance : DecidablePred SetCard.Sized := fun c => decidable_of_iff' _ (SetCard.sized_iff c)

instance : DecidablePred Side.Sized := fun s => decidable_of_iff' _ (Side.sized_iff s)

instance : DecidablePred Copy.Sized := fun c => decidable_of_iff' _ (Copy.sized_iff c)

instance : DecidablePred Table.Sized := fun t => decidable_of_iff' _ (Table.sized_iff t)

/-! ## The codecs of a table -/

namespace Snapshot

open Codec

/-- A table with the entries of its map and the members of its sets in a certain order. -/
def listed : Codec (Nat × Seat × Phase × Status × Seats Side × List (CardRef × Copy) ×
    List CardRef × List CardRef × List CardRef × Rng × Nat) :=
  word.pair <| seat.pair <| phase.pair <| status.pair <| sides.pair <|
    (items (Snapshot.card.pair copy)).pair <| cards.pair <| cards.pair <| cards.pair <|
      rng.pair word

theorem word_fits {n : Nat} (h : IsWord n) : word.Fits n := h

theorem amount_fits {i : Int} (h : IsAmount i) : amount.Fits i := by
  have room : capacity 8 = 0x10000000000000000 := by decide
  show Int.bmod i (capacity 8) = i
  rw [room]
  exact wrap_of_isAmount h

theorem items_fit {α : Type} {c : Codec α} {Room : α → Prop} (fit : ∀ {a}, Room a → c.Fits a)
    {as : List α} (h : IsList Room as) : (items c).Fits as :=
  ⟨h.1, fun a ha => fit (h.2 a ha)⟩

theorem monster_fits {m : Monster} (h : m.Sized) : monster.Fits m :=
  ⟨h.card, trivial, trivial, amount_fits h.attack, amount_fits h.defense, amount_fits h.bonus,
    trivial, trivial, h.enteredOn, trivial, trivial, trivial⟩

theorem setCard_fits {c : SetCard} (h : c.Sized) : setCard.Fits c :=
  ⟨h.card, trivial, trivial, h.setOn⟩

theorem side_fits {s : Side} (h : s.Sized) : side.Fits s :=
  ⟨items_fit id h.hand, items_fit id h.deck, items_fit id h.graveyard, items_fit id h.banished,
    items_fit monster_fits h.board, items_fit setCard_fits h.spellTraps, amount_fits h.life,
    trivial⟩

theorem status_fits (s : Status) : status.Fits s := by
  cases s with
  | active => trivial
  | finished winner reason => exact ⟨trivial, trivial⟩

theorem rng_fits (r : Rng) : rng.Fits r :=
  ⟨r.seed.toNat_lt, Nat.lt_trans r.position.isLt (by decide)⟩

/-- Listed in whatever order, a set is read back. -/
theorem spells_cardSet {s : CardSet} {order : List CardRef} (listed : order.Perm s.toList)
    (h : IsList CardRef.Sized s.toList) : cardSet.Spells (cards.write order) s := by
  have room : cards.Fits order :=
    items_fit id ⟨listed.length_eq ▸ h.1, fun c hc => h.2 c (listed.mem_iff.1 hc)⟩
  have read : cardSet.Spells (cards.write order) (CardSet.ofList order) := (spells_write room).iso
  rwa [CardSet.ofList_of_perm listed] at read

/-- Listed in whatever order, the map of physical cards is read back. -/
theorem spells_copies {m : CardMap Copy} {order : List (CardRef × Copy)}
    (listed : order.Perm m.toList) (h : IsList (fun e => e.1.Sized ∧ e.2.Sized) m.toList) :
    copies.Spells ((items (Snapshot.card.pair copy)).write order) m := by
  have room : (items (Snapshot.card.pair copy)).Fits order :=
    ⟨listed.length_eq ▸ h.1, fun e he =>
      have fits := h.2 e (listed.mem_iff.1 he)
      ⟨fits.1, fits.2.card, fits.2.definition, trivial⟩⟩
  have read : copies.Spells ((items (Snapshot.card.pair copy)).write order)
      (CardMap.ofList order) := (spells_write room).iso
  rwa [CardMap.ofList_of_perm listed] at read

end Snapshot

namespace Table

open Codec

/-- The bytes that spell a table: all there is to know, with the entries of the map and the members
of the sets in any order. -/
def IsSnapshot (t : Table) (bytes : List UInt8) : Prop :=
  ∃ copies used negated chained,
    copies.Perm t.copies.toList ∧ used.Perm t.used.toList ∧ negated.Perm t.negated.toList ∧
    chained.Perm t.chained.toList ∧
    bytes = Snapshot.listed.write (t.turn, t.current, t.phase, t.status, t.sides, copies, used,
      negated, chained, t.rng, t.nextCard)

variable {t : Table} {bytes : List UInt8}

theorem isSnapshot_snapshot (t : Table) : t.IsSnapshot t.snapshot :=
  ⟨_, _, _, _, .refl _, .refl _, .refl _, .refl _, rfl⟩

theorem IsSnapshot.spells (h : t.IsSnapshot bytes) (sized : t.Sized) :
    Snapshot.table.Spells bytes t := by
  obtain ⟨copies, used, negated, chained, hcopies, hused, hnegated, hchained, rfl⟩ := h
  have sides : Snapshot.sides.Fits t.sides :=
    ⟨Snapshot.side_fits sized.host, Snapshot.side_fits sized.opponent⟩
  have marks := (Snapshot.spells_cardSet hused sized.used).pair <|
    (Snapshot.spells_cardSet hnegated sized.negated).pair <|
    (Snapshot.spells_cardSet hchained sized.chained).pair <|
    (spells_write (Snapshot.rng_fits t.rng)).pair <|
    spells_write (Snapshot.word_fits sized.nextCard)
  have progress := (spells_write (Snapshot.word_fits sized.turn)).pair <|
    (spells_write (c := Snapshot.seat) (a := t.current) trivial).pair <|
    (spells_write (c := Snapshot.phase) (a := t.phase) trivial).pair <|
    (spells_write (Snapshot.status_fits t.status)).pair <|
    (spells_write sides).pair <|
    (Snapshot.spells_copies hcopies sized.copies).pair marks
  exact progress.iso

/-- Whatever spells a table brings it back, whole and with the same chances, in front of any other
bytes, and what is cut off anywhere is refused.  What is archived of a table does spell it. -/
theorem restore_snapshot (t : Table) (sized : t.Sized) :
    t.IsSnapshot t.snapshot ∧
    ∀ bytes, t.IsSnapshot bytes →
      (∀ more, restore (bytes ++ more) = .ok t) ∧
      ∀ front, front <+: bytes → front ≠ bytes →
        ∃ reason, restore front = .error (.snapshot reason) := by
  refine ⟨isSnapshot_snapshot t, fun bytes h => ⟨fun more => ?_, fun front part less => ?_⟩⟩
  · rw [restore, h.spells sized]
  · rw [restore, (h.spells sized).read_front part less]
    exact ⟨_, rfl⟩

/-- A new table with two cards whose effects have worked this turn. -/
def worn : Table := { start {} 7 with used := .ofList [⟨0⟩, ⟨1⟩] }

/-- The bytes that spell this table with the later card first. -/
def wornBytes : List UInt8 :=
  Snapshot.listed.write (1, .host, .draw, .active, worn.sides, [], [⟨1⟩, ⟨0⟩], [], [], worn.rng, 0)

theorem worn_restored :
    worn.IsSnapshot wornBytes ∧ wornBytes ≠ worn.snapshot ∧
    restore (wornBytes ++ [7]) = .ok worn ∧
    ∃ reason, restore wornBytes.dropLast = .error (.snapshot reason) := by
  have empty {α : Type} (Room : α → Prop) : IsList Room [] := ⟨Nat.zero_lt_succ _, nofun⟩
  have side : (Side.start 8000).Sized :=
    ⟨empty _, empty _, empty _, empty _, empty _, empty _, by decide⟩
  have used : IsList CardRef.Sized worn.used.toList := ⟨by decide, by decide⟩
  have sized : worn.Sized :=
    ⟨by decide, side, side, empty _, used, empty _, empty _, by decide⟩
  have spelled : worn.IsSnapshot wornBytes :=
    ⟨[], [⟨1⟩, ⟨0⟩], [], [], .refl _, .swap _ _ _, .refl _, .refl _, rfl⟩
  obtain ⟨more, fewer⟩ := (restore_snapshot worn sized).2 wornBytes spelled
  exact ⟨spelled, by decide +kernel, more [7],
    fewer wornBytes.dropLast (List.dropLast_prefix _) (by decide +kernel)⟩

end Table

end CardDuel
