import CardDuel.Bytes.Codec
import CardDuel.Table

/-!
# Snapshots

A snapshot is a table as bytes, for archives.  Numbers have a fixed width, lists
begin with their length, and a value of a finite type is written as its place among
the values.  Sets and maps are written as lists in ascending order, but are read in
any order.  Bytes behind the snapshot are ignored.
-/

namespace CardDuel.Snapshot

open Codec

/-- Natural numbers of 4 bytes. -/
def word : Codec Nat := nat 4

/-- Whole numbers of 8 bytes, negative ones included. -/
def amount : Codec Int := int 7

/-- Lists with a length of 8 bytes. -/
def items {α : Type} (c : Codec α) : Codec (List α) := list 8 c

/-- A seat by its place, the host first. -/
def seat : Codec Seat := choice 4 Seat.all (by intro s; cases s <;> decide) (by decide)

/-- A phase by its place in the turn. -/
def phase : Codec Phase := choice 4 Phase.all (by intro p; cases p <;> decide) (by decide)

/-- A stance by its place among the stances. -/
def stance : Codec Stance := choice 4 Stance.all (by intro s; cases s <;> decide) (by decide)

/-- A facing by its place among the facings. -/
def facing : Codec Facing := choice 4 Facing.all (by intro f; cases f <;> decide) (by decide)

/-- A way to win by its place among them. -/
def winReason : Codec WinReason :=
  choice 4 WinReason.all (by intro r; cases r <;> decide) (by decide)

/-- A status as what comes behind its tag. -/
def statusParts : Status → Unit ⊕ Seat × WinReason
  | .active => .inl ()
  | .finished winner reason => .inr (winner, reason)

/-- The status of what comes behind its tag. -/
def ofStatusParts : Unit ⊕ Seat × WinReason → Status
  | .inl () => .active
  | .inr (winner, reason) => .finished winner reason

/-- A status: a tag, and behind the tag of a finished duel its winner and the
reason. -/
def status : Codec Status :=
  (either 3 unit (seat.pair winReason)).iso statusParts ofStatusParts
    fun s => by cases s <;> rfl

/-- A physical card by its number. -/
def card : Codec CardRef := word.iso CardRef.number CardRef.mk fun _ => rfl

/-- A printed card by its number. -/
def cardId : Codec CardId := word.iso CardId.number CardId.mk fun _ => rfl

/-- Physical cards in their order. -/
def cards : Codec (List CardRef) := items card

/-- The three protections, one byte each. -/
def protection : Codec Protection :=
  (bool.pair (bool.pair bool)).iso
    (fun p => (p.fromBattle, p.fromEffects, p.fromTargeting))
    (fun (battle, effects, targeting) => ⟨battle, effects, targeting⟩)
    fun _ => rfl

/-- A monster on the board. -/
def monster : Codec Monster :=
  (card.pair <| stance.pair <| facing.pair <| amount.pair <| amount.pair <|
    amount.pair <| bool.pair <| bool.pair <| word.pair protection).iso
    (fun m => (m.card, m.stance, m.facing, m.attack, m.defense, m.bonus, m.hasAttacked,
      m.hasMoved, m.enteredOn, m.protection))
    (fun (card, stance, facing, attack, defense, bonus, hasAttacked, hasMoved, enteredOn,
        protection) =>
      ⟨card, stance, facing, attack, defense, bonus, hasAttacked, hasMoved, enteredOn,
        protection⟩)
    fun _ => rfl

/-- A card in the spell and trap zone. -/
def setCard : Codec SetCard :=
  (card.pair <| facing.pair <| bool.pair word).iso
    (fun c => (c.card, c.facing, c.activated, c.setOn))
    (fun (card, facing, activated, setOn) => ⟨card, facing, activated, setOn⟩)
    fun _ => rfl

/-- One side of the table, zone by zone. -/
def side : Codec Side :=
  (cards.pair <| cards.pair <| cards.pair <| cards.pair <| (items monster).pair <|
    (items setCard).pair <| amount.pair bool).iso
    (fun s => (s.hand, s.deck, s.graveyard, s.banished, s.board, s.spellTraps, s.life,
      s.hasSummoned))
    (fun (hand, deck, graveyard, banished, board, spellTraps, life, hasSummoned) =>
      ⟨hand, deck, graveyard, banished, board, spellTraps, life, hasSummoned⟩)
    fun _ => rfl

/-- Both sides, the host's first. -/
def sides : Codec (Seats Side) :=
  (side.pair side).iso (fun s => (s.host, s.opponent)) (fun (host, opponent) => ⟨host, opponent⟩)
    fun _ => rfl

/-- What there is to know about a physical card. -/
def copy : Codec Copy :=
  (card.pair <| cardId.pair seat).iso (fun c => (c.card, c.definition, c.owner))
    (fun (card, definition, owner) => ⟨card, definition, owner⟩)
    fun _ => rfl

/-- All physical cards by number. -/
def copies : Codec (CardMap Copy) :=
  (items (card.pair copy)).iso CardMap.toList CardMap.ofList CardMap.ofList_toList

/-- A set of physical cards. -/
def cardSet : Codec CardSet := cards.iso CardSet.toList CardSet.ofList CardSet.ofList_toList

/-- The seed in 8 bytes, and the number of words drawn in 16.  The stream repeats, so
any number is a place in it. -/
def rng : Codec Rng :=
  ((nat 8).pair (nat 16)).iso (fun r => (r.seed.toNat, r.position.val))
    (fun (seed, words) => .seek (UInt64.ofNat seed) words)
    fun r => by simp [Rng.seek, Nat.mod_eq_of_lt r.position.isLt]

/-- A whole table. -/
def table : Codec Table :=
  (word.pair <| seat.pair <| phase.pair <| status.pair <| sides.pair <| copies.pair <|
    cardSet.pair <| cardSet.pair <| cardSet.pair <| rng.pair word).iso
    (fun t => (t.turn, t.current, t.phase, t.status, t.sides, t.copies, t.used, t.negated,
      t.chained, t.rng, t.nextCard))
    (fun (turn, current, phase, status, sides, copies, used, negated, chained, rng,
        nextCard) =>
      ⟨turn, current, phase, status, sides, copies, used, negated, chained, rng, nextCard⟩)
    fun _ => rfl

end CardDuel.Snapshot

namespace CardDuel.Table

/-- The table as bytes. -/
def snapshot (t : Table) : List UInt8 := Snapshot.table.write t

/-- The table that some bytes begin with. -/
def restore (bytes : List UInt8) : Except Refusal Table :=
  match Snapshot.table.read bytes with
  | some (t, _) => .ok t
  | none => .error (.snapshot "the bytes hold no duel")

end CardDuel.Table
