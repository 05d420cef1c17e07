import CardDuel.Rng.Stream

/-!
# Randomness of a duel

A duel draws all its chances from one stream of words.  Its state is the seed
and the number of words drawn so far, so the same seed and the same play give
the same shuffles, and a saved state goes on where it was saved.
-/

namespace CardDuel

/-- A place in the stream of a seed. -/
structure Rng where
  seed : UInt64
  /-- The number of words drawn, up to the length of the stream. -/
  position : Fin Rng.period
  deriving DecidableEq

namespace Rng

/-- The start of the stream of a seed. -/
def ofSeed (seed : UInt64) : Rng := ⟨seed, ⟨0, by decide⟩⟩

/-- The place after `words` words of the stream of a seed. -/
def seek (seed : UInt64) (words : Nat) : Rng :=
  ⟨seed, ⟨words % period, Nat.mod_lt _ (by decide)⟩⟩

/-- The next word. -/
def next (rng : Rng) : UInt32 × Rng :=
  (word rng.seed rng.position, seek rng.seed (rng.position + 1))

/-- A number below `range`, each as likely as the other, by at most `tries`
words.  A word is scaled to the range, and refused if the part that the scaling
cuts off would favour some numbers. -/
def belowWithin (range : Nat) : (tries : Nat) → Rng → Nat × Rng
  | 0, rng => (0, rng)
  | tries + 1, rng =>
    let (drawn, after) := rng.next
    let scaled := drawn.toNat * range
    if scaled % 0x100000000 < range <<< (31 - range.log2) then (scaled / 0x100000000, after)
    else belowWithin range tries after

/-- A number below `range`, where `0 < range ≤ 2 ^ 32`.  A stream that has
refused every one of its words has no answer, and `0` stands for it. -/
def below (range : Nat) (rng : Rng) : Nat × Rng := belowWithin range period rng

/-- Exchanges the places below `last`, from the highest down: each place is
exchanged with a random one that is not above it. -/
def exchange {α : Type} (items : Array α) : (last : Nat) → Rng → Array α × Rng
  | 0, rng => (items, rng)
  | last + 1, rng =>
    let (other, after) := rng.below (last + 2)
    exchange (items.swapIfInBounds (last + 1) other) last after

/-- The items in random order. -/
def shuffle {α : Type} (items : List α) (rng : Rng) : List α × Rng :=
  let (shuffled, after) := exchange items.toArray (items.length - 1) rng
  (shuffled.toList, after)

end Rng

end CardDuel
