/-!
# The stream of random words

A seed of 64 bits names a stream of 32-bit words: the ChaCha cipher with 8
rounds, keyed by the seed and read block after block.  The stream is a pure
function of the seed and of the position of a word in it, so saving a position
is saving everything.  The block counter has 64 bits and a block has 16 words;
the stream repeats after `2 ^ 68` words.
-/

namespace CardDuel.Rng

/-- Four words, one for each column of the cipher state. -/
structure Row where
  w0 : UInt32
  w1 : UInt32
  w2 : UInt32
  w3 : UInt32
  deriving DecidableEq, Repr

namespace Row

/-- The words of the row. -/
def toList (r : Row) : List UInt32 := [r.w0, r.w1, r.w2, r.w3]

/-- Column by column. -/
def zip (f : UInt32 → UInt32 → UInt32) (r s : Row) : Row :=
  ⟨f r.w0 s.w0, f r.w1 s.w1, f r.w2 s.w2, f r.w3 s.w3⟩

/-- Every word rotated left by `n` bits, where `0 < n < 32`. -/
def rotate (n : UInt32) (r : Row) : Row :=
  let turn := fun (w : UInt32) => (w <<< n) ||| (w >>> (32 - n))
  ⟨turn r.w0, turn r.w1, turn r.w2, turn r.w3⟩

/-- The columns moved by one place to the left. -/
def shift (r : Row) : Row := ⟨r.w1, r.w2, r.w3, r.w0⟩

end Row

/-- The cipher state: four rows of four words. -/
structure State where
  a : Row
  b : Row
  c : Row
  d : Row
  deriving DecidableEq, Repr

namespace State

/-- The quarter round on each of the four columns. -/
def columns (s : State) : State :=
  let a := s.a.zip (· + ·) s.b
  let d := (s.d.zip (· ^^^ ·) a).rotate 16
  let c := s.c.zip (· + ·) d
  let b := (s.b.zip (· ^^^ ·) c).rotate 12
  let a := a.zip (· + ·) b
  let d := (d.zip (· ^^^ ·) a).rotate 8
  let c := c.zip (· + ·) d
  let b := (b.zip (· ^^^ ·) c).rotate 7
  ⟨a, b, c, d⟩

/-- The quarter round on each of the four diagonals. -/
def diagonals (s : State) : State :=
  let turned := columns ⟨s.a, s.b.shift, s.c.shift.shift, s.d.shift.shift.shift⟩
  ⟨turned.a, turned.b.shift.shift.shift, turned.c.shift.shift, turned.d.shift⟩

/-- Two rounds: the columns, then the diagonals. -/
def doubleRound (s : State) : State := s.columns.diagonals

/-- Word by word. -/
def add (s t : State) : State :=
  ⟨s.a.zip (· + ·) t.a, s.b.zip (· + ·) t.b, s.c.zip (· + ·) t.c, s.d.zip (· + ·) t.d⟩

/-- The words of the state, row by row. -/
def toList (s : State) : List UInt32 :=
  s.a.toList ++ s.b.toList ++ s.c.toList ++ s.d.toList

end State

/-- The next state of the generator that spreads a seed over a key. -/
def spread (s : UInt64) : UInt64 := s * 6364136223846793005 + 11634580027462260723

/-- The key word of a spreader state: high bits mixed into low ones, rotated
right by the five highest bits. -/
def keyWord (s : UInt64) : UInt32 :=
  let mixed := (((s >>> 18) ^^^ s) >>> 27).toUInt32
  let turn := (s >>> 59).toUInt32
  if turn == 0 then mixed else (mixed >>> turn) ||| (mixed <<< (32 - turn))

/-- The first two rows of the key and then the last two, from the seed. -/
def key (seed : UInt64) : Row × Row :=
  let s0 := spread seed
  let s1 := spread s0
  let s2 := spread s1
  let s3 := spread s2
  let s4 := spread s3
  let s5 := spread s4
  let s6 := spread s5
  let s7 := spread s6
  (⟨keyWord s0, keyWord s1, keyWord s2, keyWord s3⟩,
   ⟨keyWord s4, keyWord s5, keyWord s6, keyWord s7⟩)

/-- The state that block number `counter` starts from: the constant, the key,
the counter with its low word first, and nothing else. -/
def blockStart (seed counter : UInt64) : State :=
  let (low, high) := key seed
  ⟨⟨0x61707865, 0x3320646E, 0x79622D32, 0x6B206574⟩, low, high,
   ⟨counter.toUInt32, (counter >>> 32).toUInt32, 0, 0⟩⟩

/-- The sixteen words of block number `counter`: eight rounds, added to the
state they started from. -/
def block (seed counter : UInt64) : List UInt32 :=
  let start := blockStart seed counter
  (start.doubleRound.doubleRound.doubleRound.doubleRound.add start).toList

/-- The number of words after which every stream repeats, which is `2 ^ 68`. -/
def period : Nat := 0x100000000000000000

/-- The word at a position of the stream. -/
def word (seed : UInt64) (position : Nat) : UInt32 :=
  (block seed (UInt64.ofNat (position / 16))).getD (position % 16) 0

end CardDuel.Rng
