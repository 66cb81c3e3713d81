/-!
# The random source

Random bytes come from a ChaCha stream of twelve rounds, keyed by a 64-bit seed. A source is the
seed and the number of bytes drawn so far: the next byte is a function of the two, nothing else is
kept, and two sources with the same seed agree byte for byte.

The seed is stretched to a key of eight words by a linear congruential generator with a permuted
output. Each draw takes one word of the stream, sixteen to a block, and keeps its low byte.
-/

namespace ChipEight

/-- The sixteen words of a ChaCha block. -/
abbrev ChaChaState := Vector UInt32 16

namespace ChaChaState

/-- Rotation to the left by `k` bits, `0 < k < 32`. -/
def rotl (w : UInt32) (k : UInt32) : UInt32 := (w <<< k) ||| (w >>> (32 - k))

/-- The quarter round on four words of the state. -/
def quarterRound (s : ChaChaState) (a b c d : Fin 16) : ChaChaState :=
  let s := s.set a (s[a] + s[b])
  let s := s.set d (rotl (s[d] ^^^ s[a]) 16)
  let s := s.set c (s[c] + s[d])
  let s := s.set b (rotl (s[b] ^^^ s[c]) 12)
  let s := s.set a (s[a] + s[b])
  let s := s.set d (rotl (s[d] ^^^ s[a]) 8)
  let s := s.set c (s[c] + s[d])
  s.set b (rotl (s[b] ^^^ s[c]) 7)

/-- A round on the columns and a round on the diagonals. -/
def doubleRound (s : ChaChaState) : ChaChaState :=
  let s := s.quarterRound 0 4 8 12
  let s := s.quarterRound 1 5 9 13
  let s := s.quarterRound 2 6 10 14
  let s := s.quarterRound 3 7 11 15
  let s := s.quarterRound 0 5 10 15
  let s := s.quarterRound 1 6 11 12
  let s := s.quarterRound 2 7 8 13
  s.quarterRound 3 4 9 14

/-- The block of a start state: twelve rounds, then the start state added word by word. -/
def block (start : ChaChaState) : ChaChaState :=
  let mixed := Nat.repeat doubleRound 6 start
  mixed.zipWith (· + ·) start

end ChaChaState

/-- A seed and the number of bytes drawn from it. -/
structure RandomSource where
  seed : UInt64
  /-- How many bytes have been drawn. -/
  drawn : Nat
  deriving DecidableEq, Repr

namespace RandomSource

/-- A source from which nothing has been drawn. -/
def ofSeed (seed : UInt64) : RandomSource := ⟨seed, 0⟩

/-- The generator state after one more key word. -/
def keyStep (state : UInt64) : UInt64 := state * 6364136223846793005 + 11634580027462260723

/-- The key word of a generator state: the high bits folded onto themselves and rotated by the
topmost five. -/
def keyWord (state : UInt64) : UInt32 :=
  let folded := (((state >>> 18) ^^^ state) >>> 27).toUInt32
  let turn := (state >>> 59).toUInt32
  (folded >>> turn) ||| (folded <<< ((32 - turn) % 32))

/-- The first `count` key words from a generator state on. -/
def keyWords : Nat → UInt64 → List UInt32
  | 0, _ => []
  | count + 1, state =>
    let next := keyStep state
    keyWord next :: keyWords count next

/-- The start state of block number `counter`. -/
def startState (seed : UInt64) (counter : Nat) : ChaChaState :=
  let key := keyWords 8 seed
  Vector.ofFn fun i ↦
    match i.val with
    | 0 => 0x61707865
    | 1 => 0x3320646e
    | 2 => 0x79622d32
    | 3 => 0x6b206574
    | 12 => UInt32.ofNat counter
    | 13 => UInt32.ofNat (counter / 0x100000000)
    | 14 => 0
    | 15 => 0
    | k => key.getD (k - 4) 0

/-- Word number `k` of the stream of a seed. -/
def word (seed : UInt64) (k : Nat) : UInt32 :=
  (startState seed (k / 16)).block[Fin.ofNat 16 k]

def byteAt (seed : UInt64) (k : Nat) : UInt8 := (word seed k).toUInt8

/-- The next byte and the source behind it. -/
def next (s : RandomSource) : UInt8 × RandomSource :=
  (byteAt s.seed s.drawn, { s with drawn := s.drawn + 1 })

end RandomSource

end ChipEight
