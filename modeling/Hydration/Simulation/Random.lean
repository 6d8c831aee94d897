/-
Random numbers from a seed, the same ones everywhere: a stream of words from the ChaCha cipher with
eight rounds, and draws that turn words into choices without preferring any.
-/
import Hydration.Decimal.Binary

namespace Hydration

-- ============================================================ the cipher

/-- Turns a word to the left. -/
def rotateLeft (word : UInt32) (count : UInt32) : UInt32 :=
  word <<< count ||| word >>> (32 - count)

namespace ChaCha

/-- Four words of the state, under work. -/
structure Quarter where
  a : UInt32
  b : UInt32
  c : UInt32
  d : UInt32

/-- The quarter round. -/
def Quarter.round (q : Quarter) : Quarter :=
  let a := q.a + q.b
  let d := rotateLeft (q.d ^^^ a) 16
  let c := q.c + d
  let b := rotateLeft (q.b ^^^ c) 12
  let a := a + b
  let d := rotateLeft (d ^^^ a) 8
  let c := c + d
  let b := rotateLeft (b ^^^ c) 7
  ⟨a, b, c, d⟩

/-- The state of the cipher: four rows of four words. -/
structure Block where
  words : Vector UInt32 16

namespace Block

/-- A quarter round on the words at four places. -/
def quarter (block : Block) (i j k l : Fin 16) : Block :=
  let q := Quarter.round ⟨block.words[i], block.words[j], block.words[k], block.words[l]⟩
  ⟨(((block.words.set i q.a).set j q.b).set k q.c).set l q.d⟩

/-- A round down the columns and one along the diagonals. -/
def doubleRound (block : Block) : Block :=
  ((((((((block.quarter 0 4 8 12).quarter 1 5 9 13).quarter 2 6 10 14).quarter 3 7 11 15).quarter
    0 5 10 15).quarter 1 6 11 12).quarter 2 7 8 13).quarter 3 4 9 14)

def doubleRounds : Nat → Block → Block
  | 0, block => block
  | count + 1, block => doubleRounds count block.doubleRound

/-- The words that a block yields after eight rounds. -/
def scramble (block : Block) : List UInt32 :=
  (Vector.zipWith (· + ·) (doubleRounds 4 block).words block.words).toList

end Block

/-- The block with a number, for a key of eight words. -/
def block (key : Vector UInt32 8) (number : UInt64) : Block :=
  let head : Vector UInt32 4 := #v[0x61707865, 0x3320646e, 0x79622d32, 0x6b206574]
  let counter : Vector UInt32 4 := #v[number.toUInt32, (number >>> 32).toUInt32, 0, 0]
  ⟨head ++ key ++ counter⟩

end ChaCha

-- ============================================================ the stream

/-- A stream of random words. -/
structure RandomStream where
  key : Vector UInt32 8
  /-- The number of the next block. -/
  number : UInt64
  /-- The words left of the block before. -/
  words : List UInt32

namespace RandomStream

/-- One step of the generator that stretches a seed. -/
def nextSeed (seed : UInt64) : UInt64 := seed * 6364136223846793005 + 11634580027462260723

/-- The word of a key that a stretched seed yields. -/
def keyWord (seed : UInt64) : UInt32 :=
  let mixed := (((seed >>> 18) ^^^ seed) >>> 27).toUInt32
  let count := (seed >>> 59).toUInt32
  rotateLeft mixed ((32 - count) % 32)

/-- The words of a key, one after another. -/
def keyWords : Nat → UInt64 → List UInt32
  | 0, _ => []
  | count + 1, seed => keyWord (nextSeed seed) :: keyWords count (nextSeed seed)

theorem length_keyWords (count : Nat) (seed : UInt64) : (keyWords count seed).length = count := by
  induction count generalizing seed with
  | zero => rfl
  | succ count ih => simp [keyWords, ih]

/-- The stream of a seed. -/
def ofSeed (seed : UInt64) : RandomStream where
  key := ⟨(keyWords 8 seed).toArray, by simp [length_keyWords]⟩
  number := 0
  words := []

def word (stream : RandomStream) : UInt32 × RandomStream :=
  match stream.words with
  | word :: words => (word, { stream with words })
  | [] =>
    let next := (ChaCha.block stream.key stream.number).scramble
    (next.headD 0, ⟨stream.key, stream.number + 1, next.tail⟩)

/-- Two words, the lower half first. -/
def doubleWord (stream : RandomStream) : UInt64 × RandomStream :=
  let (low, stream) := stream.word
  let (high, stream) := stream.word
  (low.toUInt64 ||| high.toUInt64 <<< 32, stream)

-- ============================================================ draws

/-- True in `n` of `d` cases, as near as a floating-point number comes to that. -/
def chance (n d : Nat) (stream : RandomStream) : Bool × RandomStream :=
  let limit := match Decimal.Binary.nearest? n d with
    | some b => b.mantissa <<< (b.exponent + 64).toNat >>> (-(b.exponent + 64)).toNat
    | none => 0
  let (draw, stream) := stream.doubleWord
  (draw.toNat < limit, stream)

/-- The largest low half with which a product still counts: with it every result has equally many
draws. -/
def zone (width n : Nat) : Nat := (n <<< (width - 1 - n.log2)) - 1

/-- Draws until one counts; the first draws nearly always do. -/
def belowFrom (width n : Nat) (draw : RandomStream → Nat × RandomStream) :
    Nat → RandomStream → Nat × RandomStream
  | 0, stream => (0, stream)
  | fuel + 1, stream =>
    let (value, stream) := draw stream
    let product := value * n
    if product % (1 <<< width) ≤ zone width n then (product >>> width, stream)
    else belowFrom width n draw fuel stream

/-- How many draws are tried at most. Fewer than half of all draws fail to count. -/
def patience : Nat := 10000

/-- A number below `n`, drawn from single words. -/
def below (n : Nat) (stream : RandomStream) : Nat × RandomStream :=
  belowFrom 32 n (fun s => let (word, s) := s.word; (word.toNat, s)) patience stream

/-- A number below `n`, drawn from double words. -/
def indexBelow (n : Nat) (stream : RandomStream) : Nat × RandomStream :=
  belowFrom 64 n (fun s => let (word, s) := s.doubleWord; (word.toNat, s)) patience stream

end RandomStream

end Hydration
