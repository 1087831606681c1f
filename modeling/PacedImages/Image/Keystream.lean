/-!
# Keystreams

The bytes that a key of 256 bits stands for: blocks of 64 bytes, each the sum of a matrix of words
and of what twelve rounds make of it. A key can be drawn out of a seed of 64 bits.
-/

namespace PacedImages.Keystream

/-- Four words that are worked on side by side. -/
structure Row where
  a : UInt32
  b : UInt32
  c : UInt32
  d : UInt32

namespace Row

def map (f : UInt32 → UInt32) (r : Row) : Row := ⟨f r.a, f r.b, f r.c, f r.d⟩

def zip (f : UInt32 → UInt32 → UInt32) (r s : Row) : Row :=
  ⟨f r.a s.a, f r.b s.b, f r.c s.c, f r.d s.d⟩

/-- The words moved one place to the left. -/
def turn (r : Row) : Row := ⟨r.b, r.c, r.d, r.a⟩

def words (r : Row) : List UInt32 := [r.a, r.b, r.c, r.d]

end Row

def rotateLeft (x n : UInt32) : UInt32 := (x <<< n) ||| (x >>> (32 - n))

/-- A matrix of four rows of words. -/
structure Matrix where
  first : Row
  second : Row
  third : Row
  fourth : Row

namespace Matrix

def zip (f : UInt32 → UInt32 → UInt32) (m n : Matrix) : Matrix :=
  ⟨.zip f m.first n.first, .zip f m.second n.second, .zip f m.third n.third,
    .zip f m.fourth n.fourth⟩

def words (m : Matrix) : List UInt32 :=
  m.first.words ++ m.second.words ++ m.third.words ++ m.fourth.words

/-- Mixes each column. -/
def mixColumns (m : Matrix) : Matrix :=
  let a := Row.zip (· + ·) m.first m.second
  let d := (Row.zip (· ^^^ ·) m.fourth a).map (rotateLeft · 16)
  let c := Row.zip (· + ·) m.third d
  let b := (Row.zip (· ^^^ ·) m.second c).map (rotateLeft · 12)
  let a := Row.zip (· + ·) a b
  let d := (Row.zip (· ^^^ ·) d a).map (rotateLeft · 8)
  let c := Row.zip (· + ·) c d
  let b := (Row.zip (· ^^^ ·) b c).map (rotateLeft · 7)
  ⟨a, b, c, d⟩

/-- Mixes the columns and then the diagonals. -/
def doubleRound (m : Matrix) : Matrix :=
  let m := m.mixColumns
  let m := mixColumns ⟨m.first, m.second.turn, m.third.turn.turn, m.fourth.turn.turn.turn⟩
  ⟨m.first, m.second.turn.turn.turn, m.third.turn.turn, m.fourth.turn⟩

/-- So many double rounds. -/
def rounds : Nat → Matrix → Matrix
  | 0, m => m
  | n + 1, m => rounds n m.doubleRound

end Matrix

/-- A key of eight words. -/
structure Key where
  low : Row
  high : Row

/-- The block of a key with a number. -/
def block (key : Key) (number : UInt64) : Matrix :=
  let start : Matrix :=
    ⟨⟨0x61707865, 0x3320646e, 0x79622d32, 0x6b206574⟩, key.low, key.high,
      ⟨number.toUInt32, (number >>> 32).toUInt32, 0, 0⟩⟩
  .zip (· + ·) (start.rounds 6) start

/-- The bytes of a word, the lowest first. -/
def wordBytes (x : UInt32) : List UInt8 :=
  [x.toUInt8, (x >>> 8).toUInt8, (x >>> 16).toUInt8, (x >>> 24).toUInt8]

def blockBytes (key : Key) (number : UInt64) : List UInt8 :=
  (block key number).words.flatMap wordBytes

/-- Puts the next blocks behind the bytes so far. -/
def appendBlocks (key : Key) : Nat → UInt64 → ByteArray → ByteArray
  | 0, _, bytes => bytes
  | n + 1, number, bytes =>
    appendBlocks key n (number + 1) ((blockBytes key number).foldl ByteArray.push bytes)

/-- The first bytes of the stream. -/
def bytes (key : Key) (count : Nat) : ByteArray :=
  (appendBlocks key ((count + 63) / 64) 0 (.emptyWithCapacity (count + 64))).extract 0 count

/-- The next word drawn out of a seed, and the state to draw on from. -/
def drawWord (state : UInt64) : UInt32 × UInt64 :=
  let state := state * 6364136223846793005 + 11634580027462260723
  let mixed := (((state >>> 18) ^^^ state) >>> 27).toUInt32
  let turn := (state >>> 59).toUInt32
  ((mixed >>> turn) ||| (mixed <<< (32 - turn)), state)

def drawRow (state : UInt64) : Row × UInt64 :=
  let (a, state) := drawWord state
  let (b, state) := drawWord state
  let (c, state) := drawWord state
  let (d, state) := drawWord state
  (⟨a, b, c, d⟩, state)

/-- The key of a seed. -/
def Key.ofSeed (seed : UInt64) : Key :=
  let (low, state) := drawRow seed
  ⟨low, (drawRow state).1⟩

end PacedImages.Keystream
