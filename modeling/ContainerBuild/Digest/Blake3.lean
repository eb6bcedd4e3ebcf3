import ContainerBuild.Text.Hex

/-!
# BLAKE3

The hash function BLAKE3 without a key. A text is cut into chunks of 1024 bytes, each
chunk is compressed block by block, and the results are joined pair by pair into a tree.
-/

namespace ContainerBuild.Blake3

/-- Four words, on which an operation acts side by side. -/
structure Row where
  a : UInt32
  b : UInt32
  c : UInt32
  d : UInt32
deriving DecidableEq, Repr

namespace Row

/-- Applies an operation to the words of two rows. -/
def zip (f : UInt32 → UInt32 → UInt32) (x y : Row) : Row :=
  ⟨f x.a y.a, f x.b y.b, f x.c y.c, f x.d y.d⟩

/-- The exclusive or, rotated right by a number of bits below 32. -/
def xorRotate (n : UInt32) (x y : Row) : Row :=
  zip (fun u v ↦ ((u ^^^ v) >>> n) ||| ((u ^^^ v) <<< (32 - n))) x y

/-- The words in another order, shifted by one to the left. -/
def shift (x : Row) : Row := ⟨x.b, x.c, x.d, x.a⟩

/-- The words from left to right. -/
def toList (x : Row) : List UInt32 := [x.a, x.b, x.c, x.d]

end Row

/-- The eight words that go from one compression to the next. -/
structure Chain where
  top : Row
  bottom : Row
deriving DecidableEq, Repr

/-- The words of a chain. -/
def Chain.toList (x : Chain) : List UInt32 := x.top.toList ++ x.bottom.toList

/-- The state of a compression: four rows of four words. -/
structure State where
  r0 : Row
  r1 : Row
  r2 : Row
  r3 : Row

/-- The chain at the beginning. -/
def initial : Chain where
  top := ⟨0x6A09E667, 0xBB67AE85, 0x3C6EF372, 0xA54FF53A⟩
  bottom := ⟨0x510E527F, 0x9B05688C, 0x1F83D9AB, 0x5BE0CD19⟩

/-- Mixes the columns of a state with two rows of message words. -/
def mix (mx my : Row) (s : State) : State :=
  let r0 := s.r0.zip (· + ·) s.r1 |>.zip (· + ·) mx
  let r3 := s.r3.xorRotate 16 r0
  let r2 := s.r2.zip (· + ·) r3
  let r1 := s.r1.xorRotate 12 r2
  let r0 := r0.zip (· + ·) r1 |>.zip (· + ·) my
  let r3 := r3.xorRotate 8 r0
  let r2 := r2.zip (· + ·) r3
  let r1 := r1.xorRotate 7 r2
  ⟨r0, r1, r2, r3⟩

/-- Turns the diagonals of a state into columns. -/
def toDiagonals (s : State) : State :=
  ⟨s.r0, s.r1.shift, s.r2.shift.shift, s.r3.shift.shift.shift⟩

/-- Turns the columns of a state back into diagonals. -/
def ofDiagonals (s : State) : State :=
  ⟨s.r0, s.r1.shift.shift.shift, s.r2.shift.shift, s.r3.shift⟩

/-- The word of a block at a place. -/
def word (m : Array UInt32) (i : Nat) : UInt32 := m.getD i 0

/-- Four words of a block, every second one from a place on. -/
def everySecond (m : Array UInt32) (i : Nat) : Row :=
  ⟨word m i, word m (i + 2), word m (i + 4), word m (i + 6)⟩

/-- One round: the columns are mixed, then the diagonals. -/
def round (m : Array UInt32) (s : State) : State :=
  ofDiagonals (mix (everySecond m 8) (everySecond m 9)
    (toDiagonals (mix (everySecond m 0) (everySecond m 1) s)))

/-- Where the words of a block go between two rounds. -/
def permutation : List Nat := [2, 6, 3, 10, 7, 0, 4, 13, 1, 11, 12, 5, 9, 14, 15, 8]

/-- The words of a block for the next round. -/
def permute (m : Array UInt32) : Array UInt32 := (permutation.map (word m)).toArray

/-- Rounds in a row, with the words of the block in another order each time. -/
def rounds : (count : Nat) → Array UInt32 → State → State
  | 0, _, s => s
  | n + 1, m, s => rounds n (permute m) (round m s)

/-- Compresses one block of a number of bytes into a chain. -/
def compress (chain : Chain) (m : Array UInt32) (counter : Nat) (bytes flags : UInt32) : Chain :=
  let last : Row :=
    ⟨UInt32.ofNat counter, UInt32.ofNat (counter / Nat.pow 2 32), bytes, flags⟩
  let s := rounds 7 m ⟨chain.top, chain.bottom, initial.top, last⟩
  ⟨s.r0.zip (· ^^^ ·) s.r2, s.r1.zip (· ^^^ ·) s.r3⟩

/-- Marks the first block of a chunk. -/
def chunkStart : UInt32 := 1

/-- Marks the last block of a chunk. -/
def chunkEnd : UInt32 := 2

/-- Marks a pair of chains. -/
def parentNode : UInt32 := 4

/-- Marks the last compression of all. -/
def rootNode : UInt32 := 8

/-- The words of bytes, of which the first is the lowest; missing bytes are zero. -/
def words : List UInt8 → List UInt32
  | a :: b :: c :: d :: rest =>
    (a.toUInt32 ||| b.toUInt32 <<< 8 ||| c.toUInt32 <<< 16 ||| d.toUInt32 <<< 24) :: words rest
  | [a, b, c] => [a.toUInt32 ||| b.toUInt32 <<< 8 ||| c.toUInt32 <<< 16]
  | [a, b] => [a.toUInt32 ||| b.toUInt32 <<< 8]
  | [a] => [a.toUInt32]
  | [] => []

/-- The bytes of a word, the lowest first. -/
def wordBytes (w : UInt32) : List UInt8 :=
  [w.toUInt8, (w >>> 8).toUInt8, (w >>> 16).toUInt8, (w >>> 24).toUInt8]

/-- Cuts a list into pieces of a length; the last one may be shorter. -/
def pieces {α : Type} (length : Nat) (l : List α) : List (List α) :=
  if length = 0 ∨ l.length ≤ length then [l]
  else l.take length :: pieces length (l.drop length)
termination_by l.length
decreasing_by
  simp only [List.length_drop]
  omega

/-- Compresses the blocks of a chunk; `first` marks the block at the front. -/
def compressBlocks (counter : Nat) (last first : UInt32) (chain : Chain) :
    List (List UInt8) → Chain
  | [] => chain
  | [block] =>
    compress chain (words block).toArray counter (UInt32.ofNat block.length)
      (first ||| chunkEnd ||| last)
  | block :: rest =>
    compressBlocks counter last 0
      (compress chain (words block).toArray counter 64 first) rest

/-- The chain of a chunk; `last` is the mark of the root when it is the only one. -/
def chunkChain (last : UInt32) (counter : Nat) (chunk : List UInt8) : Chain :=
  compressBlocks counter last chunkStart initial (pieces 64 chunk)

/-- The chain of a pair of chains. -/
def parentChain (last : UInt32) (left right : Chain) : Chain :=
  compress initial (left.toList ++ right.toList).toArray 0 64 (parentNode ||| last)

/-- Joins neighbours; one that is left over at the end goes up alone. -/
def joinPairs : List Chain → List Chain
  | x :: y :: rest => parentChain 0 x y :: joinPairs rest
  | l => l

/-- Joining neighbours makes no list longer. -/
theorem length_joinPairs_le (l : List Chain) : (joinPairs l).length ≤ l.length := by
  fun_induction joinPairs l with
  | case1 x y rest ih =>
    simp only [List.length_cons]
    omega
  | case2 l => exact Nat.le_refl _

/-- Joins chains level by level into the chain of the root. -/
def root : List Chain → Chain
  | [] => initial
  | [x] => x
  | [x, y] => parentChain rootNode x y
  | x :: y :: z :: rest => root (parentChain 0 x y :: joinPairs (z :: rest))
termination_by l => l.length
decreasing_by
  have := length_joinPairs_le (z :: rest)
  simp only [List.length_cons] at *
  omega

/-- The chains of chunks, which are counted from a number on. -/
def chunkChains (counter : Nat) : List (List UInt8) → List Chain
  | [] => []
  | chunk :: rest => chunkChain 0 counter chunk :: chunkChains (counter + 1) rest

/-- The hash of bytes: 32 bytes. -/
def hash (bytes : List UInt8) : List UInt8 :=
  let chain := match pieces 1024 bytes with
    | [chunk] => chunkChain rootNode 0 chunk
    | chunks => root (chunkChains 0 chunks)
  chain.toList.flatMap wordBytes

/-! The published test vectors for no bytes, and for 1025 bytes, which are two chunks. -/

example : Text.hexBytes (hash []) =
    "af1349b9f5f9a1a6a0404dea36dcc9499bcb25c9adc112b7cc9a93cae41f3262" := by
  decide +kernel

example : Text.hexBytes (hash ((List.range 1025).map fun i ↦ UInt8.ofNat (i % 251))) =
    "d00278ae47eb27b34faecf67b4fe263f82d5412916c1ffd97c8cb7fb814b8444" := by
  decide +kernel

end ContainerBuild.Blake3
