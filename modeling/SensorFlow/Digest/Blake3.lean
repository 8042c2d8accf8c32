/-!
# BLAKE3

The 256-bit hash: the input is cut into chunks of 1024 bytes, a chunk into blocks of 64 bytes, and
the chunks are joined by a binary tree whose left half is the largest possible complete tree.
-/
namespace SensorFlow.Blake3
set_option autoImplicit false

abbrev State := Vector UInt32 16
abbrev Block := Vector UInt32 16
abbrev Chaining := Vector UInt32 8

def initial : Chaining :=
  #v[0x6A09E667, 0xBB67AE85, 0x3C6EF372, 0xA54FF53A, 0x510E527F, 0x9B05688C, 0x1F83D9AB,
    0x5BE0CD19]

def chunkStart : UInt32 := 1
def chunkEnd : UInt32 := 2
def parent : UInt32 := 4
def root : UInt32 := 8

def rotateRight (word : UInt32) (count : UInt32) : UInt32 :=
  (word >>> count) ||| (word <<< (32 - count))

/-- Mixes two message words into a column or a diagonal of the state. -/
def mix (s : State) (a b c d : Fin 16) (x y : UInt32) : State :=
  let va := s[a] + s[b] + x
  let vd := rotateRight (s[d] ^^^ va) 16
  let vc := s[c] + vd
  let vb := rotateRight (s[b] ^^^ vc) 12
  let va := va + vb + y
  let vd := rotateRight (vd ^^^ va) 8
  let vc := vc + vd
  let vb := rotateRight (vb ^^^ vc) 7
  (((s.set a va).set b vb).set c vc).set d vd

def round (s : State) (m : Block) : State :=
  let s := mix s 0 4 8 12 m[0] m[1]
  let s := mix s 1 5 9 13 m[2] m[3]
  let s := mix s 2 6 10 14 m[4] m[5]
  let s := mix s 3 7 11 15 m[6] m[7]
  let s := mix s 0 5 10 15 m[8] m[9]
  let s := mix s 1 6 11 12 m[10] m[11]
  let s := mix s 2 7 8 13 m[12] m[13]
  mix s 3 4 9 14 m[14] m[15]

/-- The order of the message words in the next round. -/
def permute (m : Block) : Block :=
  #v[m[2], m[6], m[3], m[10], m[7], m[0], m[4], m[13], m[1], m[11], m[12], m[5], m[9], m[14],
    m[15], m[8]]

def rounds (s : State) (m : Block) : Nat → State
  | 0 => s
  | count + 1 => rounds (round s m) (permute m) count

/-- Everything that goes into one compression. -/
structure Input where
  chaining : Chaining
  block : Block
  /-- The number of the chunk. -/
  counter : Nat
  /-- The number of bytes in the block. -/
  size : Nat
  flags : UInt32

def Input.compress (input : Input) : Chaining :=
  let h := input.chaining
  let s : State :=
    #v[h[0], h[1], h[2], h[3], h[4], h[5], h[6], h[7], initial[0], initial[1], initial[2],
      initial[3], input.counter.toUInt32, (input.counter >>> 32).toUInt32, input.size.toUInt32,
      input.flags]
  let s := rounds s input.block 7
  Vector.ofFn fun pos : Fin 8 => s[pos.val] ^^^ s[pos.val + 8]

/-- The words of up to 64 bytes, least significant byte first, filled up with zeros. -/
def blockOf (bytes : List UInt8) : Block :=
  let bytes := bytes.toArray
  Vector.ofFn fun pos : Fin 16 =>
    let byte (offset : Nat) : UInt32 := (bytes[pos.val * 4 + offset]?.getD 0).toUInt32
    byte 0 ||| (byte 1 <<< 8) ||| (byte 2 <<< 16) ||| (byte 3 <<< 24)

/-- The last compression of a chunk, not yet made. -/
def chunkFrom (chaining : Chaining) (flags : UInt32) (counter : Nat) (bytes : List UInt8) : Input :=
  if bytes.length ≤ 64 then
    { chaining := chaining
      block := blockOf bytes
      counter := counter
      size := bytes.length
      flags := flags ||| chunkEnd }
  else
    let first : Input :=
      { chaining := chaining
        block := blockOf (bytes.take 64)
        counter := counter
        size := 64
        flags := flags }
    chunkFrom first.compress 0 counter (bytes.drop 64)
termination_by bytes.length

/-- The bytes in the left half of a tree over more than one chunk. -/
def leftSize (size : Nat) : Nat := 1024 * Nat.pow 2 ((size - 1) / 1024).log2

theorem leftSize_pos (size : Nat) : 0 < leftSize size :=
  Nat.mul_pos (by decide) (Nat.pow_pos (by decide))

theorem leftSize_lt {size : Nat} (h : 1024 < size) : leftSize size < size := by
  have hChunks : (size - 1) / 1024 ≠ 0 := by omega
  have hLog := Nat.log2_self_le hChunks
  have hDiv := Nat.div_mul_le_self (size - 1) 1024
  have hPow : Nat.pow 2 ((size - 1) / 1024).log2 = 2 ^ ((size - 1) / 1024).log2 := rfl
  unfold leftSize
  omega

/-- The last compression of the tree over some bytes, not yet made. -/
def treeFrom (counter : Nat) (bytes : List UInt8) : Input :=
  if h : bytes.length ≤ 1024 then chunkFrom initial chunkStart counter bytes
  else
    let left := leftSize bytes.length
    have hLess : left < bytes.length := leftSize_lt (by omega)
    have hMore : 0 < left := leftSize_pos _
    let first := (treeFrom counter (bytes.take left)).compress
    let second := (treeFrom (counter + left / 1024) (bytes.drop left)).compress
    { chaining := initial, block := first ++ second, counter := 0, size := 64, flags := parent }
termination_by bytes.length
decreasing_by
  · simp only [List.length_take]
    omega
  · simp only [List.length_drop]
    omega

def wordBytes (word : UInt32) : List UInt8 :=
  [word.toUInt8, (word >>> 8).toUInt8, (word >>> 16).toUInt8, (word >>> 24).toUInt8]

def hash (bytes : List UInt8) : List UInt8 :=
  let last := treeFrom 0 bytes
  { last with flags := last.flags ||| root }.compress.toList.flatMap wordBytes

end SensorFlow.Blake3
