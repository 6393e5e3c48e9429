import TestFleet.Text.Hex

/-!
# Digests

A digest of 32 bytes is computed from a list of bytes by cutting it into chunks of 1024 bytes,
chaining the blocks of each chunk, and joining the chunks' values pairwise in a tree whose left
parts are as large as a power of two allows.

* `length_digest`: a digest has 32 bytes, whatever was digested.
-/

namespace TestFleet.Digest

/-- Sixteen words: the state of the mixing rounds, or a block of the message. -/
abbrev Block := Vector UInt32 16

/-- Eight words that carry what was digested so far. -/
abbrev Chain := Vector UInt32 8

/-- The chain that digests start from. -/
def start : Chain :=
  #v[0x6A09E667, 0xBB67AE85, 0x3C6EF372, 0xA54FF53A, 0x510E527F, 0x9B05688C, 0x1F83D9AB, 0x5BE0CD19]

/-- Marks the first block of a chunk. -/
def chunkStart : UInt32 := 1

/-- Marks the last block of a chunk. -/
def chunkEnd : UInt32 := 2

/-- Marks a block that joins two chains. -/
def parent : UInt32 := 4

/-- Marks the block whose outcome is the digest. -/
def root : UInt32 := 8

/-- Rotates a word to the right. -/
def rotate (w : UInt32) (n : UInt32) : UInt32 := (w >>> n) ||| (w <<< (32 - n))

/-- Mixes two message words into four words of the state. -/
def mixWords (s : Block) (a b c d : Fin 16) (x y : UInt32) : Block :=
  let s := s.set a (s[a] + s[b] + x)
  let s := s.set d (rotate (s[d] ^^^ s[a]) 16)
  let s := s.set c (s[c] + s[d])
  let s := s.set b (rotate (s[b] ^^^ s[c]) 12)
  let s := s.set a (s[a] + s[b] + y)
  let s := s.set d (rotate (s[d] ^^^ s[a]) 8)
  let s := s.set c (s[c] + s[d])
  s.set b (rotate (s[b] ^^^ s[c]) 7)

/-- One round: the message is mixed into the columns of the state, then into its diagonals. -/
def mixRound (s m : Block) : Block :=
  let s := mixWords s 0 4 8 12 m[0] m[1]
  let s := mixWords s 1 5 9 13 m[2] m[3]
  let s := mixWords s 2 6 10 14 m[4] m[5]
  let s := mixWords s 3 7 11 15 m[6] m[7]
  let s := mixWords s 0 5 10 15 m[8] m[9]
  let s := mixWords s 1 6 11 12 m[10] m[11]
  let s := mixWords s 2 7 8 13 m[12] m[13]
  mixWords s 3 4 9 14 m[14] m[15]

/-- The order of the message words in the next round. -/
def permute (m : Block) : Block :=
  #v[m[2], m[6], m[3], m[10], m[7], m[0], m[4], m[13], m[1], m[11], m[12], m[5], m[9], m[14],
    m[15], m[8]]

/-- So many rounds, the message being permuted between them. -/
def mixRounds : Nat → Block → Block → Block
  | 0, s, _ => s
  | n + 1, s, m => mixRounds n (mixRound s m) (permute m)

/-- Digests one block of `size` bytes that stands at place `counter`. -/
def compress (chain : Chain) (m : Block) (counter : Nat) (size : Nat) (flags : UInt32) : Chain :=
  let s : Block := #v[
    chain[0], chain[1], chain[2], chain[3], chain[4], chain[5], chain[6], chain[7],
    start[0], start[1], start[2], start[3],
    UInt32.ofNat counter, UInt32.ofNat (counter >>> 32), UInt32.ofNat size, flags]
  let s := mixRounds 7 s m
  Vector.ofFn fun i : Fin 8 => s[i.val] ^^^ s[i.val + 8]

/-- The word that four bytes write, the least byte first. -/
def word (bytes : List UInt8) : UInt32 :=
  bytes.foldr (fun b n => n <<< 8 ||| b.toUInt32) 0

/-- The block that at most 64 bytes write; missing bytes count as zero. -/
def block (bytes : List UInt8) : Block :=
  Vector.ofFn fun i : Fin 16 => word ((bytes.drop (4 * i.val)).take 4)

/-- Cuts a list into pieces of `n` elements, of which the last may be shorter. An empty list is one
empty piece. -/
def cut (n : Nat) (bytes : List UInt8) : List (List UInt8) :=
  (List.range (max 1 ((bytes.length + n - 1) / n))).map fun i => (bytes.drop (n * i)).take n

/-- Digests the blocks of the chunk at place `counter`; `first` marks the first of them and `last`
the last. -/
def chainBlocks (counter : Nat) (last : UInt32) : UInt32 → Chain → List (List UInt8) → Chain
  | _, c, [] => c
  | first, c, [b] => compress c (block b) counter b.length (first ||| chunkEnd ||| last)
  | first, c, b :: bs =>
    chainBlocks counter last 0 (compress c (block b) counter b.length first) bs

/-- Digests a chunk of at most 1024 bytes; `last` marks it if it is the only one. -/
def chunk (counter : Nat) (last : UInt32) (bytes : List UInt8) : Chain :=
  chainBlocks counter last chunkStart start (cut 64 bytes)

/-- Joins the chains of two halves. -/
def join (flags : UInt32) (l r : Chain) : Chain :=
  compress start (Vector.ofFn fun i : Fin 16 => if h : i.val < 8 then l[i.val] else r[i.val - 8])
    0 64 (parent ||| flags)

/-- How many of `n` chunks, two or more, the left half takes: the greatest power of two below
`n`. -/
def leftSize (n : Nat) : Nat := 1 <<< (n - 1).log2

/-- The chain of the chunks from place `counter` on. At most `fuel` joins lie above a chunk. -/
def tree : Nat → UInt32 → Nat → List (List UInt8) → Chain
  | 0, flags, counter, chunks => chunk counter flags chunks.flatten
  | _ + 1, flags, counter, [] => chunk counter flags []
  | _ + 1, flags, counter, [c] => chunk counter flags c
  | fuel + 1, flags, counter, chunks =>
    let n := leftSize chunks.length
    join flags (tree fuel 0 counter (chunks.take n)) (tree fuel 0 (counter + n) (chunks.drop n))

/-- The four bytes of a word, the least first. -/
def wordBytes (w : UInt32) : List UInt8 :=
  [w.toUInt8, (w >>> 8).toUInt8, (w >>> 16).toUInt8, (w >>> 24).toUInt8]

/-- The digest of a list of bytes. -/
def digest (bytes : List UInt8) : List UInt8 :=
  let chunks := cut 1024 bytes
  (tree chunks.length root 0 chunks).toList.flatMap wordBytes

/-- The digest as 64 hexadecimal digits. -/
def digestDigits (bytes : List UInt8) : List Char := Text.hexDigits (digest bytes)

theorem length_digest (bytes : List UInt8) : (digest bytes).length = 32 := by
  simp [digest, List.length_flatMap, wordBytes, List.map_const']

end TestFleet.Digest
