import Folio.Text.Hex
/-!
The BLAKE3 hash of a sequence of bytes, as 32 bytes. The input is cut into chunks of 1024 bytes, a
chunk into blocks of 64; the chaining values of the chunks are the leaves of a binary tree whose
left subtrees are as large a power of two as leaves something on the right.
-/
set_option autoImplicit false

namespace Folio.Blake3

abbrev Words := Array UInt32

def initial : Words := #[
  0x6a09e667, 0xbb67ae85, 0x3c6ef372, 0xa54ff53a, 0x510e527f, 0x9b05688c, 0x1f83d9ab, 0x5be0cd19]

def permutation : List Nat := [2, 6, 3, 10, 7, 0, 4, 13, 1, 11, 12, 5, 9, 14, 15, 8]

def chunkStart : UInt32 := 1
def chunkEnd : UInt32 := 2
def parentFlag : UInt32 := 4
def rootFlag : UInt32 := 8

def word (ws : Words) (i : Nat) : UInt32 := ws.getD i 0

def rotateRight (x : UInt32) (n : UInt32) : UInt32 := (x >>> n) ||| (x <<< (32 - n))

def mix (s : Words) (a b c d : Nat) (x y : UInt32) : Words :=
  let va := word s a + word s b + x
  let vd := rotateRight (word s d ^^^ va) 16
  let vc := word s c + vd
  let vb := rotateRight (word s b ^^^ vc) 12
  let va := va + vb + y
  let vd := rotateRight (vd ^^^ va) 8
  let vc := vc + vd
  let vb := rotateRight (vb ^^^ vc) 7
  (((s.setIfInBounds a va).setIfInBounds b vb).setIfInBounds c vc).setIfInBounds d vd

def round (s m : Words) : Words :=
  let s := mix s 0 4 8 12 (word m 0) (word m 1)
  let s := mix s 1 5 9 13 (word m 2) (word m 3)
  let s := mix s 2 6 10 14 (word m 4) (word m 5)
  let s := mix s 3 7 11 15 (word m 6) (word m 7)
  let s := mix s 0 5 10 15 (word m 8) (word m 9)
  let s := mix s 1 6 11 12 (word m 10) (word m 11)
  let s := mix s 2 7 8 13 (word m 12) (word m 13)
  mix s 3 4 9 14 (word m 14) (word m 15)

def permute (m : Words) : Words := (permutation.map (word m)).toArray

def rounds : Nat → Words → Words → Words
  | 0, s, _ => s
  | n + 1, s, m => rounds n (round s m) (permute m)

structure Output where
  chaining : Words
  block : Words
  counter : Nat
  length : Nat
  flags : UInt32

def compress (o : Output) : Words :=
  let s := o.chaining ++ #[word initial 0, word initial 1, word initial 2, word initial 3,
    UInt32.ofNat o.counter, UInt32.ofNat (o.counter / Nat.pow 2 32), UInt32.ofNat o.length, o.flags]
  let t := rounds 7 s o.block
  ((List.range 8).map fun i => word t i ^^^ word t (i + 8)).toArray

def wordsOfBytes : Nat → List UInt8 → List UInt32
  | 0, _ => []
  | n + 1, bytes =>
    let at_ (i : Nat) : UInt32 := (bytes.getD i 0).toUInt32
    (at_ 0 ||| (at_ 1 <<< 8) ||| (at_ 2 <<< 16) ||| (at_ 3 <<< 24)) ::
      wordsOfBytes n (bytes.drop 4)

def blockWords (bytes : List UInt8) : Words := (wordsOfBytes 16 bytes).toArray

/-- Compresses the blocks of a chunk but the last, which is returned uncompressed. -/
def chunkOutput (counter : Nat) : Nat → UInt32 → Words → List UInt8 → Output
  | 0, flags, chaining, bytes => ⟨chaining, blockWords bytes, counter, bytes.length, flags ||| chunkEnd⟩
  | fuel + 1, flags, chaining, bytes =>
    if bytes.length ≤ 64 then
      ⟨chaining, blockWords bytes, counter, bytes.length, flags ||| chunkEnd⟩
    else
      chunkOutput counter fuel 0
        (compress ⟨chaining, blockWords (bytes.take 64), counter, 64, flags⟩) (bytes.drop 64)

def parentOutput (left right : Words) : Output := ⟨initial, left ++ right, 0, 64, parentFlag⟩

/-- The largest power of two below `n`, times the size of a chunk. -/
def leftLength : Nat → Nat → Nat → Nat
  | 0, size, _ => size
  | fuel + 1, size, n => if 2 * size < n then leftLength fuel (2 * size) n else size

def treeOutput : Nat → Nat → List UInt8 → Output
  | 0, counter, bytes => chunkOutput counter 16 chunkStart initial bytes
  | fuel + 1, counter, bytes =>
    if bytes.length ≤ 1024 then chunkOutput counter 16 chunkStart initial bytes
    else
      let n := leftLength fuel 1024 bytes.length
      let left := treeOutput fuel counter (bytes.take n)
      let right := treeOutput fuel (counter + n / 1024) (bytes.drop n)
      parentOutput (compress left) (compress right)

def bytesOfWord (w : UInt32) : List UInt8 :=
  [w.toUInt8, (w >>> 8).toUInt8, (w >>> 16).toUInt8, (w >>> 24).toUInt8]

def hash (bytes : List UInt8) : List UInt8 :=
  let root := treeOutput 64 0 bytes
  let ws := compress { root with flags := root.flags ||| rootFlag }
  (List.range 8).flatMap fun i => bytesOfWord (word ws i)

theorem hash_length (bytes : List UInt8) : (hash bytes).length = 32 := by
  simp [hash, bytesOfWord, List.range_succ]

end Folio.Blake3
