import DigestGate.Hash.Word

namespace DigestGate.Hash.SHA1

structure State where
  a : UInt32
  b : UInt32
  c : UInt32
  d : UInt32
  e : UInt32

def State.initial : State :=
  ⟨0x67452301, 0xEFCDAB89, 0x98BADCFE, 0x10325476, 0xC3D2E1F0⟩

/-- Extends the schedule, kept with its latest word first, by `count` words. -/
def extend : Nat → List UInt32 → List UInt32
  | 0, words => words
  | count + 1, words =>
    let word := words.getD 2 0 ^^^ words.getD 7 0 ^^^ words.getD 13 0 ^^^ words.getD 15 0
    extend count (rotateLeft word 1 :: words)

def mix (i : Nat) (b c d : UInt32) : UInt32 × UInt32 :=
  match i / 20 with
  | 0 => ((b &&& c) ||| (~~~b &&& d), 0x5A827999)
  | 1 => (b ^^^ c ^^^ d, 0x6ED9EBA1)
  | 2 => ((b &&& c) ||| (b &&& d) ||| (c &&& d), 0x8F1BBCDC)
  | _ => (b ^^^ c ^^^ d, 0xCA62C1D6)

def step (s : State) (entry : UInt32 × Nat) : State :=
  let (word, i) := entry
  let (f, k) := mix i s.b s.c s.d
  ⟨rotateLeft s.a 5 + f + s.e + k + word, s.a, rotateLeft s.b 30, s.c, s.d⟩

def compress (s : State) (block : List UInt32) : State :=
  let t := (extend 64 block.reverse).reverse.zipIdx.foldl step s
  ⟨s.a + t.a, s.b + t.b, s.c + t.c, s.d + t.d, s.e + t.e⟩

def State.toBytes (s : State) : Bytes :=
  [s.a, s.b, s.c, s.d, s.e].flatMap fun word => bigEndian 4 word.toNat

def hash (message : Bytes) : Bytes :=
  ((wordBlocks ofBigEndian (bigEndian 8) message).foldl compress .initial).toBytes

theorem length_hash (message : Bytes) : (hash message).length = 20 := by
  simp [hash, State.toBytes, length_bigEndian]

end DigestGate.Hash.SHA1
