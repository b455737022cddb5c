import DigestGate.Bytes

namespace DigestGate.Hash

def littleEndian : Nat → Nat → Bytes
  | 0, _ => []
  | count + 1, n => UInt8.ofNat n :: littleEndian count (n / 256)

def bigEndian (count n : Nat) : Bytes :=
  (littleEndian count n).reverse

def blocks (size : Nat) : Nat → Bytes → List Bytes
  | 0, _ => []
  | count + 1, bs => bs.take size :: blocks size count (bs.drop size)

def ofBigEndian (bs : Bytes) : UInt32 :=
  bs.foldl (fun acc b => acc <<< 8 ||| b.toUInt32) 0

def ofLittleEndian (bs : Bytes) : UInt32 :=
  ofBigEndian bs.reverse

def rotateLeft (x : UInt32) (n : UInt32) : UInt32 :=
  (x <<< n) ||| (x >>> (32 - n))

/-- The message, a one bit, zeros up to 56 bytes past a multiple of 64, and its length in bits. -/
def padded (length : Nat → Bytes) (message : Bytes) : Bytes :=
  message ++ 0x80 :: List.replicate ((119 - message.length % 64) % 64) 0 ++
    length (8 * message.length)

def wordBlocks (word : Bytes → UInt32) (length : Nat → Bytes) (message : Bytes) :
    List (List UInt32) :=
  let bs := padded length message
  (blocks 64 (bs.length / 64) bs).map fun block => (blocks 4 16 block).map word

theorem length_littleEndian (count n : Nat) : (littleEndian count n).length = count := by
  induction count generalizing n with
  | zero => rfl
  | succ count ih => simp [littleEndian, ih]

theorem length_bigEndian (count n : Nat) : (bigEndian count n).length = count := by
  simp [bigEndian, length_littleEndian]

end DigestGate.Hash
