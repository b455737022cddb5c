import DigestGate.Text.Digits

namespace DigestGate.Metrics

/-- The number of binary digits of the significand. -/
def precision : Nat := 53

/-- Rounds to a multiple of `unit`, ties to even. -/
def roundTo (unit n : Nat) : Nat :=
  let q := n / unit
  let r := n % unit
  if 2 * r < unit then q * unit
  else if unit < 2 * r then (q + 1) * unit
  else if q % 2 = 0 then q * unit
  else (q + 1) * unit

def spacing (n : Nat) : Nat :=
  Nat.pow 2 (Nat.log2 n + 1 - precision)

def toFloating : Int → Int
  | .ofNat n => roundTo (spacing n) n
  | .negSucc n => -(roundTo (spacing (n + 1)) (n + 1) : Int)

def neighbours (unit n : Nat) : List Nat :=
  let below := n / unit * unit
  if 2 * (n - below) ≤ unit then [below, below + unit] else [below + unit, below]

/-- The shortest decimal that rounds to `n`. -/
def shortest (n : Nat) : Nat → Nat
  | 0 => n
  | zeros + 1 =>
    match (neighbours (Nat.pow 10 (zeros + 1)) n).find?
      fun (m : Nat) => toFloating m == (n : Int) with
    | some m => m
    | none => shortest n zeros

def shortestDigits (n : Nat) : List Char :=
  if n < Nat.pow 2 precision then Nat.toDigits 10 n
  else Nat.toDigits 10 (shortest n (Nat.toDigits 10 n).length)

def scientific (digits : List Char) : List Char :=
  Text.pointed (Text.dropZeros digits) ++ Text.exponent (digits.length - 1 : Nat)

/-- The written form of a whole number, by powers of ten from a million up. -/
def writtenWhole (n : Int) : List Char :=
  match n with
  | .ofNat n =>
    let digits := shortestDigits n
    if n < 1000000 then digits ++ ['.', '0'] else scientific digits
  | .negSucc n =>
    let digits := shortestDigits (n + 1)
    '-' :: if n + 1 < Nat.pow 10 16 then digits ++ ['.', '0'] else scientific digits

/-- A number in floating form. Only whole ones are needed. -/
inductive Floating where
  | finite (value : Int)
  | infinite (negative : Bool)
  | undefined
deriving DecidableEq, Repr

namespace Floating

def ofInt (n : Int) : Floating :=
  if (toFloating n).natAbs < Nat.pow 2 1024 then .finite (toFloating n) else .infinite (n < 0)

def isFinite : Floating → Bool
  | .finite _ => true
  | _ => false

def add : Floating → Floating → Floating
  | .finite a, .finite b => ofInt (a + b)
  | .undefined, _ => .undefined
  | _, .undefined => .undefined
  | .infinite a, .infinite b => if a = b then .infinite a else .undefined
  | .infinite a, .finite _ => .infinite a
  | .finite _, .infinite b => .infinite b

def written : Floating → String
  | .finite n => String.ofList (writtenWhole n)
  | .infinite false => "+Inf"
  | .infinite true => "-Inf"
  | .undefined => "NaN"

end Floating

end DigestGate.Metrics
