import DigestGate.Text.Digits

namespace DigestGate

/-- A number that is written with a point or with an exponent. -/
inductive Decimal where
  /-- The mantissa times a power of ten. Zero has a sign. -/
  | finite (negative : Bool) (mantissa : Nat) (power : Int)
  | infinite (negative : Bool)
  | undefined
deriving DecidableEq, Repr

namespace Decimal

/-- The highest and the lowest power of ten that a number in floating form comes near to. -/
def maxPower : Int := 309

def minPower : Int := -324

/-- The number in floating form: what is too large for that is infinite, what is too small is
zero. -/
def ofScientific (negative : Bool) (mantissa : Nat) (power : Int) : Decimal :=
  let point := (Nat.toDigits 10 mantissa).length + power
  if mantissa = 0 ∨ point < minPower then .finite negative 0 0
  else if maxPower < point then .infinite negative
  else .finite negative mantissa power

def isWhole (n : Int) : Decimal → Bool
  | .finite negative mantissa power =>
    let signed : Int := if negative then -mantissa else mantissa
    signed * Int.pow 10 power.toNat = n * Int.pow 10 (-power).toNat
  | _ => false

def holds : Decimal → Bool
  | .finite _ mantissa _ => mantissa != 0
  | _ => true

def positional (digits : List Char) (point : Int) : List Char :=
  if point ≤ 0 then '0' :: '.' :: List.replicate (-point).toNat '0' ++ digits
  else if digits.length ≤ point.toNat then
    digits ++ List.replicate (point.toNat - digits.length) '0' ++ ['.', '0']
  else digits.take point.toNat ++ '.' :: digits.drop point.toNat

def magnitude (mantissa : Nat) (power : Int) : List Char :=
  let all := Nat.toDigits 10 mantissa
  let digits := Text.dropZeros all
  let point : Int := all.length + power
  if digits.isEmpty then ['0', '.', '0']
  else if -4 < point ∧ point ≤ 16 then positional digits point
  else Text.pointed digits ++ Text.exponent (point - 1)

def write (infinity undefined : String) : Decimal → String
  | .finite negative mantissa power => signed negative (String.ofList (magnitude mantissa power))
  | .infinite negative => signed negative infinity
  | .undefined => undefined
where
  signed (negative : Bool) (s : String) : String := if negative then "-" ++ s else s

def shown : Decimal → String :=
  write "inf" "nan"

end Decimal

end DigestGate
