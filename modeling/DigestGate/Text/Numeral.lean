import DigestGate.Text.Blank
import DigestGate.Text.Split
import DigestGate.Text.DigitTable

namespace DigestGate.Text

def digitValue? (c : Char) : Option Nat :=
  (zeros.find? fun base => base ≤ c.toNat && c.toNat < base + 10).map (c.toNat - ·)

/-- Blanks around a numeral exclude the information separators. -/
def isNumeralBlank (c : Char) : Bool :=
  isBlank c && !(0x1C ≤ c.toNat && c.toNat ≤ 0x1F)

inductive NumeralError where
  | malformed
  | tooManyDigits (count : Nat)
deriving DecidableEq, Repr

def maxDigits : Nat := 4300

def splitSign : List Char → Bool × List Char
  | '-' :: cs => (true, cs)
  | '+' :: cs => (false, cs)
  | cs => (false, cs)

def magnitude? (cs : List Char) : Except NumeralError Nat :=
  let run := cs.takeWhile fun c => (digitValue? c).isSome || c == '_'
  let groups := pieces '_' run
  let digits := (run.filterMap digitValue?)
  if groups.any List.isEmpty then .error .malformed
  else if maxDigits < digits.length then .error (.tooManyDigits digits.length)
  else if run.length ≠ cs.length then .error .malformed
  else .ok (digits.foldl (fun value digit => 10 * value + digit) 0)

def integer? (cs : List Char) : Except NumeralError Int :=
  let (negative, rest) := splitSign (trimWhere isNumeralBlank cs)
  (magnitude? rest).map fun n => if negative then -(n : Int) else n

def decimal (n : Int) : List Char :=
  if n < 0 then '-' :: Nat.toDigits 10 n.natAbs else Nat.toDigits 10 n.natAbs

end DigestGate.Text
