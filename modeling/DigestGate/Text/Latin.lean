import DigestGate.Text.Quoted

namespace DigestGate.Text

def isLatin (c : Char) : Bool :=
  c.toNat < 0x100

/-- The first characters that are not Latin-1, and their position. -/
structure LatinError where
  start : Nat
  run : List Char
deriving DecidableEq, Repr

def LatinError.message (e : LatinError) : String :=
  "'latin-1' codec can't encode " ++ String.ofList (subject e.run) ++ ": ordinal not in range(256)"
where
  subject : List Char → List Char
    | [c] =>
      "character '\\".toList ++ code c ++ "' in position ".toList ++ Nat.toDigits 10 e.start
    | run =>
      "characters in position ".toList ++ Nat.toDigits 10 e.start ++ '-'
        :: Nat.toDigits 10 (e.start + run.length - 1)
  code (c : Char) : List Char :=
    if c.toNat < 0x10000 then 'u' :: hexDigits 4 c.toNat else 'U' :: hexDigits 8 c.toNat

def latin (cs : List Char) : Except LatinError (List Char) :=
  match cs.dropWhile isLatin with
  | [] => .ok cs
  | rest => .error ⟨(cs.takeWhile isLatin).length, rest.takeWhile fun c => !isLatin c⟩

end DigestGate.Text
