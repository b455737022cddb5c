import DigestGate.Http.Json

namespace DigestGate

namespace Json

def isBlank (c : Char) : Bool :=
  c = ' ' || c = '\t' || c = '\n' || c = '\r'

def hexValue? (c : Char) : Option Nat :=
  if c.isDigit then some (c.toNat - '0'.toNat)
  else if 'a' ≤ c ∧ c ≤ 'f' then some (c.toNat - 'a'.toNat + 10)
  else if 'A' ≤ c ∧ c ≤ 'F' then some (c.toNat - 'A'.toNat + 10)
  else none

def unit? (a b c d : Char) : Option Nat :=
  match hexValue? a, hexValue? b, hexValue? c, hexValue? d with
  | some a, some b, some c, some d => some (((a * 16 + b) * 16 + c) * 16 + d)
  | _, _, _, _ => none

def unescape? (c : Char) : Option Char :=
  [('"', '"'), ('\\', '\\'), ('/', '/'), ('b', '\x08'), ('f', '\x0c'), ('n', '\n'), ('r', '\r'),
    ('t', '\t')].lookup c

def isHighSurrogate (unit : Nat) : Bool := 0xD800 ≤ unit && unit < 0xDC00

def isLowSurrogate (unit : Nat) : Bool := 0xDC00 ≤ unit && unit < 0xE000

/-- Appends a code unit to a reversed list, joining surrogate pairs. -/
def push : List Nat → Nat → List Nat
  | high :: units, low =>
    if isHighSurrogate high && isLowSurrogate low then
      (0x10000 + (high - 0xD800) * 0x400 + (low - 0xDC00)) :: units
    else low :: high :: units
  | [], unit => [unit]

/-- Reads code points through the closing quote. -/
def readPoints : List Nat → List Char → Option (List Nat × List Char)
  | points, '"' :: rest => some (points.reverse, rest)
  | points, '\\' :: 'u' :: a :: b :: c :: d :: rest =>
    match unit? a b c d with
    | none => none
    | some unit => readPoints (push points unit) rest
  | points, '\\' :: c :: rest =>
    match unescape? c with
    | none => none
    | some c => readPoints (c.toNat :: points) rest
  | points, c :: rest => if c.toNat < 0x20 then none else readPoints (c.toNat :: points) rest
  | _, [] => none

def replacement : Char := '\ufffd'

def ofPoint (point : Nat) : Char :=
  if isHighSurrogate point || isLowSurrogate point then replacement else Char.ofNat point

def readText (cs : List Char) : Option (String × List Char) :=
  (readPoints [] cs).map fun (points, rest) => (String.ofList (points.map ofPoint), rest)

def splitDigits (cs : List Char) : List Char × List Char :=
  (cs.takeWhile Char.isDigit, cs.dropWhile Char.isDigit)

def readPlaces : List Char → Option (List Char × List Char)
  | '.' :: rest =>
    let (digits, rest) := splitDigits rest
    if digits.isEmpty then none else some (digits, rest)
  | rest => some ([], rest)

def readPower : List Char → Option (Int × List Char)
  | [] => some (0, [])
  | c :: rest =>
    if c = 'e' ∨ c = 'E' then
      let negative := rest.head? = some '-'
      let (digits, rest) :=
        splitDigits (if negative ∨ rest.head? = some '+' then rest.drop 1 else rest)
      if digits.isEmpty then none
      else some (if negative then -(Text.number digits : Int) else Text.number digits, rest)
    else some (0, c :: rest)

def readMagnitude (negative : Bool) (cs : List Char) : Option (Datum × List Char) :=
  let (whole, afterWhole) := splitDigits cs
  if whole.isEmpty then none
  else
    match readPlaces afterWhole with
    | none => none
    | some (places, afterPlaces) =>
      match readPower afterPlaces with
      | none => none
      | some (power, rest) =>
        let mantissa := Text.number (whole ++ places)
        if afterWhole.head?.all (· ∉ ['.', 'e', 'E']) then
          some (.number (if negative then -mantissa else mantissa), rest)
        else some (.decimal (.ofScientific negative mantissa (power - places.length)), rest)

mutual

/-- Reads one value. The length of a document suffices as `fuel`. -/
def readValue (fuel : Nat) (cs : List Char) : Option (Datum × List Char) :=
  match fuel with
  | 0 => none
  | fuel + 1 =>
    match cs.dropWhile isBlank with
    | '"' :: rest => (readText rest).map fun (text, rest) => (.text text, rest)
    | '[' :: rest =>
      match rest.dropWhile isBlank with
      | ']' :: rest => some (.list [], rest)
      | rest => (readItems fuel [] rest).map fun (items, rest) => (.list items, rest)
    | '\x7b' :: rest =>
      match rest.dropWhile isBlank with
      | '\x7d' :: rest => some (.record [], rest)
      | rest => (readMembers fuel [] rest).map fun (members, rest) => (.record members, rest)
    | 'n' :: 'u' :: 'l' :: 'l' :: rest => some (.null, rest)
    | 't' :: 'r' :: 'u' :: 'e' :: rest => some (.flag true, rest)
    | 'f' :: 'a' :: 'l' :: 's' :: 'e' :: rest => some (.flag false, rest)
    | 'N' :: 'a' :: 'N' :: rest => some (.decimal .undefined, rest)
    | 'I' :: 'n' :: 'f' :: 'i' :: 'n' :: 'i' :: 't' :: 'y' :: rest =>
      some (.decimal (.infinite false), rest)
    | '-' :: 'I' :: 'n' :: 'f' :: 'i' :: 'n' :: 'i' :: 't' :: 'y' :: rest =>
      some (.decimal (.infinite true), rest)
    | '-' :: rest => readMagnitude true rest
    | rest => readMagnitude false rest

def readItems (fuel : Nat) (items : List Datum) (cs : List Char) :
    Option (List Datum × List Char) :=
  match fuel with
  | 0 => none
  | fuel + 1 =>
    match readValue fuel cs with
    | none => none
    | some (item, rest) =>
      match rest.dropWhile isBlank with
      | ',' :: rest => readItems fuel (item :: items) rest
      | ']' :: rest => some ((item :: items).reverse, rest)
      | _ => none

def readMembers (fuel : Nat) (members : List (String × Datum)) (cs : List Char) :
    Option (List (String × Datum) × List Char) :=
  match fuel with
  | 0 => none
  | fuel + 1 =>
    match cs.dropWhile isBlank with
    | '"' :: rest =>
      match readText rest with
      | none => none
      | some (name, rest) =>
        match rest.dropWhile isBlank with
        | ':' :: rest =>
          match readValue fuel rest with
          | none => none
          | some (value, rest) =>
            match rest.dropWhile isBlank with
            | ',' :: rest => readMembers fuel ((name, value) :: members) rest
            | '\x7d' :: rest => some (((name, value) :: members).reverse, rest)
            | _ => none
        | _ => none
    | _ => none

end

end Json

namespace Datum

def ofJson? (document : String) : Option Datum :=
  let cs := document.toList
  match Json.readValue (cs.length + 1) cs with
  | some (value, rest) => if rest.all Json.isBlank then some value else none
  | none => none

end Datum

end DigestGate
