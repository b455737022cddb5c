import DigestGate.Text.CaseTable
import DigestGate.Text.Ranges

namespace DigestGate.Text

def counterpart (runs : List CaseRun) (c : Char) : Char :=
  match runs.find? (·.covers c.toNat) with
  | some run => Char.ofNat (c.toNat + run.offset).toNat
  | none => c

def mapCase (ascii : Char → Char) (expansions : List (Nat × List Nat)) (runs : List CaseRun)
    (c : Char) : List Char :=
  if c.toNat < 128 then [ascii c]
  else
    match expansions.lookup c.toNat with
    | some codes => codes.map Char.ofNat
    | none => [counterpart runs c]

def upperChar : Char → List Char :=
  mapCase Char.toUpper upperExpansions upperRuns

def lowerChar : Char → List Char :=
  mapCase Char.toLower lowerExpansions lowerRuns

def upper (cs : List Char) : List Char :=
  cs.flatMap upperChar

/-- The nearest character that is not ignorable has a case. -/
def nearCased (cs : List Char) : Bool :=
  (cs.dropWhile (within caseIgnorable)).head?.any (within cased)

/-- Lower case after the reversed text `before`. A capital sigma may take its final form. -/
def lowerAfter (before : List Char) : List Char → List Char
  | [] => []
  | c :: after =>
    (if c = 'Σ' then [if nearCased before && !nearCased after then 'ς' else 'σ'] else lowerChar c)
      ++ lowerAfter (c :: before) after

def lower (cs : List Char) : List Char :=
  lowerAfter [] cs

def lowerCase (s : String) : String :=
  String.ofList (lower s.toList)

def upperCase (s : String) : String :=
  String.ofList (upper s.toList)

end DigestGate.Text
