import DigestGate.Algorithm
import DigestGate.Base64
import DigestGate.Field.Error

namespace DigestGate

/-- Digests by algorithm, in the order of their first insertion. -/
abbrev DigestMap := List (Algorithm × Bytes)

namespace DigestMap

/-- Sets a digest. A known algorithm keeps its place. -/
def insert (a : Algorithm) (digest : Bytes) : DigestMap → DigestMap
  | [] => [(a, digest)]
  | (b, d) :: rest => if a = b then (b, digest) :: rest else (b, d) :: insert a digest rest

def ofList (entries : List (Algorithm × Bytes)) : DigestMap :=
  entries.foldl (fun m (a, digest) => m.insert a digest) []

end DigestMap

namespace Algorithm

def ofName? : Datum → Option Algorithm
  | .text name => ofKey? name.toList
  | _ => none

def resolve (name : Datum) : Except FieldError Algorithm :=
  match ofName? name with
  | some a => .ok a
  | none => .error (.unknownAlgorithm name)

end Algorithm

namespace Field

def decodeDigest (text : List Char) : Except FieldError Bytes :=
  match Base64.decode? text with
  | some bytes => .ok bytes
  | none => .error (.notBase64 (String.ofList text))

/-- The entry of one member of a list field, none if its key is unknown. -/
abbrev Member := Option (Algorithm × Bytes)

/-- Parses the nonblank members of a comma-separated list, from left to right. -/
def parseMembers (member : List Char → Except FieldError Member) :
    List (List Char) → DigestMap → Except FieldError DigestMap
  | [], digests => .ok digests
  | piece :: rest, digests =>
    match Text.trim piece with
    | [] => parseMembers member rest digests
    | text =>
      match member text with
      | .error e => .error e
      | .ok none => parseMembers member rest digests
      | .ok (some (a, digest)) => parseMembers member rest (digests.insert a digest)

def keyed (key text : List Char) : Except FieldError Member :=
  match Algorithm.ofKey? key with
  | none => .ok none
  | some a => (decodeDigest text).map fun digest => some (a, digest)

end Field

end DigestGate
