import DigestGate.Field.DigestMap
import DigestGate.Text.Split

namespace DigestGate.Field.ContentDigest

def uncolon? : List Char → Option (List Char)
  | ':' :: rest => if rest.getLast? = some ':' then some rest.dropLast else none
  | _ => none

/-- Parses `key=:base64:` with optional blanks and parameters. -/
def parseMember (text : List Char) : Except FieldError Member :=
  match Text.cut '=' text with
  | none => .error .contentDigestSyntax
  | some (key, rest) =>
    match uncolon? (Text.trim (rest.takeWhile (· != ';'))) with
    | none => .error .contentDigestSyntax
    | some encoded => keyed key encoded

/-- Parses a `Content-Digest` field, skipping members with unknown keys. -/
def parse (value : String) : Except FieldError DigestMap :=
  parseMembers parseMember (Text.pieces ',' value.toList) []

def writeMember (entry : Algorithm × Bytes) : List Char :=
  entry.1.contentToken.toList ++ "=:".toList ++ Base64.encode entry.2 ++ [':']

def write (digests : DigestMap) : String :=
  String.ofList (", ".toList.intercalate (digests.map writeMember))

def declare (body : Bytes) (algorithms : List Algorithm) : String :=
  write (.ofList (algorithms.map fun a => (a, a.compute body)))

end DigestGate.Field.ContentDigest
