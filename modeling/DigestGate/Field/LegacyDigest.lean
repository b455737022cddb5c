import DigestGate.Field.DigestMap
import DigestGate.Text.Split

namespace DigestGate.Field.LegacyDigest

def parseMember (text : List Char) : Except FieldError Member :=
  match Text.cut '=' text with
  | none => .error .legacyDigestSyntax
  | some (_, []) => .error .legacyDigestSyntax
  | some (key, encoded) => keyed key (Text.trim encoded)

def parse (value : String) : Except FieldError DigestMap :=
  parseMembers parseMember (Text.pieces ',' value.toList) []

def writeMember (entry : Algorithm × Bytes) : List Char :=
  entry.1.legacyToken.toList ++ '=' :: Base64.encode entry.2

def declare (body : Bytes) (algorithms : List Algorithm) : String :=
  String.ofList (", ".toList.intercalate
    (algorithms.map fun a => writeMember (a, a.compute body)))

end DigestGate.Field.LegacyDigest
