import DigestGate.Field.DigestMap

namespace DigestGate.Field.ContentMD5

def parse (value : String) : Except FieldError Bytes :=
  match decodeDigest (Text.trim value.toList) with
  | .error e => .error e
  | .ok digest => if digest.length = Algorithm.md5.size then .ok digest else .error .md5Length

def declare (body : Bytes) : String :=
  String.ofList (Base64.encode (Algorithm.md5.compute body))

end DigestGate.Field.ContentMD5
