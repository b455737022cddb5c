import DigestGate.Datum

namespace DigestGate

inductive FieldError where
  | unknownAlgorithm (name : Datum)
  | notBase64 (text : String)
  | contentDigestSyntax
  | legacyDigestSyntax
  | md5Length
deriving DecidableEq, Repr

def FieldError.message : FieldError → String
  | .unknownAlgorithm name => "unsupported digest algorithm: " ++ name.shown
  | .notBase64 text => "invalid base64 digest value: " ++ Text.quoted text
  | .contentDigestSyntax => "invalid Content-Digest format"
  | .legacyDigestSyntax => "invalid Digest format"
  | .md5Length => "invalid Content-MD5 length"

end DigestGate
