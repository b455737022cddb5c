import DigestGate.Field.ContentDigest
import DigestGate.Field.ContentMD5
import DigestGate.Field.LegacyDigest
import DigestGate.Field.Lines

namespace DigestGate

inductive IntegrityField where
  | contentDigest
  | digest
  | contentMD5
deriving DecidableEq, Repr

namespace IntegrityField

def all : List IntegrityField := [.contentDigest, .digest, .contentMD5]

def name : IntegrityField → String
  | .contentDigest => "content-digest"
  | .digest => "digest"
  | .contentMD5 => "content-md5"

def label : IntegrityField → String
  | .contentDigest => "content_digest"
  | .digest => "digest"
  | .contentMD5 => "content_md5"

def parse (value : String) : IntegrityField → Except FieldError DigestMap
  | .contentDigest => Field.ContentDigest.parse value
  | .digest => Field.LegacyDigest.parse value
  | .contentMD5 => (Field.ContentMD5.parse value).map fun digest => [(.md5, digest)]

def value? (lines : FieldLines) (f : IntegrityField) : Option String :=
  (lines.first? f.name).filter (· != "")

end IntegrityField

structure Declaration where
  field : IntegrityField
  algorithm : Algorithm
  digest : Bytes
deriving DecidableEq, Repr

namespace FieldLines

def integrityFields (lines : FieldLines) : List IntegrityField :=
  IntegrityField.all.filter fun f => (f.value? lines).isSome

def hasIntegrity (lines : FieldLines) : Bool :=
  IntegrityField.all.any fun f => (f.value? lines).isSome

/-- The digests declared in the fields, or the first field that is malformed. -/
def declaredIn (lines : FieldLines) :
    List IntegrityField → Except IntegrityField (List Declaration)
  | [] => .ok []
  | f :: rest =>
    match f.value? lines with
    | none => declaredIn lines rest
    | some value =>
      match f.parse value with
      | .error _ => .error f
      | .ok digests =>
        (declaredIn lines rest).map (digests.map (fun (a, d) => ⟨f, a, d⟩) ++ ·)

def declared (lines : FieldLines) : Except IntegrityField (List Declaration) :=
  lines.declaredIn IntegrityField.all

end FieldLines

end DigestGate
