import DigestGate.Field.Integrity

namespace DigestGate

inductive Reason where
  | missing
  | unchecked
  | malformed (field : IntegrityField)
  | unsupported
  | mismatch (field : IntegrityField)
deriving DecidableEq, Repr

def Reason.label : Reason → String
  | .missing => "missing_digest"
  | .unchecked => "no_middleware"
  | .malformed f => "malformed_" ++ f.label
  | .unsupported => "unsupported_algorithm"
  | .mismatch f => f.label ++ "_mismatch"

structure Check where
  present : Bool
  verified : Bool
  algorithms : List Algorithm := []
  fields : List IntegrityField := []
  reason : Option Reason := none
deriving DecidableEq, Repr

namespace Check

def missing : Check :=
  { present := false, verified := false, reason := some .missing }

def unchecked : Check :=
  { present := false, verified := false, reason := some .unchecked }

def failed (fields : List IntegrityField) (algorithms : List Algorithm) (reason : Reason) : Check :=
  { present := true, verified := false, algorithms, fields, reason := some reason }

def passed (fields : List IntegrityField) (algorithms : List Algorithm) : Check :=
  { present := true, verified := true, algorithms, fields }

end Check

def sameDigest (a b : Bytes) : Bool :=
  a.length == b.length && (a.zip b).all fun (x, y) => x == y

end DigestGate
