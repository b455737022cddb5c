import DigestGate.Datum
import DigestGate.Field.Lines

namespace DigestGate

inductive Operation where
  | ensure
  | openStream
  | digest (name : Datum)
  | computed
  | verify (lines : FieldLines)
deriving DecidableEq, Repr

end DigestGate
