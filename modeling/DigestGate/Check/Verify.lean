import DigestGate.Check.Basic
import DigestGate.Request.Host

namespace DigestGate.Host

variable {σ : Type}

/-- Compares the body with the declarations in order, after the algorithms `seen`. -/
def compareWith (h : Host σ) (fields : List IntegrityField) :
    List Algorithm → List Declaration → σ → Except Failure Check × σ
  | seen, [], s => (.ok (.passed fields seen), s)
  | seen, d :: rest, s =>
    match h.digest d.algorithm s with
    | (.error e, s) => (.error e, s)
    | (.ok digest, s) =>
      let seen := if d.algorithm ∈ seen then seen else seen ++ [d.algorithm]
      if sameDigest (digest.getD (d.algorithm.compute [])) d.digest then
        compareWith h fields seen rest s
      else (.ok (.failed fields seen (.mismatch d.field)), s)

def verify (h : Host σ) (lines : FieldLines) (s : σ) : Except Failure Check × σ :=
  match lines.integrityFields with
  | [] => (.ok .missing, s)
  | fields =>
    match lines.declared with
    | .error f => (.ok (.failed fields [] (.malformed f)), s)
    | .ok [] => (.ok (.failed fields [] .unsupported), s)
    | .ok declarations => h.compareWith fields [] declarations s

end DigestGate.Host
