import DigestGate.Algorithm
import DigestGate.Check.Basic
import DigestGate.Metrics.Number

namespace DigestGate

inductive Observation where
  | buffering (result : String)
  | bodySize (size : Int)
  | check (result reason : String)
  | computed (algorithm : String)
deriving DecidableEq, Repr

namespace Observation

def ofBuffering (result : String) (size : Option Int) : List Observation :=
  .buffering result :: (size.map .bodySize).toList

def ofCheck (verified : Bool) (reason : Option String) (computed : List String) :
    List Observation :=
  let label := match reason with
    | none => "ok"
    | some text => if text = "" then "ok" else text
  .check (if verified then "verified" else "failed") label :: computed.map .computed

end Observation

/-- All observations, in order. -/
structure Metrics where
  observations : List Observation := []
deriving DecidableEq, Repr

structure Sample where
  name : String
  labels : List (String × String)
  value : Metrics.Floating
deriving DecidableEq, Repr

inductive MetricsError where
  | sizeTooLarge
deriving DecidableEq, Repr

def MetricsError.message : MetricsError → String
  | .sizeTooLarge => "int too large to convert to float"

namespace Metrics

def add (news : List Observation) (m : Metrics) : Metrics :=
  { observations := m.observations ++ news }

/-- Only sizes with a finite floating form can be observed. -/
def keeps : Observation → Bool
  | .bodySize size => (Floating.ofInt size).isFinite
  | _ => true

def record (news : List Observation) (m : Metrics) : Except MetricsError Metrics :=
  if news.all keeps then .ok (m.add news) else .error .sizeTooLarge

def sizes (m : Metrics) : List Int :=
  m.observations.filterMap fun
    | .bodySize size => some size
    | _ => none

def bounds : List Int :=
  [0, 64, 256, 1024, 4096, 16384, 65536, 262144, 1048576, 4194304]

def sizeSum (m : Metrics) : Floating :=
  m.sizes.foldl (fun sum size => sum.add (.ofInt size)) (.finite 0)

/-- A family of samples, with the labels under which it counts an observation. -/
structure Family where
  name : String
  help : String
  labelled : Observation → Option (List (String × String))

def families : List Family := [
  { name := "bodyseal_body_buffer_total"
    help := "Request body buffering attempts by outcome."
    labelled := fun
      | .buffering result => some [("result", result)]
      | _ => none },
  { name := "bodyseal_digest_checks_total"
    help := "Content digest verifications by outcome."
    labelled := fun
      | .check result reason => some [("reason", reason), ("result", result)]
      | _ => none },
  { name := "bodyseal_digests_computed_total"
    help := "Body digests computed, per algorithm."
    labelled := fun
      | .computed algorithm => some [("alg", algorithm)]
      | _ => none }]

def counterSamples (m : Metrics) (f : Family) : List Sample :=
  let labels := m.observations.filterMap f.labelled
  labels.eraseDups.map fun l => ⟨f.name, l, .ofInt (labels.count l)⟩

def histogramName : String := "bodyseal_body_bytes"

def histogramHelp : String := "Size of buffered request bodies (bytes)."

def histogramSamples (m : Metrics) : List Sample :=
  let sizes := m.sizes
  let bucket (le : String) (n : Nat) : Sample :=
    ⟨histogramName ++ "_bucket", [("le", le)], .ofInt n⟩
  bounds.map (fun b => bucket (Floating.ofInt b).written (sizes.countP (· ≤ b)))
    ++ [bucket "+Inf" sizes.length,
      ⟨histogramName ++ "_count", [], .ofInt sizes.length⟩,
      ⟨histogramName ++ "_sum", [], m.sizeSum⟩]

def samples (m : Metrics) : List Sample :=
  families.flatMap m.counterSamples ++ m.histogramSamples

end Metrics

end DigestGate
