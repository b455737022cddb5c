import DigestGate.Session.Basic

namespace DigestGate

def Attribute.kind : Attribute → String
  | .value plain => plain.kind
  | .fields kind _ => kind
  | .object kind => kind

def Attribute.lines : Attribute → Except Fault FieldLines
  | .fields _ lines => .ok lines
  | other => .error (.missingAttribute other.kind "get")

namespace Client

def lookUp (c : Client) (name : String) : Except Fault Attribute :=
  (c.attributes.lookup name).getD (.error (.missingAttribute c.kind name))

def headers (c : Client) : Except Fault FieldLines :=
  (c.lookUp "headers").bind Attribute.lines

end Client

namespace Layer

def members : List (String × Attribute) :=
  let kinds : List (String × List String) := [
    ("type", ["__class__"]),
    ("dict", ["__dict__"]),
    ("method", ["ensure_buffered", "get_digest", "content_md5", "content_sha1", "content_sha256",
      "computed_digests", "open_stream", "get_input_stream", "_check_not_passed_through",
      "__init__", "__getattr__"]),
    ("method-wrapper", ["__eq__", "__ne__", "__lt__", "__le__", "__gt__", "__ge__", "__hash__",
      "__repr__", "__str__", "__getattribute__", "__setattr__", "__delattr__"]),
    ("builtin_function_or_method", ["__dir__", "__sizeof__", "__reduce__", "__reduce_ex__",
      "__format__", "__new__", "__getstate__", "__init_subclass__", "__subclasshook__"])]
  [("__doc__", .value .null), ("__weakref__", .value .null),
    ("__module__", .value (.text "bodyseal.body.wrapper"))] ++
    kinds.flatMap fun (kind, names) => names.map fun name => (name, .object kind)

def own? (client : Client) (l : Layer) : String → Option Attribute
  | "request" | "_request" =>
    some (.object (if l.under.isSome then "DigestingRequest" else client.kind))
  | "maximum_length" => some (.value (.number l.request.limits.maximum))
  | "_chunk_size" => some (.value (.number l.request.limits.chunk))
  | "state" => some (.value (.text l.request.state.name))
  | "body" => some (if l.request.body.isSome then .object "bytes" else .value .null)
  | "_passed_through" => some (.value (.flag l.request.handedOut))
  | "_buffer" => some (.object "BodyBuffer")
  | "_digests" => some (.object "DigestCache")
  | name => members.lookup name

end Layer

namespace Session

variable {ρ : Type}

/-- The attribute of request `k`, delegated to the request that it was made from. -/
def lookUp (s : Session ρ) (k : Nat) (name : String) : Except Fault Attribute :=
  match s.layers[k]? with
  | none => s.client.lookUp name
  | some layer =>
    match layer.own? s.client name, layer.under with
    | some value, _ => .ok value
    | none, none => s.client.lookUp name
    | none, some j => if j < k then s.lookUp j name else s.client.lookUp name
termination_by k

/-- Names that no request defines are looked up in the client. -/
theorem lookUp_eq {name : String} (hname : ∀ client (l : Layer), l.own? client name = none)
    (s : Session ρ) (k : Nat) : s.lookUp k name = s.client.lookUp name := by
  induction k using Nat.strongRecOn with
  | ind k ih =>
    rw [lookUp]
    cases s.layers[k]? with
    | none => rfl
    | some layer =>
      simp only [hname]
      cases layer.under with
      | none => rfl
      | some j =>
        by_cases hj : j < k
        · simp only [if_pos hj, ih j hj]
        · simp only [if_neg hj]

def headers (s : Session ρ) (k : Nat) : Except Fault FieldLines :=
  (s.lookUp k "headers").bind Attribute.lines

theorem headers_eq (s : Session ρ) (k : Nat) : s.headers k = s.client.headers := by
  rw [headers, lookUp_eq (fun _ _ => rfl), Client.headers]

end Session

end DigestGate
