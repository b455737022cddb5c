import DigestGate.Field.Integrity
import DigestGate.Http.Scope

namespace DigestGate

namespace FieldLines

variable {lines lines' : FieldLines} {name : String}

def others (lines : FieldLines) : FieldLines :=
  lines.filter fun line => line.1 ∉ IntegrityField.all.map IntegrityField.name

theorem first?_others (hname : name ∉ IntegrityField.all.map IntegrityField.name)
    (lines : FieldLines) : lines.others.first? name = lines.first? name := by
  induction lines with
  | nil => rfl
  | cons line lines ih =>
    obtain ⟨key, value⟩ := line
    by_cases hkey : key ∈ IntegrityField.all.map IntegrityField.name
    · have hne : (name == key) = false := by
        rw [beq_eq_false_iff_ne]
        rintro rfl
        exact hname hkey
      rw [others, List.filter_cons_of_neg (by simpa using hkey)]
      rw [first?, first?, List.lookup_cons, hne]
      exact ih
    · rw [others, List.filter_cons_of_pos (by simpa using hkey)]
      rw [first?, first?, List.lookup_cons, List.lookup_cons]
      cases name == key with
      | true => rfl
      | false => exact ih

theorem first?_of_others (hname : name ∉ IntegrityField.all.map IntegrityField.name)
    (hothers : lines'.others = lines.others) : lines'.first? name = lines.first? name := by
  rw [← first?_others hname lines', hothers, first?_others hname lines]

theorem first?_repeated {before after : FieldLines} {key value : String}
    (hkey : key ∈ before.map Prod.fst) (name : String) :
    first? (before ++ (key, value) :: after) name = first? (before ++ after) name := by
  rw [first?, first?, List.lookup_append, List.lookup_append, List.lookup_cons]
  by_cases hname : name = key
  · obtain ⟨line, hline, hfst⟩ := List.mem_map.1 hkey
    have hsome : (before.lookup name).isSome :=
      List.lookup_isSome_iff.2 ⟨line, hline, by rw [beq_iff_eq, hname, hfst]⟩
    obtain ⟨found, hfound⟩ := Option.isSome_iff_exists.1 hsome
    rw [hfound]
    rfl
  · rw [beq_eq_false_iff_ne.2 hname]

end FieldLines

namespace Scope

variable {s : Scope} {lines lines' : FieldLines}

theorem url_of_first? (hlines : s.lines = some lines)
    (hhost : lines'.first? "host" = lines.first? "host") :
    { s with lines := some lines' }.url = s.url := by
  have hheader : s.header = .ok lines := by
    rw [header, hlines]
  have hhost? : ({ s with lines := some lines' } : Scope).host? lines' = s.host? lines := by
    rw [host?, host?, hhost]
  have hheader' : ({ s with lines := some lines' } : Scope).header = .ok lines' := rfl
  have hlocation : ({ s with lines := some lines' } : Scope).location = s.location := rfl
  rw [url, url, hheader, hheader', hlocation]
  simp only [bind, Except.bind, hhost?]

theorem head_of_first? (hlines : s.lines = some lines)
    (hhost : lines'.first? "host" = lines.first? "host") :
    { s with lines := some lines' }.head =
      s.head.map fun head => { head with lines := lines' } := by
  rw [head, head, url_of_first? hlines hhost, header, header, hlines]
  cases s.url with
  | error e => rfl
  | ok url =>
    simp only
    cases Url.path url with
    | error e => rfl
    | ok route =>
      simp only
      cases s.method with
      | none => rfl
      | some method =>
        simp only
        cases upperMethod method with
        | error e => rfl
        | ok verb => rfl

theorem lines_of_head {head : Head} (hlines : s.lines = some lines) (hhead : s.head = .ok head) :
    head.lines = lines := by
  have hself := head_of_first? hlines rfl
  rw [← hlines, hhead] at hself
  injection hself with hself
  rw [hself]

end Scope

end DigestGate
