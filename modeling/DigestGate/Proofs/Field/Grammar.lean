import DigestGate.Field.Integrity
import DigestGate.Proofs.Field.Base64
import DigestGate.Proofs.Field.Collection

namespace DigestGate.Field

variable {text encoded cs : List Char}

/-- The parser rejects a member without a value and dispatches on the key of any other. -/
structure Finds (member : List Char → Except FieldError Member)
    (value : List Char → List Char → Prop) : Prop where
  keyed_of : ∀ {text encoded}, value text encoded → member text = keyed (keyOf text) encoded
  missing : ∀ {text}, (∀ encoded, ¬ value text encoded) → ∃ e, member text = .error e

namespace Finds

variable {member : List Char → Except FieldError Member} {value : List Char → List Char → Prop}
  (h : Finds member value)
include h

theorem exists_error_iff :
    (∃ e, member text = .error e) ↔ (∀ encoded, ¬ value text encoded) ∨
      ∃ a encoded, named? text = some a ∧ value text encoded ∧ ¬ Base64.IsStrict encoded := by
  constructor
  · rintro ⟨e, he⟩
    by_cases hvalue : ∃ encoded, value text encoded
    · obtain ⟨encoded, hencoded⟩ := hvalue
      rw [h.keyed_of hencoded] at he
      obtain ⟨a, hname, hnone⟩ := exists_error_keyed_iff.1 ⟨e, he⟩
      exact .inr ⟨a, encoded, hname, hencoded, Base64.decode?_eq_none_iff.1 hnone⟩
    · exact .inl (not_exists.1 hvalue)
  · rintro (hmissing | ⟨a, encoded, hname, hencoded, hstrict⟩)
    · exact h.missing hmissing
    · rw [h.keyed_of hencoded]
      exact exists_error_keyed_iff.2 ⟨a, hname, Base64.decode?_eq_none_iff.2 hstrict⟩

theorem of_ok {contribution : Member} (hread : member text = .ok contribution) :
    ∃ encoded, value text encoded ∧ keyed (keyOf text) encoded = .ok contribution := by
  by_cases hvalue : ∃ encoded, value text encoded
  · obtain ⟨encoded, hencoded⟩ := hvalue
    exact ⟨encoded, hencoded, (h.keyed_of hencoded).symm.trans hread⟩
  · obtain ⟨e, he⟩ := h.missing (not_exists.1 hvalue)
    rw [hread] at he
    cases he

theorem named {contribution : Member} (hread : member text = .ok contribution) :
    contribution.map Prod.fst = named? text := by
  obtain ⟨encoded, _, hkeyed⟩ := h.of_ok hread
  exact map_fst_of_keyed hkeyed

theorem carried {a : Algorithm} {digest : Bytes} (hread : member text = .ok (some (a, digest))) :
    ∃ encoded, value text encoded ∧ Base64.decode? encoded = some digest := by
  obtain ⟨encoded, hencoded, hkeyed⟩ := h.of_ok hread
  exact ⟨encoded, hencoded, decode?_of_keyed hkeyed⟩

end Finds

theorem valueOf_of_not_mem (h : '=' ∉ text) : valueOf text = [] := by
  rw [valueOf, List.dropWhile_eq_nil_iff.2 (Text.bne_of_not_mem h), List.tail_nil]

namespace ContentDigest

theorem uncolon?_eq_some_iff : uncolon? cs = some encoded ↔ cs = ':' :: (encoded ++ [':']) := by
  constructor
  · intro h
    unfold uncolon? at h
    split at h
    · next rest =>
      split at h
      · next hlast =>
        cases h
        rw [← List.dropLast_append_getLast? ':' hlast, List.dropLast_concat]
      · cases h
    · cases h
  · rintro rfl
    rw [uncolon?, List.getLast?_concat, if_pos rfl, List.dropLast_concat]

/-- The value of the member, up to its parameters, is `encoded` between colons. -/
def Encloses (text encoded : List Char) : Prop :=
  Text.trim ((valueOf text).takeWhile (· != ';')) = ':' :: (encoded ++ [':'])

inductive Malformed (text : List Char) : Prop
  | noEquals (h : '=' ∉ text)
  | noColons (h : ∀ encoded, ¬ Encloses text encoded)
  | notBase64 {a : Algorithm} {encoded : List Char} (hname : named? text = some a)
      (henclosed : Encloses text encoded) (h : ¬ Base64.IsStrict encoded)

def Carries (text : List Char) (digest : Bytes) : Prop :=
  ∃ encoded, Encloses text encoded ∧ Base64.decode? encoded = some digest

theorem Encloses.unique {encoded' : List Char} (h : Encloses text encoded)
    (h' : Encloses text encoded') : encoded = encoded' :=
  List.append_cancel_right (List.cons.inj (h.symm.trans h')).2

theorem Encloses.mem (h : Encloses text encoded) : '=' ∈ text := by
  by_contra hmem
  rw [Encloses, valueOf_of_not_mem hmem] at h
  cases h

theorem parseMember_of_encloses (h : Encloses text encoded) :
    parseMember text = keyed (keyOf text) encoded := by
  have hvalue : uncolon? (Text.trim ((valueOf text).takeWhile (· != ';'))) = some encoded :=
    uncolon?_eq_some_iff.2 h
  rw [valueOf] at hvalue
  rw [parseMember, Text.cut_of_mem h.mem]
  simp only
  rw [hvalue]
  rfl

theorem parseMember_of_not_encloses (h : ∀ encoded, ¬ Encloses text encoded) :
    parseMember text = .error .contentDigestSyntax := by
  by_cases hmem : '=' ∈ text
  · have hvalue : uncolon? (Text.trim ((valueOf text).takeWhile (· != ';'))) = none := by
      rw [Option.eq_none_iff_forall_ne_some]
      exact fun encoded hencoded => h encoded (uncolon?_eq_some_iff.1 hencoded)
    rw [valueOf] at hvalue
    rw [parseMember, Text.cut_of_mem hmem]
    simp only
    rw [hvalue]
  · rw [parseMember, Text.cut_eq_none.2 hmem]

theorem finds : Finds parseMember Encloses where
  keyed_of := parseMember_of_encloses
  missing h := ⟨_, parseMember_of_not_encloses h⟩

theorem reads : Reads parseMember Malformed Carries where
  error_iff text := by
    rw [finds.exists_error_iff]
    constructor
    · rintro (h | ⟨a, encoded, hname, henclosed, h⟩)
      · exact .noColons h
      · exact .notBase64 hname henclosed h
    · intro h
      cases h with
      | noEquals h => exact .inl fun encoded henclosed => h henclosed.mem
      | noColons h => exact .inl h
      | notBase64 hname henclosed h => exact .inr ⟨_, _, hname, henclosed, h⟩
  named := finds.named
  carried := finds.carried
  functional := by
    rintro text x y ⟨encoded, hencoded, hx⟩ ⟨encoded', hencoded', hy⟩
    cases hencoded.unique hencoded'
    exact Option.some.inj (hx.symm.trans hy)

end ContentDigest

namespace LegacyDigest

inductive Malformed (text : List Char) : Prop
  | noEquals (h : '=' ∉ text)
  | noValue (h : valueOf text = [])
  | notBase64 {a : Algorithm} (hname : named? text = some a)
      (h : ¬ Base64.IsStrict (Text.trim (valueOf text)))

def Carries (text : List Char) (digest : Bytes) : Prop :=
  Base64.decode? (Text.trim (valueOf text)) = some digest

theorem parseMember_of_value (h : valueOf text ≠ []) :
    parseMember text = keyed (keyOf text) (Text.trim (valueOf text)) := by
  have hmem : '=' ∈ text := by
    by_contra hmem
    exact h (valueOf_of_not_mem hmem)
  obtain ⟨c, cs, hvalue⟩ := List.exists_cons_of_ne_nil h
  rw [hvalue]
  rw [valueOf] at hvalue
  rw [parseMember, Text.cut_of_mem hmem, hvalue]
  rfl

theorem parseMember_of_no_value (h : valueOf text = []) :
    parseMember text = .error .legacyDigestSyntax := by
  by_cases hmem : '=' ∈ text
  · rw [valueOf] at h
    rw [parseMember, Text.cut_of_mem hmem, h]
  · rw [parseMember, Text.cut_eq_none.2 hmem]

theorem finds : Finds parseMember fun text encoded =>
    valueOf text ≠ [] ∧ encoded = Text.trim (valueOf text) where
  keyed_of := by
    rintro text _ ⟨hvalue, rfl⟩
    exact parseMember_of_value hvalue
  missing h := by
    refine ⟨_, parseMember_of_no_value ?_⟩
    by_contra hvalue
    exact h _ ⟨hvalue, rfl⟩

theorem reads : Reads parseMember Malformed Carries where
  error_iff text := by
    rw [finds.exists_error_iff]
    constructor
    · rintro (h | ⟨a, _, hname, ⟨_, rfl⟩, h⟩)
      · exact .noValue (by_contra fun hvalue => h _ ⟨hvalue, rfl⟩)
      · exact .notBase64 hname h
    · intro h
      by_cases hvalue : valueOf text = []
      · exact .inl fun encoded hencoded => hencoded.1 hvalue
      · cases h with
        | noEquals h => exact absurd (valueOf_of_not_mem h) hvalue
        | noValue h => exact absurd h hvalue
        | notBase64 hname h => exact .inr ⟨_, _, hname, ⟨hvalue, rfl⟩, h⟩
  named := finds.named
  carried h := by
    obtain ⟨_, ⟨_, rfl⟩, hdigest⟩ := finds.carried h
    exact hdigest
  functional hx hy := Option.some.inj (hx.symm.trans hy)

end LegacyDigest

/-- A `Digest` field fails exactly on malformed members and is otherwise collected. -/
theorem legacyDigest_grammar (value : String) :
    ((∃ e, LegacyDigest.parse value = .error e) ↔
        ∃ text ∈ members value, LegacyDigest.Malformed text) ∧
      ∀ digests, LegacyDigest.parse value = .ok digests ↔
        (∀ text ∈ members value, ¬ LegacyDigest.Malformed text) ∧
          Collects LegacyDigest.Carries (members value) digests :=
  LegacyDigest.reads.grammar value

end DigestGate.Field
