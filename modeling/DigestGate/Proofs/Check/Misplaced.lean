import DigestGate.Proofs.Check.Settled
import DigestGate.Proofs.Check.Written
import DigestGate.Proofs.Text.LetterCase

namespace DigestGate

namespace Field

variable {algorithms : List Algorithm} {text encoded : List Char} {texts : List (List Char)}
  {value : String}

theorem exists_joined (text : List Char) (texts : List (List Char)) (sep : List Char) :
    ∃ later, sep.intercalate (text :: texts) = text ++ later := by
  cases texts with
  | nil => exact ⟨[], by rw [List.intercalate_singleton, List.append_nil]⟩
  | cons next rest => exact ⟨_, by rw [List.intercalate_cons_cons, List.append_assoc]⟩

theorem members_joined_texts (hne : ∀ text ∈ texts, text ≠ [])
    (hplain : ∀ text ∈ texts, ∀ c ∈ text, IsPlain c) :
    members (String.ofList (", ".toList.intercalate texts)) = texts := by
  rw [members, String.toList_ofList, membersOf_joined hne hplain]

theorem members_bare (body : Bytes) :
    members (ContentMD5.declare body) = [Base64.encode (Algorithm.md5.compute body)] := by
  have hne := Base64.encode_ne_nil (Algorithm.md5.compute_ne_nil body)
  have hjoined := members_joined_texts (List.forall_mem_singleton.2 hne)
    (List.forall_mem_singleton.2 fun c => isPlain_of_mem_encode)
  rwa [List.intercalate_singleton] at hjoined

namespace ContentDigest

theorem Encloses.colon_mem (h : Encloses text encoded) : ':' ∈ text := by
  have htrim : ':' ∈ Text.trim ((valueOf text).takeWhile (· != ';')) := by
    rw [h]
    exact List.mem_cons_self
  have hvalue := (List.takeWhile_prefix _).subset ((Text.mem_trim (by decide)).1 htrim)
  exact (List.dropWhile_sublist _).subset (List.mem_of_mem_tail hvalue)

theorem exists_error_of_no_colon (hmem : text ∈ members value) (hcolon : ':' ∉ text) :
    ∃ e, parse value = .error e :=
  (reads.grammar value).1.2 ⟨text, hmem, .noColons fun _ h => hcolon h.colon_mem⟩

theorem exists_declare_eq (h : algorithms ≠ []) (body : Bytes) :
    ∃ entry rest, declare body algorithms = write (entry :: rest) := by
  have hwritten : DigestMap.ofList (algorithms.map fun a => (a, a.compute body)) =
      DigestMap.tabulate (·.compute body) algorithms.eraseDups :=
    DigestMap.ofList_tabulate _ algorithms
  obtain ⟨a, ha⟩ := List.exists_mem_of_ne_nil _ h
  obtain ⟨first, rest, hfirst⟩ :=
    List.exists_cons_of_ne_nil (List.ne_nil_of_mem (List.mem_eraseDups.2 ha))
  rw [declare, hwritten, hfirst]
  exact ⟨_, _, rfl⟩

theorem members_write (digests : DigestMap) : members (write digests) = digests.map writeMember :=
  members_joined_texts (List.forall_mem_map.2 fun entry _ => writeMember_ne_nil entry)
    (List.forall_mem_map.2 fun _ _ _ hc => isPlain_of_mem_writeMember hc)

theorem colon_mem_writeMember (entry : Algorithm × Bytes) : ':' ∈ writeMember entry := by
  rw [writeMember_eq]
  exact List.mem_append_right _ (List.mem_cons_of_mem _ List.mem_cons_self)

end ContentDigest

namespace LegacyDigest

theorem members_declare (body : Bytes) (algorithms : List Algorithm) :
    members (declare body algorithms) = algorithms.map fun a => writeMember (a, a.compute body) :=
  members_joined_texts (List.forall_mem_map.2 fun _ _ => writeMember_ne_nil _)
    (List.forall_mem_map.2 fun _ _ _ hc => isPlain_of_mem_writeMember hc)

theorem colon_not_mem_writeMember (entry : Algorithm × Bytes) : ':' ∉ writeMember entry := by
  have htoken : ':' ∉ entry.1.legacyToken.toList := by
    cases entry.1 <;> decide
  rw [writeMember, List.mem_append, List.mem_cons, not_or, not_or]
  exact ⟨htoken, by decide, Base64.not_mem_encode (by decide) (by decide)⟩

theorem parseMember_contentDigest (entry : Algorithm × Bytes) :
    ∃ e, parseMember (ContentDigest.writeMember entry) = .error e := by
  have hequals : '=' ∉ entry.1.contentToken.toList := by
    cases entry.1 <;> decide
  have hcolon : ':' ∈ Text.trim (':' :: (Base64.encode entry.2 ++ [':'])) :=
    (Text.mem_trim (by decide)).2 List.mem_cons_self
  have hstrict : ¬ Base64.IsStrict (Text.trim (':' :: (Base64.encode entry.2 ++ [':']))) := by
    intro h
    exact absurd (h.mem hcolon) (by decide)
  rw [parseMember, ContentDigest.writeMember_eq, Text.cut_append hequals]
  exact exists_error_keyed_iff.2
    ⟨entry.1, ContentDigest.ofKey?_contentToken entry.1, Base64.decode?_eq_none_iff.2 hstrict⟩

theorem parse_contentDigest (h : algorithms ≠ []) (body : Bytes) :
    ∃ e, parse (ContentDigest.declare body algorithms) = .error e := by
  obtain ⟨entry, rest, hdeclare⟩ := ContentDigest.exists_declare_eq h body
  rw [hdeclare]
  apply (reads.grammar _).1.2
  refine ⟨ContentDigest.writeMember entry, ?_, (reads.error_iff _).1 (parseMember_contentDigest _)⟩
  rw [ContentDigest.members_write]
  exact List.mem_cons_self

theorem ofKey?_letters {numbers : List Nat} (h : ∀ n ∈ numbers, n < 64)
    (hlength : 8 ≤ numbers.length) : Algorithm.ofKey? (numbers.map Base64.letter) = none := by
  have hblank : ∀ n < 64, Text.isBlank (Base64.letter n) = false := by decide
  have hform : ∀ n < 64, Text.lowerChar (Base64.letter n) ≠ [] := by decide
  have hshort : ∀ entry ∈ Algorithm.aliases, entry.1.length < 8 := by decide
  have hlower := Text.length_le_lower (List.forall_mem_map.2 fun n hn => hform n (h n hn))
  rw [List.length_map] at hlower
  rw [Algorithm.ofKey?,
    Text.trim_of_not_blank (List.forall_mem_map.2 fun n hn => hblank n (h n hn)),
    List.lookup_eq_none_iff]
  intro entry hentry
  rw [bne_iff_ne]
  intro heq
  have hentry := hshort entry hentry
  rw [← heq] at hentry
  omega

/-- A bare digest parses as a member with an unknown key and is skipped. -/
theorem parse_contentMD5 (body : Bytes) : parse (ContentMD5.declare body) = .ok [] := by
  let digest := Algorithm.md5.compute body
  have hsize : digest.length = 16 := Algorithm.md5.length_compute body
  have htext : Base64.encode digest =
      (Base64.sextets digest).map Base64.letter ++ '=' :: ['='] := by
    rw [Base64.encode_eq, hsize]
    rfl
  have hequals : '=' ∉ (Base64.sextets digest).map Base64.letter := by
    intro hmem
    obtain ⟨n, hn, hletter⟩ := List.mem_map.1 hmem
    exact Base64.letter_ne (Base64.sextets_lt digest n hn) Base64.value?_pad hletter
  have hkey : Algorithm.ofKey? ((Base64.sextets digest).map Base64.letter) = none := by
    apply ofKey?_letters (Base64.sextets_lt digest)
    rw [Base64.length_sextets, hsize]
    decide
  have hmember : parseMember (Base64.encode digest) = .ok none := by
    rw [parseMember, htext, Text.cut_append hequals]
    exact keyed_of_unknown hkey _
  rw [parse, parse_eq, members_bare, List.mapM_cons, hmember]
  rfl

end LegacyDigest

namespace ContentDigest

theorem parse_legacyDigest (h : algorithms ≠ []) (body : Bytes) :
    ∃ e, parse (LegacyDigest.declare body algorithms) = .error e := by
  obtain ⟨a, ha⟩ := List.exists_mem_of_ne_nil _ h
  have hmem : LegacyDigest.writeMember (a, a.compute body) ∈
      members (LegacyDigest.declare body algorithms) := by
    rw [LegacyDigest.members_declare]
    exact List.mem_map_of_mem ha
  exact exists_error_of_no_colon hmem (LegacyDigest.colon_not_mem_writeMember _)

theorem parse_contentMD5 (body : Bytes) : ∃ e, parse (ContentMD5.declare body) = .error e := by
  have hmem : Base64.encode (Algorithm.md5.compute body) ∈ members (ContentMD5.declare body) := by
    rw [members_bare]
    exact List.mem_cons_self
  exact exists_error_of_no_colon hmem (Base64.not_mem_encode (by decide) (by decide))

end ContentDigest

namespace ContentMD5

theorem exists_error_of_not_strict (h : ¬ Base64.IsStrict (Text.trim value.toList)) :
    ∃ e, parse value = .error e :=
  ⟨_, parse_of_not_strict h⟩

theorem parse_contentDigest (h : algorithms ≠ []) (body : Bytes) :
    ∃ e, parse (ContentDigest.declare body algorithms) = .error e := by
  obtain ⟨entry, rest, hdeclare⟩ := ContentDigest.exists_declare_eq h body
  obtain ⟨later, hjoined⟩ := exists_joined (ContentDigest.writeMember entry)
    (rest.map ContentDigest.writeMember) ", ".toList
  rw [hdeclare]
  apply exists_error_of_not_strict
  intro hstrict
  have hcolon : ':' ∈ Text.trim (ContentDigest.write (entry :: rest)).toList := by
    rw [Text.mem_trim (by decide), ContentDigest.write, String.toList_ofList, List.map_cons,
      hjoined]
    exact List.mem_append_left _ (ContentDigest.colon_mem_writeMember entry)
  exact absurd (hstrict.mem hcolon) (by decide)

theorem parse_legacyDigest (h : algorithms ≠ []) (body : Bytes) :
    ∃ e, parse (LegacyDigest.declare body algorithms) = .error e := by
  obtain ⟨a, rest, rfl⟩ := List.exists_cons_of_ne_nil h
  obtain ⟨later, hjoined⟩ := exists_joined (LegacyDigest.writeMember (a, a.compute body))
    (rest.map fun b => LegacyDigest.writeMember (b, b.compute body)) ", ".toList
  obtain ⟨n, hn, letters, hencoded⟩ := Base64.exists_letter_encode (a.compute_ne_nil body)
  have hblank : Text.isBlank (Base64.letter n) = false :=
    (isPlain_of_mem_encode (by rw [hencoded]; exact List.mem_cons_self)).1
  have htext : (LegacyDigest.declare body (a :: rest)).toList =
      (a.legacyToken.toList ++ ['=']) ++ Base64.letter n :: (letters ++ later) := by
    rw [LegacyDigest.declare, String.toList_ofList, List.map_cons, hjoined,
      LegacyDigest.writeMember, hencoded, List.append_assoc, List.append_assoc]
    rfl
  apply exists_error_of_not_strict
  rw [htext, Text.trim_append_cons hblank, Text.dropWhile_append_cons (by decide),
    List.append_assoc]
  intro hstrict
  have hpad := Base64.IsStrict.eq_pad hstrict (List.mem_append_right [] List.mem_cons_self)
  exact Base64.letter_ne hn Base64.value?_pad hpad

end ContentMD5

end Field

namespace IntegrityField

variable {f g : IntegrityField} {lines : FieldLines} {algorithms : List Algorithm}

/-- A value written for another field is rejected, except a bare digest in `Digest`. -/
theorem parse_misplaced_iff (h : algorithms ≠ []) (body : Bytes) :
    (∃ e, f.parse (g.declare body algorithms) = .error e) ↔
      f ≠ g ∧ ¬ (f = .digest ∧ g = .contentMD5) := by
  constructor
  · rintro ⟨e, he⟩
    constructor
    · rintro rfl
      rw [parse_declare] at he
      cases he
    · rintro ⟨rfl, rfl⟩
      rw [parse, declare, Field.LegacyDigest.parse_contentMD5] at he
      cases he
  · rintro ⟨hne, hbare⟩
    have hmd5 {value : String} (hrejected : ∃ e, Field.ContentMD5.parse value = .error e) :
        ∃ e, contentMD5.parse value = .error e := by
      obtain ⟨e, he⟩ := hrejected
      rw [parse, he]
      exact ⟨e, rfl⟩
    cases f with
    | contentDigest =>
      cases g with
      | contentDigest => exact absurd rfl hne
      | digest => exact Field.ContentDigest.parse_legacyDigest h body
      | contentMD5 => exact Field.ContentDigest.parse_contentMD5 body
    | digest =>
      cases g with
      | contentDigest => exact Field.LegacyDigest.parse_contentDigest h body
      | digest => exact absurd rfl hne
      | contentMD5 => exact absurd ⟨rfl, rfl⟩ hbare
    | contentMD5 =>
      cases g with
      | contentDigest => exact hmd5 (Field.ContentMD5.parse_contentDigest h body)
      | digest => exact hmd5 (Field.ContentMD5.parse_legacyDigest h body)
      | contentMD5 => exact absurd rfl hne

theorem listed_ne_nil (h : algorithms ≠ []) : f.listed algorithms ≠ [] := by
  cases f with
  | contentDigest => exact h
  | digest => exact h
  | contentMD5 => exact List.cons_ne_nil _ _

theorem not_readable_of_parse {value : String} (hvalue : lines.first? f.name = some value)
    (hne : value ≠ "") (herror : ∃ e, f.parse value = .error e) : ¬ f.Readable lines := by
  intro hreadable
  obtain ⟨e, he⟩ := herror
  obtain ⟨digests, hread⟩ := hreadable value ⟨hne, FieldLines.first?_eq_some_iff.1 hvalue⟩
  rw [he] at hread
  cases hread

end IntegrityField

/-- A value in the wrong field makes the header malformed and leaves the request alone. -/
theorem misplaced_malformed (body : Bytes) (algorithms : List Algorithm) (h : algorithms ≠ []) :
    (∃ e, Field.LegacyDigest.parse (Field.ContentDigest.declare body algorithms) = .error e) ∧
      (∃ e, Field.ContentDigest.parse (Field.LegacyDigest.declare body algorithms) = .error e) ∧
      (∃ e, Field.ContentDigest.parse (Field.ContentMD5.declare body) = .error e) ∧
      (∃ e, Field.ContentMD5.parse (Field.ContentDigest.declare body algorithms) = .error e) ∧
      (∃ e, Field.ContentMD5.parse (Field.LegacyDigest.declare body algorithms) = .error e) ∧
      ∀ (f g : IntegrityField) (lines : FieldLines), f ≠ g → ¬ (f = .digest ∧ g = .contentMD5) →
        lines.first? f.name = some (g.declare body algorithms) →
          ∃ malformed : IntegrityField, lines.declared = .error malformed ∧
            ∀ {σ : Type} (host : Host σ) (s : σ), ∃ check : Check,
              host.verify lines s = (.ok check, s) ∧ check.verified = false ∧
                check.reason.map Reason.label = some ("malformed_" ++ malformed.label) := by
  refine ⟨Field.LegacyDigest.parse_contentDigest h body,
    Field.ContentDigest.parse_legacyDigest h body, Field.ContentDigest.parse_contentMD5 body,
    Field.ContentMD5.parse_contentDigest h body, Field.ContentMD5.parse_legacyDigest h body, ?_⟩
  intro f g lines hne hbare hvalue
  have hrejected := (IntegrityField.parse_misplaced_iff h body).2 ⟨hne, hbare⟩
  have hreadable := IntegrityField.not_readable_of_parse hvalue
    (IntegrityField.declare_ne_empty (IntegrityField.listed_ne_nil h) body) hrejected
  obtain ⟨malformed, hdeclared⟩ := FieldLines.exists_declared_error hreadable
  refine ⟨malformed, hdeclared, fun host s => ?_⟩
  exact ⟨_, (FieldLines.Settles.malformed hdeclared).verify_eq host s, rfl, rfl⟩

theorem misplaced_malformed_swapped :
    let body : Bytes := [1, 2]
    let lines : FieldLines := [
      ("content-md5", IntegrityField.contentMD5.declare body [.md5]),
      ("digest", IntegrityField.contentDigest.declare body [.sha256, .md5])]
    ∃ malformed : IntegrityField, lines.declared = .error malformed := by
  intro body lines
  have hne : [Algorithm.sha256, .md5] ≠ [] := List.cons_ne_nil _ _
  obtain ⟨_, _, _, _, _, hmalformed⟩ := misplaced_malformed body [.sha256, .md5] hne
  obtain ⟨malformed, hdeclared, _⟩ :=
    hmalformed .digest .contentDigest lines (by decide) (by decide) rfl
  exact ⟨malformed, hdeclared⟩

end DigestGate
