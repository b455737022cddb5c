import DigestGate.Proofs.Field.Grammar

namespace DigestGate

variable {c : Char}

theorem Algorithm.compute_ne_nil (a : Algorithm) (body : Bytes) : a.compute body ≠ [] := by
  intro h
  have hsize := a.length_compute body
  rw [h] at hsize
  cases a <;> cases hsize

namespace Field

def IsPlain (c : Char) : Prop :=
  Text.isBlank c = false ∧ c ≠ ',' ∧ c ≠ ';'

instance (c : Char) : Decidable (IsPlain c) :=
  inferInstanceAs (Decidable (Text.isBlank c = false ∧ c ≠ ',' ∧ c ≠ ';'))

theorem isPlain_of_mem_encode {bytes : Bytes} (h : c ∈ Base64.encode bytes) : IsPlain c := by
  have hletters : ∀ n < 64, IsPlain (Base64.letter n) := by decide
  rcases Base64.mem_encode h with ⟨n, hn, rfl⟩ | rfl
  · exact hletters n hn
  · decide

theorem decodeDigest_encode (digest : Bytes) :
    decodeDigest (Base64.encode digest) = .ok digest := by
  rw [decodeDigest, Base64.decode?_encode]

theorem membersOf_blank (value : List Char) :
    membersOf (Text.pieces ',' (' ' :: value)) = membersOf (Text.pieces ',' value) := by
  obtain ⟨piece, rest, hpieces⟩ :=
    List.exists_cons_of_ne_nil (Text.pieces_ne_nil ',' value)
  rw [Text.pieces_cons (by decide) hpieces, hpieces, membersOf, membersOf, List.map_cons,
    List.map_cons, Text.trim_cons_of_blank (by decide)]

theorem membersOf_joined {texts : List (List Char)} (hne : ∀ text ∈ texts, text ≠ [])
    (hplain : ∀ text ∈ texts, ∀ c ∈ text, IsPlain c) :
    membersOf (Text.pieces ',' (", ".toList.intercalate texts)) = texts := by
  cases htexts : texts with
  | nil => rfl
  | cons first rest =>
    rw [← htexts]
    have hcomma : ∀ text ∈ texts, ',' ∉ text := fun text htext hmem =>
      (hplain text htext ',' hmem).2.1 rfl
    have htrim : ∀ text ∈ texts, (Text.trim ∘ (' ' :: ·)) text = text := by
      intro text htext
      rw [Function.comp_apply, Text.trim_cons_of_blank (by decide),
        Text.trim_of_not_blank fun c hc => (hplain text htext c hc).1]
    have hjoined : ", ".toList = [',', ' '] := rfl
    have hsome : texts ≠ [] := htexts ▸ List.cons_ne_nil first rest
    rw [← membersOf_blank, hjoined, Text.pieces_intercalate (by decide) hcomma hsome, membersOf,
      List.map_map, List.map_congr_left htrim, List.map_id', List.filter_eq_self]
    exact fun text htext => decide_eq_true (hne text htext)

section Joined

variable {member : List Char → Except FieldError Member} {write : Algorithm × Bytes → List Char}
  {entries : List (Algorithm × Bytes)}

theorem mapM_written (hmember : ∀ entry ∈ entries, member (write entry) = .ok (some entry)) :
    (entries.map write).mapM member = .ok (entries.map some) := by
  induction entries with
  | nil => rfl
  | cons entry rest ih =>
    obtain ⟨hentry, hmember⟩ := List.forall_mem_cons.1 hmember
    rw [List.map_cons, List.mapM_cons, hentry, ih hmember]
    rfl

theorem parseMembers_joined (hwrite : ∀ entry ∈ entries, write entry ≠ [])
    (hplain : ∀ entry ∈ entries, ∀ c ∈ write entry, IsPlain c)
    (hmember : ∀ entry ∈ entries, member (write entry) = .ok (some entry)) :
    parseMembers member (Text.pieces ',' (", ".toList.intercalate (entries.map write))) [] =
      .ok (DigestMap.ofList entries) := by
  have hmembers := membersOf_joined (List.forall_mem_map.2 hwrite) (List.forall_mem_map.2 hplain)
  have hsome : (entries.map some).reduceOption = entries := by
    rw [List.reduceOption, List.filterMap_map]
    exact List.filterMap_some
  rw [parseMembers_eq, hmembers, mapM_written hmember, Except.map, hsome]
  rfl

end Joined

namespace ContentDigest

theorem writeMember_eq (entry : Algorithm × Bytes) :
    writeMember entry =
      entry.1.contentToken.toList ++ '=' :: ':' :: (Base64.encode entry.2 ++ [':']) := by
  rw [writeMember, List.append_assoc, List.append_assoc]
  rfl

theorem ofKey?_contentToken (a : Algorithm) :
    Algorithm.ofKey? a.contentToken.toList = some a := by
  cases a <;> decide

theorem isPlain_of_mem_writeMember {entry : Algorithm × Bytes} (h : c ∈ writeMember entry) :
    IsPlain c := by
  have htoken : ∀ a : Algorithm, a.contentToken.toList.all fun c => IsPlain c := by
    intro a
    cases a <;> decide
  rw [writeMember_eq, List.mem_append, List.mem_cons, List.mem_cons, List.mem_append,
    List.mem_singleton] at h
  rcases h with h | rfl | rfl | h | rfl
  · exact of_decide_eq_true (List.all_eq_true.1 (htoken _) c h)
  · decide
  · decide
  · exact isPlain_of_mem_encode h
  · decide

theorem writeMember_ne_nil (entry : Algorithm × Bytes) : writeMember entry ≠ [] := by
  rw [writeMember_eq]
  exact List.append_ne_nil_of_right_ne_nil _ (List.cons_ne_nil _ _)

theorem parseMember_writeMember (entry : Algorithm × Bytes) :
    parseMember (writeMember entry) = .ok (some entry) := by
  have hchars : ∀ c ∈ ':' :: (Base64.encode entry.2 ++ [':']), IsPlain c := by
    intro c hc
    have hmem : c ∈ writeMember entry := by
      rw [writeMember_eq]
      exact List.mem_append_right _ (List.mem_cons_of_mem _ hc)
    exact isPlain_of_mem_writeMember hmem
  have hequals : '=' ∉ entry.1.contentToken.toList := by
    cases entry.1 <;> decide
  have hsemicolon : ';' ∉ ':' :: (Base64.encode entry.2 ++ [':']) := fun hmem =>
    (hchars ';' hmem).2.2 rfl
  rw [parseMember, writeMember_eq, Text.cut_append hequals]
  simp only
  rw [List.takeWhile_eq_self_iff.2 (Text.bne_of_not_mem hsemicolon),
    Text.trim_of_not_blank fun c hc => (hchars c hc).1, uncolon?_eq_some_iff.2 rfl]
  exact keyed_of_decode? (ofKey?_contentToken entry.1) (Base64.decode?_encode entry.2)

theorem parse_write {digests : DigestMap} (h : digests.algorithms.Nodup) :
    parse (write digests) = .ok digests := by
  rw [parse, write, String.toList_ofList,
    parseMembers_joined (fun entry _ => writeMember_ne_nil entry)
      (fun _ _ _ hc => isPlain_of_mem_writeMember hc) fun entry _ => parseMember_writeMember entry,
    DigestMap.ofList_of_nodup h]

theorem parse_declare (body : Bytes) (algorithms : List Algorithm) :
    parse (declare body algorithms) =
      .ok (DigestMap.tabulate (·.compute body) algorithms.eraseDups) := by
  have hwritten : DigestMap.ofList (algorithms.map fun a => (a, a.compute body)) =
      DigestMap.tabulate (·.compute body) algorithms.eraseDups :=
    DigestMap.ofList_tabulate _ algorithms
  rw [declare, hwritten]
  exact parse_write (DigestMap.nodup_tabulate_eraseDups _ algorithms)

end ContentDigest

namespace LegacyDigest

theorem ofKey?_legacyToken (a : Algorithm) : Algorithm.ofKey? a.legacyToken.toList = some a := by
  cases a <;> decide

theorem writeMember_ne_nil (entry : Algorithm × Bytes) : writeMember entry ≠ [] :=
  List.append_ne_nil_of_right_ne_nil _ (List.cons_ne_nil _ _)

theorem isPlain_of_mem_writeMember {entry : Algorithm × Bytes} (h : c ∈ writeMember entry) :
    IsPlain c := by
  have htoken : ∀ a : Algorithm, a.legacyToken.toList.all fun c => IsPlain c := by
    intro a
    cases a <;> decide
  rw [writeMember, List.mem_append, List.mem_cons] at h
  rcases h with h | rfl | h
  · exact of_decide_eq_true (List.all_eq_true.1 (htoken _) c h)
  · decide
  · exact isPlain_of_mem_encode h

theorem parseMember_writeMember {entry : Algorithm × Bytes} (hne : entry.2 ≠ []) :
    parseMember (writeMember entry) = .ok (some entry) := by
  have hequals : '=' ∉ entry.1.legacyToken.toList := by
    cases entry.1 <;> decide
  obtain ⟨c, cs, hencoded⟩ := List.exists_cons_of_ne_nil (Base64.encode_ne_nil hne)
  have htrim : Text.trim (Base64.encode entry.2) = Base64.encode entry.2 :=
    Text.trim_of_not_blank fun c hc => (isPlain_of_mem_encode hc).1
  rw [parseMember, writeMember, Text.cut_append hequals, hencoded]
  simp only
  rw [← hencoded, htrim]
  exact keyed_of_decode? (ofKey?_legacyToken entry.1) (Base64.decode?_encode entry.2)

theorem parse_declare (body : Bytes) (algorithms : List Algorithm) :
    parse (declare body algorithms) =
      .ok (DigestMap.tabulate (·.compute body) algorithms.eraseDups) := by
  have hwritten : (algorithms.map fun a => writeMember (a, a.compute body)) =
      (DigestMap.tabulate (·.compute body) algorithms).map writeMember := by
    rw [DigestMap.tabulate, List.map_map]
    rfl
  have hmember : ∀ entry ∈ DigestMap.tabulate (·.compute body) algorithms,
      parseMember (writeMember entry) = .ok (some entry) := by
    intro entry hentry
    obtain ⟨a, _, rfl⟩ := List.mem_map.1 hentry
    exact parseMember_writeMember (a.compute_ne_nil body)
  rw [parse, declare, hwritten, String.toList_ofList,
    parseMembers_joined (fun entry _ => writeMember_ne_nil entry)
      (fun _ _ _ hc => isPlain_of_mem_writeMember hc) hmember,
    DigestMap.ofList_tabulate]

end LegacyDigest

namespace ContentMD5

theorem parse_of_not_strict {value : String} (h : ¬ Base64.IsStrict (Text.trim value.toList)) :
    parse value = .error (.notBase64 (String.ofList (Text.trim value.toList))) := by
  rw [parse, decodeDigest, Base64.decode?_eq_none_iff.2 h]

theorem parse_encode {digest : Bytes} (h : digest.length = 16) :
    parse (String.ofList (Base64.encode digest)) = .ok digest := by
  have htrim : Text.trim (Base64.encode digest) = Base64.encode digest :=
    Text.trim_of_not_blank fun c hc => (isPlain_of_mem_encode hc).1
  rw [parse, String.toList_ofList, htrim, decodeDigest_encode]
  exact if_pos h

theorem parse_declare (body : Bytes) : parse (declare body) = .ok (Algorithm.md5.compute body) :=
  parse_encode (Algorithm.md5.length_compute body)

end ContentMD5

/-- Written digests parse to themselves in their order, and the text determines them. -/
theorem written_read_back :
    (∀ digests : DigestMap, digests.algorithms.Nodup →
        ContentDigest.parse (ContentDigest.write digests) = .ok digests) ∧
      (∀ digests digests' : DigestMap, digests.algorithms.Nodup → digests'.algorithms.Nodup →
        ContentDigest.write digests = ContentDigest.write digests' → digests = digests') ∧
      (∀ (value : String) (digests : DigestMap), ContentDigest.parse value = .ok digests →
        ContentDigest.parse (ContentDigest.write digests) = .ok digests) ∧
      (∀ (body : Bytes) (algorithms : List Algorithm),
        LegacyDigest.parse (LegacyDigest.declare body algorithms) =
          .ok (DigestMap.tabulate (·.compute body) algorithms.eraseDups)) ∧
      ∀ body : Bytes,
        ContentMD5.parse (ContentMD5.declare body) = .ok (Algorithm.md5.compute body) := by
  refine ⟨fun digests => ContentDigest.parse_write, ?_, ?_, LegacyDigest.parse_declare,
    ContentMD5.parse_declare⟩
  · intro digests digests' hdigests hdigests' hwrite
    have hread := ContentDigest.parse_write hdigests
    rw [hwrite, ContentDigest.parse_write hdigests'] at hread
    exact (Except.ok.inj hread).symm
  · intro value digests hread
    have hcollects := (((ContentDigest.reads.grammar value).2 digests).1 hread).2
    exact ContentDigest.parse_write hcollects.nodup

theorem written_read_back_pair :
    let digests : DigestMap := [(.sha256, []), (.md5, [0, 255])]
    let value := " SHA256 = :: ;q=1,,crc=:x:, md5=:AP8=:"
    ContentDigest.parse (ContentDigest.write digests.reverse) = .ok digests.reverse ∧
      ContentDigest.write digests ≠ ContentDigest.write digests.reverse ∧
      ContentDigest.parse value = .ok digests ∧
      ContentDigest.parse (ContentDigest.write digests) = .ok digests := by
  intro digests value
  have hdigests : digests.algorithms.Nodup := by decide
  have hreverse : (DigestMap.algorithms digests.reverse).Nodup := by decide
  have hread : ContentDigest.parse value = .ok digests := by decide
  obtain ⟨hwritten, hinjective, hagain, _⟩ := written_read_back
  refine ⟨hwritten digests.reverse hreverse, fun heq => ?_, hread, hagain value digests hread⟩
  exact absurd (hinjective digests digests.reverse hdigests hreverse heq) (by decide)

end Field

namespace IntegrityField

def declare (body : Bytes) (algorithms : List Algorithm) : IntegrityField → String
  | .contentDigest => Field.ContentDigest.declare body algorithms
  | .digest => Field.LegacyDigest.declare body algorithms
  | .contentMD5 => Field.ContentMD5.declare body

def listed (algorithms : List Algorithm) : IntegrityField → List Algorithm
  | .contentDigest => algorithms
  | .digest => algorithms
  | .contentMD5 => [.md5]

theorem parse_declare (f : IntegrityField) (body : Bytes) (algorithms : List Algorithm) :
    f.parse (f.declare body algorithms) =
      .ok (DigestMap.tabulate (·.compute body) (f.listed algorithms).eraseDups) := by
  cases f with
  | contentDigest => exact Field.ContentDigest.parse_declare body algorithms
  | digest => exact Field.LegacyDigest.parse_declare body algorithms
  | contentMD5 =>
    rw [parse, declare, Field.ContentMD5.parse_declare]
    rfl

end IntegrityField

end DigestGate
