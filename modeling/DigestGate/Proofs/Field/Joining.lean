import DigestGate.Proofs.Field.Grammar

namespace DigestGate.Field

namespace Reads

variable {member : List Char → Except FieldError Member} {malformed : List Char → Prop}
  {carries : List Char → Bytes → Prop}

theorem parse_joined (h : Reads member malformed carries) (value value' : String) :
    parseMembers member (Text.pieces ',' (value ++ "," ++ value').toList) [] =
      (parseMembers member (Text.pieces ',' value.toList) []).bind fun digests =>
        (parseMembers member (Text.pieces ',' value'.toList) []).map digests.update := by
  have hjoined (contributions : List Member)
      (hread : (members (value ++ "," ++ value')).mapM member = .ok contributions) :=
    h.collects hread
  rw [members_joined, List.mapM_append] at hjoined
  rw [parse_eq, parse_eq, parse_eq, members_joined, List.mapM_append]
  cases hfirst : (members value).mapM member with
  | error e => rfl
  | ok contributions =>
    rw [hfirst] at hjoined
    cases hsecond : (members value').mapM member with
    | error e => rfl
    | ok contributions' =>
      rw [hsecond] at hjoined
      exact congrArg Except.ok (h.unique (hjoined _ rfl)
        ((h.collects hfirst).update (h.collects hsecond)))

/-- Members may be reordered if those for one algorithm keep their order. -/
theorem lookup_of_perm (h : Reads member malformed carries) {value value' : String}
    {digests : DigestMap} (hperm : (members value).Perm (members value'))
    (hnamed : ∀ a, ((members value).filter fun text => named? text = some a) =
      (members value').filter fun text => named? text = some a)
    (hread : parseMembers member (Text.pieces ',' value.toList) [] = .ok digests) :
    ∃ digests', parseMembers member (Text.pieces ',' value'.toList) [] = .ok digests' ∧
      ∀ a, digests'.lookup a = digests.lookup a := by
  obtain ⟨hfine, hcollects⟩ := ((h.grammar value).2 digests).1 hread
  have hfine' : ¬ ∃ e, parseMembers member (Text.pieces ',' value'.toList) [] = .error e := by
    rw [(h.grammar value').1]
    rintro ⟨text, htext, hmalformed⟩
    exact hfine text (hperm.mem_iff.2 htext) hmalformed
  cases hread' : parseMembers member (Text.pieces ',' value'.toList) [] with
  | error e => exact absurd ⟨e, hread'⟩ hfine'
  | ok digests' =>
    have hcollects' := (((h.grammar value').2 digests').1 hread').2
    refine ⟨digests', rfl, fun a => Option.ext fun x => ?_⟩
    rw [DigestMap.lookup_eq_some_iff hcollects'.nodup, DigestMap.lookup_eq_some_iff hcollects.nodup,
      h.mem_iff hcollects', h.mem_iff hcollects, hnamed a]

end Reads

/-- Values joined by a comma are parsed in turn, and later digests take precedence. -/
theorem joined_values_update (parse : String → Except FieldError DigestMap)
    (hparse : parse ∈ [ContentDigest.parse, LegacyDigest.parse]) :
    (∀ value value' : String, parse (value ++ "," ++ value') =
        (parse value).bind fun digests => (parse value').map digests.update) ∧
      ∀ (value value' : String) (digests : DigestMap),
        (members value).Perm (members value') →
        (∀ a, ((members value).filter fun text => named? text = some a) =
          (members value').filter fun text => named? text = some a) →
        parse value = .ok digests →
        ∃ digests', parse value' = .ok digests' ∧
          ∀ a, digests'.lookup a = digests.lookup a := by
  rcases List.mem_pair.1 hparse with rfl | rfl
  · exact ⟨ContentDigest.reads.parse_joined, fun _ _ _ => ContentDigest.reads.lookup_of_perm⟩
  · exact ⟨LegacyDigest.reads.parse_joined, fun _ _ _ => LegacyDigest.reads.lookup_of_perm⟩

theorem joined_values_update_renamed :
    LegacyDigest.parse "MD5=AA==,SHA=AQ==,,MD5=Ag==," = .ok [(.md5, [2]), (.sha1, [1])] ∧
      LegacyDigest.parse "MD5=AA==,SHA=,SHA" = .error .legacyDigestSyntax ∧
      ∃ digests', ContentDigest.parse "sha=:AQ==:,md5=:AA==:,x=::" = .ok digests' ∧
        digests'.lookup .sha1 = some [1] := by
  obtain ⟨hjoined, _⟩ := joined_values_update LegacyDigest.parse (by simp)
  obtain ⟨_, hperm⟩ := joined_values_update ContentDigest.parse (by simp)
  refine ⟨?_, ?_, ?_⟩
  · exact (hjoined "MD5=AA==,SHA=AQ==" ",MD5=Ag==,").trans (by decide)
  · exact (hjoined "MD5=AA==" "SHA=,SHA").trans (by decide)
  · have hread : ContentDigest.parse "md5=:AA==:,x=::,sha=:AQ==:" =
        .ok [(.md5, [0]), (.sha1, [1])] := by decide
    obtain ⟨digests', hread', hlookup⟩ := hperm _ "sha=:AQ==:,md5=:AA==:,x=::" _ (by decide)
      (fun a => by cases a <;> decide) hread
    exact ⟨digests', hread', hlookup .sha1⟩

end DigestGate.Field
