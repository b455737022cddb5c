import DigestGate.Proofs.Field.Grammar
import DigestGate.Proofs.Text.LetterCase
import Mathlib.Logic.Relation

namespace DigestGate

variable {key key' value value' text text' : List Char}

namespace Algorithm

theorem ofKey?_congr (h : Text.trim key = Text.trim key') : ofKey? key = ofKey? key' := by
  rw [ofKey?, ofKey?, h]

theorem ofKey?_map_toLower (key : List Char) : ofKey? (key.map Char.toLower) = ofKey? key := by
  rw [ofKey?, ofKey?, Text.trim_map_toLower, Text.lower_map_toLower]

end Algorithm

namespace Field.ContentDigest

def AllBlank (text : List Char) : Prop :=
  ∀ c ∈ text, Text.isBlank c

/-- Changes to the spelling of a member that preserve its value. -/
inductive RespellsMember : List Char → List Char → Prop
  | letterCase {key key' : List Char} (hkey : '=' ∉ key)
      (h : key.map Char.toLower = key'.map Char.toLower) (after : List Char) :
      RespellsMember (key ++ '=' :: after) (key' ++ '=' :: after)
  | aroundMember {left right : List Char} (hleft : AllBlank left) (hright : AllBlank right)
      (text : List Char) : RespellsMember text (left ++ text ++ right)
  | aroundKey {left right key : List Char} (hleft : AllBlank left) (hright : AllBlank right)
      (hkey : '=' ∉ key) (after : List Char) :
      RespellsMember (key ++ '=' :: after) (left ++ key ++ right ++ '=' :: after)
  | aroundValue {left right key : List Char} (hleft : AllBlank left) (hright : AllBlank right)
      (hkey : '=' ∉ key) (after : List Char) :
      RespellsMember (key ++ '=' :: after) (key ++ '=' ::
        (left ++ after.takeWhile (· != ';') ++ right ++ after.dropWhile (· != ';')))
  | parameter {text added : List Char} (h : Text.trim text ≠ []) (hadded : ',' ∉ added) :
      RespellsMember text (text ++ ';' :: added)

/-- One member is respelled, or one blank member is inserted. -/
inductive Respells : List (List Char) → List (List Char) → Prop
  | member {text text' : List Char} (h : RespellsMember text text')
      (before after : List (List Char)) :
      Respells (before ++ text :: after) (before ++ text' :: after)
  | blankMember {text : List Char} (h : AllBlank text) (before after : List (List Char)) :
      Respells (before ++ after) (before ++ text :: after)

theorem AllBlank.not_mem (h : AllBlank text) {c : Char} (hc : Text.isBlank c = false) :
    c ∉ text := by
  intro hmem
  rw [h c hmem] at hc
  cases hc

theorem AllBlank.append {left right : List Char} (hleft : AllBlank left)
    (hright : AllBlank right) {c : Char} (hc : Text.isBlank c = false) (htext : c ∉ text) :
    c ∉ left ++ text ++ right := by
  rw [List.mem_append, List.mem_append]
  rintro ((hmem | hmem) | hmem)
  · exact hleft.not_mem hc hmem
  · exact htext hmem
  · exact hright.not_mem hc hmem

def readSides (key value : List Char) : Except FieldError Member :=
  match uncolon? (Text.trim value) with
  | none => .error .contentDigestSyntax
  | some encoded => keyed key encoded

theorem parseMember_append (hkey : '=' ∉ key) (after : List Char) :
    parseMember (key ++ '=' :: after) = readSides key (after.takeWhile (· != ';')) := by
  rw [parseMember, Text.cut_append hkey]
  rfl

theorem readSides_congr (hkey : Algorithm.ofKey? key = Algorithm.ofKey? key')
    (hvalue : Text.trim value = Text.trim value') :
    readSides key value = readSides key' value' := by
  rw [readSides, readSides, hvalue]
  cases uncolon? (Text.trim value') with
  | none => rfl
  | some encoded => simp only [keyed, hkey]

theorem parseMember_trim (h : '=' ∈ text) : parseMember (Text.trim text) = parseMember text := by
  obtain ⟨key, after, rfl, hkey⟩ := List.eq_append_cons_of_mem h
  have hfront : '=' ∉ key.dropWhile Text.isBlank := fun hmem =>
    hkey ((List.dropWhile_sublist _).subset hmem)
  have hsemicolon : ∀ c, Text.isBlank c → (c != ';') = true := by
    intro c hc
    rw [bne_iff_ne]
    rintro rfl
    exact absurd hc (by decide)
  rw [Text.trim_append_cons (by decide), parseMember_append hfront, parseMember_append hkey]
  exact readSides_congr (Algorithm.ofKey?_congr (Text.trim_dropWhile key))
    (Text.trim_takeWhile_rdropWhile hsemicolon after)

theorem toLower_eq_equals_iff (c : Char) : c.toLower = '=' ↔ c = '=' :=
  beq_eq_beq.1 (Text.apply_toLower (f := (· == '=')) (by decide) c)

theorem not_mem_of_map_toLower (h : key.map Char.toLower = key'.map Char.toLower)
    (hkey : '=' ∉ key) : '=' ∉ key' := by
  have hequals (cs : List Char) : '=' ∈ cs.map Char.toLower ↔ '=' ∈ cs := by
    simp only [List.mem_map, toLower_eq_equals_iff, exists_eq_right]
  rwa [← hequals, ← h, hequals]

/-- Respelling preserves the result of parsing a member. -/
theorem RespellsMember.parseMember_eq (h : RespellsMember text text') (hmem : '=' ∈ text) :
    parseMember (Text.trim text') = parseMember (Text.trim text) := by
  have hequals (before after : List Char) : '=' ∈ before ++ '=' :: after :=
    List.mem_append_right before List.mem_cons_self
  cases h with
  | @letterCase key key' hkey h after =>
    have hname : Algorithm.ofKey? key' = Algorithm.ofKey? key := by
      rw [← Algorithm.ofKey?_map_toLower, ← h, Algorithm.ofKey?_map_toLower]
    rw [parseMember_trim (hequals _ _), parseMember_trim (hequals _ _),
      parseMember_append (not_mem_of_map_toLower h hkey), parseMember_append hkey]
    exact readSides_congr hname rfl
  | aroundMember hleft hright => rw [Text.trim_append hleft hright]
  | aroundKey hleft hright hkey after =>
    rw [parseMember_trim (hequals _ _), parseMember_trim (hequals _ _),
      parseMember_append (hleft.append hright (by decide) hkey), parseMember_append hkey]
    exact readSides_congr (Algorithm.ofKey?_congr (Text.trim_append hleft hright _)) rfl
  | @aroundValue left right key hleft hright hkey after =>
    have hvalue : (left ++ after.takeWhile (· != ';') ++ right ++
        after.dropWhile (· != ';')).takeWhile (· != ';') =
        left ++ after.takeWhile (· != ';') ++ right := by
      have hplain := hleft.append hright (by decide) (Text.not_mem_takeWhile ';' after)
      rw [List.takeWhile_append_of_pos (Text.bne_of_not_mem hplain),
        List.takeWhile_eq_nil_iff.2 (List.dropWhile_get_zero_not _ after), List.append_nil]
    rw [parseMember_trim (hequals _ _), parseMember_trim (hequals _ _), parseMember_append hkey,
      parseMember_append hkey, hvalue]
    exact readSides_congr rfl (Text.trim_append hleft hright _)
  | @parameter _ added _ hadded =>
    obtain ⟨key, after, rfl, hkey⟩ := List.eq_append_cons_of_mem hmem
    rw [List.append_assoc, List.cons_append, parseMember_trim (hequals _ _),
      parseMember_trim (hequals _ _), parseMember_append hkey, parseMember_append hkey,
      Text.takeWhile_append_cons]

theorem RespellsMember.trim_eq_nil_iff (h : RespellsMember text text') :
    Text.trim text' = [] ↔ Text.trim text = [] := by
  have hmark (c : Char) (hc : Text.isBlank c = false) (before after : List Char) :
      Text.trim (before ++ c :: after) ≠ [] :=
    List.ne_nil_of_mem ((Text.mem_trim hc).2 (List.mem_append_right before List.mem_cons_self))
  cases h with
  | letterCase =>
    exact iff_of_false (hmark _ (by decide) _ _) (hmark _ (by decide) _ _)
  | aroundMember hleft hright => rw [Text.trim_append hleft hright]
  | aroundKey =>
    exact iff_of_false (hmark _ (by decide) _ _) (hmark _ (by decide) _ _)
  | aroundValue =>
    exact iff_of_false (hmark _ (by decide) _ _) (hmark _ (by decide) _ _)
  | parameter h => exact iff_of_false (hmark _ (by decide) _ _) h

theorem Respells.mapM_eq {pieces pieces' : List (List Char)} {contributions : List Member}
    (h : Respells pieces pieces')
    (hread : (membersOf pieces).mapM parseMember = .ok contributions) :
    (membersOf pieces').mapM parseMember = .ok contributions := by
  cases h with
  | blankMember h before after =>
    have hblank := Text.trim_eq_nil_iff.2 h
    rwa [membersOf_append, membersOf_cons_of_blank hblank, ← membersOf_append]
  | @member text text' h before after =>
    by_cases htext : Text.trim text = []
    · rw [membersOf_append, membersOf_cons_of_blank htext] at hread
      rwa [membersOf_append, membersOf_cons_of_blank (h.trim_eq_nil_iff.2 htext)]
    · have hmem : '=' ∈ Text.trim text := by
        by_contra hmem
        have hin : Text.trim text ∈ membersOf (before ++ text :: after) := by
          rw [membersOf_append, membersOf_cons_of_not_blank htext]
          exact List.mem_append_right _ List.mem_cons_self
        obtain ⟨e, he⟩ :=
          exists_error_mapM_iff.2 ⟨_, hin, (reads.error_iff _).2 (.noEquals hmem)⟩
        rw [hread] at he
        cases he
      have hsame := h.parseMember_eq ((Text.mem_trim (by decide)).1 hmem)
      rw [membersOf_append, membersOf_cons_of_not_blank htext, List.mapM_append,
        List.mapM_cons] at hread
      rwa [membersOf_append, membersOf_cons_of_not_blank (mt h.trim_eq_nil_iff.1 htext),
        List.mapM_append, List.mapM_cons, hsame]

theorem mapM_eq_of_respells {pieces pieces' : List (List Char)} {contributions : List Member}
    (h : Relation.ReflTransGen Respells pieces pieces')
    (hread : (membersOf pieces).mapM parseMember = .ok contributions) :
    (membersOf pieces').mapM parseMember = .ok contributions := by
  induction h with
  | refl => exact hread
  | tail _ hstep ih => exact hstep.mapM_eq ih

end Field.ContentDigest

namespace Field

/-- A `Content-Digest` field fails exactly on malformed members; respelling is invisible. -/
theorem contentDigest_grammar (value : String) :
    ((∃ e, ContentDigest.parse value = .error e) ↔
        ∃ text ∈ members value, ContentDigest.Malformed text) ∧
      (∀ digests, ContentDigest.parse value = .ok digests ↔
        (∀ text ∈ members value, ¬ ContentDigest.Malformed text) ∧
          Collects ContentDigest.Carries (members value) digests) ∧
      ∀ (value' : String) (digests : DigestMap),
        Relation.ReflTransGen ContentDigest.Respells (Text.pieces ',' value.toList)
          (Text.pieces ',' value'.toList) →
        ContentDigest.parse value = .ok digests → ContentDigest.parse value' = .ok digests := by
  obtain ⟨herror, hok⟩ := ContentDigest.reads.grammar value
  refine ⟨herror, hok, fun value' digests hrespells hread => ?_⟩
  rw [ContentDigest.parse, parse_eq, members] at hread ⊢
  cases hmembers : (membersOf (Text.pieces ',' value.toList)).mapM ContentDigest.parseMember with
  | error e =>
    rw [hmembers] at hread
    cases hread
  | ok contributions =>
    rw [ContentDigest.mapM_eq_of_respells hrespells hmembers, ← hmembers]
    exact hread

theorem contentDigest_grammar_of_respelled :
    Relation.ReflTransGen ContentDigest.Respells (Text.pieces ',' "md5=:AA==:".toList)
        (Text.pieces ',' " MD5 = :AA==: ;q=1,".toList) ∧
      ContentDigest.parse "md5=:AA==:" = .ok [(.md5, [0])] ∧
      ContentDigest.parse " MD5 = :AA==: ;q=1," = .ok [(.md5, [0])] := by
  have hblank : ContentDigest.AllBlank [' '] := by
    intro c hc
    cases List.mem_singleton.1 hc
    decide
  have hnone : ContentDigest.AllBlank [] := fun c hc => absurd hc List.not_mem_nil
  have hcase : ContentDigest.Respells ["md5=:AA==:".toList] ["MD5=:AA==:".toList] :=
    .member (@ContentDigest.RespellsMember.letterCase "md5".toList "MD5".toList (by decide)
      (by decide) ":AA==:".toList) [] []
  have hkey : ContentDigest.Respells ["MD5=:AA==:".toList] [" MD5 =:AA==:".toList] :=
    .member (@ContentDigest.RespellsMember.aroundKey _ _ "MD5".toList hblank hblank (by decide)
      ":AA==:".toList) [] []
  have hvalue : ContentDigest.Respells [" MD5 =:AA==:".toList] [" MD5 = :AA==: ".toList] :=
    .member (@ContentDigest.RespellsMember.aroundValue _ _ " MD5 ".toList hblank hblank (by decide)
      ":AA==:".toList) [] []
  have hparameter : ContentDigest.Respells [" MD5 = :AA==: ".toList]
      [" MD5 = :AA==: ;q=1".toList] :=
    .member (.parameter (by decide) (by decide)) [] []
  have hlast : ContentDigest.Respells [" MD5 = :AA==: ;q=1".toList]
      [" MD5 = :AA==: ;q=1".toList, []] :=
    .blankMember hnone [" MD5 = :AA==: ;q=1".toList] []
  have hrespells : Relation.ReflTransGen ContentDigest.Respells
      (Text.pieces ',' "md5=:AA==:".toList) (Text.pieces ',' " MD5 = :AA==: ;q=1,".toList) :=
    ((((Relation.ReflTransGen.single hcase).tail hkey).tail hvalue).tail hparameter).tail hlast
  have hread : ContentDigest.parse "md5=:AA==:" = .ok [(.md5, [0])] := by decide
  exact ⟨hrespells, hread, (contentDigest_grammar "md5=:AA==:").2.2 _ _ hrespells hread⟩

end Field

end DigestGate
