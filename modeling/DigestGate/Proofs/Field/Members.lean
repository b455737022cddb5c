import DigestGate.Field.DigestMap
import DigestGate.Proofs.Text.Pieces
import DigestGate.Proofs.Text.Trimming
import Mathlib.Data.List.ReduceOption

namespace DigestGate.Field

variable {member : List Char → Except FieldError Member} {a : Algorithm} {x : Bytes}
  {key piece text : List Char} {texts : List (List Char)} {contribution : Member}
  {contributions : List Member}

/-- The members of a list field, trimmed, without the blank ones. -/
def membersOf (pieces : List (List Char)) : List (List Char) :=
  (pieces.map Text.trim).filter (· ≠ [])

def members (value : String) : List (List Char) :=
  membersOf (Text.pieces ',' value.toList)

theorem membersOf_append (pieces later : List (List Char)) :
    membersOf (pieces ++ later) = membersOf pieces ++ membersOf later := by
  rw [membersOf, List.map_append, List.filter_append]
  rfl

theorem membersOf_cons_of_blank (h : Text.trim piece = []) (pieces : List (List Char)) :
    membersOf (piece :: pieces) = membersOf pieces := by
  rw [membersOf, List.map_cons, List.filter_cons_of_neg (by simpa using h)]
  rfl

theorem membersOf_cons_of_not_blank (h : Text.trim piece ≠ []) (pieces : List (List Char)) :
    membersOf (piece :: pieces) = Text.trim piece :: membersOf pieces := by
  rw [membersOf, List.map_cons, List.filter_cons_of_pos (by simpa using h)]
  rfl

theorem members_joined (value value' : String) :
    members (value ++ "," ++ value') = members value ++ members value' := by
  have htext : (value ++ "," ++ value').toList = value.toList ++ ',' :: value'.toList := by
    rw [String.toList_append, String.toList_append, List.append_assoc]
    rfl
  rw [members, htext, Text.pieces_append_cons, membersOf_append]
  rfl

/-- A list field is parsed member by member, and the digests are inserted in order. -/
theorem parseMembers_eq (pieces : List (List Char)) (digests : DigestMap) :
    parseMembers member pieces digests =
      ((membersOf pieces).mapM member).map fun contributions =>
        contributions.reduceOption.foldl (fun m entry => m.insert entry.1 entry.2) digests := by
  induction pieces generalizing digests with
  | nil => rfl
  | cons piece rest ih =>
    rw [parseMembers]
    cases htrim : Text.trim piece with
    | nil => rw [membersOf_cons_of_blank htrim]; exact ih digests
    | cons c cs =>
      have hne : Text.trim piece ≠ [] := by rw [htrim]; exact List.cons_ne_nil c cs
      rw [membersOf_cons_of_not_blank hne, htrim, List.mapM_cons]
      simp only
      cases member (c :: cs) with
      | error e => rfl
      | ok contribution =>
        cases contribution with
        | none => simp only; rw [ih]; cases (membersOf rest).mapM member <;> rfl
        | some entry => simp only; rw [ih]; cases (membersOf rest).mapM member <;> rfl

theorem parse_eq (value : String) :
    parseMembers member (Text.pieces ',' value.toList) [] =
      ((members value).mapM member).map fun contributions => .ofList contributions.reduceOption :=
  parseMembers_eq _ []

theorem mapM_concat_eq_ok (h : (texts ++ [text]).mapM member = .ok contributions) :
    ∃ earlier contribution, texts.mapM member = .ok earlier ∧ member text = .ok contribution ∧
      contributions = earlier ++ [contribution] := by
  rw [List.mapM_append, List.mapM_cons, List.mapM_nil] at h
  cases hearlier : texts.mapM member with
  | error e => rw [hearlier] at h; cases h
  | ok earlier =>
    cases hlast : member text with
    | error e => rw [hearlier, hlast] at h; cases h
    | ok contribution => rw [hearlier, hlast] at h; cases h; exact ⟨earlier, _, rfl, rfl, rfl⟩

theorem exists_error_mapM_iff :
    (∃ e, texts.mapM member = .error e) ↔ ∃ text ∈ texts, ∃ e, member text = .error e := by
  induction texts with
  | nil =>
    constructor
    · rintro ⟨e, he⟩
      cases he
    · rintro ⟨text, htext, _⟩
      exact absurd htext List.not_mem_nil
  | cons text texts ih =>
    rw [List.mapM_cons, List.exists_mem_cons_iff, ← ih]
    cases member text with
    | error e => exact ⟨fun _ => .inl ⟨e, rfl⟩, fun _ => ⟨e, rfl⟩⟩
    | ok contribution =>
      cases texts.mapM member with
      | error e => exact ⟨fun _ => .inr ⟨e, rfl⟩, fun _ => ⟨e, rfl⟩⟩
      | ok contributions =>
        constructor
        · rintro ⟨e, he⟩
          cases he
        · rintro (⟨e, he⟩ | ⟨e, he⟩) <;> cases he

theorem keyed_of_unknown (hkey : Algorithm.ofKey? key = none) (text : List Char) :
    keyed key text = .ok none := by
  rw [keyed, hkey]

theorem keyed_of_decode? (hkey : Algorithm.ofKey? key = some a)
    (htext : Base64.decode? text = some x) : keyed key text = .ok (some (a, x)) := by
  rw [keyed, hkey]
  simp only
  rw [decodeDigest, htext]
  rfl

theorem keyed_of_not_base64 (hkey : Algorithm.ofKey? key = some a)
    (htext : Base64.decode? text = none) :
    keyed key text = .error (.notBase64 (String.ofList text)) := by
  rw [keyed, hkey]
  simp only
  rw [decodeDigest, htext]
  rfl

theorem keyed_cases (key text : List Char) :
    (Algorithm.ofKey? key = none ∧ keyed key text = .ok none) ∨
      (∃ a x, Algorithm.ofKey? key = some a ∧ Base64.decode? text = some x ∧
        keyed key text = .ok (some (a, x))) ∨
      ∃ a e, Algorithm.ofKey? key = some a ∧ Base64.decode? text = none ∧
        keyed key text = .error e := by
  cases hkey : Algorithm.ofKey? key with
  | none => exact .inl ⟨rfl, keyed_of_unknown hkey text⟩
  | some a =>
    cases htext : Base64.decode? text with
    | none => exact .inr (.inr ⟨a, _, rfl, rfl, keyed_of_not_base64 hkey htext⟩)
    | some x => exact .inr (.inl ⟨a, x, rfl, rfl, keyed_of_decode? hkey htext⟩)

theorem exists_error_keyed_iff :
    (∃ e, keyed key text = .error e) ↔
      ∃ a, Algorithm.ofKey? key = some a ∧ Base64.decode? text = none := by
  rcases keyed_cases key text with ⟨hkey, h⟩ | ⟨a, x, hkey, htext, h⟩ | ⟨a, e, hkey, htext, h⟩
  · simp [h, hkey]
  · simp [h, htext]
  · exact ⟨fun _ => ⟨a, hkey, htext⟩, fun _ => ⟨e, h⟩⟩

theorem map_fst_of_keyed (hok : keyed key text = .ok contribution) :
    contribution.map Prod.fst = Algorithm.ofKey? key := by
  rcases keyed_cases key text with ⟨hkey, h⟩ | ⟨a, x, hkey, _, h⟩ | ⟨a, e, _, _, h⟩
  all_goals
    rw [h] at hok
    cases hok
  · exact hkey.symm
  · exact hkey.symm

theorem decode?_of_keyed (hok : keyed key text = .ok (some (a, x))) :
    Base64.decode? text = some x := by
  rcases keyed_cases key text with ⟨_, h⟩ | ⟨a, x, _, htext, h⟩ | ⟨a, e, _, _, h⟩
  all_goals
    rw [h] at hok
    cases hok
  exact htext

end DigestGate.Field
