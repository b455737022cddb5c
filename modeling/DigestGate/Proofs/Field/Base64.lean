import DigestGate.Base64
import DigestGate.Proofs.Text.Trimming
import Mathlib.Data.List.Basic
import Mathlib.Data.List.TakeWhile

namespace DigestGate.Base64

/-- The six-bit groups of a byte string, the last one filled up with zeros. -/
def sextets : Bytes → List Nat
  | x :: y :: z :: rest =>
    x.toNat / 4 :: (x.toNat % 4 * 16 + y.toNat / 16) :: (y.toNat % 16 * 4 + z.toNat / 64) ::
      z.toNat % 64 :: sextets rest
  | [x, y] => [x.toNat / 4, x.toNat % 4 * 16 + y.toNat / 16, y.toNat % 16 * 4]
  | [x] => [x.toNat / 4, x.toNat % 4 * 16]
  | [] => []

def paddingOf (count : Nat) : Nat :=
  (3 - count % 3) % 3

theorem value?_letter {n : Nat} (h : n < 64) : value? (letter n) = some n := by
  have hall : ∀ m < 64, value? (letter m) = some m := by decide
  exact hall n h

theorem value?_pad : value? '=' = none := by
  decide

theorem sextets_lt (bytes : Bytes) : ∀ n ∈ sextets bytes, n < 64 := by
  have hbound (x : UInt8) : x.toNat < 256 := x.toNat_lt
  fun_induction sextets bytes with
  | case1 x y z rest ih =>
    have hx := hbound x
    have hy := hbound y
    have hz := hbound z
    simp only [List.forall_mem_cons]
    exact ⟨by omega, by omega, by omega, by omega, ih⟩
  | case2 x y =>
    have hx := hbound x
    have hy := hbound y
    simp only [List.forall_mem_cons]
    exact ⟨by omega, by omega, by omega, nofun⟩
  | case3 x =>
    have hx := hbound x
    simp only [List.forall_mem_cons]
    exact ⟨by omega, by omega, nofun⟩
  | case4 => exact nofun

theorem unpack_sextets (bytes : Bytes) : unpack (sextets bytes) = bytes := by
  have hbound (x : UInt8) : x.toNat < 256 := x.toNat_lt
  have hfirst (x : UInt8) (n : Nat) (hn : n < 16) :
      UInt8.ofNat (x.toNat / 4 * 4 + (x.toNat % 4 * 16 + n) / 16) = x := by
    rw [show x.toNat / 4 * 4 + (x.toNat % 4 * 16 + n) / 16 = x.toNat by omega, UInt8.ofNat_toNat]
  have hsecond (m : Nat) (y : UInt8) (n : Nat) (hn : n < 4) :
      UInt8.ofNat ((m * 16 + y.toNat / 16) * 16 + (y.toNat % 16 * 4 + n) / 4) = y := by
    have hy := hbound y
    apply UInt8.toNat.inj
    rw [UInt8.toNat_ofNat']
    omega
  have hthird (m : Nat) (z : UInt8) :
      UInt8.ofNat ((m * 4 + z.toNat / 64) * 64 + z.toNat % 64) = z := by
    have hz := hbound z
    apply UInt8.toNat.inj
    rw [UInt8.toNat_ofNat']
    omega
  fun_induction sextets bytes with
  | case1 x y z rest ih =>
    have hy := hbound y
    have hz := hbound z
    rw [unpack, hfirst x _ (by omega), hsecond _ y _ (by omega), hthird _ z, ih]
  | case2 x y =>
    have hy := hbound y
    have hlast := hsecond (x.toNat % 4) y 0 (by omega)
    rw [Nat.add_zero] at hlast
    rw [unpack, hfirst x _ (by omega), hlast]
  | case3 x =>
    have hlast := hfirst x 0 (by omega)
    rw [Nat.add_zero] at hlast
    rw [unpack, hlast]
  | case4 => rfl

theorem paddingOf_add_three (count : Nat) : paddingOf (count + 3) = paddingOf count := by
  rw [paddingOf, paddingOf, Nat.add_mod_right]

theorem encode_eq (bytes : Bytes) :
    encode bytes = (sextets bytes).map letter ++ List.replicate (paddingOf bytes.length) '=' := by
  fun_induction sextets bytes with
  | case1 x y z rest ih =>
    rw [encode, ih]
    simp only [List.length_cons, paddingOf_add_three, List.map_cons, List.cons_append]
  | case2 x y => rfl
  | case3 x => rfl
  | case4 => rfl

theorem length_sextets (bytes : Bytes) : (sextets bytes).length = (4 * bytes.length + 2) / 3 := by
  fun_induction sextets bytes with
  | case1 x y z rest ih =>
    simp only [List.length_cons, ih]
    omega
  | case2 x y => simp only [List.length_cons, List.length_nil]
  | case3 x => simp only [List.length_cons, List.length_nil]
  | case4 => rfl

theorem paddingFits_sextets (bytes : Bytes) :
    paddingFits (sextets bytes).length (paddingOf bytes.length) := by
  rw [length_sextets, paddingFits, paddingOf]
  have hcases : bytes.length % 3 = 0 ∨ bytes.length % 3 = 1 ∨ bytes.length % 3 = 2 := by omega
  rcases hcases with h | h | h
  · rw [h, show (4 * bytes.length + 2) / 3 % 4 = 0 by omega]
    rfl
  · rw [h, show (4 * bytes.length + 2) / 3 % 4 = 2 by omega]
    rfl
  · rw [h, show (4 * bytes.length + 2) / 3 % 4 = 3 by omega]
    rfl

/-- The padding accepted after `count` letters. -/
def Padded (count padding : Nat) : Prop :=
  count % 4 = 0 ∧ (padding = 0 ∨ 0 < count) ∨
    count % 4 = 2 ∧ padding = 2 ∨ count % 4 = 3 ∧ padding = 1

/-- Letters followed by accepted padding. -/
def IsStrict (text : List Char) : Prop :=
  ∃ (numbers : List Nat) (padding : Nat), (∀ n ∈ numbers, n < 64) ∧
    text = numbers.map letter ++ List.replicate padding '=' ∧ Padded numbers.length padding

theorem paddingFits_iff {count padding : Nat} :
    paddingFits count padding ↔ Padded count padding := by
  have hcases : count % 4 = 0 ∨ count % 4 = 1 ∨ count % 4 = 2 ∨ count % 4 = 3 := by omega
  rw [paddingFits, Padded]
  rcases hcases with h | h | h | h
  · simp [h, Nat.pos_iff_ne_zero]
  · simp [h]
  · simp [h]
  · simp [h]

theorem letter_of_value? {c : Char} {n : Nat} (h : value? c = some n) : n < 64 ∧ letter n = c := by
  rw [value?] at h
  split at h
  · next hc =>
    have hlow : 65 ≤ c.toNat := hc.1
    have hhigh : c.toNat ≤ 90 := hc.2
    cases h
    refine ⟨by omega, ?_⟩
    rw [letter, if_pos (by omega), show 65 + (c.toNat - 65) = c.toNat by omega, Char.ofNat_toNat]
  split at h
  · next hc =>
    have hlow : 97 ≤ c.toNat := hc.1
    have hhigh : c.toNat ≤ 122 := hc.2
    cases h
    refine ⟨by omega, ?_⟩
    rw [letter, if_neg (by omega), if_pos (by omega),
      show 71 + (c.toNat - 71) = c.toNat by omega, Char.ofNat_toNat]
  split at h
  · next hc =>
    have hlow : 48 ≤ c.toNat := hc.1
    have hhigh : c.toNat ≤ 57 := hc.2
    cases h
    refine ⟨by omega, ?_⟩
    rw [letter, if_neg (by omega), if_neg (by omega), if_pos (by omega), Nat.add_sub_cancel,
      Char.ofNat_toNat]
  split at h
  · next hc =>
    cases h
    exact ⟨by decide, hc.symm⟩
  split at h
  · next hc =>
    cases h
    exact ⟨by decide, hc.symm⟩
  · cases h

section Letters

variable {numbers : List Nat} (h : ∀ n ∈ numbers, n < 64)
include h

theorem isSome_value?_letters : ∀ c ∈ numbers.map letter, (value? c).isSome := by
  intro c hc
  obtain ⟨n, hn, rfl⟩ := List.mem_map.1 hc
  rw [value?_letter (h n hn)]
  rfl

theorem filterMap_value?_letters : (numbers.map letter).filterMap value? = numbers := by
  have hsome : ∀ n ∈ numbers, (value? ∘ letter) n = some n := fun n hn => value?_letter (h n hn)
  rw [List.filterMap_map, List.filterMap_congr hsome, List.filterMap_some]

theorem dropWhile_letters (padding : Nat) :
    (numbers.map letter ++ List.replicate padding '=').dropWhile (fun c => (value? c).isSome) =
      List.replicate padding '=' := by
  rw [List.dropWhile_append_of_pos (isSome_value?_letters h), List.dropWhile_replicate, value?_pad]
  rfl

theorem decode?_letters {padding : Nat} (hpadding : Padded numbers.length padding) :
    decode? (numbers.map letter ++ List.replicate padding '=') = some (unpack numbers) := by
  have hdata : (numbers.map letter ++ List.replicate padding '=').takeWhile
      (fun c => (value? c).isSome) = numbers.map letter := by
    rw [List.takeWhile_append_of_pos (isSome_value?_letters h), List.takeWhile_replicate,
      value?_pad]
    exact List.append_nil _
  have hpads : (List.replicate padding '=').all (· == '=') = true := by
    rw [List.all_replicate]
    simp
  rw [decode?, hdata, dropWhile_letters h, List.length_map, List.length_replicate, hpads,
    paddingFits_iff.2 hpadding, filterMap_value?_letters h]
  rfl

end Letters

theorem map_letter_filterMap {text : List Char} (h : ∀ c ∈ text, (value? c).isSome) :
    (text.filterMap value?).map letter = text := by
  induction text with
  | nil => rfl
  | cons c text ih =>
    obtain ⟨hc, htext⟩ := List.forall_mem_cons.1 h
    obtain ⟨n, hn⟩ := Option.isSome_iff_exists.1 hc
    rw [List.filterMap_cons_some hn, List.map_cons, (letter_of_value? hn).2, ih htext]

theorem isStrict_of_decode? {text : List Char} (h : (decode? text).isSome) : IsStrict text := by
  let data := text.takeWhile fun c => (value? c).isSome
  let padding := text.dropWhile fun c => (value? c).isSome
  have hletters : (data.filterMap value?).map letter = data :=
    map_letter_filterMap fun c hc =>
      List.mem_takeWhile_imp (p := fun c => (value? c).isSome) hc
  have hlength : (data.filterMap value?).length = data.length := by
    rw [← List.length_map letter, hletters]
  have hread : (if padding.all (· == '=') && paddingFits data.length padding.length then
      some (unpack (data.filterMap value?)) else none).isSome := h
  split at hread
  · next hfits =>
    obtain ⟨hpads, hfits⟩ := Bool.and_eq_true_iff.1 hfits
    have hreplicate : padding = List.replicate padding.length '=' :=
      List.eq_replicate_of_mem fun c hc => beq_iff_eq.1 (List.all_eq_true.1 hpads c hc)
    refine ⟨data.filterMap value?, padding.length, ?_, ?_, ?_⟩
    · intro n hn
      obtain ⟨c, _, hc⟩ := List.mem_filterMap.1 hn
      exact (letter_of_value? hc).1
    · rw [hletters, ← hreplicate]
      exact List.takeWhile_append_dropWhile.symm
    · rw [hlength]
      exact paddingFits_iff.1 hfits
  · cases hread

/-- The decoder accepts exactly the strict texts. -/
theorem decode?_eq_none_iff {text : List Char} : decode? text = none ↔ ¬ IsStrict text := by
  constructor
  · rintro h ⟨numbers, padding, hnumbers, rfl, hpadding⟩
    rw [decode?_letters hnumbers hpadding] at h
    cases h
  · intro h
    rw [← Option.not_isSome_iff_eq_none]
    exact mt isStrict_of_decode? h

theorem decode?_encode (bytes : Bytes) : decode? (encode bytes) = some bytes := by
  rw [encode_eq, decode?_letters (sextets_lt bytes) (paddingFits_iff.1 (paddingFits_sextets bytes)),
    unpack_sextets]

theorem mem_encode {bytes : Bytes} {c : Char} (h : c ∈ encode bytes) :
    (∃ n < 64, c = letter n) ∨ c = '=' := by
  rw [encode_eq, List.mem_append] at h
  rcases h with h | h
  · obtain ⟨n, hn, rfl⟩ := List.mem_map.1 h
    exact .inl ⟨n, sextets_lt bytes n hn, rfl⟩
  · exact .inr (List.eq_of_mem_replicate h)

theorem encode_ne_nil {bytes : Bytes} (h : bytes ≠ []) : encode bytes ≠ [] := by
  intro hnil
  have hdecoded := decode?_encode bytes
  rw [hnil] at hdecoded
  cases hdecoded
  exact h rfl

theorem IsStrict.mem {text : List Char} {c : Char} (h : IsStrict text) (hc : c ∈ text) :
    (value? c).isSome ∨ c = '=' := by
  obtain ⟨numbers, padding, hnumbers, rfl, -⟩ := h
  rcases List.mem_append.1 hc with hc | hc
  · exact .inl (isSome_value?_letters hnumbers c hc)
  · exact .inr (List.eq_of_mem_replicate hc)

theorem IsStrict.eq_pad {before after : List Char} {c : Char}
    (h : IsStrict (before ++ '=' :: after)) (hc : c ∈ after) : c = '=' := by
  obtain ⟨numbers, padding, hnumbers, htext, -⟩ := h
  have hrest := dropWhile_letters hnumbers padding
  have hpad : (value? '=').isSome = false := by rw [value?_pad]; rfl
  rw [← htext, Text.dropWhile_append_cons hpad] at hrest
  have hmem : c ∈ List.replicate padding '=' := by
    rw [← hrest]
    exact List.mem_append_right _ (List.mem_cons_of_mem _ hc)
  exact List.eq_of_mem_replicate hmem

theorem exists_letter_encode {bytes : Bytes} (h : bytes ≠ []) :
    ∃ n < 64, ∃ rest, encode bytes = letter n :: rest := by
  have hsextets : sextets bytes ≠ [] := by
    intro hnil
    have hlength := length_sextets bytes
    rw [hnil, List.length_nil] at hlength
    have hpos := List.length_pos_of_ne_nil h
    omega
  obtain ⟨n, numbers, hnumbers⟩ := List.exists_cons_of_ne_nil hsextets
  refine ⟨n, ?_, numbers.map letter ++ List.replicate (paddingOf bytes.length) '=', ?_⟩
  · apply sextets_lt bytes
    rw [hnumbers]
    exact List.mem_cons_self
  · rw [encode_eq, hnumbers]
    rfl

theorem letter_ne {n : Nat} {c : Char} (hn : n < 64) (hc : value? c = none) : letter n ≠ c := by
  rintro rfl
  rw [value?_letter hn] at hc
  cases hc

theorem not_mem_encode {bytes : Bytes} {c : Char} (hc : value? c = none) (hpad : c ≠ '=') :
    c ∉ encode bytes := by
  intro hmem
  rcases mem_encode hmem with ⟨n, hn, hletter⟩ | h
  · exact letter_ne hn hc hletter.symm
  · exact hpad h

end DigestGate.Base64
