import DigestGate.Proofs.Field.Written
import Mathlib.Logic.ExistsUnique

namespace DigestGate.Base64

variable {numbers numbers' front : List Nat} {letters : List Char} {n : Nat} {c : Char}

def alphabet : List Char :=
  "ABCDEFGHIJKLMNOPQRSTUVWXYZabcdefghijklmnopqrstuvwxyz0123456789+/".toList

theorem length_alphabet : alphabet.length = 64 := by
  decide

theorem getElem?_alphabet (h : n < 64) : alphabet[n]? = some (letter n) := by
  have hall : ∀ m < 64, alphabet[m]? = some (letter m) := by decide
  exact hall n h

theorem idxOf_letter (h : n < 64) : alphabet.idxOf (letter n) = n := by
  have hall : ∀ m < 64, alphabet.idxOf (letter m) = m := by decide
  exact hall n h

theorem mem_alphabet_iff : c ∈ alphabet ↔ ∃ n < 64, letter n = c := by
  rw [List.mem_iff_getElem?]
  constructor
  · rintro ⟨n, hn⟩
    have hlt : n < 64 := length_alphabet ▸ (List.getElem?_eq_some_iff.1 hn).1
    rw [getElem?_alphabet hlt] at hn
    exact ⟨n, hlt, Option.some.inj hn⟩
  · rintro ⟨n, hlt, rfl⟩
    exact ⟨n, getElem?_alphabet hlt⟩

theorem idxOf_lt (h : c ∈ alphabet) : alphabet.idxOf c < 64 :=
  List.idxOf_lt_length_of_mem h

theorem letter_idxOf (h : c ∈ alphabet) : letter (alphabet.idxOf c) = c := by
  obtain ⟨n, hn, rfl⟩ := mem_alphabet_iff.1 h
  rw [idxOf_letter hn]

theorem map_letter_map_idxOf (h : ∀ c ∈ letters, c ∈ alphabet) :
    (letters.map alphabet.idxOf).map letter = letters := by
  rw [List.map_map]
  exact (List.map_congr_left fun c hc => letter_idxOf (h c hc)).trans (List.map_id' letters)

/-- The six-bit groups with the unused bits of the last one set to zero. -/
def cleared : List Nat → List Nat
  | a :: b :: c :: d :: rest => a :: b :: c :: d :: cleared rest
  | [a, b, c] => [a, b, c / 4 * 4]
  | [a, b] => [a, b / 16 * 16]
  | [_] => []
  | [] => []

theorem length_unpack (numbers : List Nat) :
    (unpack numbers).length = 3 * numbers.length / 4 := by
  fun_induction cleared numbers with
  | case1 a b c d rest ih =>
    rw [unpack]
    simp only [List.length_cons, ih]
    omega
  | case2 a b c => simp only [unpack, List.length_cons, List.length_nil]
  | case3 a b => simp only [unpack, List.length_cons, List.length_nil]
  | case4 a => simp only [unpack, List.length_cons, List.length_nil]
  | case5 => simp only [unpack, List.length_nil]

theorem sextets_unpack (h : ∀ n ∈ numbers, n < 64) :
    sextets (unpack numbers) = cleared numbers := by
  have hfirst (a b : Nat) (ha : a < 64) (hb : b < 64) :
      (UInt8.ofNat (a * 4 + b / 16)).toNat = a * 4 + b / 16 := by
    rw [UInt8.toNat_ofNat']
    omega
  fun_induction cleared numbers with
  | case1 a b c d rest ih =>
    simp only [List.forall_mem_cons] at h
    obtain ⟨ha, hb, hc, hd, hrest⟩ := h
    rw [unpack, sextets, ih hrest, hfirst a b ha hb, UInt8.toNat_ofNat', UInt8.toNat_ofNat']
    simp only [List.cons.injEq]
    exact ⟨by omega, by omega, by omega, by omega, trivial⟩
  | case2 a b c =>
    simp only [List.forall_mem_cons] at h
    obtain ⟨ha, hb, hc, -⟩ := h
    rw [unpack, sextets, hfirst a b ha hb, UInt8.toNat_ofNat']
    simp only [List.cons.injEq]
    exact ⟨by omega, by omega, by omega, trivial⟩
  | case3 a b =>
    simp only [List.forall_mem_cons] at h
    obtain ⟨ha, hb, -⟩ := h
    rw [unpack, sextets, hfirst a b ha hb]
    simp only [List.cons.injEq]
    exact ⟨by omega, by omega, trivial⟩
  | case4 a => rfl
  | case5 => rfl

/-- Six-bit groups carry equal bytes iff they agree up to unused bits. -/
theorem unpack_eq_iff (h : ∀ n ∈ numbers, n < 64) (h' : ∀ n ∈ numbers', n < 64) :
    unpack numbers = unpack numbers' ↔ cleared numbers = cleared numbers' := by
  rw [← sextets_unpack h, ← sextets_unpack h']
  constructor
  · intro heq
    rw [heq]
  · intro heq
    rw [← unpack_sextets (unpack numbers), heq, unpack_sextets]

theorem cleared_concat (h : front.length % 4 = 1) (last : Nat) :
    cleared (front ++ [last]) = front ++ [last / 16 * 16] := by
  fun_induction cleared front with
  | case1 a b c d rest ih =>
    simp only [List.length_cons] at h
    exact congrArg (a :: b :: c :: d :: ·) (ih (by omega))
  | case2 a b c => cases h
  | case3 a b => cases h
  | case4 a => rfl
  | case5 => cases h

end DigestGate.Base64

namespace DigestGate.Field

namespace ContentMD5

variable {text text' front front' : List Char} {last last' : Char} {value : String}
  {digest : Bytes}

def stripped (value : String) : List Char :=
  Text.trim value.toList

/-- Twenty-two letters followed by two padding characters. -/
def Spelled (text : List Char) : Prop :=
  ∃ letters : List Char, letters.length = 22 ∧ (∀ c ∈ letters, c ∈ Base64.alphabet) ∧
    text = letters ++ ['=', '=']

/-- The two significant bits of the last letter. -/
def lastBits (text : List Char) : Option Nat :=
  text[21]?.map fun c => Base64.alphabet.idxOf c / 16

/-- Spelled without blanks around it, and with zeros for the unused bits. -/
def Canonical (value : String) : Prop :=
  Spelled value.toList ∧ value.toList[21]?.map (fun c => Base64.alphabet.idxOf c % 16) = some 0

structure Spells (text front : List Char) (last : Char) : Prop where
  length : front.length = 21
  letters : ∀ c ∈ front ++ [last], c ∈ Base64.alphabet
  text_eq : text = front ++ [last] ++ ['=', '=']

def numbersOf (front : List Char) (last : Char) : List Nat :=
  (front ++ [last]).map Base64.alphabet.idxOf

theorem spelled_iff : Spelled text ↔ ∃ front last, Spells text front last := by
  constructor
  · rintro ⟨letters, hlength, hletters, rfl⟩
    obtain ⟨front, last, rfl⟩ :=
      (List.eq_nil_or_concat' letters).resolve_left (by rintro rfl; cases hlength)
    rw [List.length_append, List.length_singleton] at hlength
    exact ⟨front, last, by omega, hletters, rfl⟩
  · rintro ⟨front, last, hlength, hletters, rfl⟩
    refine ⟨front ++ [last], ?_, hletters, rfl⟩
    rw [List.length_append, hlength, List.length_singleton]

namespace Spells

section Single

variable (h : Spells text front last)
include h

theorem length_numbersOf : (numbersOf front last).length = 22 := by
  rw [numbersOf, List.length_map, List.length_append, h.length, List.length_singleton]

theorem numbersOf_lt : ∀ n ∈ numbersOf front last, n < 64 := by
  intro n hn
  obtain ⟨c, hc, rfl⟩ := List.mem_map.1 hn
  exact Base64.idxOf_lt (h.letters c hc)

theorem last_mem : last ∈ Base64.alphabet :=
  h.letters last (List.mem_append_right _ List.mem_cons_self)

theorem map_letter_front : (front.map Base64.alphabet.idxOf).map Base64.letter = front :=
  Base64.map_letter_map_idxOf fun c hc => h.letters c (List.mem_append_left _ hc)

theorem decode?_eq : Base64.decode? text = some (Base64.unpack (numbersOf front last)) := by
  have htext : text = (numbersOf front last).map Base64.letter ++ List.replicate 2 '=' := by
    rw [numbersOf, Base64.map_letter_map_idxOf h.letters]
    exact h.text_eq
  rw [htext]
  apply Base64.decode?_letters h.numbersOf_lt
  rw [h.length_numbersOf]
  exact .inr (.inl ⟨rfl, rfl⟩)

theorem length_unpack : (Base64.unpack (numbersOf front last)).length = 16 := by
  rw [Base64.length_unpack, h.length_numbersOf]

theorem take_eq : text.take 21 = front := by
  rw [h.text_eq, List.append_assoc, ← h.length, List.take_left]

theorem getElem?_eq : text[21]? = some last := by
  rw [h.text_eq, List.append_assoc, ← h.length, List.getElem?_append_right (Nat.le_refl _),
    Nat.sub_self]
  rfl

theorem cleared_eq : Base64.cleared (numbersOf front last) =
    front.map Base64.alphabet.idxOf ++ [Base64.alphabet.idxOf last / 16 * 16] := by
  rw [numbersOf, List.map_append]
  apply Base64.cleared_concat
  rw [List.length_map, h.length]

/-- A text is canonical iff the unused bits of its last letter are zero. -/
theorem encode_eq_iff : Base64.encode (Base64.unpack (numbersOf front last)) = text ↔
    Base64.alphabet.idxOf last % 16 = 0 := by
  have hlt := Base64.idxOf_lt h.last_mem
  have hwritten : Base64.encode (Base64.unpack (numbersOf front last)) =
      front ++ [Base64.letter (Base64.alphabet.idxOf last / 16 * 16)] ++ ['=', '='] := by
    rw [Base64.encode_eq, Base64.sextets_unpack h.numbersOf_lt, h.cleared_eq, h.length_unpack,
      List.map_append, h.map_letter_front]
    rfl
  rw [hwritten, h.text_eq, List.append_left_inj, List.append_right_inj, List.singleton_inj]
  constructor
  · intro heq
    have hidx := Base64.idxOf_letter (n := Base64.alphabet.idxOf last / 16 * 16) (by omega)
    rw [heq] at hidx
    omega
  · intro hbits
    rw [show Base64.alphabet.idxOf last / 16 * 16 = Base64.alphabet.idxOf last by omega]
    exact Base64.letter_idxOf h.last_mem

end Single

theorem unpack_eq_iff (h : Spells text front last) (h' : Spells text' front' last') :
    Base64.unpack (numbersOf front last) = Base64.unpack (numbersOf front' last') ↔
      text.take 21 = text'.take 21 ∧ lastBits text = lastBits text' := by
  rw [Base64.unpack_eq_iff h.numbersOf_lt h'.numbersOf_lt, h.cleared_eq, h'.cleared_eq, h.take_eq,
    h'.take_eq, lastBits, lastBits, h.getElem?_eq, h'.getElem?_eq, Option.map_some, Option.map_some,
    Option.some_inj]
  constructor
  · intro heq
    obtain ⟨hfront, hlast⟩ := List.append_inj' heq rfl
    have hnumber := List.singleton_inj.1 hlast
    constructor
    · rw [← h.map_letter_front, hfront, h'.map_letter_front]
    · omega
  · rintro ⟨rfl, hlast⟩
    rw [hlast]

end Spells

/-- Exactly the spelled texts decode to sixteen bytes. -/
theorem spelled_iff_decode? :
    Spelled text ↔ ∃ digest, Base64.decode? text = some digest ∧ digest.length = 16 := by
  constructor
  · intro h
    obtain ⟨front, last, h⟩ := spelled_iff.1 h
    exact ⟨_, h.decode?_eq, h.length_unpack⟩
  · rintro ⟨digest, hdigest, hlength⟩
    have hstrict : Base64.IsStrict text := by
      apply Base64.isStrict_of_decode?
      rw [hdigest]
      rfl
    obtain ⟨numbers, padding, hnumbers, rfl, hpadded⟩ := hstrict
    rw [Base64.decode?_letters hnumbers hpadded] at hdigest
    cases hdigest
    rw [Base64.length_unpack] at hlength
    have hcount : numbers.length = 22 := by omega
    have hpadding : padding = 2 := by
      rw [Base64.Padded, hcount] at hpadded
      omega
    refine ⟨numbers.map Base64.letter, ?_, ?_, ?_⟩
    · rw [List.length_map, hcount]
    · intro c hc
      obtain ⟨n, hn, rfl⟩ := List.mem_map.1 hc
      exact Base64.mem_alphabet_iff.2 ⟨n, hnumbers n hn, rfl⟩
    · rw [hpadding]
      rfl

theorem trim_of_spelled (h : Spelled text) : Text.trim text = text := by
  obtain ⟨letters, -, hletters, rfl⟩ := h
  have hletter : ∀ n < 64, Text.isBlank (Base64.letter n) = false := by decide
  apply Text.trim_of_not_blank
  intro c hc
  rcases List.mem_append.1 hc with hc | hc
  · obtain ⟨n, hn, rfl⟩ := Base64.mem_alphabet_iff.1 (hletters c hc)
    exact hletter n hn
  · have hpad : c = '=' := List.eq_of_mem_replicate (n := 2) hc
    rw [hpad]
    decide

theorem parse_of_decode? {bytes : Bytes} (h : Base64.decode? (stripped value) = some bytes) :
    parse value = if bytes.length = 16 then .ok bytes else .error .md5Length := by
  have hsome : Base64.decode? (Text.trim value.toList) = some bytes := h
  rw [parse, decodeDigest, hsome]
  rfl

theorem exists_decode? (h : Base64.IsStrict (stripped value)) :
    ∃ bytes, Base64.decode? (stripped value) = some bytes := by
  apply Option.ne_none_iff_exists'.1
  intro hnone
  exact Base64.decode?_eq_none_iff.1 hnone h

theorem parse_eq_ok_iff : parse value = .ok digest ↔
    Base64.decode? (stripped value) = some digest ∧ digest.length = 16 := by
  constructor
  · intro h
    by_cases hstrict : Base64.IsStrict (stripped value)
    · obtain ⟨bytes, hbytes⟩ := exists_decode? hstrict
      rw [parse_of_decode? hbytes] at h
      split at h
      · next hlength =>
        cases h
        exact ⟨hbytes, hlength⟩
      · cases h
    · cases (parse_of_not_strict hstrict).symm.trans h
  · rintro ⟨hbytes, hlength⟩
    rw [parse_of_decode? hbytes, if_pos hlength]

theorem exists_parse_eq_ok_iff :
    (∃ digest, parse value = .ok digest) ↔ Spelled (stripped value) := by
  rw [spelled_iff_decode?]
  exact exists_congr fun _ => parse_eq_ok_iff

theorem parse_eq_error_iff {e : FieldError} : parse value = .error e ↔
    ¬ Base64.IsStrict (stripped value) ∧ e = .notBase64 (String.ofList (stripped value)) ∨
      Base64.IsStrict (stripped value) ∧ ¬ Spelled (stripped value) ∧ e = .md5Length := by
  by_cases hstrict : Base64.IsStrict (stripped value)
  · obtain ⟨bytes, hbytes⟩ := exists_decode? hstrict
    have hspelled : Spelled (stripped value) ↔ bytes.length = 16 := by
      rw [spelled_iff_decode?, hbytes]
      simp only [Option.some.injEq, exists_eq_left']
    rw [parse_of_decode? hbytes, hspelled]
    by_cases hlength : bytes.length = 16
    · simp [hlength, hstrict]
    · simp [hlength, hstrict, eq_comm]
  · have hread : parse value = .error (.notBase64 (String.ofList (stripped value))) :=
      parse_of_not_strict hstrict
    simp [hread, hstrict, eq_comm]

theorem exists_spells_of_parse (h : parse value = .ok digest) :
    ∃ front last, Spells (stripped value) front last ∧
      digest = Base64.unpack (numbersOf front last) := by
  obtain ⟨front, last, hspells⟩ := spelled_iff.1 (exists_parse_eq_ok_iff.1 ⟨digest, h⟩)
  have hdecoded := (parse_eq_ok_iff.1 h).1
  rw [hspells.decode?_eq] at hdecoded
  exact ⟨front, last, hspells, (Option.some.inj hdecoded).symm⟩

theorem canonical_iff (h : parse value = .ok digest) :
    Canonical value ↔ value = String.ofList (Base64.encode digest) := by
  obtain ⟨front, last, hspells, rfl⟩ := exists_spells_of_parse h
  constructor
  · rintro ⟨hspelled, hbits⟩
    have hwhole : stripped value = value.toList := trim_of_spelled hspelled
    rw [hwhole] at hspells
    rw [hspells.getElem?_eq] at hbits
    rw [hspells.encode_eq_iff.2 (Option.some.inj hbits), String.ofList_toList]
  · intro hvalue
    have hwritten : value.toList = Base64.encode (Base64.unpack (numbersOf front last)) := by
      rw [hvalue, String.toList_ofList]
    have hwhole : stripped value = value.toList := by
      rw [stripped, hwritten]
      exact Text.trim_of_not_blank fun c hc => (isPlain_of_mem_encode hc).1
    rw [hwhole] at hspells
    constructor
    · exact spelled_iff.2 ⟨front, last, hspells⟩
    · rw [hspells.getElem?_eq, Option.map_some, hspells.encode_eq_iff.1 hwritten.symm]

theorem existsUnique_canonical (h : digest.length = 16) :
    ∃! value, Canonical value ∧ parse value = .ok digest := by
  have hread := parse_encode h
  apply existsUnique_of_exists_of_unique
  · exact ⟨_, (canonical_iff hread).2 rfl, hread⟩
  · rintro value value' ⟨hvalue, hread⟩ ⟨hvalue', hread'⟩
    rw [(canonical_iff hread).1 hvalue, (canonical_iff hread').1 hvalue']

end ContentMD5

/-- The accepted texts, the fibers of decoding and the canonical text of each digest. -/
theorem contentMD5_grammar :
    (∀ value : String, (∃ digest, ContentMD5.parse value = .ok digest) ↔
        ContentMD5.Spelled (ContentMD5.stripped value)) ∧
      (∀ (value : String) (digest : Bytes), ContentMD5.parse value = .ok digest →
        digest.length = 16) ∧
      (∀ (value : String) (e : FieldError), ContentMD5.parse value = .error e ↔
        ¬ Base64.IsStrict (ContentMD5.stripped value) ∧
            e = .notBase64 (String.ofList (ContentMD5.stripped value)) ∨
          Base64.IsStrict (ContentMD5.stripped value) ∧
            ¬ ContentMD5.Spelled (ContentMD5.stripped value) ∧ e = .md5Length) ∧
      (∀ (value value' : String) (digest digest' : Bytes), ContentMD5.parse value = .ok digest →
        ContentMD5.parse value' = .ok digest' →
        (digest = digest' ↔
          (ContentMD5.stripped value).take 21 = (ContentMD5.stripped value').take 21 ∧
            ContentMD5.lastBits (ContentMD5.stripped value) =
              ContentMD5.lastBits (ContentMD5.stripped value'))) ∧
      (∀ digest : Bytes, digest.length = 16 →
        ∃! value, ContentMD5.Canonical value ∧ ContentMD5.parse value = .ok digest) ∧
      ∀ body : Bytes, ContentMD5.Canonical (ContentMD5.declare body) ∧
        ContentMD5.parse (ContentMD5.declare body) = .ok (Algorithm.md5.compute body) := by
  refine ⟨fun _ => ContentMD5.exists_parse_eq_ok_iff, ?_, fun _ _ => ContentMD5.parse_eq_error_iff,
    ?_, fun _ => ContentMD5.existsUnique_canonical, ?_⟩
  · intro value digest hread
    exact (ContentMD5.parse_eq_ok_iff.1 hread).2
  · intro value value' digest digest' hread hread'
    obtain ⟨front, last, hspells, rfl⟩ := ContentMD5.exists_spells_of_parse hread
    obtain ⟨front', last', hspells', rfl⟩ := ContentMD5.exists_spells_of_parse hread'
    exact hspells.unpack_eq_iff hspells'
  · intro body
    have hread := ContentMD5.parse_declare body
    exact ⟨(ContentMD5.canonical_iff hread).2 rfl, hread⟩

theorem contentMD5_grammar_spareBits :
    let digest : Bytes := List.replicate 15 0 ++ [1]
    let canonical := "AAAAAAAAAAAAAAAAAAAAAQ=="
    let spare := "\tAAAAAAAAAAAAAAAAAAAAAf== "
    let other := "AAAAAAAAAAAAAAAAAAAAAg=="
    digest.length = 16 ∧ ContentMD5.parse canonical = .ok digest ∧
      ContentMD5.parse spare = .ok digest ∧
      ContentMD5.parse other = .ok (List.replicate 15 0 ++ [2]) ∧
      ContentMD5.lastBits (ContentMD5.stripped canonical) =
        ContentMD5.lastBits (ContentMD5.stripped spare) ∧
      ContentMD5.lastBits (ContentMD5.stripped canonical) ≠
        ContentMD5.lastBits (ContentMD5.stripped other) ∧
      ∃! value, ContentMD5.Canonical value ∧ ContentMD5.parse value = .ok digest := by
  intro digest canonical spare other
  have hcanonical : ContentMD5.parse canonical = .ok digest := by decide
  have hspare : ContentMD5.parse spare = .ok digest := by decide
  have hother : ContentMD5.parse other = .ok (List.replicate 15 0 ++ [2]) := by decide
  obtain ⟨-, hlength, -, hsame, hunique, -⟩ := contentMD5_grammar
  have hdigest : digest.length = 16 := hlength canonical digest hcanonical
  have halike := (hsame canonical spare digest digest hcanonical hspare).1 rfl
  have hdiffer := hsame canonical other digest _ hcanonical hother
  refine ⟨hdigest, hcanonical, hspare, hother, halike.2, ?_, hunique digest hdigest⟩
  intro hbits
  have htake : (ContentMD5.stripped canonical).take 21 =
      (ContentMD5.stripped other).take 21 := by decide
  exact absurd (hdiffer.2 ⟨htake, hbits⟩) (by decide)

end DigestGate.Field
