import DigestGate.Proofs.Field.Mapping
import DigestGate.Proofs.Field.Members

namespace DigestGate.Field

variable {member : List Char → Except FieldError Member} {a : Algorithm} {x : Bytes}
  {text : List Char} {texts later : List (List Char)} {contributions : List Member}

def keyOf (text : List Char) : List Char :=
  text.takeWhile (· != '=')

def valueOf (text : List Char) : List Char :=
  (text.dropWhile (· != '=')).tail

def named? (text : List Char) : Option Algorithm :=
  Algorithm.ofKey? (keyOf text)

/-- The algorithms are in the order of their first members and have the values of their last. -/
structure Collects (carries : List Char → Bytes → Prop) (texts : List (List Char))
    (digests : DigestMap) : Prop where
  order : digests.algorithms = (texts.filterMap named?).eraseDups
  last : ∀ a x, (a, x) ∈ digests → ∃ text,
    (texts.filter fun text => named? text = some a).getLast? = some text ∧ carries text x

namespace Collects

variable {carries : List Char → Bytes → Prop} {digests digests' : DigestMap}

theorem nodup (h : Collects carries texts digests) : digests.algorithms.Nodup := by
  rw [h.order]
  exact nodup_eraseDups _

theorem mem_algorithms_iff (h : Collects carries texts digests) :
    a ∈ digests.algorithms ↔ ∃ text ∈ texts, named? text = some a := by
  rw [h.order, List.mem_eraseDups, List.mem_filterMap]

theorem nil : Collects carries [] [] :=
  ⟨rfl, fun _ _ h => absurd h List.not_mem_nil⟩

theorem skip (h : Collects carries texts digests) (hnamed : named? text = none) :
    Collects carries (texts ++ [text]) digests := by
  constructor
  · rw [h.order, List.filterMap_append, List.filterMap_cons_none hnamed, List.filterMap_nil,
      List.append_nil]
  · intro a x hmem
    have hother : ¬ named? text = some a := by
      rw [hnamed]
      exact Option.some_ne_none a ∘ Eq.symm
    rw [List.filter_append, List.filter_cons_of_neg (by simpa using hother), List.filter_nil,
      List.append_nil]
    exact h.last a x hmem

theorem insert (h : Collects carries texts digests) (hnamed : named? text = some a)
    (hcarries : carries text x) :
    Collects carries (texts ++ [text]) (digests.insert a x) := by
  constructor
  · rw [DigestMap.algorithms_insert a x h.nodup, h.order, List.filterMap_append,
      List.filterMap_cons_some hnamed, List.filterMap_nil]
    exact eraseDups_append_congr (eraseDups_eraseDups _) [a]
  · intro b y hmem
    rw [List.filter_append]
    rcases DigestMap.of_mem_insert h.nodup hmem with ⟨rfl, rfl⟩ | ⟨hb, hmem⟩
    · rw [List.filter_cons_of_pos (by simpa using hnamed), List.filter_nil]
      exact ⟨text, List.getLast?_concat, hcarries⟩
    · have hother : ¬ named? text = some b := by
        rw [hnamed]
        exact fun heq => hb (Option.some.inj heq).symm
      rw [List.filter_cons_of_neg (by simpa using hother), List.filter_nil, List.append_nil]
      exact h.last b y hmem

/-- Members of a second list update the map collected from the first. -/
theorem update (h : Collects carries texts digests) (h' : Collects carries later digests') :
    Collects carries (texts ++ later) (digests.update digests') := by
  constructor
  · rw [DigestMap.algorithms_update, h.order, h'.order, List.filterMap_append,
      List.eraseDups_append, List.removeAll, eraseDups_filter]
    refine congrArg _ (List.filter_congr fun a _ => ?_)
    rw [decide_not, List.elem_eq_mem]
    exact congrArg (fun p => !p) (decide_eq_decide.2 List.mem_eraseDups)
  · intro a x hmem
    rw [List.filter_append, List.getLast?_append]
    rcases DigestMap.of_mem_update h'.nodup hmem with hmem | ⟨hnot, hmem⟩
    · obtain ⟨text, hlast, hcarries⟩ := h'.last a x hmem
      exact ⟨text, by rw [hlast]; rfl, hcarries⟩
    · have hnone : (later.filter fun text => named? text = some a) = [] := by
        rw [List.filter_eq_nil_iff]
        intro text htext hnamed
        exact hnot (h'.mem_algorithms_iff.2 ⟨text, htext, of_decide_eq_true hnamed⟩)
      rw [hnone]
      exact h.last a x hmem

end Collects

/-- Specification of a member parser: the texts it rejects, and the keys and values it returns. -/
structure Reads (member : List Char → Except FieldError Member) (malformed : List Char → Prop)
    (carries : List Char → Bytes → Prop) : Prop where
  error_iff : ∀ text, (∃ e, member text = .error e) ↔ malformed text
  named : ∀ {text contribution}, member text = .ok contribution →
    contribution.map Prod.fst = named? text
  carried : ∀ {text a x}, member text = .ok (some (a, x)) → carries text x
  functional : ∀ {text x y}, carries text x → carries text y → x = y

namespace Reads

variable {malformed : List Char → Prop} {carries : List Char → Bytes → Prop}
  {digests digests' : DigestMap}

theorem collects (h : Reads member malformed carries)
    (hread : texts.mapM member = .ok contributions) :
    Collects carries texts (.ofList contributions.reduceOption) := by
  induction texts using List.reverseRecOn generalizing contributions with
  | nil =>
    cases hread
    exact .nil
  | append_singleton texts text ih =>
    obtain ⟨earlier, contribution, hearlier, htext, rfl⟩ := mapM_concat_eq_ok hread
    have hnamed := h.named htext
    cases contribution with
    | none =>
      have hsame : (earlier ++ [none]).reduceOption = earlier.reduceOption := by
        rw [List.reduceOption_append, List.reduceOption_cons_of_none, List.reduceOption_nil,
          List.append_nil]
      rw [hsame]
      exact (ih hearlier).skip hnamed.symm
    | some entry =>
      obtain ⟨a, x⟩ := entry
      have hset : (earlier ++ [some (a, x)]).reduceOption = earlier.reduceOption ++ [(a, x)] := by
        rw [List.reduceOption_append, List.reduceOption_cons_of_some, List.reduceOption_nil]
      rw [hset, DigestMap.ofList_concat]
      exact (ih hearlier).insert hnamed.symm (h.carried htext)

theorem mem_iff (h : Reads member malformed carries) (hd : Collects carries texts digests) :
    (a, x) ∈ digests ↔ ∃ text,
      (texts.filter fun text => named? text = some a).getLast? = some text ∧ carries text x := by
  refine ⟨hd.last a x, ?_⟩
  rintro ⟨text, hlast, hcarries⟩
  obtain ⟨htext, hnamed⟩ := List.mem_filter.1 (List.mem_of_getLast? hlast)
  have ha : a ∈ digests.algorithms :=
    hd.mem_algorithms_iff.2 ⟨text, htext, of_decide_eq_true hnamed⟩
  obtain ⟨y, hmem⟩ := DigestMap.mem_algorithms.1 ha
  obtain ⟨text', hlast', hcarries'⟩ := hd.last a y hmem
  cases Option.some.inj (hlast.symm.trans hlast')
  rwa [h.functional hcarries hcarries']

theorem unique (h : Reads member malformed carries) (hd : Collects carries texts digests)
    (hd' : Collects carries texts digests') : digests = digests' :=
  DigestMap.ext (hd.order.trans hd'.order.symm) hd.nodup fun _ _ hmem =>
    (h.mem_iff hd').2 ((h.mem_iff hd).1 hmem)

/-- A list field fails on a malformed member and is otherwise the map that its members collect. -/
theorem grammar (h : Reads member malformed carries) (value : String) :
    ((∃ e, parseMembers member (Text.pieces ',' value.toList) [] = .error e) ↔
        ∃ text ∈ members value, malformed text) ∧
      ∀ digests, parseMembers member (Text.pieces ',' value.toList) [] = .ok digests ↔
        (∀ text ∈ members value, ¬ malformed text) ∧ Collects carries (members value) digests := by
  have herror : (∃ e, (members value).mapM member = .error e) ↔
      ∃ text ∈ members value, malformed text := by
    simp only [exists_error_mapM_iff, h.error_iff]
  rw [parse_eq, ← herror]
  have hnone : (∀ text ∈ members value, ¬ malformed text) ↔
      ¬ ∃ e, (members value).mapM member = .error e := by
    rw [herror]
    simp only [not_exists, not_and]
  rw [hnone]
  cases hread : (members value).mapM member with
  | error e =>
    refine ⟨⟨fun _ => ⟨e, rfl⟩, fun _ => ⟨e, rfl⟩⟩, fun digests => ⟨fun hok => ?_, fun hok => ?_⟩⟩
    · cases hok
    · exact absurd ⟨e, rfl⟩ hok.1
  | ok contributions =>
    have hcollects := h.collects hread
    have hno : ¬ ∃ e, (Except.ok contributions : Except FieldError (List Member)) = .error e := by
      rintro ⟨e, he⟩
      cases he
    refine ⟨⟨?_, fun he => absurd he hno⟩, fun digests => ⟨fun hok => ?_, fun hok => ?_⟩⟩
    · rintro ⟨e, he⟩
      cases he
    · cases hok
      exact ⟨hno, hcollects⟩
    · rw [h.unique hok.2 hcollects]
      rfl

end Reads

end DigestGate.Field
