import DigestGate.Decimal
import DigestGate.Text.Quoted

namespace DigestGate

/-- An unchecked value, as a server or a caller may supply it. -/
inductive Datum where
  | null
  | flag (value : Bool)
  | number (value : Int)
  | decimal (value : Decimal)
  | text (value : String)
  | list (items : List Datum)
  | record (members : List (String × Datum))
deriving Inhabited, Repr

namespace Datum

mutual

def same : Datum → Datum → Bool
  | .null, .null => true
  | .flag a, .flag b => a = b
  | .number a, .number b => a = b
  | .decimal a, .decimal b => a = b
  | .text a, .text b => a = b
  | .list a, .list b => sameItems a b
  | .record a, .record b => sameMembers a b
  | _, _ => false

def sameItems : List Datum → List Datum → Bool
  | [], [] => true
  | a :: as, b :: bs => same a b && sameItems as bs
  | _, _ => false

def sameMembers : List (String × Datum) → List (String × Datum) → Bool
  | [], [] => true
  | (m, a) :: as, (n, b) :: bs => m = n && same a b && sameMembers as bs
  | _, _ => false

end

mutual

theorem same_iff : (a b : Datum) → (same a b = true ↔ a = b)
  | .null, b => by cases b <;> simp [same]
  | .flag _, b => by cases b <;> simp [same]
  | .number _, b => by cases b <;> simp [same]
  | .decimal _, b => by cases b <;> simp [same]
  | .text _, b => by cases b <;> simp [same]
  | .list a, b => by cases b <;> simp [same, sameItems_iff a]
  | .record a, b => by cases b <;> simp [same, sameMembers_iff a]

theorem sameItems_iff : (a b : List Datum) → (sameItems a b = true ↔ a = b)
  | [], b => by cases b <;> simp [sameItems]
  | a :: as, b => by cases b <;> simp [sameItems, same_iff a, sameItems_iff as]

theorem sameMembers_iff : (a b : List (String × Datum)) → (sameMembers a b = true ↔ a = b)
  | [], b => by cases b <;> simp [sameMembers]
  | (m, a) :: as, b => by
    cases b with
    | nil => simp [sameMembers]
    | cons e bs =>
      obtain ⟨n, b⟩ := e
      simp [sameMembers, same_iff a, sameMembers_iff as]

end

instance : DecidableEq Datum := fun a b => decidable_of_iff _ (same_iff a b)

/-- Zero, empty values, null and the flag `false` do not hold. -/
def holds : Datum → Bool
  | .null => false
  | .flag value => value
  | .number value => value != 0
  | .decimal value => value.holds
  | .text value => value != ""
  | .list items => !items.isEmpty
  | .record members => !members.isEmpty

mutual

def shown : Datum → String
  | .null => "None"
  | .flag true => "True"
  | .flag false => "False"
  | .number value => toString value
  | .decimal value => value.shown
  | .text value => Text.quoted value
  | .list items => "[" ++ ", ".intercalate (shownItems items) ++ "]"
  | .record members => "\x7b" ++ ", ".intercalate (shownMembers members) ++ "\x7d"

def shownItems : List Datum → List String
  | [] => []
  | item :: rest => shown item :: shownItems rest

def shownMembers : List (String × Datum) → List String
  | [] => []
  | (name, value) :: rest => (Text.quoted name ++ ": " ++ shown value) :: shownMembers rest

end

def plain : Datum → String
  | .text value => value
  | value => value.shown

def kind : Datum → String
  | .null => "NoneType"
  | .flag _ => "bool"
  | .number _ => "int"
  | .decimal _ => "float"
  | .text _ => "str"
  | .list _ => "list"
  | .record _ => "dict"

def isNumber (n : Int) : Datum → Bool
  | .number value => value = n
  | .decimal value => value.isWhole n
  | _ => false

/-- The items of a list, the characters of a text, or the names of the members of a record. -/
def parts? : Datum → Option (List Datum)
  | .list items => some items
  | .text value => some (value.toList.map fun c => .text (String.singleton c))
  | .record members => some (members.map fun (name, _) => .text name)
  | _ => none

/-- Lists and records are mutable and cannot be looked up in a table. -/
def isKey : Datum → Bool
  | .list _ => false
  | .record _ => false
  | _ => true

end Datum

end DigestGate
