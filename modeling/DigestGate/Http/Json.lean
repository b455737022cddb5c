import DigestGate.Datum

namespace DigestGate

namespace Json

def escape (c : Char) : List Char :=
  if c = '"' then ['\\', '"']
  else if c = '\\' then ['\\', '\\']
  else if c = '\n' then ['\\', 'n']
  else if c = '\r' then ['\\', 'r']
  else if c = '\t' then ['\\', 't']
  else if c = '\x08' then ['\\', 'b']
  else if c = '\x0c' then ['\\', 'f']
  else if c.toNat < 0x20 then '\\' :: 'u' :: Text.hexDigits 4 c.toNat
  else [c]

def quote (s : String) : String :=
  "\"" ++ String.ofList (s.toList.flatMap escape) ++ "\""

end Json

namespace Datum

mutual

def toJson : Datum → String
  | .null => "null"
  | .flag true => "true"
  | .flag false => "false"
  | .number n => toString n
  | .decimal d => d.write "Infinity" "NaN"
  | .text s => Json.quote s
  | .list items => "[" ++ ",".intercalate (itemsToJson items) ++ "]"
  | .record members => "\x7b" ++ ",".intercalate (membersToJson members) ++ "\x7d"

def itemsToJson : List Datum → List String
  | [] => []
  | item :: rest => toJson item :: itemsToJson rest

def membersToJson : List (String × Datum) → List String
  | [] => []
  | (name, value) :: rest => (Json.quote name ++ ":" ++ toJson value) :: membersToJson rest

end

end Datum

end DigestGate
