import DigestGate.Failure
import DigestGate.Field.Lines
import DigestGate.Url.Compose
import DigestGate.Url.Path

namespace DigestGate

/-- The description of a request that precedes its body. -/
structure Scope where
  type : Option Datum
  method : Option Datum
  path : Option Datum
  root : Datum
  query : Option String
  scheme : Datum
  lines : Option FieldLines
  client : Datum
  server : Datum
deriving DecidableEq, Repr

structure Incoming where
  verb : String
  url : List Char
  lines : FieldLines
  client : Datum
deriving DecidableEq, Repr

structure Head where
  route : String
  verb : String
  lines : FieldLines
deriving DecidableEq, Repr

namespace Incoming

def path (r : Incoming) : Except Fault String :=
  match Url.path r.url with
  | .error e => .error (.url e)
  | .ok path => .ok (String.ofList path)

def clientHost (r : Incoming) : Except Fault Datum :=
  if r.client.holds then
    match r.client, r.client.parts? with
    | .record _, _ => .error (.missingKey (.number 0))
    | _, some (host :: _) => .ok host
    | client, _ => .error (.misused .index client.kind)
  else .ok .null

def field (r : Incoming) : Datum → Except Fault (Option String)
  | .text name => (r.lines.get name).mapError .latin
  | name => .error (.missingAttribute name.kind "lower")

end Incoming

namespace Scope

def header (s : Scope) : Except Fault FieldLines :=
  match s.lines with
  | none => .error (.missingField "headers")
  | some lines => .ok lines

def location (s : Scope) : Except Fault Datum :=
  match s.path with
  | none => .error (.missingField "path")
  | some path => .ok path

def escapedPath : Datum → Except Fault (List Char)
  | .text path => .ok (path.toList.flatMap Url.escapePath)
  | path => .error (.missingAttribute path.kind "replace")

def knownPorts : List (Datum × Int) := [
  (.text "http", 80), (.text "https", 443), (.text "ws", 80), (.text "wss", 443)]

def knownPort (scheme : Datum) : Except Fault Int :=
  if scheme.isKey then
    match knownPorts.lookup scheme with
    | none => .error (.missingKey scheme)
    | some port => .ok port
  else .error (.misused .key scheme.kind)

def bracketed (host : Datum) : Except Fault (List Char) :=
  match host.parts? with
  | none => .error (.misused .search host.kind)
  | some parts =>
    let plain := host.plain.toList
    .ok (if parts.contains (.text ":") && plain.head? != some '[' then '[' :: plain ++ [']']
      else plain)

def pair (server : Datum) : Except Fault (Datum × Datum) :=
  match server.parts? with
  | none => .error (.misused .unpack server.kind)
  | some [host, port] => .ok (host, port)
  | some parts => .error (.notAPair parts.length)

def hostOfServer (scheme server : Datum) : Except Fault (List Char) := do
  let (host, port) ← pair server
  let host ← bracketed host
  let known ← knownPort scheme
  return if port.isNumber known then host else host ++ ':' :: port.plain.toList

/-- The host of the address: the first one in the header, if valid, or else the server. -/
def host? (s : Scope) (lines : FieldLines) : Except Fault (Option (List Char)) :=
  match (lines.first? "host").filter (Url.isHostField ·.toList) with
  | some host => .ok (some host.toList)
  | none => if s.server = .null then .ok none else (hostOfServer s.scheme s.server).map some

def schemeText : Datum → Except Fault (List Char)
  | .text scheme => .ok scheme.toList
  | _ => .error .mixedAddress

def url (s : Scope) : Except Fault (List Char) := do
  let path ← escapedPath (← s.location)
  let query := (s.query.getD "").toList
  match ← s.host? (← s.header) with
  | none => return Url.withQuery query (Url.hostless path)
  | some host => return Url.compose (← schemeText s.scheme) host path query

def upperMethod : Datum → Except Fault String
  | .text method => .ok (Text.upperCase method)
  | method => .error (.missingAttribute method.kind "upper")

def incoming (s : Scope) : Except Fault Incoming :=
  match upperMethod (s.method.getD (.text "GET")) with
  | .error e => .error e
  | .ok verb =>
    match s.url with
    | .error e => .error e
    | .ok url => s.header.map fun lines => { verb, url, lines, client := s.client }

/-- The parts of a request that the gate reads. The address is evaluated before the method. -/
def head (s : Scope) : Except Fault Head :=
  match s.url with
  | .error e => .error e
  | .ok url =>
    match Url.path url with
    | .error e => .error (.url e)
    | .ok route =>
      match s.method with
      | none => .error (.missingField "method")
      | some method =>
        match upperMethod method with
        | .error e => .error e
        | .ok verb => s.header.map fun lines => { route := String.ofList route, verb, lines }

def requireRequest (s : Scope) : Except Fault Unit :=
  match s.type with
  | none => .error (.missingField "type")
  | some type => if type = .text "http" then .ok () else .error .notARequest

def soughtMethod (s : Scope) : Except Fault Datum :=
  match s.method with
  | none => .error (.missingField "method")
  | some method => if method.isKey then .ok method else .error (.misused .key method.kind)

def pathBelowRoot (root path : List Char) : List Char :=
  if root.isEmpty || !root.isPrefixOf path then path
  else
    match path.drop root.length with
    | [] => []
    | '/' :: rest => '/' :: rest
    | _ => path

def sought (s : Scope) : Except Fault (List Char × List Char) :=
  match s.location with
  | .error e => .error e
  | .ok path =>
    match path, s.root with
    | .text path, .text root => .ok (pathBelowRoot root.toList path.toList, path.toList)
    | .text path, root =>
      if root.holds then .error (.misused .pathStart root.kind) else .ok (path.toList, path.toList)
    | path, root =>
      if root.holds then .error (.missingAttribute path.kind "startswith")
      else .error (.misused .path path.kind)

end Scope

end DigestGate
