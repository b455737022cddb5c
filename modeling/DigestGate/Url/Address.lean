import DigestGate.Text.Digits
import DigestGate.Text.Split

namespace DigestGate.Url

def isHexDigit (c : Char) : Bool :=
  c.isDigit || ('a' ≤ c && c ≤ 'f') || ('A' ≤ c && c ≤ 'F')

def isOctet (cs : List Char) : Bool :=
  !cs.isEmpty && cs.all Char.isDigit && cs.length ≤ 3 && (cs.length = 1 || cs.head? != some '0')
    && Text.number cs ≤ 255

def isIPv4 (cs : List Char) : Bool :=
  let octets := Text.pieces '.' cs
  octets.length = 4 && octets.all isOctet

def isGroup (cs : List Char) : Bool :=
  !cs.isEmpty && cs.length ≤ 4 && cs.all isHexDigit

/-- The number of groups, where a final IPv4 address counts as two. -/
def groupCount (tail : Bool) : List (List Char) → Option Nat
  | [] => some 0
  | [last] => if isGroup last then some 1 else if tail && isIPv4 last then some 2 else none
  | group :: rest => if isGroup group then (groupCount tail rest).map (· + 1) else none

def groups (cs : List Char) : List (List Char) :=
  if cs.isEmpty then [] else Text.pieces ':' cs

def cutGap : List Char → Option (List Char × List Char)
  | ':' :: ':' :: rest => some ([], rest)
  | c :: rest => (cutGap rest).map fun (before, after) => (c :: before, after)
  | [] => none

def isUnscopedIPv6 (cs : List Char) : Bool :=
  match cutGap cs with
  | none => groupCount true (groups cs) = some 8
  | some (before, after) =>
    match groupCount false (groups before), groupCount true (groups after) with
    | some m, some n => m + n ≤ 7
    | _, _ => false

def isIPv6 (cs : List Char) : Bool :=
  match Text.cut '%' cs with
  | none => isUnscopedIPv6 cs
  | some (address, zone) => !zone.isEmpty && '%' ∉ zone && isUnscopedIPv6 address

def isFutureAddress : List Char → Bool
  | 'v' :: rest =>
    !(rest.takeWhile isHexDigit).isEmpty
      && match rest.dropWhile isHexDigit with
        | '.' :: _ :: _ => true
        | _ => false
  | _ => false

end DigestGate.Url
