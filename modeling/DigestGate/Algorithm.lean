import DigestGate.Hash.MD5
import DigestGate.Hash.SHA1
import DigestGate.Hash.SHA256
import DigestGate.Text.Blank
import DigestGate.Text.Case

namespace DigestGate

inductive Algorithm where
  | md5
  | sha1
  | sha256
deriving DecidableEq, Repr

namespace Algorithm

def all : List Algorithm := [.md5, .sha1, .sha256]

def name : Algorithm → String
  | .md5 => "md5"
  | .sha1 => "sha1"
  | .sha256 => "sha256"

def contentToken : Algorithm → String
  | .md5 => "md5"
  | .sha1 => "sha"
  | .sha256 => "sha-256"

def legacyToken : Algorithm → String
  | .md5 => "MD5"
  | .sha1 => "SHA"
  | .sha256 => "SHA-256"

def size : Algorithm → Nat
  | .md5 => 16
  | .sha1 => 20
  | .sha256 => 32

def compute : Algorithm → Bytes → Bytes
  | .md5 => Hash.MD5.hash
  | .sha1 => Hash.SHA1.hash
  | .sha256 => Hash.SHA256.hash

/-- The names and field keys by which an algorithm is known, in lower case. -/
def aliases : List (List Char × Algorithm) := [
  ("md5".toList, .md5), ("sha".toList, .sha1), ("sha1".toList, .sha1), ("sha-1".toList, .sha1),
  ("sha256".toList, .sha256), ("sha-256".toList, .sha256)]

def ofKey? (key : List Char) : Option Algorithm :=
  aliases.lookup (Text.lower (Text.trim key))

theorem length_compute (a : Algorithm) (message : Bytes) :
    (a.compute message).length = a.size := by
  cases a
  · exact Hash.MD5.length_hash message
  · exact Hash.SHA1.length_hash message
  · exact Hash.SHA256.length_hash message

end Algorithm

end DigestGate
