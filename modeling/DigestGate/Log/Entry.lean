import DigestGate.Algorithm
import DigestGate.Failure

namespace DigestGate.Log

inductive Level where
  | notset
  | debug
  | info
  | warning
  | error
  | critical
deriving DecidableEq, Repr

namespace Level

def name : Level → String
  | .notset => "NOTSET"
  | .debug => "DEBUG"
  | .info => "INFO"
  | .warning => "WARNING"
  | .error => "ERROR"
  | .critical => "CRITICAL"

def weight : Level → Nat
  | .notset => 0
  | .debug => 10
  | .info => 20
  | .warning => 30
  | .error => 40
  | .critical => 50

def named? : String → Option Level
  | "NOTSET" => some .notset
  | "DEBUG" => some .debug
  | "INFO" => some .info
  | "WARN" => some .warning
  | "WARNING" => some .warning
  | "ERROR" => some .error
  | "CRITICAL" => some .critical
  | "FATAL" => some .critical
  | _ => none

end Level

inductive Entry where
  | buffered (size limit : Nat)
  | bufferingFailed (error : BodyError)
  | closeIgnored (message : String)
  | digestReused (algorithm : Algorithm)
  | digestMissing (route : String)
  | bodyRejected (route : String) (limit observed : Nat)
  | readFailed (route : String) (error : BodyError)
  | checkFailed (route reason mode : String)
deriving DecidableEq, Repr

namespace Entry

def level : Entry → Level
  | .buffered .. => .debug
  | .bufferingFailed _ => .info
  | .closeIgnored _ => .debug
  | .digestReused _ => .debug
  | .digestMissing _ => .info
  | .bodyRejected .. => .info
  | .readFailed .. => .warning
  | .checkFailed .. => .info

def text : Entry → String
  | .buffered size limit =>
    "request body buffered bytes=" ++ toString size ++ " limit=" ++ toString limit
  | .bufferingFailed error => "request body buffering failed: " ++ error.message
  | .closeIgnored message =>
    "ignoring error closing request body source: OSError(" ++ Text.quoted message ++ ")"
  | .digestReused algorithm => "content digest cache hit alg=" ++ algorithm.name
  | .digestMissing route => "content digest required but missing route=" ++ route
  | .bodyRejected route limit observed =>
    "rejected oversized body route=" ++ route ++ " limit=" ++ toString limit
      ++ " observed>=" ++ toString observed
  | .readFailed route error => "request body read failed route=" ++ route ++ ": " ++ error.message
  | .checkFailed route reason mode =>
    "content digest check failed route=" ++ route ++ " reason=" ++ reason ++ " mode=" ++ mode

end Entry

end DigestGate.Log
