import DigestGate.Settings.Error
import DigestGate.Text.Case

namespace DigestGate

abbrev Environment := List (String × String)

def Environment.get? (env : Environment) (name : String) : Option String :=
  env.lookup name

inductive Mode where
  | advisory
  | enforce
  | require
deriving DecidableEq, Repr

namespace Mode

def name : Mode → String
  | .advisory => "advisory"
  | .enforce => "enforce"
  | .require => "require"

def named? : String → Option Mode
  | "advisory" => some .advisory
  | "enforce" => some .enforce
  | "require" => some .require
  | _ => none

end Mode

/-- The settings read when the program starts, with the mode unchecked. -/
structure Defaults where
  maximum : Int
  chunk : Int
  methods : List String
  mode : String
  enabled : Bool
deriving DecidableEq, Repr

structure Settings where
  maximum : Int
  chunk : Int
  methods : List String
  mode : Mode
deriving DecidableEq, Repr

namespace Settings

def integer (text : String) : Except SettingsError Int :=
  match Text.integer? text.toList with
  | .ok n => .ok n
  | .error .malformed => .error (.notInteger text)
  | .error (.tooManyDigits count) => .error (.tooManyDigits count)

def methodList (text : String) : List String :=
  ((Text.pieces ',' text.toList).map Text.trim).filterMap fun piece =>
    if piece.isEmpty then none else some (String.ofList (Text.upper piece))

end Settings

namespace Defaults

def load (env : Environment) : Except SettingsError Defaults :=
  match Settings.integer ((env.get? "BODY_MAX_BYTES").getD "1048576") with
  | .error e => .error e
  | .ok maximum =>
    match Settings.integer ((env.get? "BODY_READ_CHUNK_BYTES").getD "4096") with
    | .error e => .error e
    | .ok chunk => .ok {
        maximum
        chunk
        methods := Settings.methodList ((env.get? "DIGEST_METHODS").getD "POST,PUT,PATCH")
        mode := Text.lowerCase ((env.get? "DIGEST_ENFORCE").getD "advisory")
        enabled := Text.lowerCase ((env.get? "FEATURE_BODY_DIGEST").getD "true") = "true" }

end Defaults

namespace Settings

/-- The integer value of a variable, with a default that is written in digits. -/
def integerOr (default : Int) (text : Option String) : Except SettingsError Int :=
  integer (text.getD (String.ofList (Text.decimal default)))

/-- The settings of a request, with defaults for the variables not set. -/
def load (defaults : Defaults) (env : Environment) : Except SettingsError Settings :=
  let name := Text.lowerCase ((env.get? "DIGEST_ENFORCE").getD defaults.mode)
  match Mode.named? name with
  | none => .error (.unknownModeSetting name)
  | some mode =>
    match integerOr defaults.maximum (env.get? "BODY_MAX_BYTES") with
    | .error e => .error e
    | .ok maximum =>
      match integerOr defaults.chunk (env.get? "BODY_READ_CHUNK_BYTES") with
      | .error e => .error e
      | .ok chunk => .ok {
          maximum
          chunk
          methods := match env.get? "DIGEST_METHODS" with
            | some text => methodList text
            | none => defaults.methods
          mode }

end Settings

end DigestGate
