import DigestGate.Log.Entry
import DigestGate.Settings.Basic

namespace DigestGate.Log

/-- The level and the formats of the log handlers. -/
structure Sink where
  level : Level := .notset
  formats : List String := []
deriving DecidableEq, Repr

namespace Sink

def name : String := "bodyseal"

def format : String := "[%(asctime)s] %(levelname)s %(message)s"

/-- Adds a handler if there is none. An unknown level is refused after that. -/
def setUp (env : Environment) (s : Sink) : Except SettingsError Unit × Sink :=
  if s.formats.isEmpty then
    let s := { s with formats := [format] }
    let level := Text.upperCase ((env.get? "BODYSEAL_LOG_LEVEL").getD "INFO")
    match Level.named? level with
    | some level => (.ok (), { s with level })
    | none => (.error (.unknownLevel level), s)
  else (.ok (), s)

end Sink

end DigestGate.Log
