import DigestGate.Text.Quoted
import DigestGate.Text.Numeral

namespace DigestGate

inductive SettingsError where
  | unknownMode
  | unknownModeSetting (value : String)
  | notInteger (text : String)
  | tooManyDigits (count : Nat)
  | unknownLevel (name : String)
deriving DecidableEq, Repr

def shownNumeral : Nat := 200

def SettingsError.message : SettingsError → String
  | .unknownMode => "enforce must be one of ('advisory', 'enforce', 'require')"
  | .unknownModeSetting value =>
    "DIGEST_ENFORCE must be one of ('advisory', 'enforce', 'require'), got " ++ Text.quoted value
  | .notInteger text =>
    "invalid literal for int() with base 10: "
      ++ String.ofList ((Text.quotedChars text.toList).take shownNumeral)
  | .tooManyDigits count =>
    "Exceeds the limit (" ++ toString Text.maxDigits
      ++ " digits) for integer string conversion: value has " ++ toString count
      ++ " digits; use sys.set_int_max_str_digits() to increase the limit"
  | .unknownLevel name => "Unknown level: " ++ Text.quoted name

end DigestGate
