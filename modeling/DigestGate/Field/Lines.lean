import DigestGate.Text.Case
import DigestGate.Text.Latin

namespace DigestGate

/-- The header of a request: names and values in the order sent. -/
abbrev FieldLines := List (String × String)

namespace FieldLines

def first? (lines : FieldLines) (name : String) : Option String :=
  lines.lookup name

/-- The value of the first line with the name in lower case, if the name is Latin-1. -/
def get (lines : FieldLines) (name : String) : Except Text.LatinError (Option String) :=
  (Text.latin (Text.lower name.toList)).map fun key => lines.first? (String.ofList key)

end FieldLines

end DigestGate
