import DigestGate.Text.Quoted

namespace DigestGate

abbrev Bytes := List UInt8

namespace Bytes

def toHex (b : Bytes) : String :=
  String.ofList (b.flatMap fun x => Text.hexDigits 2 x.toNat)

def ofString (s : String) : Bytes :=
  s.toUTF8.toList

end Bytes

end DigestGate
