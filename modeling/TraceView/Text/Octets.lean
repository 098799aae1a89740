import TraceView.Text.Utf8

/-!
# Octets

Programs that know no encoding see a text as bytes. Such a text is kept as a string in which every
byte is the character of the same number, so the length of the string is the number of bytes.
-/

namespace TraceView.Text

def ofOctetBytes (bytes : List UInt8) : String :=
  String.ofList (bytes.map fun b => Char.ofNat b.toNat)

def octetBytes (s : String) : List UInt8 :=
  s.toList.map fun c => UInt8.ofNat c.toNat

/-- The bytes of a text. -/
def octets (s : String) : String :=
  ofOctetBytes (Utf8.encode s.toList)

/-- The text whose bytes these are, as far as they are one. -/
def unoctets (s : String) : String :=
  Utf8.lenient (octetBytes s)

end TraceView.Text
