import SchemaWipe.Text.Blank

/-! Text stored as UTF-8 octets. Reading is strict, and the lines of a stored text are read with a
line feed at their end however they were stored. -/
namespace SchemaWipe.Text

/-- The text that octets encode. -/
def decodeOctets? (octets : List UInt8) : Option String :=
  String.fromUTF8? ⟨octets.toArray⟩

/-- The text of a stored file, with its newlines unified. -/
def decodeFile? (content : ByteArray) : Option String :=
  (String.fromUTF8? content).map fun s => String.ofList (unifyNewlines s.toList)

end SchemaWipe.Text
