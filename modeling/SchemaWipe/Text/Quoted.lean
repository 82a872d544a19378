import SchemaWipe.Text.Printable

/-! Quoted texts, as error messages show them. Single quotes are used unless the text holds a
single quote and no double one; what cannot be seen is written as an escape. -/
namespace SchemaWipe.Text

/-- The quotation mark that a text is shown in. -/
def quotationMark (hasSingle hasDouble : Bool) : Char :=
  if hasSingle && !hasDouble then '"' else '\''

/-- A number in hexadecimal with zeros in front up to a width. -/
def hexadecimal (width n : Nat) : List Char :=
  let digits := Nat.toDigits 16 n
  List.replicate (width - digits.length) '0' ++ digits

/-- One character between quotation marks. -/
def quoteChar (mark c : Char) : List Char :=
  if c = mark || c = '\\' then ['\\', c]
  else if c = '\n' then ['\\', 'n']
  else if c = '\r' then ['\\', 'r']
  else if c = '\t' then ['\\', 't']
  else if isPrintable c then [c]
  else if c.toNat < 0x100 then '\\' :: 'x' :: hexadecimal 2 c.toNat
  else if c.toNat < 0x10000 then '\\' :: 'u' :: hexadecimal 4 c.toNat
  else '\\' :: 'U' :: hexadecimal 8 c.toNat

/-- A text between quotation marks. -/
def quote (cs : List Char) : List Char :=
  let mark := quotationMark (cs.contains '\'') (cs.contains '"')
  mark :: cs.flatMap (quoteChar mark) ++ [mark]

/-- One octet between quotation marks. -/
def quoteOctet (mark : Char) (b : UInt8) : List Char :=
  let c := Char.ofNat b.toNat
  if b.toNat < 0x7F then quoteChar mark c else '\\' :: 'x' :: hexadecimal 2 b.toNat

/-- Octets between quotation marks, with a `b` in front. -/
def quoteOctets (octets : List UInt8) : List Char :=
  let holds (c : Char) := octets.any fun b => b.toNat == c.toNat
  let mark := quotationMark (holds '\'') (holds '"')
  'b' :: mark :: octets.flatMap (quoteOctet mark) ++ [mark]

/-- A text between quotation marks, as a string. -/
def quoted (s : String) : String :=
  String.ofList (quote s.toList)

end SchemaWipe.Text
