/-! Octets written in base 64. Characters outside the alphabet are passed over, and padding ends
the data as soon as it completes a group of four. -/
namespace SchemaWipe.Text

/-- The value of a character of the alphabet. -/
def base64Value? (c : Char) : Option Nat :=
  let n := c.toNat
  if 'A' ≤ c && c ≤ 'Z' then some (n - 65)
  else if 'a' ≤ c && c ≤ 'z' then some (n - 71)
  else if '0' ≤ c && c ≤ '9' then some (n + 4)
  else if c = '+' then some 62
  else if c = '/' then some 63
  else none

/-- Decodes from a place in a group of four: `place` characters of it are read, `bits` is what they
left over, and `pads` padding characters followed the last one. -/
def base64From (place bits pads : Nat) : List Char → Option (List UInt8)
  | [] => if place = 0 then some [] else none
  | c :: rest =>
    if c = '=' then
      if 2 ≤ place ∧ 4 ≤ place + pads + 1 then some []
      else base64From place bits (if 2 ≤ place then pads + 1 else pads) rest
    else match base64Value? c with
      | none => base64From place bits pads rest
      | some value =>
        if place = 0 then base64From 1 value 0 rest
        else if place = 1 then
          (base64From 2 (value % 16) 0 rest).map ((bits * 4 + value / 16).toUInt8 :: ·)
        else if place = 2 then
          (base64From 3 (value % 4) 0 rest).map ((bits * 16 + value / 4).toUInt8 :: ·)
        else (base64From 0 0 0 rest).map ((bits * 64 + value).toUInt8 :: ·)

/-- The octets that a text in base 64 writes. -/
def decodeBase64? (cs : List Char) : Option (List UInt8) :=
  base64From 0 0 0 cs

end SchemaWipe.Text
