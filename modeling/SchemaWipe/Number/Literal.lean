import SchemaWipe.Number.Binary64
import SchemaWipe.Text.Blank
import SchemaWipe.Text.Digit

/-! Numbers as people write them: white space around, a sign, digits of any script, and single
underscores between digits. -/
namespace SchemaWipe.Number
open Text

/-- The digits of a run in which single underscores may stand between two digits. -/
def joinDigits (digit : Char → Bool) : List Char → Option (List Char)
  | [] => none
  | [c] => if digit c then some [c] else none
  | c :: '_' :: rest => if digit c then (joinDigits digit rest).map (c :: ·) else none
  | c :: rest => if digit c then (joinDigits digit rest).map (c :: ·) else none

/-- The value of a run of digits. -/
def ofDigits (base : Nat) (cs : List Char) : Nat :=
  cs.foldl (fun n c => n * base + (digitValueIn? base c).getD 0) 0

/-- A sign in front, if there is one; `true` is minus. -/
def splitSign : List Char → Bool × List Char
  | '-' :: rest => (true, rest)
  | '+' :: rest => (false, rest)
  | cs => (false, cs)

/-- Decimal numbers are read and written up to this many digits. -/
def digitLimit : Nat := 4300

/-- Why a text is not a whole number. -/
inductive IntegerFault where
  | malformed
  | overlong (digits : Nat)

/-- The mark that may stand in front of digits in base two, eight or sixteen, with one underscore
after it. -/
def dropBaseMark (base : Nat) : List Char → List Char
  | '0' :: c :: rest =>
    if (base == 16 && (c == 'x' || c == 'X')) || (base == 8 && (c == 'o' || c == 'O')) ||
        (base == 2 && (c == 'b' || c == 'B')) then
      match rest with
      | '_' :: more => more
      | _ => rest
    else '0' :: c :: rest
  | cs => cs

/-- Reads a whole number in a base. Only a base that is no power of two has a limit of length. -/
def readInteger (base : Nat) (cs : List Char) : Except IntegerFault Int :=
  let (negative, body) := splitSign (trimBy isWhiteSpace cs)
  match joinDigits (fun c => (digitValueIn? base c).isSome) (dropBaseMark base body) with
  | none => .error .malformed
  | some digits =>
    if base = 10 ∧ digitLimit < digits.length then .error (.overlong digits.length)
    else
      let n : Int := ofDigits base digits
      .ok (if negative then -n else n)

/-- A whole number in decimal. -/
def writeInteger (i : Int) : List Char :=
  (if i < 0 then ['-'] else []) ++ Nat.toDigits 10 i.natAbs

/-- A whole number in decimal, if it is not too long to be written. -/
def writeInteger? (i : Int) : Option (List Char) :=
  let digits := Nat.toDigits 10 i.natAbs
  if digitLimit < digits.length then none
  else some ((if i < 0 then ['-'] else []) ++ digits)

/-- A text without its underscores, each of which has to stand between two digits. -/
def dropUnderscores (afterDigit : Bool) : List Char → Option (List Char)
  | [] => some []
  | '_' :: c :: rest =>
    if afterDigit && isDigit c then (dropUnderscores true rest).map (c :: ·) else none
  | '_' :: [] => none
  | c :: rest => (dropUnderscores (isDigit c) rest).map (c :: ·)

/-- Reads a decimal exponent, sign included. -/
def readExponent (cs : List Char) : Option Int :=
  let (negative, digits) := splitSign cs
  if digits.isEmpty || !digits.all isDigit then none
  else
    let n : Int := ofDigits 10 digits
    some (if negative then -n else n)

/-- Reads an unsigned decimal with an optional fraction and exponent. -/
def readDecimal (negative : Bool) (cs : List Char) : Option Binary64 := do
  let whole := cs.takeWhile isDigit
  let (fraction, rest) := match cs.dropWhile isDigit with
    | '.' :: more => (more.takeWhile isDigit, more.dropWhile isDigit)
    | rest => ([], rest)
  guard !(whole.isEmpty && fraction.isEmpty)
  let exponent ← match rest with
    | [] => some 0
    | c :: more => if c == 'e' || c == 'E' then readExponent more else none
  pure (Binary64.ofDecimal negative (ofDigits 10 (whole ++ fraction)) (exponent - fraction.length))

/-- An ASCII letter in lower case. -/
def lowerLetter (c : Char) : Char :=
  if 'A' ≤ c && c ≤ 'Z' then Char.ofNat (c.toNat + 32) else c

/-- Reads a number that may have a fraction or an exponent, or be infinite or no number. -/
def readFloat (cs : List Char) : Option Binary64 := do
  let text ← dropUnderscores false (trimBy isWhiteSpace cs)
  let (negative, body) := splitSign text
  let word := String.ofList (body.map lowerLetter)
  if word = "inf" || word = "infinity" then some (.infinite negative)
  else if word = "nan" then some .nan
  else readDecimal negative body

end SchemaWipe.Number
