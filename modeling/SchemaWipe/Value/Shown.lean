import SchemaWipe.Value
import SchemaWipe.Breakdown

/-! The text of a value. A text stands for itself; everything else is shown in the notation that
error messages use for it, in which a text inside a collection is quoted. -/
namespace SchemaWipe.Value

/-- Numbers with a fraction are positional from a ten-thousandth up to ten to the sixteenth and
have an exponent of at least two digits elsewhere. -/
def floatStyle : Binary64.DecimalStyle := ⟨-4, 16, 2⟩

/-- A whole number as it is shown. -/
def integerText (i : Int) : Except Breakdown String :=
  match Number.writeInteger? i with
  | some digits => .ok (String.ofList digits)
  | none => .error .unwritableInteger

/-- A truth value as it is shown. -/
def boolText (b : Bool) : String :=
  if b then "True" else "False"

mutual

/-- The notation of a value. -/
def literal : Value → Except Breakdown String
  | .null => .ok "None"
  | .bool b => .ok (boolText b)
  | .int i => integerText i
  | .float x => .ok (String.ofList (x.write floatStyle))
  | .text s => .ok (Text.quoted s)
  | .octets bytes => .ok (String.ofList (Text.quoteOctets bytes))
  | .date d => .ok d.literal
  | .moment m => .ok m.literal
  | .list items => do
    let parts ← literals items
    pure ("[" ++ ", ".intercalate parts ++ "]")
  | .pair first second => do
    let first ← literal first
    let second ← literal second
    pure ("(" ++ first ++ ", " ++ second ++ ")")
  | .set members => do
    let parts ← literals members
    pure (if parts.isEmpty then "set()" else "\x7b" ++ ", ".intercalate parts ++ "\x7d")
  | .mapping entries => do
    let parts ← entryLiterals entries
    pure ("\x7b" ++ ", ".intercalate parts ++ "\x7d")
  | .enclosing => .ok "[...]"

/-- The notations of values one after the other. -/
def literals : List Value → Except Breakdown (List String)
  | [] => .ok []
  | value :: rest => do
    let first ← literal value
    let more ← literals rest
    pure (first :: more)

/-- The notations of the entries of a mapping. -/
def entryLiterals : List (Value × Value) → Except Breakdown (List String)
  | [] => .ok []
  | (key, value) :: rest => do
    let key ← literal key
    let value ← literal value
    let more ← entryLiterals rest
    pure ((key ++ ": " ++ value) :: more)

end

/-- The text of a value. -/
def shown : Value → Except Breakdown String
  | .text s => .ok s
  | .date d => .ok d.text
  | .moment m => .ok m.text
  | value => value.literal

end SchemaWipe.Value
