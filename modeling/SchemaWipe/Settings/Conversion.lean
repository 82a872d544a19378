import SchemaWipe.Value.Shown
import SchemaWipe.Text.LetterCase
import SchemaWipe.Settings.Basic

/-! What a value has to be for the setting it is given to: production `_parse_port`,
`_parse_timeout`, `_parse_bool`, `_text` and `_section`. -/
namespace SchemaWipe.Settings

/-- Why a value is not a whole number. -/
inductive NotWhole where
  | unfit
  | infinite

/-- The whole number that a text or octets write. -/
def writtenInteger (cs : List Char) : Except NotWhole Int :=
  match Number.readInteger 10 cs with
  | .ok i => .ok i
  | .error _ => .error .unfit

/-- An octet that may take part in writing a number: an ASCII one, but no information separator,
which counts as a blank only in texts. -/
def isPlainOctet (b : UInt8) : Bool :=
  b < 0x80 && !(0x1C ≤ b && b ≤ 0x1F)

/-- The whole number that a value counts as. A fraction is cut off, and a truth value is 0 or 1. -/
def wholeNumber : Value → Except NotWhole Int
  | .int i => .ok i
  | .bool b => .ok (Value.ofBool b)
  | .float (.finite negative significand exponent) =>
    .ok (Binary64.wholePart negative significand exponent)
  | .float .nan => .error .unfit
  | .float (.infinite _) => .error .infinite
  | .text s => writtenInteger s.toList
  | .octets bytes =>
    if bytes.all isPlainOctet then writtenInteger (bytes.map fun b => Char.ofNat b.toNat)
    else .error .unfit
  | _ => .error .unfit

/-- A text that may be impossible to write. -/
def shownOr (text : Except Breakdown String) : Except Error String :=
  text.mapError .breakdown

/-- A port: a whole number from 1 to 65535. Production `_parse_port`. -/
def port (value : Value) : Except Error Int :=
  match wholeNumber value with
  | .ok n =>
    if 0 < n ∧ n < 65536 then .ok n
    else do
      let _ ← shownOr (Value.integerText n)
      throw (.fault (.portOutOfRange n))
  | .error .unfit => do
    let shown ← shownOr value.literal
    throw (.fault (.portNotInteger shown))
  | .error .infinite => .error (.breakdown .infiniteInteger)

/-- A time limit: a positive whole number. Production `_parse_timeout`. -/
def timeout (value : Value) : Except Error Int :=
  match wholeNumber value with
  | .ok n => if 0 < n then .ok n else .error (.fault .timeoutNotPositive)
  | .error .unfit => do
    let shown ← shownOr value.literal
    throw (.fault (.timeoutNotInteger shown))
  | .error .infinite => .error (.breakdown .infiniteInteger)

/-- The words that switch something on. -/
def onWords : List String := ["true", "yes", "1", "on"]

/-- The words that switch something off. -/
def offWords : List String := ["false", "no", "0", "off"]

/-- The truth value that a value counts as, if it counts as one. -/
def switch? : Value → Option Bool
  | .bool b => some b
  | .text s =>
    if onWords.contains (Text.lower s) then some true
    else if offWords.contains (Text.lower s) then some false
    else none
  | _ => none

/-- A switch: a truth value, or a word for one in any case. Production `_parse_bool`. -/
def switch (field : String) (value : Value) : Except Error Bool :=
  match switch? value with
  | some b => .ok b
  | none => do
    let shown ← shownOr value.literal
    throw (.fault (.notBoolean field shown))

/-- The text under a name: production `_text`. Nothing under the name is the usual text; null is the
empty one. -/
def text (entries : List (Value × Value)) (name usual : String) : Except Error String :=
  match Value.find? name entries with
  | none => .ok usual
  | some .null => .ok ""
  | some value => shownOr value.shown

/-- The mapping under a name: production `_section`. Nothing or null under the name is an empty one.
-/
def section? (entries : List (Value × Value)) (name : String) :
    Except Error (List (Value × Value)) :=
  match Value.find? name entries with
  | none | some .null => .ok []
  | some (.mapping inner) => .ok inner
  | some _ => .error (.fault (.sectionNotMapping name))

end SchemaWipe.Settings
