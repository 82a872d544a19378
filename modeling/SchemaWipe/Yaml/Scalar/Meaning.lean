import SchemaWipe.Value
import SchemaWipe.Yaml.Tag
import SchemaWipe.Text.LetterCase
import SchemaWipe.Text.Base64

/-! What the text of a scalar stands for under its tag. A tag may be given to any text, so each
kind has its own way to fail. -/
namespace SchemaWipe.Yaml

/-- A failure without a rule of its own. -/
def broken {α : Type} (cause : Breakdown) : Except Fault α :=
  .error (.breakdown cause)

/-- The parts of a text between colons. -/
def splitColons : List Char → List (List Char)
  | [] => [[]]
  | c :: rest =>
    match splitColons rest with
    | [] => [[c]]
    | part :: parts => if c == ':' then [] :: part :: parts else (c :: part) :: parts

/-- Reads a whole number in a base. -/
def integerIn (base : Nat) (cs : List Char) : Except Fault Int :=
  match Number.readInteger base cs with
  | .ok i => .ok i
  | .error .malformed => broken (.notInteger base (String.ofList cs))
  | .error (.overlong digits) => broken (.unreadableInteger digits)

/-- The value of a text under the tag of whole numbers: the base is told by how it starts. -/
def integerOf (text : List Char) : Except Fault Int :=
  match text.filter (· != '_') with
  | [] => broken .emptyNumber
  | first :: more => do
    let body := unsigned (first :: more)
    let magnitude ←
      match body with
      | [] => broken .emptyNumber
      | ['0'] => pure 0
      | '0' :: 'b' :: digits => integerIn 2 digits
      | '0' :: 'x' :: digits => integerIn 16 digits
      | '0' :: _ => integerIn 8 body
      | _ =>
        if body.contains ':' then
          (·.foldl (fun total part => total * 60 + part) 0) <$>
            (splitColons body).mapM (integerIn 10)
        else integerIn 10 body
    pure (if first == '-' then -magnitude else magnitude)

/-- Reads a number that may have a fraction. -/
def fractional (cs : List Char) : Except Fault Binary64 :=
  match Number.readFloat cs with
  | some x => .ok x
  | none => broken (.notNumber (String.ofList cs))

/-- The sum of sexagesimal places, the last one first. The last place counts `factor`. -/
def sixties (total : Binary64) (factor : Nat) : List Binary64 → Except Fault Binary64
  | [] => .ok total
  | place :: places =>
    if Nat.pow 2 1024 ≤ factor then broken .unboundedScale
    else sixties (total.add (place.scale factor)) (factor * 60) places

/-- The value of a text under the tag of numbers with a fraction. -/
def fractionalOf (text : List Char) : Except Fault Binary64 :=
  match (text.filter (· != '_')).flatMap Text.lowerChar with
  | [] => broken .emptyNumber
  | first :: more => do
    let body := unsigned (first :: more)
    let word := String.ofList body
    if word = ".inf" then pure (.infinite (first == '-'))
    else if word = ".nan" then pure .nan
    else
      let magnitude ←
        if body.contains ':' then do
          let places ← (splitColons body).mapM fractional
          sixties (Binary64.zero false) 1 places.reverse
        else fractional body
      pure (if first == '-' then magnitude.negate else magnitude)

/-- The value of a text under the tag of truth values. -/
def switchOf (text : List Char) : Except Fault Bool :=
  let word := String.ofList (text.flatMap Text.lowerChar)
  if word = "yes" || word = "true" || word = "on" then .ok true
  else if word = "no" || word = "false" || word = "off" then .ok false
  else broken (.notSwitch word)

/-- The value of a text under the tag of octets. -/
def octetsOf (text : List Char) : Except Fault (List UInt8) :=
  if text.any fun c => 0x80 ≤ c.toNat then .error .malformed
  else match Text.decodeBase64? text with
    | some octets => .ok octets
    | none => .error .malformed

/-- The value of a text under the tag of dates and times. -/
def timestampOf (text : List Char) : Except Fault Value :=
  match timestamp? (withoutFinalNewline text) with
  | none => broken .notTimestamp
  | some t =>
    match t.value with
    | .ok (.inl date) => .ok (.date date)
    | .ok (.inr moment) => .ok (.moment moment)
    | .error fault => broken (.calendar fault)

/-- The value of a text under a tag. A tag of collections, or an unknown one, fits no text. -/
def scalarValue (tag : Tag) (text : String) : Except Fault Value :=
  match tag with
  | .null => .ok .null
  | .bool => .bool <$> switchOf text.toList
  | .int => .int <$> integerOf text.toList
  | .float => .float <$> fractionalOf text.toList
  | .binary => .octets <$> octetsOf text.toList
  | .timestamp => timestampOf text.toList
  | .text => .ok (.text text)
  | _ => .error .malformed

end SchemaWipe.Yaml
