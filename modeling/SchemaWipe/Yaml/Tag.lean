import SchemaWipe.Yaml.Timestamp

/-! The tags that have a meaning, and the tag of a plain scalar, which its text decides. -/
namespace SchemaWipe.Yaml

/-- What a node says its kind of value is. -/
inductive Tag where
  | null
  | bool
  | int
  | float
  | binary
  | timestamp
  | text
  | sequence
  | mapping
  | orderedMap
  | pairs
  | set
  /-- Stands as a key for the entries of other mappings. -/
  | merge
  /-- Stands as a key for the value of a mapping that is used as a scalar. -/
  | value
  | unknown
  deriving DecidableEq, Repr

/-- What the standard tags begin with. -/
def standardTags : String := "tag:yaml.org,2002:"

/-- The standard tags by name. -/
def tagNames : List (String × Tag) :=
  [("null", .null), ("bool", .bool), ("int", .int), ("float", .float), ("binary", .binary),
    ("timestamp", .timestamp), ("str", .text), ("seq", .sequence), ("map", .mapping),
    ("omap", .orderedMap), ("pairs", .pairs), ("set", .set), ("merge", .merge), ("value", .value)]

/-- The tag with a full name. -/
def Tag.ofName (name : String) : Tag :=
  ((tagNames.find? fun (short, _) => standardTags ++ short = name).map (·.2)).getD .unknown

/-- The words for truth values. -/
def switchWords : List String :=
  ["yes", "Yes", "YES", "no", "No", "NO", "true", "True", "TRUE", "false", "False", "FALSE",
    "on", "On", "ON", "off", "Off", "OFF"]

/-- The words for nothing; so does an empty text say nothing. -/
def nullWords : List String :=
  ["", "~", "null", "Null", "NULL"]

/-- A text without the sign in front. -/
def unsigned : List Char → List Char
  | c :: rest => if c == '-' || c == '+' then rest else c :: rest
  | [] => []

/-- One or more characters of a class. -/
def someOf (p : Char → Bool) (cs : List Char) : Bool :=
  !cs.isEmpty && cs.all p

/-- A digit or an underscore. -/
def isDigitOrLine (c : Char) : Bool :=
  isAsciiDigit c || c == '_'

/-- What follows the sexagesimal places in front of a text: one or two digits after a colon each,
below sixty. -/
def afterSixties : List Char → Option (List Char)
  | ':' :: a :: b :: rest =>
    if isAsciiDigit a && isAsciiDigit b then
      if a ≤ '5' then afterSixties rest else none
    else if isAsciiDigit a then afterSixties (b :: rest)
    else none
  | [':', a] => if isAsciiDigit a then some [] else none
  | [':'] => none
  | cs => some cs

/-- Whether a text is a whole number: binary, octal, decimal, hexadecimal or sexagesimal. -/
def isInteger (cs : List Char) : Bool :=
  match unsigned cs with
  | '0' :: 'b' :: rest => someOf (fun c => c == '0' || c == '1' || c == '_') rest
  | '0' :: 'x' :: rest => someOf (fun c => (hexDigit c) || c == '_') rest
  | '0' :: rest => rest.all fun c => ('0' ≤ c && c ≤ '7') || c == '_'
  | c :: rest =>
    isAsciiDigit c && (afterSixties (rest.dropWhile isDigitOrLine)).any List.isEmpty
  | [] => false
where
  /-- A hexadecimal digit. -/
  hexDigit (c : Char) : Bool :=
    isAsciiDigit c || ('a' ≤ c && c ≤ 'f') || ('A' ≤ c && c ≤ 'F')

/-- Whether a text is nothing or an exponent with a sign. -/
def isExponent : List Char → Bool
  | [] => true
  | e :: sign :: digits =>
    (e == 'e' || e == 'E') && (sign == '-' || sign == '+') && someOf isAsciiDigit digits
  | _ => false

/-- Whether a text is a number with a decimal point: decimal, sexagesimal, infinite or none. A
number that starts with its point has no sign. -/
def isFractional (cs : List Char) : Bool :=
  let body := unsigned cs
  let word := String.ofList body
  match body with
  | '.' :: rest =>
    word = ".inf" || word = ".Inf" || word = ".INF" ||
      (body.length == cs.length &&
        (word = ".nan" || word = ".NaN" || word = ".NAN" ||
          ((rest.head?.map isAsciiDigit).getD false && isExponent (rest.dropWhile isDigitOrLine))))
  | c :: rest =>
    isAsciiDigit c &&
      match rest.dropWhile isDigitOrLine with
      | '.' :: more => isExponent (more.dropWhile isDigitOrLine)
      | ':' :: more =>
        match afterSixties (':' :: more) with
        | some ('.' :: last) => last.all isDigitOrLine
        | _ => false
      | _ => false
  | [] => false

/-- A text without the line feed at its end, if there is one. -/
def withoutFinalNewline (cs : List Char) : List Char :=
  if cs.getLast? == some '\n' then cs.dropLast else cs

/-- The tag of a plain scalar. -/
def Tag.ofPlain (cs : List Char) : Tag :=
  let body := withoutFinalNewline cs
  let word := String.ofList body
  if nullWords.contains word && (cs.isEmpty || !body.isEmpty) then .null
  else if switchWords.contains word then .bool
  else if isFractional body then .float
  else if isInteger body then .int
  else if isTimestamp body then .timestamp
  else if word = "<<" then .merge
  else if word = "=" then .value
  else if word = "!" || word = "&" || word = "*" then .unknown
  else .text

end SchemaWipe.Yaml
