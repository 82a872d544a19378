import SchemaWipe.Yaml.Scalar.Quoted
import SchemaWipe.Text.Utf8

/-! The tokens of a YAML text, and the reading of those that hold a name: anchors, aliases, tags
and directives. -/
namespace SchemaWipe.Yaml

/-- A tag as it is written. -/
inductive TagName where
  /-- The whole tag. The single exclamation mark is among these. -/
  | whole (name : String)
  /-- A handle that stands for the first part of the tag, and the rest of it. -/
  | short (handle suffix : String)
  deriving DecidableEq

/-- An instruction in front of a document. -/
inductive Directive where
  | version (major : Nat)
  | handle (name replacement : String)
  | reserved
  deriving DecidableEq

/-- A token. The starts and ends of block collections are implied by indentation. -/
inductive Token where
  | directive (d : Directive)
  | documentStart
  | documentEnd
  | blockSequenceStart
  | blockMappingStart
  | blockEnd
  | flowSequenceStart
  | flowSequenceEnd
  | flowMappingStart
  | flowMappingEnd
  | blockEntry
  | flowEntry
  | key
  | value
  | anchor (name : String)
  | alias (name : String)
  | tag (name : TagName)
  | scalar (text : String) (plain : Bool)
  deriving DecidableEq

/-- What may follow a name without a gap. -/
def endsName : List Char → Bool
  | [] => true
  | c :: rest => atGap (c :: rest) || ['?', ':', ',', ']', '}', '%', '@', '\x60'].contains c

/-- Reads the name of an anchor or alias after its mark. -/
def readName (cs : List Char) : Except Fault (String × List Char) :=
  let name := cs.takeWhile isWordChar
  let rest := cs.dropWhile isWordChar
  if name.isEmpty || !endsName rest then .error .malformed else .ok (String.ofList name, rest)

/-- The characters of a tag. -/
def isTagChar (c : Char) : Bool :=
  isWordChar c ||
    [';', '/', '?', ':', '@', '&', '=', '+', '$', ',', '.', '!', '~', '*', '\'', '(', ')', '[',
      ']', '%'].contains c

/-- The octets of the text of a tag, in which a percent sign starts an octet in hexadecimal. -/
def tagOctets : List Char → Option (List UInt8)
  | [] => some []
  | '%' :: a :: b :: rest => do
    let octet ← hexValue? [a, b]
    let more ← tagOctets rest
    pure (octet.toUInt8 :: more)
  | c :: rest => do
    guard (c != '%')
    let more ← tagOctets rest
    pure (c.toNat.toUInt8 :: more)

/-- Reads the text of a tag, which is not empty. -/
def readTagText (cs : List Char) : Except Fault (String × List Char) :=
  let text := cs.takeWhile isTagChar
  if text.isEmpty then .error .malformed
  else match tagOctets text >>= Text.decodeOctets? with
    | some s => .ok (s, cs.dropWhile isTagChar)
    | none => .error .malformed

/-- Reads a handle: an exclamation mark, or a word between two. -/
def readHandle : List Char → Except Fault (String × List Char)
  | '!' :: ' ' :: rest => .ok ("!", ' ' :: rest)
  | '!' :: rest =>
    match rest.dropWhile isWordChar with
    | '!' :: more => .ok (String.ofList ('!' :: rest.takeWhile isWordChar ++ ['!']), more)
    | _ => .error .malformed
  | _ => .error .malformed

/-- Requires a space or a line end, or the end of the text. -/
def requireSpaceOrBreak (rest : List Char) : Except Fault Unit :=
  if atSpaceOrBreak rest then .ok () else .error .malformed

/-- Reads a tag after its exclamation mark. -/
def readTag (cs : List Char) : Except Fault (TagName × List Char) :=
  match cs with
  | '<' :: text => do
    match ← readTagText text with
    | (name, '>' :: rest) =>
      requireSpaceOrBreak rest
      pure (.whole name, rest)
    | _ => throw .malformed
  | _ =>
    if atGap cs then do
      requireSpaceOrBreak cs
      pure (.whole "!", cs)
    else do
      let word := cs.takeWhile fun c => c != ' ' && !isBreak c
      let (handle, text) ← if word.contains '!' then readHandle ('!' :: cs) else pure ("!", cs)
      let (suffix, rest) ← readTagText text
      requireSpaceOrBreak rest
      pure (.short handle suffix, rest)

/-- Reads a version number of a directive. -/
def readVersionPart (cs : List Char) : Except Fault (Nat × List Char) :=
  let isAsciiDigit (c : Char) := '0' ≤ c && c ≤ '9'
  let digits := cs.takeWhile isAsciiDigit
  if digits.isEmpty then .error .malformed
  else .ok (digits.foldl (fun n c => n * 10 + (c.toNat - 48)) 0, cs.dropWhile isAsciiDigit)

/-- Reads what a directive says after its name. -/
def readDirectiveBody (name : String) (cs : List Char) : Except Fault (Directive × List Char) := do
  let start := cs.dropWhile (· == ' ')
  if name = "YAML" then
    match ← readVersionPart start with
    | (major, '.' :: rest) =>
      let (_, rest) ← readVersionPart rest
      requireSpaceOrBreak rest
      pure (.version major, rest)
    | _ => throw .malformed
  else if name = "TAG" then
    match ← readHandle start with
    | (handle, ' ' :: rest) =>
      let (replacement, rest) ← readTagText (rest.dropWhile (· == ' '))
      requireSpaceOrBreak rest
      pure (.handle handle replacement, rest)
    | _ => throw .malformed
  else pure (.reserved, cs.dropWhile (!isBreak ·))

/-- Reads a directive after its percent sign, to the end of its line. -/
def readDirective (cs : List Char) : Except Fault (Directive × List Char) := do
  let name := cs.takeWhile isWordChar
  let rest := cs.dropWhile isWordChar
  if name.isEmpty then throw .malformed
  requireSpaceOrBreak rest
  let (directive, rest) ← readDirectiveBody (String.ofList name) rest
  match restOfLine? rest with
  | some next => pure (directive, next)
  | none => throw .malformed

end SchemaWipe.Yaml
