import SchemaWipe.Breakdown

/-! A place in a YAML text, and the characters that matter at every place. Line ends are line
feeds; next line, line separator and paragraph separator end lines as well. -/
namespace SchemaWipe.Yaml

/-- Why a text has no value. -/
inductive Fault where
  /-- It is not one well-formed document. -/
  | malformed
  /-- A part of it that is well-formed stands for nothing. -/
  | breakdown (cause : Breakdown)

/-- Ends a line. -/
def isBreak (c : Char) : Bool :=
  c == '\n' || c == '\u0085' || c == '\u2028' || c == '\u2029'

/-- A space or a tab. -/
def isSpace (c : Char) : Bool :=
  c == ' ' || c == '\t'

/-- What a line end becomes inside a scalar. -/
def newline (c : Char) : Char :=
  if c == '\u0085' then '\n' else c

/-- The byte order mark. -/
def byteOrderMark : Char := '\ufeff'

/-- The characters that a document may hold. -/
def isAllowed (c : Char) : Bool :=
  let n := c.toNat
  n == 9 || n == 10 || n == 13 || (0x20 ≤ n && n ≤ 0x7E) || n == 0x85 ||
    (0xA0 ≤ n && n ≤ 0xFFFD) || 0x10000 ≤ n

/-- An ASCII letter or digit, a hyphen or an underscore. -/
def isWordChar (c : Char) : Bool :=
  ('0' ≤ c && c ≤ '9') || ('A' ≤ c && c ≤ 'Z') || ('a' ≤ c && c ≤ 'z') || c == '-' || c == '_'

/-- Whether a text is over or goes on with a space, a tab or a line end. -/
def atGap : List Char → Bool
  | [] => true
  | c :: _ => isSpace c || isBreak c

/-- Whether a text is over or goes on with a space or a line end. -/
def atSpaceOrBreak : List Char → Bool
  | [] => true
  | c :: _ => c == ' ' || isBreak c

/-- Whether a text is over or goes on with a line end. -/
def atLineEnd : List Char → Bool
  | [] => true
  | c :: _ => isBreak c

/-- Whether a text goes on with three of a character and a gap. -/
def atTriple (mark : Char) : List Char → Bool
  | a :: b :: c :: rest => a == mark && b == mark && c == mark && atGap rest
  | _ => false

/-- Whether a text goes on with the mark that starts or ends a document. -/
def atDocumentMark (cs : List Char) : Bool :=
  atTriple '-' cs || atTriple '.' cs

/-- A text without its first line end. -/
def dropBreak : List Char → List Char
  | c :: rest => if isBreak c then rest else c :: rest
  | [] => []

/-- A text without the spaces and the comment in front, if a line end follows them. -/
def restOfLine? (cs : List Char) : Option (List Char) :=
  let afterSpaces := cs.dropWhile (· == ' ')
  let rest := match afterSpaces with
    | '#' :: _ => afterSpaces.dropWhile (!isBreak ·)
    | _ => afterSpaces
  if atLineEnd rest then some (dropBreak rest) else none

/-- Where a character stands. -/
structure Position where
  line : Nat := 0
  column : Nat := 0
  offset : Nat := 0

/-- The position after a character. A byte order mark takes no column. -/
def Position.after (p : Position) (c : Char) : Position :=
  if isBreak c then ⟨p.line + 1, 0, p.offset + 1⟩
  else if c == byteOrderMark then { p with offset := p.offset + 1 }
  else ⟨p.line, p.column + 1, p.offset + 1⟩

/-- A place in a text: what is still to be read and where it stands. -/
structure Cursor where
  rest : List Char
  position : Position := {}

/-- The place some characters further on. -/
def Cursor.skip : Nat → Cursor → Cursor
  | 0, cursor => cursor
  | n + 1, ⟨c :: rest, position⟩ => Cursor.skip n ⟨rest, position.after c⟩
  | _ + 1, cursor => cursor

/-- The place where only the given end of the text is still to be read. -/
def Cursor.to (cursor : Cursor) (rest : List Char) : Cursor :=
  cursor.skip (cursor.rest.length - rest.length)

end SchemaWipe.Yaml
