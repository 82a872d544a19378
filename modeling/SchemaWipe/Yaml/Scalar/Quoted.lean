import SchemaWipe.Yaml.Cursor
import SchemaWipe.Yaml.Scalar.Plain

/-! Quoted scalars. In single quotes only a doubled quote stands for something else; in double
quotes a backslash starts an escape. Line ends are folded in both, and the blanks around them are
dropped. -/
namespace SchemaWipe.Yaml

/-- What was read since the last character that counts. -/
inductive Pending where
  | spaces (text : List Char)
  | breaks (first : Char) (more : List Char)
  | escapedBreaks (more : List Char)

/-- The text that pending characters become when the scalar goes on. -/
def Pending.flush : Pending → List Char
  | .spaces text => text
  | .breaks first more => foldBreaks first more
  | .escapedBreaks more => more

/-- A space or a tab counts only as long as no line has ended. -/
def Pending.addSpace (c : Char) : Pending → Pending
  | .spaces text => .spaces (text ++ [c])
  | pending => pending

/-- A line end makes the spaces before it count for nothing. -/
def Pending.addBreak (c : Char) : Pending → Pending
  | .spaces _ => .breaks c []
  | .breaks first more => .breaks first (more ++ [newline c])
  | .escapedBreaks more => .escapedBreaks (more ++ [newline c])

/-- The state before any character. -/
def Pending.none : Pending := .spaces []

/-- A scalar's text in front of another part of it. -/
def consText (text : List Char) (tail : Except Fault (List Char × List Char)) :
    Except Fault (List Char × List Char) :=
  tail.map fun (more, rest) => (text ++ more, rest)

/-- Reads a scalar in single quotes after the opening quote, with what follows the closing one. -/
def readSingle (pending : Pending) : List Char → Except Fault (List Char × List Char)
  | [] => .error .malformed
  | '\'' :: '\'' :: rest => consText (pending.flush ++ ['\'']) (readSingle .none rest)
  | c :: rest =>
    if c == '\'' then .ok (pending.flush, rest)
    else if isSpace c then readSingle (pending.addSpace c) rest
    else if isBreak c then
      if atDocumentMark rest then .error .malformed else readSingle (pending.addBreak c) rest
    else consText (pending.flush ++ [c]) (readSingle .none rest)

/-- What a single character stands for after a backslash. -/
def escape? (c : Char) : Option Char :=
  match c with
  | '0' => some '\x00'
  | 'a' => some '\x07'
  | 'b' => some '\x08'
  | 't' | '\t' => some '\t'
  | 'n' => some '\n'
  | 'v' => some '\x0b'
  | 'f' => some '\x0c'
  | 'r' => some '\r'
  | 'e' => some '\x1b'
  | ' ' => some ' '
  | '"' => some '"'
  | '\\' => some '\\'
  | '/' => some '/'
  | 'N' => some '\u0085'
  | '_' => some '\u00a0'
  | 'L' => some '\u2028'
  | 'P' => some '\u2029'
  | _ => none

/-- The value of a hexadecimal digit. -/
def hexDigit? (c : Char) : Option Nat :=
  if '0' ≤ c && c ≤ '9' then some (c.toNat - 48)
  else if 'a' ≤ c && c ≤ 'f' then some (c.toNat - 87)
  else if 'A' ≤ c && c ≤ 'F' then some (c.toNat - 55)
  else none

/-- The value of hexadecimal digits. -/
def hexValue? (digits : List Char) : Option Nat :=
  digits.foldlM (fun n c => (hexDigit? c).map (n * 16 + ·)) 0

/-- The character with a code. Half of a surrogate pair is no character and is replaced. -/
def characterOf (digits : List Char) : Except Fault Char :=
  match hexValue? digits with
  | none => .error .malformed
  | some code =>
    if 0x10FFFF < code then .error (.breakdown (.character (0x80000000 ≤ code)))
    else if 0xD800 ≤ code ∧ code ≤ 0xDFFF then .ok '\ufffd'
    else .ok (Char.ofNat code)

/-- Reads a scalar in double quotes after the opening quote, with what follows the closing one. -/
def readDouble (pending : Pending) : List Char → Except Fault (List Char × List Char)
  | [] => .error .malformed
  | c :: rest =>
    if c == '"' then .ok (pending.flush, rest)
    else if isSpace c then readDouble (pending.addSpace c) rest
    else if isBreak c then
      if atDocumentMark rest then .error .malformed else readDouble (pending.addBreak c) rest
    else if c == '\\' then
      match rest with
      | 'x' :: a :: b :: more => do
        let code ← characterOf [a, b]
        consText (pending.flush ++ [code]) (readDouble .none more)
      | 'u' :: a :: b :: c :: d :: more => do
        let code ← characterOf [a, b, c, d]
        consText (pending.flush ++ [code]) (readDouble .none more)
      | 'U' :: a :: b :: c :: d :: e :: f :: g :: h :: more => do
        let code ← characterOf [a, b, c, d, e, f, g, h]
        consText (pending.flush ++ [code]) (readDouble .none more)
      | e :: more =>
        match escape? e with
        | some meant => consText (pending.flush ++ [meant]) (readDouble .none more)
        | none =>
          if isBreak e && !atDocumentMark more then
            consText pending.flush (readDouble (.escapedBreaks []) more)
          else .error .malformed
      | [] => .error .malformed
    else consText (pending.flush ++ [c]) (readDouble .none rest)

end SchemaWipe.Yaml
