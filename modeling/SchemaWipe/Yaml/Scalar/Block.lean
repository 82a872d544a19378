import SchemaWipe.Yaml.Cursor

/-! Block scalars: lines that belong together by their indentation. A literal one keeps its lines,
a folded one joins neighbouring lines that do not start with a blank. -/
namespace SchemaWipe.Yaml

/-- What becomes of the line ends after the last line: none, one, or all of them. -/
inductive Chomping where
  | strip
  | clip
  | keep
  deriving DecidableEq

/-- The line that opens a block scalar. -/
structure BlockHeader where
  chomping : Chomping := .clip
  /-- The indentation relative to the parent, if it is given. -/
  increment : Option Nat := none

/-- An indentation indicator in front of a text. A zero is refused. -/
def splitIncrement : List Char → Option (Option Nat × List Char)
  | c :: rest =>
    if c == '0' then none
    else if '1' ≤ c && c ≤ '9' then some (some (c.toNat - 48), rest)
    else some (none, c :: rest)
  | [] => some (none, [])

/-- A chomping indicator in front of a text. -/
def splitChomping : List Char → Chomping × List Char
  | '+' :: rest => (.keep, rest)
  | '-' :: rest => (.strip, rest)
  | cs => (.clip, cs)

/-- Reads the rest of the opening line. Its two indicators may come in either order. -/
def blockHeader? (cs : List Char) : Option (BlockHeader × List Char) := do
  let (chomping, afterChomping) := splitChomping cs
  let (increment, rest) ← splitIncrement afterChomping
  let (chomping, rest) :=
    if chomping = .clip ∧ increment.isSome then splitChomping rest else (chomping, rest)
  guard (atSpaceOrBreak rest)
  let rest ← restOfLine? rest
  pure (⟨chomping, increment⟩, rest)

/-- Skips up to so many spaces; the answer starts with their number. -/
def skipIndent : Nat → List Char → Nat × List Char
  | n + 1, ' ' :: rest =>
    let (count, more) := skipIndent n rest
    (count + 1, more)
  | _, cs => (0, cs)

/-- The empty lines in front of a text, and the column and text after them. -/
def emptyLines (indent : Nat) : Nat → List Char → List Char × Nat × List Char
  | 0, cs => ([], 0, cs)
  | fuel + 1, cs =>
    let (column, rest) := skipIndent indent cs
    match rest with
    | c :: more =>
      if isBreak c then
        let (breaks, column, rest) := emptyLines indent fuel more
        (newline c :: breaks, column, rest)
      else ([], column, rest)
    | [] => ([], column, [])

/-- The empty lines in front of the first line of a block scalar, the widest indentation met, and
the column and text after them. -/
def leadingLines (column widest : Nat) : List Char → List Char × Nat × Nat × List Char
  | [] => ([], widest, column, [])
  | c :: rest =>
    if c == ' ' then leadingLines (column + 1) (max widest (column + 1)) rest
    else if isBreak c then
      let (breaks, found, last, more) := leadingLines 0 widest rest
      (newline c :: breaks, found, last, more)
    else ([], widest, column, c :: rest)

/-- What follows the last line of a block scalar. -/
structure BlockTail where
  lineEnd : List Char
  breaks : List Char
  rest : List Char

/-- Whether a line starts with a character other than a space or a tab. -/
def startsDark : List Char → Bool
  | [] => true
  | c :: _ => !isSpace c

/-- Reads the lines of a block scalar from a place in its column. -/
def blockLines (folded : Bool) (indent : Nat) :
    Nat → List Char → List Char → Nat → List Char → List Char × BlockTail
  | 0, lineEnd, breaks, _, rest => ([], ⟨lineEnd, breaks, rest⟩)
  | fuel + 1, lineEnd, breaks, column, rest =>
    if column = indent ∧ rest ≠ [] then
      let line := rest.takeWhile (!isBreak ·)
      let after := rest.dropWhile (!isBreak ·)
      let ended := after.take 1 |>.map newline
      let (gap, nextColumn, next) := emptyLines indent (after.length + 1) (after.drop 1)
      let joint :=
        if nextColumn = indent ∧ next ≠ [] then
          if folded && ended == ['\n'] && startsDark rest && startsDark next then
            if gap.isEmpty then [' '] else []
          else ended
        else []
      let (more, tail) := blockLines folded indent fuel ended gap nextColumn next
      (breaks ++ line ++ joint ++ more, tail)
    else ([], ⟨lineEnd, breaks, rest⟩)

/-- Reads a block scalar after its mark; `parent` is the least indentation it may have. -/
def readBlock (folded : Bool) (parent : Nat) (cs : List Char) :
    Except Fault (List Char × List Char) :=
  match blockHeader? cs with
  | none => .error .malformed
  | some (header, rest) =>
    let least := max 1 parent
    let (indent, breaks, column, rest) :=
      match header.increment with
      | some increment =>
        let indent := least + increment - 1
        let (breaks, column, rest) := emptyLines indent (rest.length + 1) rest
        (indent, breaks, column, rest)
      | none =>
        let (breaks, widest, column, rest) := leadingLines 0 0 rest
        (max least widest, breaks, column, rest)
    let (text, tail) := blockLines folded indent (rest.length + 1) [] breaks column rest
    let ending := match header.chomping with
      | .strip => []
      | .clip => tail.lineEnd
      | .keep => tail.lineEnd ++ tail.breaks
    .ok (text ++ ending, tail.rest)

end SchemaWipe.Yaml
