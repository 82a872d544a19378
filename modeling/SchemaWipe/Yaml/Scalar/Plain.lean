import SchemaWipe.Yaml.Cursor

/-! Plain scalars: text without quotes. They end before a colon that a gap follows, before a
comment, and in flow collections before the marks of the collection. Where a plain scalar goes on
over several lines, one line end becomes a space and further ones are kept. -/
namespace SchemaWipe.Yaml

/-- Marks that a colon has to keep clear of inside flow collections. -/
def isFlowMark (c : Char) : Bool :=
  c == ',' || c == '[' || c == ']' || c == '{' || c == '}'

/-- Whether a plain scalar ends before a character, seen with what follows it. -/
def endsPlain (inFlow : Bool) (c : Char) (rest : List Char) : Bool :=
  isSpace c || isBreak c ||
    (c == ':' && (atGap rest || (inFlow && (rest.head?.map isFlowMark).getD false))) ||
    (inFlow && (isFlowMark c || c == '?'))

/-- The part of a plain scalar up to the next space, and what follows it. -/
def plainChunk (inFlow : Bool) : List Char → List Char × List Char
  | [] => ([], [])
  | c :: rest =>
    if endsPlain inFlow c rest then ([], c :: rest)
    else
      let (chunk, more) := plainChunk inFlow rest
      (c :: chunk, more)

/-- What stands between two parts of a plain scalar. The scalar cannot go on if `text` is empty. -/
structure Gap where
  text : List Char
  /-- Whether a line ended. -/
  crossed : Bool
  rest : List Char

/-- The line ends among the spaces in front of a text, up to a document mark if one is met. -/
def breaksAhead : List Char → List Char × Bool × List Char
  | [] => ([], false, [])
  | c :: rest =>
    if c == ' ' then breaksAhead rest
    else if isBreak c then
      if atDocumentMark rest then ([newline c], true, rest)
      else
        let (breaks, marked, more) := breaksAhead rest
        (newline c :: breaks, marked, more)
    else ([], false, c :: rest)

/-- One line end becomes a space; of several the first is dropped. -/
def foldBreaks (first : Char) (more : List Char) : List Char :=
  if newline first != '\n' then newline first :: more
  else if more.isEmpty then [' '] else more

/-- The gap in front of a text. -/
def gapAhead (cs : List Char) : Gap :=
  match cs.dropWhile (· == ' ') with
  | [] => ⟨cs.takeWhile (· == ' '), false, []⟩
  | c :: rest =>
    if isBreak c then
      if atDocumentMark rest then ⟨[], true, rest⟩
      else
        let (breaks, marked, more) := breaksAhead rest
        if marked then ⟨[], true, more⟩ else ⟨foldBreaks c breaks, true, more⟩
    else ⟨cs.takeWhile (· == ' '), false, c :: rest⟩

/-- Reads a plain scalar that must be indented by at least `indent`, given the gap in front of it.
The answer tells whether a line ended after the scalar. -/
def plainFrom (inFlow : Bool) (indent : Nat) :
    Nat → List Char → Bool → Cursor → List Char × Bool × Cursor
  | 0, _, crossed, cursor => ([], crossed, cursor)
  | fuel + 1, before, crossed, cursor =>
    let (chunk, rest) := plainChunk inFlow cursor.rest
    if chunk.isEmpty || cursor.rest.head? == some '#' then ([], crossed, cursor)
    else
      let gap := gapAhead rest
      let next := cursor.to gap.rest
      if gap.text.isEmpty || gap.rest.head? == some '#' ||
          (!inFlow && next.position.column < indent) then
        (before ++ chunk, gap.crossed, next)
      else
        let (more, crossed, last) := plainFrom inFlow indent fuel gap.text gap.crossed next
        (before ++ chunk ++ more, crossed, last)

/-- Reads a plain scalar. -/
def readPlain (inFlow : Bool) (indent : Nat) (cursor : Cursor) : List Char × Bool × Cursor :=
  plainFrom inFlow indent (cursor.rest.length + 1) [] false cursor

end SchemaWipe.Yaml
