import SchemaWipe.Yaml.Token
import SchemaWipe.Yaml.Scalar.Plain
import SchemaWipe.Yaml.Scalar.Block

/-! The tokens of a whole text. A token that may turn out to be a key is remembered until the
colon after it shows that it is one; then a key token is put in front of it, and where the key is
the first of its column, the start of a mapping as well. -/
namespace SchemaWipe.Yaml

/-- A token that may be a key. -/
structure KeyCandidate where
  /-- How many tokens came before it. -/
  index : Nat
  /-- Whether only a key makes sense there. -/
  required : Bool
  position : Position

/-- A key has to end on the line where it starts and within this many characters. -/
def longestKey : Nat := 1024

/-- Whether a candidate can no longer be a key at a position. -/
def KeyCandidate.isStale (now : Position) (key : KeyCandidate) : Bool :=
  key.position.line != now.line || longestKey < now.offset - key.position.offset

/-- The tokens read so far and what the next one depends on. -/
structure Lexer where
  cursor : Cursor
  /-- The tokens, the last one first. -/
  tokens : List Token := []
  /-- The columns of the open block collections, the innermost first. -/
  columns : List Nat := []
  /-- Whether a key may start here. -/
  keyAllowed : Bool := true
  /-- The candidate of the innermost collection. -/
  candidate : Option KeyCandidate := none
  /-- The candidates around the open flow collections, the innermost first. -/
  outer : List (Option KeyCandidate) := []

namespace Lexer

/-- Whether a flow collection is open. -/
def inFlow (l : Lexer) : Bool :=
  !l.outer.isEmpty

/-- The column that is being read. -/
def column (l : Lexer) : Nat :=
  l.cursor.position.column

/-- One more than the column of the innermost block collection. -/
def indent (l : Lexer) : Nat :=
  match l.columns with
  | [] => 0
  | column :: _ => column + 1

/-- Adds a token. -/
def push (l : Lexer) (token : Token) : Lexer :=
  { l with tokens := token :: l.tokens }

/-- Adds tokens after the first `index` ones. -/
def insertAt (l : Lexer) (index : Nat) (added : List Token) : Lexer :=
  let newer := l.tokens.take (l.tokens.length - index)
  let older := l.tokens.drop (l.tokens.length - index)
  { l with tokens := newer ++ added.reverse ++ older }

/-- Goes on at the given end of the text. -/
def goTo (l : Lexer) (rest : List Char) : Lexer :=
  { l with cursor := l.cursor.to rest }

/-- Forgets the candidate of the innermost collection, unless it had to be a key. -/
def dropCandidate (l : Lexer) : Except Fault Lexer :=
  match l.candidate with
  | some ⟨_, true, _⟩ => .error .malformed
  | _ => .ok { l with candidate := none }

/-- Remembers that the next token may be a key. -/
def saveCandidate (l : Lexer) : Except Fault Lexer := do
  if l.keyAllowed then
    let l ← l.dropCandidate
    let required := !l.inFlow && l.columns.head? == some l.column
    pure { l with candidate := some ⟨l.tokens.length, required, l.cursor.position⟩ }
  else pure l

/-- A candidate, unless it is stale. -/
def freshen (now : Position) : Option KeyCandidate → Except Fault (Option KeyCandidate)
  | none => .ok none
  | some key =>
    if !key.isStale now then .ok (some key)
    else if key.required then .error .malformed
    else .ok none

/-- Forgets the stale candidates. -/
def dropStale (l : Lexer) : Except Fault Lexer := do
  let candidate ← freshen l.cursor.position l.candidate
  let outer ← l.outer.mapM (freshen l.cursor.position)
  pure { l with candidate, outer }

/-- Closes block collections as long as the innermost stands in a column that must be closed. -/
def closeWhile (closes : Nat → Bool) : List Nat → List Token → List Nat × List Token
  | [], tokens => ([], tokens)
  | column :: columns, tokens =>
    if closes column then closeWhile closes columns (.blockEnd :: tokens)
    else (column :: columns, tokens)

/-- Closes the block collections that stand further right than a column. -/
def unwind (l : Lexer) (closes : Nat → Bool) : Lexer :=
  if l.inFlow then l
  else
    let (columns, tokens) := closeWhile closes l.columns l.tokens
    { l with columns, tokens }

/-- Whether a column lies further right than the innermost block collection. -/
def opensBlock (l : Lexer) (column : Nat) : Bool :=
  l.indent ≤ column

/-- Opens a block collection in a column, if it lies further right than the innermost one. -/
def openBlock (l : Lexer) (column : Nat) (start : Token) : Lexer :=
  if l.opensBlock column then ({ l with columns := column :: l.columns }).push start else l

/-- Skips spaces, comments and line ends. A line end outside flow collections allows a key. -/
def skipBlanks : Nat → Lexer → Lexer
  | 0, l => l
  | fuel + 1, l =>
    let spaced := l.cursor.rest.dropWhile (· == ' ')
    let rest := match spaced with
      | '#' :: _ => spaced.dropWhile (!isBreak ·)
      | _ => spaced
    match rest with
    | c :: more =>
      if isBreak c then
        skipBlanks fuel { l.goTo more with keyAllowed := l.keyAllowed || !l.inFlow }
      else l.goTo rest
    | [] => l.goTo rest

/-- Skips a byte order mark at the start of the text. -/
def skipMark (l : Lexer) : Lexer :=
  match l.cursor.rest with
  | c :: rest => if l.cursor.position.offset = 0 ∧ c = byteOrderMark then l.goTo rest else l
  | [] => l

/-- Reads a mark of a document, three characters long. -/
def documentMark (l : Lexer) (token : Token) : Except Fault Lexer := do
  let l ← (l.unwind fun _ => true).dropCandidate
  pure ({ l with keyAllowed := false }.goTo (l.cursor.rest.drop 3) |>.push token)

/-- Reads a directive. -/
def directive (l : Lexer) (rest : List Char) : Except Fault Lexer := do
  let l ← (l.unwind fun _ => true).dropCandidate
  let (directive, rest) ← readDirective rest
  pure ({ l with keyAllowed := false }.goTo rest |>.push (.directive directive))

/-- Opens a flow collection. -/
def openFlow (l : Lexer) (rest : List Char) (start : Token) : Except Fault Lexer := do
  let l ← l.saveCandidate
  let opened := { l with keyAllowed := true, candidate := none, outer := l.candidate :: l.outer }
  pure (opened.goTo rest |>.push start)

/-- Closes a flow collection. -/
def closeFlow (l : Lexer) (rest : List Char) (stop : Token) : Except Fault Lexer := do
  let l ← l.dropCandidate
  match l.outer with
  | [] => throw .malformed
  | candidate :: outer =>
    pure ({ l with keyAllowed := false, candidate, outer }.goTo rest |>.push stop)

/-- Reads a comma of a flow collection. -/
def flowEntry (l : Lexer) (rest : List Char) : Except Fault Lexer := do
  let l ← l.dropCandidate
  pure ({ l with keyAllowed := true }.goTo rest |>.push .flowEntry)

/-- Reads the mark of a sequence item. -/
def blockEntry (l : Lexer) (rest : List Char) : Except Fault Lexer := do
  if !l.inFlow && !l.keyAllowed then throw .malformed
  let l := if l.inFlow then l else l.openBlock l.column .blockSequenceStart
  let l ← l.dropCandidate
  pure ({ l with keyAllowed := true }.goTo rest |>.push .blockEntry)

/-- Reads the mark of a key. -/
def keyMark (l : Lexer) (rest : List Char) : Except Fault Lexer := do
  if !l.inFlow && !l.keyAllowed then throw .malformed
  let l := if l.inFlow then l else l.openBlock l.column .blockMappingStart
  let l ← l.dropCandidate
  pure ({ l with keyAllowed := !l.inFlow }.goTo rest |>.push .key)

/-- Reads the mark of a value. -/
def valueMark (l : Lexer) (rest : List Char) : Except Fault Lexer := do
  match l.candidate with
  | some key =>
    let opens := !l.inFlow && l.opensBlock key.position.column
    let added := if opens then [.blockMappingStart, .key] else [.key]
    let columns := if opens then key.position.column :: l.columns else l.columns
    let l := { l.insertAt key.index added with columns, keyAllowed := false, candidate := none }
    pure (l.goTo rest |>.push .value)
  | none =>
    if !l.inFlow && !l.keyAllowed then throw .malformed
    let l := if l.inFlow then l else l.openBlock l.column .blockMappingStart
    pure ({ l with keyAllowed := !l.inFlow }.goTo rest |>.push .value)

/-- Reads a token that may be a key and after which none may start. -/
def candidateToken (l : Lexer) (read : Except Fault (Token × List Char)) : Except Fault Lexer := do
  let l ← l.saveCandidate
  let (token, rest) ← read
  pure ({ l with keyAllowed := false }.goTo rest |>.push token)

/-- Reads a block scalar. -/
def blockScalar (l : Lexer) (folded : Bool) (rest : List Char) : Except Fault Lexer := do
  let l ← l.dropCandidate
  let (text, rest) ← readBlock folded l.indent rest
  pure ({ l with keyAllowed := true }.goTo rest |>.push (.scalar (String.ofList text) false))

/-- Reads a quoted scalar. -/
def quotedScalar (l : Lexer) (read : Except Fault (List Char × List Char)) :
    Except Fault Lexer :=
  l.candidateToken (read.map fun (text, rest) => (.scalar (String.ofList text) false, rest))

/-- Reads a plain scalar. A key may follow it on a later line. -/
def plainScalar (l : Lexer) : Except Fault Lexer := do
  let l ← l.saveCandidate
  let (text, crossed, cursor) := readPlain l.inFlow l.indent l.cursor
  pure ({ l with cursor, keyAllowed := crossed }.push (.scalar (String.ofList text) true))

/-- Whether a plain scalar may start with a character, seen with what follows it. -/
def startsPlain (l : Lexer) (c : Char) (rest : List Char) : Bool :=
  if c == '-' then !atGap rest
  else if c == '?' || c == ':' then !l.inFlow && !atGap rest
  else
    !(isSpace c || isBreak c || isFlowMark c ||
      ['#', '&', '*', '!', '|', '>', '\'', '"', '%', '@', '\x60'].contains c)

/-- Reads the token that starts with a character. -/
def token (l : Lexer) (c : Char) (rest : List Char) : Except Fault Lexer :=
  let lineStart := l.column = 0
  if c == '%' && lineStart then l.directive rest
  else if lineStart && atTriple '-' (c :: rest) then l.documentMark .documentStart
  else if lineStart && atTriple '.' (c :: rest) then l.documentMark .documentEnd
  else if c == '[' then l.openFlow rest .flowSequenceStart
  else if c == '{' then l.openFlow rest .flowMappingStart
  else if c == ']' then l.closeFlow rest .flowSequenceEnd
  else if c == '}' then l.closeFlow rest .flowMappingEnd
  else if c == ',' then l.flowEntry rest
  else if c == '-' && atGap rest then l.blockEntry rest
  else if c == '?' && (l.inFlow || atGap rest) then l.keyMark rest
  else if c == ':' && (l.inFlow || atGap rest) then l.valueMark rest
  else if c == '*' then l.candidateToken ((readName rest).map fun (n, r) => (.alias n, r))
  else if c == '&' then l.candidateToken ((readName rest).map fun (n, r) => (.anchor n, r))
  else if c == '!' then l.candidateToken ((readTag rest).map fun (n, r) => (.tag n, r))
  else if c == '|' && !l.inFlow then l.blockScalar false rest
  else if c == '>' && !l.inFlow then l.blockScalar true rest
  else if c == '\'' then l.quotedScalar (readSingle .none rest)
  else if c == '"' then l.quotedScalar (readDouble .none rest)
  else if l.startsPlain c rest then l.plainScalar
  else .error .malformed

/-- Closes everything at the end of the text. -/
def finish (l : Lexer) : Except Fault (List Token) := do
  let l ← (l.unwind fun _ => true).dropCandidate
  pure l.tokens.reverse

/-- Reads on to the end of the text. -/
def run : Nat → Lexer → Except Fault (List Token)
  | 0, _ => .error .malformed
  | fuel + 1, l => do
    let l ← (skipBlanks (l.cursor.rest.length + 1) l.skipMark).dropStale
    let l := l.unwind (l.column < ·)
    match l.cursor.rest with
    | [] => l.finish
    | c :: rest => do
      let l ← l.token c rest
      run fuel l

end Lexer

/-- The tokens of a text. -/
def tokens (cs : List Char) : Except Fault (List Token) :=
  if cs.all isAllowed then Lexer.run (cs.length + 1) { cursor := { rest := cs } }
  else .error .malformed

end SchemaWipe.Yaml
