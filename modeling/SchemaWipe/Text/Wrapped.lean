/-! Text in lines of limited width. Lines end between words, or after a hyphen inside a word; a word
that is too long for any line is cut. -/
namespace SchemaWipe.Text

/-- An ASCII letter. -/
def isAsciiLetter (c : Char) : Bool :=
  ('A' ≤ c && c ≤ 'Z') || ('a' ≤ c && c ≤ 'z')

/-- Whether a line may end inside a word: after a hyphen with two letters on either side. What
stands before the place is given backwards. -/
def mayBreak (before after : List Char) : Bool :=
  match before, after with
  | '-' :: b :: a :: _, c :: d :: _ => [a, b, c, d].all isAsciiLetter
  | _, _ => false

/-- The parts of a word between which a line may end; `before` is the part that is being read,
backwards. -/
def wordParts (before : List Char) : List Char → List (List Char)
  | [] => [before.reverse]
  | c :: rest =>
    if mayBreak (c :: before) rest then (c :: before).reverse :: wordParts [] rest
    else wordParts (c :: before) rest

/-- The words of a text. -/
def words : List Char → List (List Char)
  | [] => []
  | c :: rest =>
    let later := words rest
    if c = ' ' then later
    else match rest.head?, later with
      | some next, word :: more => if next = ' ' then [c] :: later else (c :: word) :: more
      | _, _ => [c] :: later

/-- The pieces of a text: the parts of its words, and a space between two words. -/
def textPieces (text : List Char) : List (List Char) :=
  (((words text).map (wordParts [])).intersperse [[' ']]).flatten

/-- The pieces that fit into a space, and those that are left. -/
def fitting : Nat → List (List Char) → List (List Char) × List (List Char)
  | _, [] => ([], [])
  | space, piece :: more =>
    if piece.length ≤ space then
      let (line, rest) := fitting (space - piece.length) more
      (piece :: line, rest)
    else ([], piece :: more)

/-- Whether a piece holds nothing but spaces. -/
def isBlankPiece (piece : List Char) : Bool :=
  piece.all (· == ' ')

/-- One line, and the pieces that are left. A piece that fits on no line fills up this one. -/
def nextLine (width : Nat) (pieces : List (List Char)) : List (List Char) × List (List Char) :=
  let (line, rest) := fitting width pieces
  match rest with
  | [] => (line, [])
  | piece :: more =>
    if width < piece.length then
      let space := width - line.flatten.length
      (line ++ [piece.take space], piece.drop space :: more)
    else (line, piece :: more)

/-- A line without the blank piece at its end. -/
def trimmedLine (line : List (List Char)) : List Char :=
  match line.getLast? with
  | some piece => if isBlankPiece piece then line.dropLast.flatten else line.flatten
  | none => []

/-- The lines of pieces. No line but the first begins with a blank piece. -/
def wrapPieces (width : Nat) : Nat → List (List Char) → List (List Char)
  | 0, _ | _, [] => []
  | fuel + 1, pieces =>
    let (line, rest) := nextLine width pieces
    let rest := match rest with
      | piece :: more => if isBlankPiece piece then more else rest
      | [] => []
    trimmedLine line :: wrapPieces width fuel rest

/-- The lines of a text at a width of at least one character. -/
def wrapped (width : Nat) (text : String) : List String :=
  (wrapPieces width (2 * text.length + 1) (textPieces text.toList)).map String.ofList

end SchemaWipe.Text
