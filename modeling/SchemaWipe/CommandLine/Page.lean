import SchemaWipe.Text.Wrapped

/-! The help page of a command line: its usage, a description, and what its commands and options are
for. Everything is laid out for a number of columns and stays within them where it can. -/
namespace SchemaWipe.CommandLine

/-- Something that a page explains. -/
structure Topic where
  header : String
  /-- Empty if there is nothing to say. -/
  summary : String := ""
  /-- How far it is indented. -/
  indent : Nat := 2

/-- What a page shows. -/
structure Page where
  program : String
  /-- The parts of the usage that stand for options. -/
  options : List String
  /-- The parts of the usage that stand for other arguments. -/
  arguments : List String := []
  /-- Empty if there is nothing to say. -/
  about : String := ""
  /-- The topics with the headings above them. -/
  sections : List (String × List Topic)

/-- So many spaces. -/
def spaces (n : Nat) : String :=
  String.ofList (List.replicate n ' ')

/-- Parts put into lines, with a space between two parts. On the line that is being filled `used`
columns are taken; each further line is indented. A part that fits on no line has one of its own. -/
def breakParts (columns indent : Nat) : Nat → List String → List String → List String
  | _, [], [] => []
  | _, line, [] => [" ".intercalate line]
  | used, line, part :: parts =>
    if columns < used + part.length && !line.isEmpty then
      " ".intercalate line :: breakParts columns indent (indent + part.length + 1) [part] parts
    else breakParts columns indent (used + part.length + 1) (line ++ [part]) parts

/-- Lines below one another, indented. -/
def indented (indent : Nat) (lines : List String) : List String :=
  lines.map (spaces indent ++ ·)

namespace Page

/-- What the usage begins with. -/
def usageMark : String := "usage: "

/-- The columns that text may take: two are left free. -/
def room (columns : Nat) : Nat :=
  columns - 2

/-- The usage beside the name of the program. -/
def usageBeside (p : Page) (room : Nat) : List String :=
  let indent := usageMark.length + p.program.length + 1
  let below := indented indent (breakParts room indent indent [] p.arguments)
  match breakParts room indent usageMark.length [] (p.program :: p.options) with
  | [] => below
  | first :: more => first :: indented indent more ++ below

/-- The usage below the name of the program. Where it takes several lines, those of the options end
before those of the other arguments begin. -/
def usageBelow (p : Page) (room : Nat) : List String :=
  let indent := usageMark.length
  let lines (parts : List String) := breakParts room indent indent [] parts
  let all := lines (p.options ++ p.arguments)
  let all := if 1 < all.length then lines p.options ++ lines p.arguments else all
  p.program :: indented indent all

/-- The usage: on one line if it fits, else beside the name of the program if that leaves a quarter
of the line, else below it. -/
def usage (p : Page) (columns : Nat) : String :=
  let room := room columns
  let whole := " ".intercalate (p.program :: p.options ++ p.arguments)
  let lines :=
    if usageMark.length + whole.length ≤ room then [whole]
    else if 4 * (usageMark.length + p.program.length) ≤ 3 * room then p.usageBeside room
    else p.usageBelow room
  usageMark ++ "\n".intercalate lines ++ "\n"

/-- The least width that a text is given, even where there is less room. -/
def leastWidth : Nat := 11

/-- The column where summaries begin: right of the widest header, unless that is too far right. -/
def summaryColumn (p : Page) (room : Nat) : Nat :=
  let widths := (p.sections.flatMap (·.2)).map fun topic => topic.header.length + 4
  min (widths.foldl max 0) (min 24 (max (room - 20) 4))

/-- A topic: its header, and its summary beside it or below it. -/
def topicLines (room column : Nat) (topic : Topic) : List String :=
  let header := spaces topic.indent ++ topic.header
  match Text.wrapped (max (room - column) leastWidth) topic.summary with
  | [] => [header]
  | first :: more =>
    if header.length + 2 ≤ column then
      (header ++ spaces (column - header.length) ++ first) :: indented column more
    else header :: indented column (first :: more)

/-- The whole page. -/
def text (p : Page) (columns : Nat) : String :=
  let room := room columns
  let about := Text.wrapped (max room leastWidth) p.about
  let block (entry : String × List Topic) : List String :=
    (entry.1 ++ ":") :: entry.2.flatMap (topicLines room (p.summaryColumn room))
  let blocks := (if about.isEmpty then [] else [about]) ++ p.sections.map block
  p.usage columns ++ String.join (blocks.map fun lines =>
    "\n" ++ String.join (lines.map (· ++ "\n")))

end Page
end SchemaWipe.CommandLine
