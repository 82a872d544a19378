import SchemaWipe.CommandLine.Page
import SchemaWipe.Number.Literal
import SchemaWipe.Text.Quoted
import SchemaWipe.Named

/-! Command lines. A form lists the options that a command takes. Long options may be shortened as
long as they stay distinct, values may follow an equals sign or stand alone, and the last of
several values counts. -/
namespace SchemaWipe.CommandLine

/-- What an option takes. -/
inductive Kind where
  | help
  | switch
  | text
  | integer
  deriving DecidableEq

/-- An option. -/
structure Flag where
  long : String
  kind : Kind
  short : Option Char := none
  /-- What stands for the value of the option in help texts, if it takes one. -/
  placeholder : String := ""
  summary : String

/-- The option that every form has. -/
def helpFlag : Flag where
  long := "--help"
  kind := .help
  short := some 'h'
  summary := "show this help message and exit"

/-- The value of an option. -/
inductive Given where
  | on
  | text (s : String)
  | integer (i : Int)
  deriving DecidableEq

/-- A command: its full name, what it does, and its options. -/
structure Form where
  program : String
  about : String := ""
  flags : List Flag

/-- A short name as it is written. -/
def shortName (c : Char) : String :=
  String.ofList ['-', c]

/-- An option as errors name it. -/
def Flag.text (f : Flag) : String :=
  match f.short with
  | some c => shortName c ++ "/" ++ f.long
  | none => f.long

/-- A name of an option with what stands for its value. -/
def Flag.withPlaceholder (f : Flag) (name : String) : String :=
  if f.placeholder.isEmpty then name else name ++ " " ++ f.placeholder

/-- An option as the usage shows it. -/
def Flag.usage (f : Flag) : String :=
  "[" ++ f.withPlaceholder ((f.short.map shortName).getD f.long) ++ "]"

/-- An option as help pages explain it. -/
def Flag.topic (f : Flag) : Topic where
  header := match f.short with
    | some c => shortName c ++ ", " ++ f.withPlaceholder f.long
    | none => f.withPlaceholder f.long
  summary := f.summary

/-- An argument as a form sees it. -/
inductive Piece where
  | plain (s : String)
  | unknown (s : String)
  /-- An option, whether it was given by its short name, and a value joined to it. -/
  | option (flag : Flag) (short : Bool) (joined : Option String)
  /-- Two hyphens: all that follows is plain. -/
  | separator

/-- Whether a text looks like a negative number. -/
def isNegativeNumber (cs : List Char) : Bool :=
  match cs with
  | '-' :: body =>
    let body := if body.getLast? == some '\n' then body.dropLast else body
    match body.dropWhile Text.isDigit with
    | [] => !body.isEmpty
    | '.' :: fraction => !fraction.isEmpty && fraction.all Text.isDigit
    | _ => false
  | _ => false

/-- A text cut at its first equals sign. -/
def splitEquals (s : String) : String × Option String :=
  match s.toList.dropWhile (· != '=') with
  | [] => (s, none)
  | _ :: value => (String.ofList (s.toList.takeWhile (· != '=')), some (String.ofList value))

/-- The option that has exactly this name. -/
def named? (flags : List Flag) (name : String) (joined : Option String) : Option Piece :=
  flags.findSome? fun f =>
    if f.long = name then some (.option f false joined)
    else if f.short.map shortName = some name then some (.option f true joined)
    else none

/-- The options whose long name starts with a text. -/
def startingWith (flags : List Flag) (name : String) : List Flag :=
  flags.filter fun f => name.toList.isPrefixOf f.long.toList

/-- The option whose short name a text starts with; the rest is joined to it. -/
def shortStart? (flags : List Flag) (cs : List Char) : Option Piece :=
  match cs with
  | '-' :: c :: rest =>
    (flags.find? fun f => f.short = some c).map fun f => .option f true (some (String.ofList rest))
  | _ => none

/-- How an argument that is no option of the form is seen: one that looks like a negative number or
holds a space cannot be an option. -/
def unmatched (s : String) : Piece :=
  if isNegativeNumber s.toList || s.toList.contains ' ' then .plain s else .unknown s

/-- Tells what an argument is. A shortened name must fit one option only. -/
def classify (flags : List Flag) (s : String) : Except String Piece :=
  match s.toList with
  | '-' :: c :: rest =>
    let (name, value) := splitEquals s
    match named? flags s none, value.bind fun v => named? flags name (some v) with
    | some piece, _ => .ok piece
    | none, some piece => .ok piece
    | none, none =>
      if c = '-' then
        match startingWith flags name with
        | [] => .ok (unmatched s)
        | [flag] => .ok (.option flag false value)
        | several =>
          .error (s!"ambiguous option: {s} could match " ++ ", ".intercalate (several.map (·.long)))
      else .ok ((shortStart? flags ('-' :: c :: rest)).getD (unmatched s))
  | _ => .ok (.plain s)

/-- Tells what each argument is. -/
def classifyAll (flags : List Flag) : List String → Except String (List Piece)
  | [] => .ok []
  | s :: rest =>
    if s = "--" then .ok (.separator :: rest.map .plain)
    else do
      let piece ← classify flags s
      let more ← classifyAll flags rest
      pure (piece :: more)

/-- Why reading the arguments of a form ended early. -/
inductive Halt where
  | help
  | fault (message : String)

/-- A complaint about an option. -/
def complain {α : Type} (f : Flag) (problem : String) : Except Halt α :=
  .error (.fault s!"argument {f.text}: {problem}")

/-- The value that a text is for an option. -/
def Flag.convert (f : Flag) (s : String) : Except Halt Given :=
  match f.kind with
  | .integer =>
    match Number.readInteger 10 s.toList with
    | .ok i => .ok (.integer i)
    | .error _ => complain f s!"invalid int value: {Text.quoted s}"
  | _ => .ok (.text s)

/-- Judges what is joined to an option that takes no value. Only short names may be joined to a
short name. -/
def checkJoined (flags : List Flag) (f : Flag) (short : Bool) : Option String → Except Halt Unit
  | none => .ok ()
  | some joined =>
    let rest := if short && !joined.isEmpty then
        joined.toList.dropWhile fun c => flags.any fun g => g.short = some c
      else joined.toList
    if short && !joined.isEmpty && rest.isEmpty then .ok ()
    else complain f s!"ignored explicit argument {Text.quoted (String.ofList rest)}"

/-- What a form made of its arguments: the options given, and what it had no use for. -/
structure Filled where
  given : Named Given := []
  extras : List String := []

/-- Adds an argument that the form has no use for. -/
def Filled.extra (r : Filled) (s : String) : Filled :=
  { r with extras := r.extras ++ [s] }

/-- Adds an option. -/
def Filled.add (r : Filled) (f : Flag) (value : Given) : Filled :=
  { r with given := r.given.put f.long value }

/-- Goes through the arguments of a form in order. -/
def fill (flags : List Flag) : List Piece → Filled → Except Halt Filled
  | [], r => .ok r
  | .plain s :: rest, r => fill flags rest (r.extra s)
  | .unknown s :: rest, r => fill flags rest (r.extra s)
  | .separator :: rest, r => fill flags rest (r.extra "--")
  | .option f short joined :: rest, r =>
    match f.kind with
    | .help => do
      checkJoined flags f short joined
      throw .help
    | .switch => do
      checkJoined flags f short joined
      fill flags rest (r.add f .on)
    | _ =>
      match joined with
      | some s => do
        let value ← f.convert s
        fill flags rest (r.add f value)
      | none =>
        match rest with
        | .plain s :: more => do
          let value ← f.convert s
          fill flags more (r.add f value)
        | _ => complain f "expected one argument"

/-- Reads the arguments of a form. -/
def Form.read (form : Form) (args : List String) : Except Halt Filled := do
  let pieces ← (classifyAll form.flags args).mapError .fault
  fill form.flags pieces {}

/-- The help page of a form. -/
def Form.page (form : Form) : Page where
  program := form.program
  options := form.flags.map Flag.usage
  about := form.about
  sections := [("options", form.flags.map Flag.topic)]

/-- The text about a fault in the arguments that a page explains. -/
def Page.faultText (page : Page) (columns : Nat) (message : String) : String :=
  page.usage columns ++ page.program ++ ": error: " ++ message ++ "\n"

end SchemaWipe.CommandLine
