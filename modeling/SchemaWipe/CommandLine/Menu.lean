import SchemaWipe.CommandLine.Form

/-! Command lines that begin with the name of a command. What stands before the name belongs to the
program, what follows it to the command. -/
namespace SchemaWipe.CommandLine

/-- A command that a program offers. -/
structure Choice where
  name : String
  summary : String
  form : Form

/-- A program with several commands. -/
structure Menu where
  form : Form
  commands : List Choice

/-- What a command line asks for. -/
inductive Reading where
  /-- A page to print, and nothing else to do. -/
  | help (page : Page)
  /-- A fault to report with the usage of a page. -/
  | fault (page : Page) (message : String)
  | run (command : String) (given : Named Given)

/-- What a form that ends early asks for. -/
def Form.halted (form : Form) : Halt → Reading
  | .help => .help form.page
  | .fault message => .fault form.page message

namespace Menu

/-- The names of the commands as help pages show them. -/
def choices (menu : Menu) : String :=
  "\x7b" ++ ",".intercalate (menu.commands.map (·.name)) ++ "\x7d"

/-- The help page of a program. -/
def page (menu : Menu) : Page :=
  let commands := menu.commands.map fun c => { header := c.name, summary := c.summary, indent := 4 }
  { menu.form.page with
    arguments := [menu.choices, "..."]
    sections := ("positional arguments", { header := menu.choices } :: commands) ::
      menu.form.page.sections }

/-- A fault because of arguments that nothing has use for. -/
def unrecognized (menu : Menu) (extras : List String) : Reading :=
  .fault menu.page ("unrecognized arguments: " ++ " ".intercalate extras)

/-- A fault because of a name that no command has. -/
def invalidChoice (menu : Menu) (name : String) : Reading :=
  let names := ", ".intercalate (menu.commands.map fun c => Text.quoted c.name)
  .fault menu.page
    s!"argument command: invalid choice: {Text.quoted name} (choose from {names})"

/-- Reads the arguments of a command; `extras` were left over before its name. -/
def dispatch (menu : Menu) (extras : List String) (name : String) (args : List String) : Reading :=
  match menu.commands.find? fun c => c.name = name with
  | none => menu.invalidChoice name
  | some command =>
    match command.form.read args with
    | .error halt => command.form.halted halt
    | .ok filled =>
      let extras := extras ++ filled.extras
      if extras.isEmpty then .run name filled.given else menu.unrecognized extras

/-- Goes through the arguments up to the name of the command. -/
def walk (menu : Menu) (extras : List String) : List (Piece × String) → Reading
  | [] => .fault menu.page "the following arguments are required: command"
  | (.plain name, _) :: rest => menu.dispatch extras name (rest.map (·.2))
  | (.separator, mark) :: rest =>
    if rest.isEmpty then menu.walk (extras ++ [mark]) rest else menu.invalidChoice mark
  | (.unknown s, _) :: rest => menu.walk (extras ++ [s]) rest
  | (.option f short joined, _) :: _ =>
    match checkJoined menu.form.flags f short joined with
    | .error (.fault message) => .fault menu.page message
    | _ => .help menu.page

/-- Reads a command line. -/
def read (menu : Menu) (args : List String) : Reading :=
  match classifyAll menu.form.flags args with
  | .error message => .fault menu.page message
  | .ok pieces => menu.walk [] (pieces.zip args)

end Menu
end SchemaWipe.CommandLine
