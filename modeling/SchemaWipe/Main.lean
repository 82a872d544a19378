import SchemaWipe.Command.Run

/-! The command for operators as a program of its own. It decides nothing: it collects what a
command may look at, runs the command on a database that starts empty, and prints what came of
it. -/
namespace SchemaWipe.Program
open Command

/-- The file that holds the environment of the program. -/
def environPath : String := "/proc/self/environ"

/-- The entries of an environment, which end in zero characters. -/
def environEntries (cs : List Char) : List String :=
  ((String.ofList cs).splitOn "\x00").filter (!·.isEmpty)

/-- An entry as a variable. -/
def readEntry? (entry : String) : Option (String × String) :=
  match entry.toList.dropWhile (· != '=') with
  | [] => none
  | _ :: value => some (String.ofList (entry.toList.takeWhile (· != '=')), String.ofList value)

/-- The environment that a content holds. -/
def environOf (content : ByteArray) : Settings.Environment :=
  match String.fromUTF8? content with
  | some text => .ofEntries ((environEntries text.toList).filterMap readEntry?)
  | none => {}

/-- Reads a file, if that is possible. -/
def readFile? (path : String) : IO (Option ByteArray) := do
  try return some (← IO.FS.readBinFile path)
  catch _ => return none

/-- Adds the files at some paths to those that are known. -/
def gather (files : Files) (paths : List String) : IO Files :=
  paths.foldlM (fun files path => do
    match ← readFile? path with
    | some content => return files.write path content
    | none => return files) files

/-- The files that a command may read: the one with variables, and the one with settings. -/
def reachable (environ : Settings.Environment) (args : List String) : IO Files := do
  match CommandLine.operatorMenu.read args with
  | .run _ given =>
    let files ← gather {} (filledOf given "--env-file").toList
    match mergedVariables files environ given with
    | .ok env => gather files (configPath env given).toList
    | .error _ => return files
  | _ => return {}

/-- Runs a command. A password that it asks for is read from the input before it runs again from
the start. -/
def runAsking (args : List String) (s : Session) : IO (Ending × Terminal) := do
  let (ending, _, t) := run args s {}
  match t.questions.getLast?, ending with
  | some question, .stopped (.breakdown .endOfInput) =>
    IO.eprint question
    let line ← (← IO.getStdin).getLine
    if line.isEmpty then return (ending, t)
    let typed := String.ofList (line.toList.takeWhile (· != '\n'))
    let (ending, _, t) := run args s { passwords := [typed] }
    return (ending, t)
  | _, _ => return (ending, t)

/-- Prints what a command printed, and tells its exit code. -/
def report (ending : Ending) (t : Terminal) : IO UInt32 := do
  IO.print t.output
  IO.eprint t.errors
  match ending with
  | .returned code => return code.toUInt32
  | .exited code => return code.toUInt32
  | .stopped why =>
    IO.eprintln why.message
    return 1

end SchemaWipe.Program

def main (args : List String) : IO UInt32 := do
  let content ← SchemaWipe.Program.readFile? SchemaWipe.Program.environPath
  let environ := (content.map SchemaWipe.Program.environOf).getD {}
  let files ← SchemaWipe.Program.reachable environ args
  let (ending, terminal) ← SchemaWipe.Program.runAsking args { environ, files }
  SchemaWipe.Program.report ending terminal
