import SchemaWipe.Files
import SchemaWipe.Settings.Error

/-! Variables, and the files that set them line by line: production `parse_env_line` and
`load_env_file`. -/
namespace SchemaWipe.Settings

/-- Variables by name. -/
abbrev Variables := Named String

namespace Variables

/-- What a line may start with before the name of a variable. -/
def exportMark : List Char := ['e', 'x', 'p', 'o', 'r', 't', ' ']

/-- A text without the mark in front, if it has one, and then without the blanks around it. -/
def dropExport (cs : List Char) : List Char :=
  if exportMark.isPrefixOf cs then Text.trim (cs.drop exportMark.length) else cs

/-- A text without the quotes around it, if it has a pair of the same kind. -/
def unquote (cs : List Char) : List Char :=
  match cs with
  | first :: second :: rest =>
    if (first = '\'' ∨ first = '"') ∧ (second :: rest).getLast? = some first then
      (second :: rest).dropLast
    else cs
  | _ => cs

/-- Reads one line: a name, an equals sign and a value, with blanks around either. Comments and
lines without a name or a sign set nothing. Production `parse_env_line`. -/
def ofLine? (line : List Char) : Option (String × String) :=
  let stripped := Text.trim line
  if stripped.isEmpty || stripped.head? = some '#' then none
  else
    let assignment := dropExport stripped
    match assignment.dropWhile (· != '=') with
    | [] => none
    | _ :: value =>
      let key := Text.trim (assignment.takeWhile (· != '='))
      if key.isEmpty then none
      else some (String.ofList key, String.ofList (unquote (Text.trim value)))

/-- The variables that lines set; the last one wins. -/
def ofLines (lines : List (List Char)) : Variables :=
  (lines.filterMap ofLine?).foldl (fun all (name, value) => Named.put name value all) []

/-- The variables that a text sets. -/
def ofText (cs : List Char) : Variables :=
  ofLines (Text.lines cs)

/-- The variables that a file sets: production `load_env_file`. -/
def ofFile (files : Files) (path : String) : Except Fault Variables :=
  let path := Path.ofText path
  match files.content? path with
  | none => .error (.envFileMissing path.text)
  | some content =>
    match Text.decodeFile? content with
    | none => .error (.envFileUndecodable path.text)
    | some text => .ok (ofText text.toList)

/-- The value of a variable, if it is set and not empty. -/
def filled? (env : Variables) (name : String) : Option String :=
  match env.get? name with
  | some value => if value.isEmpty then none else some value
  | none => none

end Variables

/-- The environment of a process: variables, each of which is there once. -/
structure Environment where
  entries : Variables := []
  distinct : (entries.map Prod.fst).Nodup := by decide

namespace Environment

/-- The environment that entries make. Of those with one name the first counts. -/
def ofEntries (entries : Variables) : Environment :=
  ⟨Named.override [] entries.reverse, Named.nodup_override_nil _⟩

/-- Sets a variable. -/
def put (environ : Environment) (name value : String) : Environment :=
  ⟨environ.entries.put name value, Named.nodup_put environ.distinct⟩

/-- Takes a variable away. -/
def remove (environ : Environment) (name : String) : Environment :=
  ⟨environ.entries.remove name, environ.distinct.sublist (List.filter_sublist.map Prod.fst)⟩

end Environment
end SchemaWipe.Settings
