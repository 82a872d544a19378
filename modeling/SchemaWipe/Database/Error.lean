import SchemaWipe.Text.Blank

/-! Errors that calls to the database raise. The driver makes them, which is not part of the
program. -/
namespace SchemaWipe.Database

/-- The name of the error that tells of a missing privilege. -/
def privilegeName : String := "InsufficientPrivilege"

/-- Names that no foreign error has. The first is the end of an iteration, by which a driver tells a
loop over a cursor that there are no more rows: the program makes no such loop, it fetches all rows
at once, and out of the production `relaxed_enforcement` the end of an iteration could not come as
it is. The others are the errors of the program itself, which no driver knows. -/
def reservedNames : List String :=
  ["StopIteration", "ConfigError", "GuardrailError", "ResetError", "DatabaseConnectionError",
    "PrivilegeError", "MetadataQueryError", "DropError"]

/-- What kind of error it is. The last kind does not come from the database at all. -/
inductive ErrorKind where
  | privilege
  | database (name : String) (ordinary : name ≠ privilegeName := by decide)
  | foreign (name : String) (unreserved : name ∉ reservedNames := by decide)
  deriving DecidableEq

/-- An error of a call. The server may have sent a text of its own. -/
structure Error where
  kind : ErrorKind
  message : String
  serverText : Option String := none
  deriving DecidableEq

/-- Whether an error comes from the database. -/
def Error.isDatabase (e : Error) : Bool :=
  match e.kind with
  | .foreign .. => false
  | _ => true

/-- The text of an error: what the server sent, if anything, without the blanks around it.
Production `_error_message`. -/
def Error.text (e : Error) : String :=
  let shown := match e.serverText with
    | some s => if s.isEmpty then e.message else s
    | none => e.message
  String.ofList (Text.trim shown.toList)

end SchemaWipe.Database
