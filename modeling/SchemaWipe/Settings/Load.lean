import SchemaWipe.Yaml.Document
import SchemaWipe.Settings.Reference
import SchemaWipe.Settings.Conversion

/-! Settings from their sources: production `load_config`. A later source wins: the file, then
variables, then options. Only the value that wins is converted. -/
namespace SchemaWipe.Settings

/-- The variables that set a field of the connection: production `_ENV_CONNECTION_KEYS`. An empty
one sets nothing. -/
def connectionVariables : List (String × String) :=
  [("PGHOST", "host"), ("PGPORT", "port"), ("PGUSER", "user"), ("PGPASSWORD", "password"),
    ("PGDATABASE", "database")]

/-- The variable that sets the schema. -/
def schemaVariable : String := "SCHEMA_RESET_SCHEMA"

/-- The sections of the settings while they are put together. -/
structure Sections where
  connection : List (Value × Value)
  reset : List (Value × Value)
  server : List (Value × Value)
  observability : List (Value × Value)

namespace Sections

/-- The sections of a document. -/
def ofDocument (document : List (Value × Value)) : Except Error Sections := do
  let connection ← section? document "connection"
  let reset ← section? document "reset"
  let server ← section? document "server"
  let observability ← section? document "observability"
  pure { connection, reset, server, observability }

/-- The sections after a field of the connection got the value of a variable. -/
def applyVariable (env : Variables) (s : Sections) (entry : String × String) : Sections :=
  match env.filled? entry.1 with
  | some value => { s with connection := Value.put entry.2 (.text value) s.connection }
  | none => s

/-- The sections after the variables. -/
def applyVariables (env : Variables) (s : Sections) : Sections :=
  let s := connectionVariables.foldl (applyVariable env) s
  match env.filled? schemaVariable with
  | some value => { s with reset := Value.put "schema" (.text value) s.reset }
  | none => s

/-- The sections after an option. Null is no value; options beside the schema and the log level
belong to the connection. -/
def applyOption (s : Sections) (option : String × Value) : Sections :=
  match option with
  | (_, .null) => s
  | (name, value) =>
    if name = "schema" then { s with reset := Value.put "schema" value s.reset }
    else if name = "log_level" then
      { s with observability := Value.put "log_level" value s.observability }
    else { s with connection := Value.put name value s.connection }

/-- The value under a name, or the usual one. -/
def getD (entries : List (Value × Value)) (name : String) (usual : Value) : Value :=
  (Value.find? name entries).getD usual

/-- The connection of the sections. -/
def toConnection (s : Sections) : Except Error Connection := do
  let host ← text s.connection "host" "127.0.0.1"
  let port ← port (getD s.connection "port" (.int 5432))
  let user ← text s.connection "user" "postgres"
  let password ← text s.connection "password" ""
  let database ← text s.connection "database" "test_db"
  let connectTimeout ← timeout (getD s.connection "connect_timeout" (.int 10))
  if host.isEmpty || user.isEmpty || database.isEmpty then throw (.fault .connectionBlank)
  pure { host, port, user, password, database, connectTimeout }

/-- The settings of the sections. An empty log level is the usual one. -/
def toSettings (s : Sections) : Except Error Settings := do
  let connection ← s.toConnection
  let schema ← text s.reset "schema" "public"
  let requireConfirmation ←
    switch "require_confirmation" (getD s.reset "require_confirmation" (.bool true))
  let allowRemoteReset ←
    switch "allow_remote_reset" (getD s.server "allow_remote_reset" (.bool false))
  let level ← text s.observability "log_level" "info"
  pure {
    connection
    reset := { schema, requireConfirmation }
    server := { allowRemoteReset }
    observability := { logLevel := if level.isEmpty then "info" else level } }

end Sections

/-- The settings that a document, variables and options make. -/
def combine (document : List (Value × Value)) (env : Variables) (options : Named Value) :
    Except Error Settings := do
  let sections ← Sections.ofDocument document
  (options.foldl Sections.applyOption (sections.applyVariables env)).toSettings

/-- The mapping that the value of a document is. One that says nothing is empty. -/
def topMapping (value : Value) : Except Fault (List (Value × Value)) :=
  if value.isBlank then .ok []
  else match value with
    | .mapping entries => .ok entries
    | _ => .error .notMapping

/-- The document that a stored text is, with references to variables resolved: production
`_read_yaml`. -/
def readDocument (path : Path) (content : ByteArray) (env : Variables) :
    Except Error (List (Value × Value)) := do
  let unreadable : Error := .fault (.configFileUnreadable path.text)
  let text ← match Text.decodeFile? content with
    | some text => pure text
    | none => throw unreadable
  let value ← match Yaml.load text.toList with
    | .ok value => pure value
    | .error .malformed => throw unreadable
    | .error (.breakdown cause) => throw (.breakdown cause)
  let entries ← (topMapping value).mapError .fault
  resolveEntries env entries

/-- The document at a path; without a path it is empty. -/
def document (files : Files) (path : Option String) (env : Variables) :
    Except Error (List (Value × Value)) :=
  match path with
  | none => .ok []
  | some path =>
    let path := Path.ofText path
    match files.content? path with
    | none => .error (.fault (.configFileMissing path.text))
    | some content => readDocument path content env

/-- Reads the settings: production `load_config`. -/
def load (files : Files) (path : Option String) (env : Variables) (options : Named Value) :
    Except Error Settings := do
  let entries ← document files path env
  combine entries env options

end SchemaWipe.Settings
