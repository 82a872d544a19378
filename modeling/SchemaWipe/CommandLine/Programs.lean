import SchemaWipe.CommandLine.Menu

/-! The command lines of the two programs: the command for operators, production `build_parser`, and
the one that starts the service. -/
namespace SchemaWipe.CommandLine

/-- The options that both commands take: production `_add_connection_arguments`. -/
def connectionFlags : List Flag :=
  [helpFlag,
    { long := "--config", kind := .text, placeholder := "CONFIG"
      summary := "YAML config file (default: $SCHEMA_RESET_CONFIG)" },
    { long := "--env-file", kind := .text, placeholder := "ENV_FILE"
      summary := "Load variables such as PGPASSWORD from a .env file" },
    { long := "--host", kind := .text, placeholder := "HOST"
      summary := "Database host (default: $PGHOST or 127.0.0.1)" },
    { long := "--port", kind := .integer, placeholder := "PORT"
      summary := "Database port (default: $PGPORT or 5432)" },
    { long := "--user", kind := .text, placeholder := "USER"
      summary := "Database user (default: $PGUSER or postgres)" },
    { long := "--database", kind := .text, placeholder := "DATABASE"
      summary := "Database name (default: $PGDATABASE or test_db)" },
    { long := "--schema", kind := .text, placeholder := "SCHEMA"
      summary := "Target schema (default: public)" },
    { long := "--log-level", kind := .text, placeholder := "LOG_LEVEL"
      summary := "Logging level (default: info)" }]

/-- Lets a wipe go ahead without a confirmation. -/
def yesFlag : Flag where
  long := "--yes"
  kind := .switch
  summary := "Skip the interactive confirmation"

/-- Wipes a schema. -/
def wipeForm : Form where
  program := "schema-reset reset-schema"
  about := "Irreversibly drop every table in the schema, cascading to dependent objects. " ++
    "The password is read from PGPASSWORD or prompted for."
  flags := connectionFlags ++ [yesFlag]

/-- Lists the tables of a schema. -/
def listForm : Form where
  program := "schema-reset list-tables"
  flags := connectionFlags

/-- The name of the command that wipes. -/
def wipeCommand : String := "reset-schema"

/-- The name of the command that lists. -/
def listCommand : String := "list-tables"

/-- The command for operators: production `build_parser`. -/
def operatorMenu : Menu where
  form := {
    program := "schema-reset"
    about := "Drop all tables in a PostgreSQL schema in a single transaction."
    flags := [helpFlag] }
  commands := [
    { name := wipeCommand, summary := "Drop ALL tables in the schema (irreversible)"
      form := wipeForm },
    { name := listCommand, summary := "List the tables in the schema"
      form := listForm }]

/-- Starts the service. -/
def serverForm : Form where
  program := "schema-reset-server"
  about := "Start the schema-reset MCP server"
  flags := [helpFlag,
    { long := "--host", kind := .text, placeholder := "HOST"
      summary := "Interface to bind (default: 127.0.0.1)" },
    { long := "--port", kind := .integer, placeholder := "PORT"
      summary := "Port to run the server on (default: 8000)" }]

/-- Where the service listens. -/
structure Listening where
  host : String := "127.0.0.1"
  port : Int := 8000

/-- The place that the options of the service name. -/
def Listening.ofGiven (given : Named Given) : Listening :=
  let usual : Listening := {}
  let host := match given.get? "--host" with
    | some (.text s) => s
    | _ => usual.host
  let port := match given.get? "--port" with
    | some (.integer i) => i
    | _ => usual.port
  ⟨host, port⟩

/-- What the command line of the service asks for. -/
inductive ServerReading where
  | help (page : Page)
  | fault (page : Page) (message : String)
  | listen (place : Listening)

/-- Reads the command line of the service. -/
def readServer (args : List String) : ServerReading :=
  match serverForm.read args with
  | .error .help => .help serverForm.page
  | .error (.fault message) => .fault serverForm.page message
  | .ok filled =>
    if filled.extras.isEmpty then .listen (.ofGiven filled.given)
    else .fault serverForm.page ("unrecognized arguments: " ++ " ".intercalate filled.extras)

/-- The variable that tells how many columns a page has. -/
def columnsVariable : String := "COLUMNS"

/-- How many columns a page has where nothing tells it. -/
def usualColumns : Nat := 80

/-- How many columns a page has. A variable that is no positive number tells nothing. -/
def columnsOf (setting : Option String) : Nat :=
  match setting.map fun s => Number.readInteger 10 s.toList with
  | some (.ok i) => if 0 < i then i.toNat else usualColumns
  | _ => usualColumns

end SchemaWipe.CommandLine
