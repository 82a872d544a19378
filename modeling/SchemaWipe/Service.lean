import SchemaWipe.Settings.Load
import SchemaWipe.Log
import SchemaWipe.Wipe.Stop

/-! The web service that offers the tools to remote callers: production `create_combined_app`.
Beside them it answers one request of its own, which tells whether it runs. -/
namespace SchemaWipe

/-- A running service. -/
structure Service where
  database : String
  remoteResetEnabled : Bool

namespace Service

/-- The title of the service. -/
def title : String := "Schema Reset MCP App"

/-- The service that settings make: production `create_app`. Its connection has to be complete. -/
def ofSettings (settings : Settings) : Except Settings.Fault Service := do
  settings.connection.ensureComplete
  pure ⟨settings.connection.database, settings.server.allowRemoteReset⟩

/-- An answer to a web request. -/
inductive Response where
  | healthy (service : Service)
  | notAllowed
  | notFound

/-- The status of an answer. -/
def Response.status : Response → Nat
  | healthy _ => 200
  | notAllowed => 405
  | notFound => 404

/-- The fields of an answer. -/
def Response.fields : Response → Named Value
  | healthy service =>
    [("message", .text "Schema Reset MCP Server is running"), ("status", .text "healthy"),
      ("database", .text service.database),
      ("remote_reset_enabled", .bool service.remoteResetEnabled)]
  | notAllowed => [("detail", .text "Method Not Allowed")]
  | notFound => [("detail", .text "Not Found")]

/-- The part of an address that names a resource: what stands before a query or a fragment. -/
def resource (address : String) : List Char :=
  address.toList.takeWhile fun c => c != '?' && c != '#'

/-- Answers a request: production `health_check`. Only the root is known, and it can only be read.
-/
def respond (service : Service) (method address : String) : Response :=
  let place := resource address
  if place = ['/'] ∨ place = [] then
    if method = "GET" then .healthy service else .notAllowed
  else .notFound

/-- The variable that names the file of the settings. -/
def pathVariable : String := "SCHEMA_RESET_CONFIG"

/-- The file of the settings where nothing names one. -/
def usualPath : String := "config.example.yml"

/-- Reads the settings, sets the log up and makes the service: production `create_combined_app`. An
empty path is none. -/
def start (files : Files) (path : Option String) (env : Settings.Variables) (setup : Log.Setup) :
    Except Stop Service × Log.Setup :=
  let path := (path.filter (!·.isEmpty)).getD ((env.get? pathVariable).getD usualPath)
  match Settings.load files (some path) env [] with
  | .error e => (.error (.ofSettings e), setup)
  | .ok settings =>
    match setup.configure settings.observability.logLevel with
    | (.error cause, setup) => (.error (.breakdown cause), setup)
    | (.ok (), setup) => ((ofSettings settings).mapError .fault, setup)

end Service
end SchemaWipe
