import SchemaWipe.Wipe.Job

/-! What remote callers can ask for: the tools of production `load_tools`. A wipe has to be allowed
by the settings and confirmed by the caller; a listing is always allowed. Requests are served one
after the other on one world. -/
namespace SchemaWipe.Remote
open Wipe

/-- The names under which production `load_tools` offers the tools. -/
def toolNames : List String := ["list_tables", "reset_schema"]

/-- The schema that a listing is about: the given one, or the one of the settings if none is given
or it is empty. -/
def target (settings : Settings) : Option String → String
  | some schema => if schema.isEmpty then settings.reset.schema else schema
  | none => settings.reset.schema

/-- Lists the tables of a schema; the answer starts with its name. Production tool `list_tables`. -/
def list (settings : Settings) (schema request : Option String) (w : World) :
    Except Stop (String × List String) × World :=
  let (id, w) := w.requestOr request
  match Guard.identifier "schema" (some (target settings schema)) with
  | .error refusal => (.error (.refusal refusal), w)
  | .ok name =>
    let (outcome, w) := Wipe.list settings.connection (some name) (some id) w
    (outcome.map fun tables => (name, tables), w)

/-- The checks before a remote wipe, in the order of the production tool `reset_schema`. -/
def approve (settings : Settings) (schema answer : Option String) :
    Except Guard.Refusal String := do
  Guard.remoteAllowed settings.server.allowRemoteReset
  let name ← Guard.identifier "schema" schema
  Guard.confirm name answer
  pure name

/-- Wipes a schema: production tool `reset_schema`. -/
def wipe (settings : Settings) (schema answer request : Option String) (w : World) :
    Except Stop Report × World :=
  match approve settings schema answer with
  | .error refusal => (.error (.refusal refusal), w)
  | .ok name =>
    let (id, w) := w.requestOr request
    Wipe.wipe settings.connection (some name) (some id) w

/-- A request of a remote caller: the arguments of one of the tools. -/
inductive Request where
  | list (schema id : Option String)
  | wipe (schema answer id : Option String)

/-- The answer to a request: fields by name, or why there are none. -/
abbrev Answer := Except Stop (Named Value)

/-- A listing as its fields. -/
def listingFields (schema : String) (tables : List String) : Named Value :=
  [("schema", .text schema), ("tables", .list (tables.map .text))]

/-- Serves a request. -/
def serve (settings : Settings) (request : Request) (w : World) : Answer × World :=
  match request with
  | .list schema id =>
    let (outcome, w) := list settings schema id w
    (outcome.map fun (name, tables) => listingFields name tables, w)
  | .wipe schema answer id =>
    let (outcome, w) := wipe settings schema answer id w
    (outcome.map Report.fields, w)

/-- Serves requests one after the other. -/
def serveAll (settings : Settings) : List Request → World → List Answer × World
  | [], w => ([], w)
  | request :: rest, w =>
    let (answer, w) := serve settings request w
    let (answers, w) := serveAll settings rest w
    (answer :: answers, w)

end SchemaWipe.Remote
