import SchemaWipe.Settings.Error

/-! The settings of the program: how to connect, what to wipe, what is allowed and what is
logged. -/
namespace SchemaWipe

/-- How to reach a database: production `ConnectionConfig`. -/
structure Connection where
  host : String := "127.0.0.1"
  port : Int := 5432
  user : String := "postgres"
  password : String := ""
  database : String := "test_db"
  connectTimeout : Int := 10
  deriving DecidableEq

/-- What a wipe is aimed at and whether an operator has to confirm it: production `ResetConfig`. -/
structure WipePolicy where
  schema : String := "public"
  requireConfirmation : Bool := true
  deriving DecidableEq

/-- What remote callers may do: production `ServerConfig`. -/
structure ServerPolicy where
  allowRemoteReset : Bool := false
  deriving DecidableEq

/-- What is logged: production `ObservabilityConfig`. -/
structure Observability where
  logLevel : String := "info"
  deriving DecidableEq

/-- All settings: production `AppConfig`. -/
structure Settings where
  connection : Connection := {}
  reset : WipePolicy := {}
  server : ServerPolicy := {}
  observability : Observability := {}
  deriving DecidableEq

namespace Connection

/-- The same connection with another password: production `with_password`. -/
def withPassword (c : Connection) (password : String) : Connection :=
  { c with password }

/-- The fields that a connection needs, by name. -/
def required (c : Connection) : List (String × String) :=
  [("host", c.host), ("user", c.user), ("password", c.password), ("database", c.database)]

/-- The names of needed fields that are empty. -/
def missing (c : Connection) : List String :=
  (c.required.filter (·.2.isEmpty)).map (·.1)

/-- Refuses a connection with an empty field that it needs: production `ensure_connection_complete`.
-/
def ensureComplete (c : Connection) : Except Settings.Fault Unit :=
  if c.missing.isEmpty then .ok () else .error (.connectionIncomplete c.missing)

/-- A connection as it is shown. The password is left out. -/
def text (c : Connection) : String :=
  s!"ConnectionConfig(host={Text.quoted c.host}, port={c.port}, user={Text.quoted c.user}, " ++
    s!"database={Text.quoted c.database}, connect_timeout={c.connectTimeout})"

end Connection
end SchemaWipe
