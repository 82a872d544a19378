import SchemaWipe.Database.Call

/-! How a wipe or a listing fails at the database: at which stage, and by which error. All else
about a failure follows from these two: the class that production `_translate` gives it, its table
and its message. -/
namespace SchemaWipe.Wipe
open Database

/-- The stage at which the database raised an error. -/
inductive Stage where
  | connecting (target : Connection)
  /-- Opening a cursor, or committing. -/
  | transaction
  | relaxing
  | listing
  | dropping (table : String)
  | restoring
  deriving DecidableEq

/-- A failure. -/
structure Failure where
  stage : Stage
  schema : String
  cause : Error
  deriving DecidableEq

/-- What kind of failure it is to the caller: production `ResetError` and its subclasses. -/
inductive Category where
  | general
  | connection
  | privilege
  | metadata
  | drop
  deriving DecidableEq

/-- The name of a category. -/
def Category.name : Category → String
  | general => "ResetError"
  | connection => "DatabaseConnectionError"
  | privilege => "PrivilegeError"
  | metadata => "MetadataQueryError"
  | drop => "DropError"

/-- Categories go by different names. -/
theorem Category.name_injective {a b : Category} (same : a.name = b.name) : a = b := by
  revert same
  cases a <;> cases b <;> decide

/-- No error from elsewhere goes by the name of a category. -/
theorem Category.name_reserved (category : Category) : category.name ∈ reservedNames := by
  cases category <;> decide

/-- The exit code of a command that fails so: the `exit_code` of its class. -/
def Category.exitCode : Category → Nat
  | general => 1
  | connection => 3
  | privilege => 4
  | metadata => 5
  | drop => 6

/-- The stage that a call of an open connection belongs to. -/
def Stage.ofCall : Call → Stage
  | .relax => .relaxing
  | .list _ | .fetch => .listing
  | .drop _ table => .dropping table
  | .restore => .restoring
  | _ => .transaction

/-- The category of a failure at a stage, unless a privilege was missing. -/
def Stage.category : Stage → Category
  | connecting _ => .connection
  | listing => .metadata
  | dropping _ => .drop
  | _ => .general

namespace Failure

/-- Whether a missing privilege is told apart, as production `_translate` does. While connecting it
is not. -/
def lacksPrivilege (f : Failure) : Bool :=
  match f.stage with
  | .connecting _ => false
  | _ => f.cause.kind = .privilege

/-- The category of a failure. -/
def category (f : Failure) : Category :=
  if f.lacksPrivilege then .privilege else f.stage.category

/-- The table that was being dropped. -/
def table? (f : Failure) : Option String :=
  match f.stage with
  | .dropping table => some table
  | _ => none

/-- What could not be done. -/
def attempt (f : Failure) : String :=
  match f.stage with
  | .connecting c => s!"Could not connect to {c.host}:{c.port}/{c.database} as {c.user}"
  | .transaction => s!"Could not commit reset of schema {f.schema}"
  | .relaxing => "Could not disable referential integrity"
  | .listing => s!"Could not list tables in schema {f.schema}"
  | .dropping table => s!"Could not drop table {f.schema}.{table}"
  | .restoring => "Could not restore referential integrity"

/-- The explanation of a failure: the message of production `_translate`, and of `_connect`. -/
def message (f : Failure) : String :=
  if f.lacksPrivilege then s!"{f.attempt}: permission denied ({f.cause.text})"
  else s!"{f.attempt}: {f.cause.text}"

end Failure
end SchemaWipe.Wipe
