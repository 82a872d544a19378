import SchemaWipe.Database.Error
import SchemaWipe.Settings.Basic
import SchemaWipe.Sql

/-! The calls that the program makes to a database, and the faults that are planted in them. -/
namespace SchemaWipe.Database

/-- A call. -/
inductive Call where
  | connect (target : Connection)
  | cursor
  | relax
  | list (schema : String)
  | fetch
  | drop (schema table : String)
  | restore
  | cursorClose
  | commit
  | rollback
  | close
  deriving DecidableEq

/-- The statement that a call sends. -/
def Call.statement? : Call → Option String
  | .relax => some Sql.relax
  | .list _ => some Sql.listTables
  | .drop schema table => some (Sql.dropTable schema table)
  | .restore => some Sql.restore
  | _ => none

/-- The values that are bound to the parameters of the statement of a call. -/
def Call.bound : Call → List String
  | .list schema => [schema]
  | _ => []

/-- The kinds of calls that can fail. -/
inductive Point where
  | connect
  | cursor
  | relax
  | list
  | fetch
  | drop
  | restore
  | commit
  | rollback
  | close
  deriving DecidableEq

/-- The kind of a call. Leaving a cursor never fails. -/
def Call.point? : Call → Option Point
  | .connect _ => some .connect
  | .cursor => some .cursor
  | .relax => some .relax
  | .list _ => some .list
  | .fetch => some .fetch
  | .drop _ _ => some .drop
  | .restore => some .restore
  | .cursorClose => none
  | .commit => some .commit
  | .rollback => some .rollback
  | .close => some .close

/-- The table that a call drops. -/
def Call.table? : Call → Option String
  | .drop _ table => some table
  | _ => none

/-- A planted fault: the calls it waits for, how often it lets them pass first, and how often it
then strikes, if there is a limit. -/
structure Fault where
  point : Point
  /-- Of calls that drop tables, only those of this one. -/
  table : Option String := none
  error : Error
  times : Option Nat := none
  skip : Nat := 0

/-- Whether a fault waits for a call. -/
def Fault.awaits (f : Fault) (c : Call) : Bool :=
  c.point? = some f.point && f.times != some 0 &&
    (f.point != .drop || f.table.isNone || f.table = c.table?)

/-- The error that a call raises, and the faults as they are after it. The first fault that no
longer lets the call pass strikes; the ones behind it do not notice the call. -/
def strike (c : Call) : List Fault → Option Error × List Fault
  | [] => (none, [])
  | f :: rest =>
    if !f.awaits c then
      let (error, rest) := strike c rest
      (error, f :: rest)
    else if 0 < f.skip then
      let (error, rest) := strike c rest
      (error, { f with skip := f.skip - 1 } :: rest)
    else (some f.error, { f with times := f.times.map (· - 1) } :: rest)

end SchemaWipe.Database
