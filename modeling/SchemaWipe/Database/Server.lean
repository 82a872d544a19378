import SchemaWipe.Database.Call
import SchemaWipe.Named

/-! A database server as its clients see it. A connection works on a copy of the tables, which only
a commit makes the server's own; every call is on record, also one that fails. A call other than a
commit changes nothing that is committed (`catalog_perform_of_ne`). -/
namespace SchemaWipe.Database

/-- The tables of each schema, in the order in which they are stored. -/
abbrev Catalog := Named (List String)

/-- The tables of a schema; an unknown one has none. -/
def Catalog.tables (catalog : Catalog) (schema : String) : List String :=
  (catalog.get? schema).getD []

/-- The catalog after some tables of a schema are gone. -/
def Catalog.without (catalog : Catalog) (schema : String) (gone : List String) : Catalog :=
  catalog.map fun (name, tables) =>
    if name = schema then (name, tables.filter (!gone.contains ·)) else (name, tables)

/-- A call that was made, and the error that it raised, if any. -/
structure Exchange where
  call : Call
  error : Option Error
  deriving DecidableEq

/-- A server with at most one open connection. -/
structure Server where
  /-- What is committed. -/
  catalog : Catalog := []
  /-- The tables that go together with a table. -/
  cascades : Named (List String) := []
  faults : List Fault := []
  /-- The copy that the open connection works on, once it has touched a table. -/
  working : Option Catalog := none
  /-- The rows that the last query found. -/
  rows : List String := []
  /-- The calls made so far, in order. -/
  record : List Exchange := []

namespace Server

/-- The calls made so far, in order. -/
def calls (s : Server) : List Call :=
  s.record.map (·.call)

/-- The catalog as the open connection sees it. -/
def view (s : Server) : Catalog :=
  s.working.getD s.catalog

/-- The effect of a call that succeeds. -/
def apply (s : Server) : Call → Server
  | .connect _ => { s with working := none, rows := [] }
  | .list schema => { s with working := some s.view, rows := Catalog.tables s.view schema }
  | .drop schema table =>
    let gone := table :: (s.cascades.get? table).getD []
    { s with working := some (Catalog.without s.view schema gone) }
  | .commit => { s with catalog := s.view, working := none }
  | .rollback | .close => { s with working := none }
  | _ => s

/-- Makes a call: it goes on record, may meet a fault, and else has its effect. -/
def perform (s : Server) (c : Call) : Option Error × Server :=
  let (error, faults) := strike c s.faults
  let s := { s with record := s.record ++ [⟨c, error⟩], faults }
  match error with
  | some e => (some e, s)
  | none => (none, s.apply c)

theorem record_apply (s : Server) (c : Call) : (s.apply c).record = s.record := by
  cases c <;> rfl

theorem catalog_apply_of_ne {c : Call} (other : c ≠ .commit) (s : Server) :
    (s.apply c).catalog = s.catalog := by
  cases c with
  | commit => exact absurd rfl other
  | _ => rfl

/-- Every call goes on record, with the error that the faults give it. -/
theorem record_perform (s : Server) (c : Call) :
    (s.perform c).2.record = s.record ++ [⟨c, (strike c s.faults).1⟩] := by
  unfold perform
  cases struck : strike c s.faults with
  | mk error faults =>
    cases error with
    | none => exact record_apply _ c
    | some e => rfl

theorem error_perform (s : Server) (c : Call) : (s.perform c).1 = (strike c s.faults).1 := by
  unfold perform
  cases struck : strike c s.faults with
  | mk error faults => cases error <;> rfl

/-- Only a commit that raises nothing changes what is committed. -/
theorem catalog_perform_of_ne {c : Call} (other : c ≠ .commit) (s : Server) :
    (s.perform c).2.catalog = s.catalog := by
  unfold perform
  cases struck : strike c s.faults with
  | mk error faults =>
    cases error with
    | none => exact catalog_apply_of_ne other _
    | some e => rfl

end Server
end SchemaWipe.Database
