import SchemaWipe.Wipe.World

/-! Wiping a schema and listing its tables: production `reset` and `list_tables` of
`SchemaResetter`. A wipe drops every table in one transaction: the calls of a script are made in
order up to the first one that fails, and what a failure leaves open is cleaned up behind it. The
connection is closed in any case. -/
namespace SchemaWipe.Wipe
open Database

/-- What is to be done to which schema, and the id under which it is logged. -/
structure Job where
  connection : Connection
  schema : String
  request : Option String

/-- What a wipe reports: production `ResetResult`. -/
structure Report where
  schema : String
  dropped : List String
  deriving DecidableEq

namespace Report

/-- How many tables were dropped: production `table_count`. -/
def count (r : Report) : Nat :=
  r.dropped.length

/-- A report as its fields: production `as_dict`. -/
def fields (r : Report) : Named Value :=
  [("schema", .text r.schema), ("dropped_tables", .list (r.dropped.map .text)),
    ("table_count", .int r.count)]

/-- A report as it is shown. -/
def text (r : Report) : String :=
  s!"ResetResult(schema={Text.quoted r.schema}, dropped_tables=[" ++
    ", ".intercalate (r.dropped.map Text.quoted) ++ "])"

end Report

namespace Job

/-- The fields that most records of a job have. -/
def fields (job : Job) (more : Named Value) : Named Value :=
  Log.present ([("request_id", Log.optional job.request), ("schema", .text job.schema)] ++ more)

/-- The record of a call that succeeded, if it has one. -/
def note? (job : Job) (server : Server) : Call → Option Log.Record
  | .connect target =>
    some ⟨.info, "Connected",
      Log.connectionFields target [("request_id", Log.optional job.request)]⟩
  | .fetch =>
    some ⟨.info, "Tables discovered", job.fields [("table_count", .int server.rows.length)]⟩
  | .drop _ table => some ⟨.debug, "Table dropped", job.fields [("table", .text table)]⟩
  | _ => none

/-- Makes a call and records its success. -/
def step (job : Job) (c : Call) (w : World) : Option Error × World :=
  match w.call c with
  | (some e, w) => (some e, w)
  | (none, w) =>
    match job.note? w.server c with
    | some r => (none, w.write r)
    | none => (none, w)

/-- Makes calls in order, up to the first one that fails. -/
def script (job : Job) : List Call → World → Option (Call × Error) × World
  | [], w => (none, w)
  | c :: rest, w =>
    match job.step c w with
    | (some e, w) => (some (c, e), w)
    | (none, w) => job.script rest w

/-- Connects to the database: production `_connect`. -/
def connect (job : Job) (w : World) : Except Stop Unit × World :=
  match job.step (.connect job.connection) w with
  | (none, w) => (.ok (), w)
  | (some e, w) =>
    if e.isDatabase then
      (.error (.failure ⟨.connecting job.connection, job.schema, e⟩),
        w.write ⟨.warning, "Database connection failed",
          Log.connectionFields job.connection
            [("request_id", Log.optional job.request), ("error_message", .text e.text)]⟩)
    else (.error (.raised e), w)

/-- Closes the connection, whatever the outcome. An error then takes its place. -/
def close {α : Type} (outcome : Except Stop α) (w : World) : Except Stop α × World :=
  match w.call .close with
  | (none, w) => (outcome, w)
  | (some e, w) => (.error (.raised e), w)

/-- Whether a call is made while a cursor is open. -/
def needsCursor : Call → Bool
  | .relax | .list _ | .fetch | .drop _ _ | .restore => true
  | _ => false

/-- Leaves the cursor after a call failed, if it was open. -/
def leaveCursor (failed : Call) (w : World) : World :=
  if needsCursor failed then (w.call .cursorClose).2 else w

/-- The calls of a wipe up to where the tables are known: production `relaxed_enforcement` up to its
block, and `_fetch_tables`. -/
def opening (job : Job) : List Call :=
  [.cursor, .relax, .list job.schema, .fetch]

/-- The calls of a wipe from where the tables are known: production `_drop_table` for each of them,
the rest of `relaxed_enforcement`, and the commit. -/
def dropping (job : Job) (tables : List String) : List Call :=
  tables.map (.drop job.schema) ++ [.restore, .cursorClose, .commit]

/-- The transaction of a wipe: the tables it dropped, or the call that failed and its error. -/
def transaction (job : Job) (w : World) : Except (Call × Error) (List String) × World :=
  match job.script job.opening w with
  | (some failed, w) => (.error failed, w)
  | (none, w) =>
    let tables := w.server.rows
    match job.script (job.dropping tables) w with
    | (some failed, w) => (.error failed, w)
    | (none, w) => (.ok tables, w)

/-- The record of a transaction that was rolled back. -/
def rolledBack (job : Job) (f : Failure) : Log.Record :=
  if f.stage = .transaction then
    ⟨.warning, "Schema reset commit failed, rolled back", job.fields []⟩
  else
    ⟨.warning, "Schema reset failed, rolled back",
      job.fields [("table", Log.optional f.table?), ("error_kind", .text f.category.name),
        ("error_message", .text f.message)]⟩

/-- The record of a rollback that failed. -/
def rollbackFailed (job : Job) (e : Error) : Log.Record :=
  ⟨.warning, "Rollback failed, transaction discarded on close",
    Log.present [("request_id", Log.optional job.request), ("error_message", .text e.text)]⟩

/-- Rolls back after an error of the database: production `_rollback`. That the rollback fails too
is only recorded, unless its error does not come from the database. -/
def rollBack (job : Job) (f : Failure) (w : World) : Stop × World :=
  match w.call .rollback with
  | (none, w) => (.failure f, w.write (job.rolledBack f))
  | (some e, w) =>
    if e.isDatabase then
      (.failure f, (w.write (job.rollbackFailed e)).write (job.rolledBack f))
    else (.raised e, w)

/-- Cleans up after a call failed. An error that does not come from the database is not explained,
and nothing is rolled back for it. -/
def recover (job : Job) (failed : Call × Error) (w : World) : Stop × World :=
  let w := leaveCursor failed.1 w
  if failed.2.isDatabase then job.rollBack ⟨.ofCall failed.1, job.schema, failed.2⟩ w
  else (.raised failed.2, w)

/-- The record of a transaction that was committed. -/
def committed (job : Job) (tables : List String) : Log.Record :=
  ⟨.info, "Schema reset committed", job.fields [("table_count", .int tables.length)]⟩

/-- Wipes the schema: production `reset` behind its checks. -/
def wipe (job : Job) (w : World) : Except Stop Report × World :=
  match job.connect w with
  | (.error stop, w) => (.error stop, w)
  | (.ok (), w) =>
    let (outcome, w) : Except Stop (List String) × World :=
      match job.transaction w with
      | (.ok tables, w) => (.ok tables, w)
      | (.error failed, w) =>
        let (stop, w) := job.recover failed w
        (.error stop, w)
    match close outcome w with
    | (.error stop, w) => (.error stop, w)
    | (.ok tables, w) => (.ok ⟨job.schema, tables⟩, w.write (job.committed tables))

/-- The calls of a listing. -/
def listing (job : Job) : List Call :=
  [.cursor, .list job.schema, .fetch, .cursorClose, .rollback]

/-- Why a listing ends when one of its calls fails. Only the query is explained. -/
def listingStop (job : Job) (failed : Call × Error) : Stop :=
  if needsCursor failed.1 && failed.2.isDatabase then
    .failure ⟨.listing, job.schema, failed.2⟩
  else .raised failed.2

/-- Lists the tables of the schema: production `list_tables` behind its checks. -/
def list (job : Job) (w : World) : Except Stop (List String) × World :=
  match job.connect w with
  | (.error stop, w) => (.error stop, w)
  | (.ok (), w) =>
    match job.script job.listing w with
    | (some failed, w) => close (.error (job.listingStop failed)) (leaveCursor failed.1 w)
    | (none, w) =>
      let tables := w.server.rows
      close (.ok tables) w

end Job

/-- The checks before any call: a schema that is an identifier and a complete connection. -/
def approve (connection : Connection) (schema : Option String) : Except Stop String := do
  let name ← (Guard.identifier "schema" schema).mapError .refusal
  connection.ensureComplete.mapError .fault
  pure name

/-- Wipes a schema, under the given request id or a new one: production `SchemaResetter.reset`. -/
def wipe (connection : Connection) (schema request : Option String) (w : World) :
    Except Stop Report × World :=
  match approve connection schema with
  | .error stop => (.error stop, w)
  | .ok name =>
    let (id, w) := w.requestOr request
    Job.wipe ⟨connection, name, some id⟩ w

/-- Lists the tables of a schema: production `SchemaResetter.list_tables`. -/
def list (connection : Connection) (schema request : Option String) (w : World) :
    Except Stop (List String) × World :=
  match approve connection schema with
  | .error stop => (.error stop, w)
  | .ok name => Job.list ⟨connection, name, request⟩ w

end SchemaWipe.Wipe
