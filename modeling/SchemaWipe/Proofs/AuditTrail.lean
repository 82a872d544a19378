import SchemaWipe.Proofs.Atomicity
import SchemaWipe.Proofs.Explanation

/-! The log of a wipe is an audit trail: it tells of every call that connected, found or dropped
tables, or committed, in their order, and of nothing else but of what failed. What is told of a
failure is what the caller is told. -/
namespace SchemaWipe.Wipe
open Database

namespace Audit

/-- The fields of a record about a schema. -/
def about (name id : String) (more : Named Value) : Named Value :=
  ("request_id", .text id) :: ("schema", .text name) :: more

/-- The fields of a record about a connection. -/
def toward (c : Connection) (id : String) (more : Named Value) : Named Value :=
  [("host", .text c.host), ("port", .int c.port), ("database", .text c.database),
    ("db_user", .text c.user), ("request_id", .text id)] ++ more

def connected (c : Connection) (id : String) : Log.Record :=
  ⟨.info, "Connected", toward c id []⟩

def discovered (name id : String) (count : Nat) : Log.Record :=
  ⟨.info, "Tables discovered", about name id [("table_count", .int count)]⟩

def dropped (name id table : String) : Log.Record :=
  ⟨.debug, "Table dropped", about name id [("table", .text table)]⟩

def committed (name id : String) (count : Nat) : Log.Record :=
  ⟨.info, "Schema reset committed", about name id [("table_count", .int count)]⟩

def unreachable (c : Connection) (id : String) (e : Error) : Log.Record :=
  ⟨.warning, "Database connection failed", toward c id [("error_message", .text e.text)]⟩

def rollbackFailed (id : String) (e : Error) : Log.Record :=
  ⟨.warning, "Rollback failed, transaction discarded on close",
    [("request_id", .text id), ("error_message", .text e.text)]⟩

/-- The warning behind a call that failed. Where that was a statement or the fetch, it tells the
failure that is raised: its class, its text and its table, if it has one. -/
def rolledBack (name id : String) (failed : Call) (f : Failure) : Log.Record :=
  if Job.needsCursor failed then
    ⟨.warning, "Schema reset failed, rolled back",
      about name id ((f.table?.map fun table => ("table", .text table)).toList ++
        [("error_kind", .text f.category.name), ("error_message", .text f.message)])⟩
  else ⟨.warning, "Schema reset commit failed, rolled back", about name id []⟩

/-- The records of a wipe that reports the tables it dropped. -/
def story (c : Connection) (name id : String) (tables : List String) : List Log.Record :=
  [connected c id, discovered name id tables.length] ++ tables.map (dropped name id) ++
    [committed name id tables.length]

/-- What is told of an exchange that passed, where a wipe finds some tables. -/
def told (name id : String) (tables : List String) : Exchange → Option Log.Record
  | ⟨.connect c, none⟩ => some (connected c id)
  | ⟨.fetch, none⟩ => some (discovered name id tables.length)
  | ⟨.drop _ table, none⟩ => some (dropped name id table)
  | ⟨.commit, none⟩ => some (committed name id tables.length)
  | _ => none

/-- What is told of the rollback: nothing, unless it failed. -/
inductive Undone (id : String) (exchanges : List Exchange) : List Log.Record → Prop where
  | passed (quiet : ∀ e, Exchange.mk .rollback (some e) ∉ exchanges) : Undone id exchanges []
  | failed {e : Error} (raised : ⟨.rollback, some e⟩ ∈ exchanges) :
      Undone id exchanges [rollbackFailed id e]

end Audit

open Audit

/-- The records and the outcome of a wipe are told faithfully by its exchanges. -/
inductive Audited (c : Connection) (name id : String) (tables : List String)
    (exchanges : List Exchange) : List Log.Record → Except Stop Report → Prop where
  /-- No call failed: the whole story is told. -/
  | reported (unraised : firstRaised exchanges = none) :
      Audited c name id tables exchanges (story c name id tables) (.ok ⟨name, tables⟩)
  /-- No connection came about: this is the only record. -/
  | unreachable {e : Error} (first : firstRaised exchanges = some ⟨.connect c, some e⟩) :
      Audited c name id tables exchanges [Audit.unreachable c id e]
        (.error (.failure ⟨.connecting c, name, e⟩))
  /-- A call failed behind the connecting: the story is told as far as its calls passed, and then
  how the failure was dealt with. -/
  | broken {failed : Call} {e : Error} {f : Failure} {undone : List Log.Record}
      (opened : (Call.connect c).passed ∈ exchanges)
      (first : firstRaised exchanges = some ⟨failed, some e⟩)
      (uncommitted : Call.commit.passed ∉ exchanges)
      (part : exchanges.filterMap (told name id tables) <+: story c name id tables)
      (undoes : Undone id exchanges undone) :
      Audited c name id tables exchanges
        (exchanges.filterMap (told name id tables) ++ undone ++ [rolledBack name id failed f])
        (.error (.failure f))

variable {c target : Connection} {name id : String} {tables : List String} {calls passed : List Call}
  {failed : Call} {e : Error} {exchanges : List Exchange} {course : Course}

/-- What is told of a call that passed is what a job notes of it; of a commit nothing is noted
before the connection is closed. -/
theorem told_passed (c : Connection) (name id : String) (tables : List String) {call : Call}
    (other : call ≠ .commit) :
    told name id tables call.passed = Job.note? ⟨c, name, some id⟩ { rows := tables } call := by
  cases call <;> first | rfl | exact absurd rfl other

theorem told_calls (c : Connection) (name id : String) (tables : List String)
    (uncommitted : .commit ∉ calls) :
    (calls.map Call.passed).filterMap (told name id tables) =
      notes ⟨c, name, some id⟩ tables calls := by
  induction calls with
  | nil => rfl
  | cons first rest ih =>
    rw [List.mem_cons, not_or] at uncommitted
    rw [notes_cons, ← ih uncommitted.2, ← told_passed c name id tables (Ne.symm uncommitted.1),
      List.map_cons, List.filterMap_cons]
    cases told name id tables first.passed <;> rfl

/-- What a job notes of its plan: what it found and what it dropped. -/
theorem notes_plan (c : Connection) (name id : String) (tables : List String) :
    notes ⟨c, name, some id⟩ tables (plan name tables) =
      discovered name id tables.length :: tables.map (dropped name id) := by
  have drops : notes ⟨c, name, some id⟩ tables (tables.map (.drop name)) =
      tables.map (dropped name id) := by
    unfold notes
    rw [List.filterMap_map]
    exact congrFun (List.filterMap_eq_map (f := dropped name id)) tables
  have opening : notes ⟨c, name, some id⟩ tables [.cursor, .relax, .list name, .fetch] =
      [discovered name id tables.length] := rfl
  have ending : notes ⟨c, name, some id⟩ tables [.restore, .cursorClose, .commit] = [] := rfl
  rw [plan, notes_append, notes_append, opening, drops, ending, List.append_nil]
  rfl

/-- A wipe that completes quietly leaves the story. -/
theorem records_completed (c : Connection) (name id : String) (tables : List String) :
    (Course.completed none).records ⟨c, name, some id⟩ tables = story c name id tables := by
  simp only [Course.records, notes_plan]
  rfl

/-- Of a course that breaks, what is told are the records of the calls that passed. -/
theorem told_broken (c : Connection) (name id : String) (tables : List String)
    (uncommitted : .commit ∉ passed) (rollback closing : Option Error) :
    ((Course.broken passed failed e rollback closing).exchanges c calls).filterMap
        (told name id tables) =
      connected c id :: notes ⟨c, name, some id⟩ tables passed := by
  have cleaned : (Course.cleaning passed e rollback closing).filterMap (told name id tables) = [] := by
    rw [List.filterMap_eq_nil_iff]
    intro x member
    rcases Course.mem_cleaning member with rfl | ⟨-, rfl⟩ | rfl <;> rfl
  have unsaid : told name id tables ⟨failed, some e⟩ = none := by
    cases failed <;> rfl
  have said : told name id tables (Call.connect c).passed = some (connected c id) := rfl
  simp only [Course.exchanges, List.cons_append, List.filterMap_cons, List.filterMap_append, said,
    unsaid, cleaned, told_calls c name id tables uncommitted, List.append_nil]

/-- What a job records of a rollback. -/
theorem undoNotes_eq (c : Connection) (name id : String) (failed : Call) (e : Error)
    {rollback : Option Error} (database : ∀ r, rollback = some r → r.isDatabase = true) :
    ∃ undone, undoNotes ⟨c, name, some id⟩ ⟨.ofCall failed, name, e⟩ rollback =
        undone ++ [rolledBack name id failed ⟨.ofCall failed, name, e⟩] ∧
      ∀ exchanges, (∀ r, ⟨.rollback, some r⟩ ∈ exchanges ↔ rollback = some r) →
        Undone id exchanges undone := by
  have last : Job.rolledBack ⟨c, name, some id⟩ ⟨.ofCall failed, name, e⟩ =
      rolledBack name id failed ⟨.ofCall failed, name, e⟩ := by
    cases failed <;> rfl
  cases rollback with
  | none =>
    refine ⟨[], by rw [undoNotes, last]; rfl, fun exchanges raised => .passed fun r member => ?_⟩
    cases (raised r).mp member
  | some r =>
    refine ⟨[rollbackFailed id r], ?_, fun exchanges raised => .failed ((raised r).mpr rfl)⟩
    rw [undoNotes, if_pos (database r rfl), last]
    rfl

/-- The calls that passed on a course that breaks are told by a part of the story. -/
theorem broken_tells_part (c : Connection) (name id : String)
    (follows : passed ++ [failed] <+: plan name tables) (rollback closing : Option Error) :
    ((Course.broken passed failed e rollback closing).exchanges c (plan name tables)).filterMap
      (told name id tables) <+: story c name id tables := by
  have early : passed <+: plan name tables := (List.prefix_append passed [failed]).trans follows
  have noted : notes ⟨c, name, some id⟩ tables passed <+:
      notes ⟨c, name, some id⟩ tables (plan name tables) := early.filterMap _
  have whole : story c name id tables = connected c id ::
      (notes ⟨c, name, some id⟩ tables (plan name tables) ++
        [committed name id tables.length]) := by
    rw [notes_plan]
    rfl
  rw [told_broken c name id tables (commit_is_last follows).1, whole, List.cons_prefix_cons]
  exact ⟨rfl, noted.trans (List.prefix_append ..)⟩

/-- A course that breaks and closes quietly is told faithfully. -/
theorem broken_audited (c : Connection) (id : String)
    (follows : passed ++ [failed] <+: plan name tables) {rollback : Option Error}
    (database : ∀ call raised, ⟨call, some raised⟩ ∈
      (Course.broken passed failed e rollback none).exchanges c (plan name tables) →
        raised.isDatabase = true) :
    Audited c name id tables
      ((Course.broken passed failed e rollback none).exchanges c (plan name tables))
      ((Course.broken passed failed e rollback none).records ⟨c, name, some id⟩ tables)
      ((Course.broken passed failed e rollback none).ending c name tables) := by
  have known := database failed e (Course.raised_on_broken_iff.mpr (.inl ⟨rfl, rfl⟩))
  have rolled : ∀ r, ⟨.rollback, some r⟩ ∈
      (Course.broken passed failed e rollback none).exchanges c (plan name tables) ↔
        rollback = some r := by
    intro r
    have other : Call.rollback ≠ failed := by
      rintro rfl
      have planned : Call.rollback ∈ plan name tables := follows.subset (by simp)
      simp [plan] at planned
    simp [Course.raised_on_broken_iff, other, known]
  have understood : ∀ r, rollback = some r → r.isDatabase = true :=
    fun r raised => database .rollback r ((rolled r).mpr raised)
  obtain ⟨undone, noted, undoes⟩ := undoNotes_eq c name id failed e understood
  have uncommitted := (commit_is_last follows).1
  have ends : (Course.broken passed failed e rollback none).ending c name tables =
      .error (.failure ⟨.ofCall failed, name, e⟩) := by
    cases rollback with
    | none => simp [Course.ending, known, SchemaWipe.Wipe.undone]
    | some r => simp [Course.ending, known, SchemaWipe.Wipe.undone, understood r rfl]
  have recorded : (Course.broken passed failed e rollback none).records ⟨c, name, some id⟩ tables =
      ((Course.broken passed failed e rollback none).exchanges c (plan name tables)).filterMap
        (told name id tables) ++ undone ++
          [rolledBack name id failed ⟨.ofCall failed, name, e⟩] := by
    rw [told_broken c name id tables uncommitted, List.append_assoc, ← noted, Course.records,
      if_pos known]
    rfl
  have unpassed : Call.commit.passed ∉
      (Course.broken passed failed e rollback none).exchanges c (plan name tables) := by
    have course : (Course.broken passed failed e rollback none).Follows (plan name tables) := follows
    rw [committed_iff_completed c course]
    rintro ⟨closing, ⟨⟩⟩
  rw [recorded, ends]
  exact .broken (by simp [Course.exchanges]) (firstRaised_behind ..) unpassed
    (broken_tells_part c name id follows rollback none) (undoes _ rolled)

/-- A course that closes quietly and meets errors of the database only is told faithfully. -/
theorem course_audited (id : String) (follows : course.Follows (plan name tables))
    (database : ∀ call e, ⟨call, some e⟩ ∈ course.exchanges c (plan name tables) →
      e.isDatabase = true)
    (quiet : ClosesQuietly (course.exchanges c (plan name tables))) :
    Audited c name id tables (course.exchanges c (plan name tables))
      (course.records ⟨c, name, some id⟩ tables) (course.ending c name tables) := by
  cases course with
  | unreachable e =>
    have known := database (.connect c) e (List.mem_singleton_self _)
    simp only [Course.records, Course.ending, explain, known, ↓reduceIte]
    exact .unreachable rfl
  | completed closing =>
    obtain rfl : closing = none := by
      cases closing with
      | none => rfl
      | some last => exact absurd (Course.raised_on_completed_iff.mpr ⟨rfl, rfl⟩) (quiet last)
    rw [records_completed]
    exact .reported ((reports_iff_unraised _ c name tables _).mp ⟨_, rfl⟩)
  | broken passed failed e rollback closing =>
    obtain rfl := closing_of_quiet quiet
    exact broken_audited c id follows database

/-- A commit is recorded exactly by a wipe that reports. -/
theorem Audited.committed_iff {records : List Log.Record} {outcome : Except Stop Report}
    (audited : Audited c name id tables exchanges records outcome) :
    (∃ r ∈ records, r.message = "Schema reset committed") ↔ ∃ report, outcome = .ok report := by
  cases audited with
  | reported unraised =>
    have last : committed name id tables.length ∈ story c name id tables := by simp [story]
    exact iff_of_true ⟨_, last, rfl⟩ ⟨_, rfl⟩
  | unreachable first =>
    refine iff_of_false ?_ nofun
    simp [Audit.unreachable]
  | @broken failed e f undone opened first uncommitted part undoes =>
    refine iff_of_false ?_ nofun
    rintro ⟨r, member, message⟩
    simp only [List.mem_append, List.mem_filterMap, List.mem_singleton] at member
    obtain (⟨x, made, tells⟩ | warned) | rfl := member
    · obtain ⟨call, reply⟩ := x
      cases reply with
      | some e => cases call <;> cases tells
      | none =>
        cases call with
        | commit => exact uncommitted made
        | connect target => cases tells; simp [connected] at message
        | fetch => cases tells; simp [discovered] at message
        | drop schema table => cases tells; simp [dropped] at message
        | _ => cases tells
    · cases undoes with
      | passed quiet => cases warned
      | failed raised =>
        obtain rfl := List.mem_singleton.mp warned
        simp [rollbackFailed] at message
    · unfold rolledBack at message
      split at message <;> simp at message

/-- At the level of debugging every record passes. -/
theorem passes_of_debug {setup : Log.Setup} (verbose : setup.level ≤ Log.Level.debug.number)
    (r : Log.Record) : setup.passes r = true := by
  have least : Log.Level.debug.number ≤ r.level.number := by
    cases r.level <;> decide
  simpa [Log.Setup.passes] using Nat.le_trans verbose least

/-- The log is a faithful audit trail of every approved wipe that meets errors of the database only
and closes quietly: the whole story where it reports, one warning where no connection came about, and
otherwise the story as far as the calls passed, with how their failure was dealt with. At the level
of debugging all of it is logged; and a commit is in it exactly where the wipe reports. -/
theorem log_is_audit_trail {connection : Connection} {schema : Option String} {name : String}
    (approved : approve connection schema = .ok name) (request : Option String) {w : World}
    (database : ∀ f ∈ w.server.faults, f.error.isDatabase = true) {setup : Log.Setup}
    (verbose : setup.level ≤ Log.Level.debug.number) :
    ∃ exchanges records,
      (wipe connection schema request w).2.server.record = w.server.record ++ exchanges ∧
      (wipe connection schema request w).2.log = w.log ++ records ∧
      records.filter setup.passes = records ∧
      (ClosesQuietly exchanges →
        Audited connection name (w.requestOr request).1 (w.server.catalog.tables name) exchanges
            records (wipe connection schema request w).1 ∧
          ((∃ r ∈ records, r.message = "Schema reset committed") ↔
            ∃ report, (wipe connection schema request w).1 = .ok report)) := by
  obtain ⟨course, follows, trail, ends⟩ := approved_wipe_leaves_trail approved request w
  refine ⟨_, _, trail.run.record, trail.log,
    List.filter_eq_self.mpr fun r _ => passes_of_debug verbose r, ?_⟩
  intro quiet
  have known : ∀ call e, ⟨call, some e⟩ ∈ course.exchanges connection
      (plan name (w.server.catalog.tables name)) → e.isDatabase = true := by
    intro call e raised
    obtain ⟨f, planted, rfl⟩ := trail.run.raised_planted raised
    exact database f planted
  have audited := course_audited (w.requestOr request).1 follows known quiet
  rw [← ends] at audited
  exact ⟨audited, audited.committed_iff⟩

/-- The second of two tables of one name cannot be dropped, and the rollback fails too. What was
dropped by then is told, and then both failures. -/
theorem denied_drop_is_audited :
    let connection : Connection := { password := "secret" }
    let denied : Error := ⟨.privilege, "must be owner of table users", none⟩
    let lost : Error := ⟨.database "InterfaceError", "connection already closed", none⟩
    let faults : List Fault := [⟨.drop, some "users", denied, none, 1⟩, ⟨.rollback, none, lost, none, 0⟩]
    let w : World := { server := { catalog := [("public", ["users", "users"])], faults } }
    let after := (wipe connection (some "public") (some "r1") w).2
    (∀ f ∈ w.server.faults, f.error.isDatabase = true) ∧ ClosesQuietly after.server.record ∧
      after.log = [Audit.connected connection "r1", discovered "public" "r1" 2,
        dropped "public" "r1" "users", rollbackFailed "r1" lost,
        rolledBack "public" "r1" (.drop "public" "users")
          ⟨.dropping "users", "public", denied⟩] ∧
      Audited connection "public" "r1" ["users", "users"] after.server.record after.log
        (wipe connection (some "public") (some "r1") w).1 := by
  intro connection denied lost faults w after
  have approved : approve connection (some "public") = .ok "public" := rfl
  have database : ∀ f ∈ w.server.faults, f.error.isDatabase = true := by decide
  have closed : ∀ x ∈ after.server.record, x.call = .close → x.error = none := by decide
  have quiet : ClosesQuietly after.server.record := by
    intro e raised
    cases closed _ raised rfl
  have verbose : (Log.Setup.mk 10 true).level ≤ Log.Level.debug.number := by decide
  obtain ⟨exchanges, records, made, written, -, audited⟩ :=
    log_is_audit_trail approved (some "r1") database verbose
  obtain rfl : after.server.record = exchanges := made
  obtain rfl : after.log = records := written
  exact ⟨database, quiet, rfl, (audited quiet).1⟩

end SchemaWipe.Wipe
