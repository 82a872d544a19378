import SchemaWipe.Proofs.Transaction

/-! The courses that a wipe can take once it is approved. A course tells which call failed first and
what the calls that clean up behind it replied; the exchanges, the records and the ending of the
wipe follow from that. Everything else about a wipe rests on `wipe_leaves_trail`. -/
namespace SchemaWipe.Wipe
open Database

/-- A course of a wipe. -/
inductive Course where
  /-- No connection came about. -/
  | unreachable (e : Error)
  /-- A call failed after some had passed. A rollback and the closing may have failed as well. -/
  | broken (passed : List Call) (failed : Call) (e : Error) (rollback closing : Option Error)
  /-- Every call of the plan passed. -/
  | completed (closing : Option Error)

/-- The error of a call to the caller: only one of the database is explained. -/
def explain (stage : Stage) (schema : String) (e : Error) : Stop :=
  if e.isDatabase then .failure ⟨stage, schema, e⟩ else .raised e

/-- The reply to a rollback takes the place of an explanation only if it is not an error of the
database. -/
def undone (f : Failure) : Option Error → Stop
  | some r => if r.isDatabase then .failure f else .raised r
  | none => .failure f

/-- The records of a connection that came about. -/
def connectNotes (job : Job) : List Log.Record :=
  (job.note? {} (.connect job.connection)).toList

/-- The record of a connection that did not come about. -/
def unreached (job : Job) (e : Error) : Log.Record :=
  ⟨.warning, "Database connection failed", Log.connectionFields job.connection
    [("request_id", Log.optional job.request), ("error_message", .text e.text)]⟩

/-- The records of an error that ended a transaction, by the reply to the rollback behind it. -/
def undoNotes (job : Job) (f : Failure) : Option Error → List Log.Record
  | some r => if r.isDatabase then [job.rollbackFailed r, job.rolledBack f] else []
  | none => [job.rolledBack f]

namespace Course

/-- A course follows a plan up to the call that failed. -/
def Follows (calls : List Call) : Course → Prop
  | broken passed failed _ _ _ => passed ++ [failed] <+: calls
  | _ => True

/-- A cursor that was opened and not left is left. -/
def leaving (passed : List Call) : List Exchange :=
  if .cursor ∈ passed ∧ .cursorClose ∉ passed then [Call.cursorClose.passed] else []

/-- An error of the database has one rollback behind it, and any other has none. -/
def undoing (e : Error) (rollback : Option Error) : List Exchange :=
  if e.isDatabase then [⟨.rollback, rollback⟩] else []

/-- What cleans up behind a call that failed. -/
def cleaning (passed : List Call) (e : Error) (rollback closing : Option Error) : List Exchange :=
  leaving passed ++ undoing e rollback ++ [⟨.close, closing⟩]

/-- The exchanges of a course. -/
def exchanges (target : Connection) (calls : List Call) : Course → List Exchange
  | unreachable e => [⟨.connect target, some e⟩]
  | broken passed failed e rollback closing =>
    (Call.connect target).passed :: passed.map Call.passed ++
      ⟨failed, some e⟩ :: cleaning passed e rollback closing
  | completed closing =>
    (Call.connect target).passed :: calls.map Call.passed ++ [⟨.close, closing⟩]

/-- The records of a course. An error that is not of the database leaves none. -/
def records (job : Job) (tables : List String) : Course → List Log.Record
  | unreachable e => if e.isDatabase then [unreached job e] else []
  | broken passed failed e rollback _ =>
    connectNotes job ++ notes job tables passed ++
      if e.isDatabase then undoNotes job ⟨.ofCall failed, job.schema, e⟩ rollback else []
  | completed closing =>
    connectNotes job ++ notes job tables (plan job.schema tables) ++
      if closing.isNone then [job.committed tables] else []

/-- What a course ends with. An error of the closing takes the place of anything else. -/
def ending (target : Connection) (schema : String) (tables : List String) :
    Course → Except Stop Report
  | unreachable e => .error (explain (.connecting target) schema e)
  | broken _ failed e rollback none =>
    .error (if e.isDatabase then undone ⟨.ofCall failed, schema, e⟩ rollback else .raised e)
  | completed none => .ok ⟨schema, tables⟩
  | broken _ _ _ _ (some closing) | completed (some closing) => .error (.raised closing)

theorem mem_leaving {passed : List Call} {x : Exchange} (member : x ∈ leaving passed) :
    x = Call.cursorClose.passed := by
  unfold leaving at member
  split at member
  · exact List.mem_singleton.mp member
  · cases member

theorem mem_undoing {e : Error} {rollback : Option Error} {x : Exchange}
    (member : x ∈ undoing e rollback) : e.isDatabase = true ∧ x = ⟨.rollback, rollback⟩ := by
  unfold undoing at member
  split at member
  · exact ⟨‹_›, List.mem_singleton.mp member⟩
  · cases member

/-- Cleaning up leaves the cursor, rolls back and closes, and makes no other call. -/
theorem mem_cleaning {passed : List Call} {e : Error} {rollback closing : Option Error}
    {x : Exchange} (member : x ∈ cleaning passed e rollback closing) :
    x = Call.cursorClose.passed ∨ (e.isDatabase = true ∧ x = ⟨.rollback, rollback⟩) ∨
      x = ⟨.close, closing⟩ := by
  rcases List.mem_append.mp member with earlier | last
  · rcases List.mem_append.mp earlier with left | undone
    · exact .inl (mem_leaving left)
    · exact .inr (.inl (mem_undoing undone))
  · exact .inr (.inr (List.mem_singleton.mp last))

/-- Nothing is committed while cleaning up. -/
theorem no_commit_in_cleaning (passed : List Call) (e : Error)
    (rollback closing reply : Option Error) :
    Exchange.mk .commit reply ∉ cleaning passed e rollback closing := by
  intro member
  rcases mem_cleaning member with left | ⟨-, undone⟩ | closed
  · cases left
  · cases undone
  · cases closed

/-- On a broken course an error was raised by the call that failed, and possibly by the rollback
behind it and by the closing. -/
theorem raised_on_broken_iff {target : Connection} {calls passed : List Call} {failed c : Call}
    {e raised : Error} {rollback closing : Option Error} :
    Exchange.mk c (some raised) ∈
        (broken passed failed e rollback closing).exchanges target calls ↔
      (c = failed ∧ e = raised) ∨
        (c = .rollback ∧ e.isDatabase = true ∧ rollback = some raised) ∨
        (c = .close ∧ closing = some raised) := by
  have left : Exchange.mk c (some raised) ∉ leaving passed := by
    intro member
    cases mem_leaving member
  have undone : Exchange.mk c (some raised) ∈ undoing e rollback ↔
      c = .rollback ∧ e.isDatabase = true ∧ rollback = some raised := by
    by_cases database : e.isDatabase = true <;>
      simp [undoing, database, eq_comm (a := some raised)]
  simp [exchanges, cleaning, Call.passed, left, undone, eq_comm (a := some raised)]

/-- On a completed course only the closing can have raised an error. -/
theorem raised_on_completed_iff {target : Connection} {calls : List Call} {c : Call} {e : Error}
    {closing : Option Error} :
    Exchange.mk c (some e) ∈ (completed closing).exchanges target calls ↔
      c = .close ∧ closing = some e := by
  simp [exchanges, Call.passed, eq_comm (a := some e)]

/-- What is picked from calls is picked from those of a plan alone: the calls around a plan and
those that clean up have nothing of the kind. -/
structure PicksPlanned {α : Type} (pick : Call → Option α) : Prop where
  connect : ∀ target, pick (.connect target) = none
  cursorClose : pick .cursorClose = none
  rollback : pick .rollback = none
  close : pick .close = none

/-- From a completed course everything is picked that the plan has. -/
theorem picked_completed {α : Type} {pick : Call → Option α} (planned : PicksPlanned pick)
    (target : Connection) (calls : List Call) (closing : Option Error) :
    ((completed closing).exchanges target calls).filterMap (fun x => pick x.call) =
      calls.filterMap pick := by
  simp [exchanges, Call.passed, planned.connect, planned.close, List.filterMap_map,
    Function.comp_def]

/-- From a broken course everything is picked that the calls have up to the one that failed. -/
theorem picked_broken {α : Type} {pick : Call → Option α} (planned : PicksPlanned pick)
    (target : Connection) (calls passed : List Call) (failed : Call) (e : Error)
    (rollback closing : Option Error) :
    ((broken passed failed e rollback closing).exchanges target calls).filterMap
      (fun x => pick x.call) = (passed ++ [failed]).filterMap pick := by
  have cleaned : (cleaning passed e rollback closing).filterMap (fun x => pick x.call) = [] := by
    rw [List.filterMap_eq_nil_iff]
    intro x member
    rcases mem_cleaning member with rfl | ⟨-, rfl⟩ | rfl
    · exact planned.cursorClose
    · exact planned.rollback
    · exact planned.close
  simp [exchanges, Call.passed, planned.connect, cleaned, List.filterMap_map, Function.comp_def,
    List.filterMap_cons]

/-- From any course it is picked in the order of the plan, up to the call that failed. -/
theorem picked_prefix {α : Type} {pick : Call → Option α} (planned : PicksPlanned pick)
    {course : Course} {calls : List Call} (follows : course.Follows calls) (target : Connection) :
    (course.exchanges target calls).filterMap (fun x => pick x.call) <+: calls.filterMap pick := by
  cases course with
  | unreachable e => simp [exchanges, planned.connect]
  | completed closing => simp only [picked_completed planned, List.prefix_rfl]
  | broken passed failed e rollback closing =>
    rw [picked_broken planned]
    exact follows.filterMap pick

end Course

variable {job : Job} {w : World} {schema : String} {tables : List String} {failed : Call} {e : Error}

/-- The calls that a cursor makes stand between opening it and leaving it. -/
def cursorCalls (schema : String) (tables : List String) : List Call :=
  [.relax, .list schema, .fetch] ++ tables.map (.drop schema) ++ [.restore]

private theorem cursor_calls_need_cursor (schema : String) (tables : List String) :
    ∀ c ∈ cursorCalls schema tables, Job.needsCursor c = true := by
  intro c member
  simp only [cursorCalls, List.mem_append, List.mem_cons, List.mem_map, List.not_mem_nil,
    or_false] at member
  obtain ((rfl | rfl | rfl) | ⟨table, -, rfl⟩) | rfl := member <;> rfl

/-- Where the calls between the opening of a cursor and its leaving need it, and the one behind does
not, a call needs the cursor exactly if it is open. -/
theorem needs_cursor_iff_between {inner passed : List Call} {last : Call}
    (needs : ∀ c ∈ inner, Job.needsCursor c = true) (ends : Job.needsCursor last = false)
    (reached : passed ++ [failed] <+: .cursor :: (inner ++ [.cursorClose] ++ [last]))
    (fails : failed ≠ .cursorClose) :
    Job.needsCursor failed = true ↔ .cursor ∈ passed ∧ .cursorClose ∉ passed := by
  cases passed with
  | nil =>
    rw [List.nil_append, List.cons_prefix_cons] at reached
    obtain ⟨rfl, -⟩ := reached
    simp [Job.needsCursor]
  | cons first passed =>
    rw [List.cons_append, List.cons_prefix_cons, List.prefix_concat_iff,
      List.prefix_concat_iff] at reached
    obtain ⟨rfl, behind | closing | inside⟩ := reached
    · obtain ⟨rfl, same⟩ := List.append_inj' behind rfl
      cases same
      simp [ends]
    · exact absurd (List.singleton_inj.mp (List.append_inj' closing rfl).2) fails
    · have failing := needs failed (inside.subset (by simp))
      have unclosed : .cursorClose ∉ passed := by
        intro member
        cases needs .cursorClose (inside.subset (List.mem_append_left _ member))
      simp [failing, unclosed]

/-- The calls that are made while a cursor is open are those behind its opening and before its
leaving. -/
theorem needs_cursor_iff_open {passed : List Call}
    (reached : passed ++ [failed] <+: plan schema tables) (fails : failed ≠ .cursorClose) :
    Job.needsCursor failed = true ↔ .cursor ∈ passed ∧ .cursorClose ∉ passed := by
  have shape : plan schema tables =
      .cursor :: (cursorCalls schema tables ++ [.cursorClose] ++ [.commit]) := by
    simp [plan, cursorCalls]
  rw [shape] at reached
  exact needs_cursor_iff_between (cursor_calls_need_cursor schema tables) rfl reached fails

/-- Leaving the cursor after a call failed. -/
theorem leave_cursor_trail {passed : List Call} (w : World)
    (cursor : Job.needsCursor failed = true ↔ .cursor ∈ passed ∧ .cursorClose ∉ passed) :
    Trail w (Course.leaving passed) [] (Job.leaveCursor failed w) := by
  unfold Job.leaveCursor Course.leaving
  by_cases needed : Job.needsCursor failed = true
  · rw [if_pos needed, if_pos (cursor.mp needed)]
    have passes : (w.call .cursorClose).1 = none := w.server.leaving_passes
    exact .silent (Prod.ext passes rfl)
  · rw [if_neg needed, if_neg (mt cursor.mpr needed)]
    exact .stop w

/-- Rolling back after an error of the database. -/
theorem roll_back_trail (job : Job) (f : Failure) (w : World) :
    ∃ reply, (job.rollBack f w).1 = undone f reply ∧
      Trail w [⟨.rollback, reply⟩] (undoNotes job f reply) (job.rollBack f w).2 := by
  unfold Job.rollBack
  cases called : w.call .rollback with
  | mk reply after =>
    have trail := Trail.silent called
    refine ⟨reply, ?_⟩
    cases reply with
    | none => exact ⟨rfl, trail.write _⟩
    | some r =>
      dsimp only [undone, undoNotes]
      split
      · exact ⟨rfl, (trail.write _).write _⟩
      · exact ⟨rfl, trail⟩

/-- Cleaning up after a call failed. -/
theorem recover_trail {passed : List Call} (job : Job) (e : Error) (w : World)
    (cursor : Job.needsCursor failed = true ↔ .cursor ∈ passed ∧ .cursorClose ∉ passed) :
    ∃ rollback, Trail w (Course.leaving passed ++ Course.undoing e rollback)
        (if e.isDatabase then undoNotes job ⟨.ofCall failed, job.schema, e⟩ rollback else [])
        (job.recover (failed, e) w).2 ∧
      (job.recover (failed, e) w).1 =
        if e.isDatabase then undone ⟨.ofCall failed, job.schema, e⟩ rollback else .raised e := by
  have left := leave_cursor_trail w cursor
  unfold Job.recover Course.undoing
  by_cases database : e.isDatabase = true
  · obtain ⟨reply, stop, rolled⟩ :=
      roll_back_trail job ⟨.ofCall failed, job.schema, e⟩ (Job.leaveCursor failed w)
    refine ⟨reply, ?_⟩
    simp only [database, ↓reduceIte]
    exact ⟨left.append rolled, stop⟩
  · refine ⟨none, ?_⟩
    simpa [database] using left

/-- Connecting either succeeds or fails with an explanation. -/
theorem connect_trail (job : Job) (w : World) :
    ∃ reply, Trail w [⟨.connect job.connection, reply⟩]
        (match reply with
          | none => connectNotes job
          | some e => if e.isDatabase then [unreached job e] else []) (job.connect w).2 ∧
      (job.connect w).1 = match reply with
        | none => .ok ()
        | some e => .error (explain (.connecting job.connection) job.schema e) := by
  unfold Job.connect
  cases stepped : job.step (.connect job.connection) w with
  | mk reply next =>
    refine ⟨reply, ?_⟩
    cases reply with
    | none => exact ⟨step_passed stepped, rfl⟩
    | some e =>
      have trail := step_raised stepped
      dsimp only [explain]
      split
      · exact ⟨trail.write _, rfl⟩
      · exact ⟨trail, rfl⟩

/-- Closing keeps an outcome unless it fails itself. -/
theorem close_trail {α : Type} (outcome : Except Stop α) (w : World) :
    ∃ reply, Trail w [⟨.close, reply⟩] [] (Job.close outcome w).2 ∧
      (Job.close outcome w).1 = match reply with
        | none => outcome
        | some e => .error (.raised e) := by
  unfold Job.close
  cases called : w.call .close with
  | mk reply after =>
    have trail := Trail.silent called
    cases reply <;> exact ⟨_, trail, rfl⟩

/-- What a wipe ends with once its connection is closed. One that reports is recorded. -/
def reporting (job : Job) : Except Stop (List String) × World → Except Stop Report × World
  | (.error stop, w) => (.error stop, w)
  | (.ok tables, w) => (.ok ⟨job.schema, tables⟩, w.write (job.committed tables))

/-- Only a wipe that reports is recorded once its connection is closed. -/
private theorem reporting_trail (job : Job) (outcome : Except Stop (List String)) (w : World) :
    ∃ closing, Trail w [⟨.close, closing⟩]
        (match closing, outcome with
          | none, .ok tables => [job.committed tables]
          | _, _ => []) (reporting job (Job.close outcome w)).2 ∧
      (reporting job (Job.close outcome w)).1 = match closing with
        | none => outcome.map (Report.mk job.schema)
        | some e => .error (.raised e) := by
  obtain ⟨closing, trail, ends⟩ := close_trail outcome w
  refine ⟨closing, ?_⟩
  cases closed : Job.close outcome w with
  | mk ending after =>
    rw [closed] at trail ends
    cases ends
    cases closing with
    | some e => exact ⟨trail, rfl⟩
    | none =>
      cases outcome with
      | error stop => exact ⟨trail, rfl⟩
      | ok tables => exact ⟨trail.write _, rfl⟩

/-- A transaction that is closed after it succeeded. -/
private theorem completed_course {tables : List String} {opened last : World}
    (connecting : Trail w [(Call.connect job.connection).passed] (connectNotes job) opened)
    (trail : Trail opened ((plan job.schema tables).map Call.passed)
      (notes job tables (plan job.schema tables)) last) :
    ∃ closing, Trail w
        ((Course.completed closing).exchanges job.connection (plan job.schema tables))
        ((Course.completed closing).records job tables)
        (reporting job (Job.close (.ok tables) last)).2 ∧
      (reporting job (Job.close (.ok tables) last)).1 =
        (Course.completed closing).ending job.connection job.schema tables := by
  obtain ⟨closing, closed, outcome⟩ := reporting_trail job (.ok tables) last
  have all := (connecting.append trail).append closed
  refine ⟨closing, ?_, ?_⟩
  · cases closing <;> exact all
  · rw [outcome]
    cases closing <;> rfl

/-- A transaction that is cleaned up and closed after it failed. -/
private theorem broken_course {passed : List Call} {tables : List String} {opened last : World}
    (connecting : Trail w [(Call.connect job.connection).passed] (connectNotes job) opened)
    (reached : passed ++ [failed] <+: plan job.schema tables)
    (trail : Trail opened (passed.map Call.passed ++ [⟨failed, some e⟩])
      (notes job tables passed) last) :
    ∃ rollback closing, Trail w
        ((Course.broken passed failed e rollback closing).exchanges job.connection
          (plan job.schema tables))
        ((Course.broken passed failed e rollback closing).records job tables)
        (reporting job (Job.close (.error (job.recover (failed, e) last).1)
          (job.recover (failed, e) last).2)).2 ∧
      (reporting job (Job.close (.error (job.recover (failed, e) last).1)
          (job.recover (failed, e) last).2)).1 =
        (Course.broken passed failed e rollback closing).ending job.connection job.schema tables := by
  have fails : failed ≠ .cursorClose := by
    rintro rfl
    exact trail.run.leaving_never_raises (e := e) (by simp)
  obtain ⟨rollback, recovered, stop⟩ :=
    recover_trail job e last (needs_cursor_iff_open reached fails)
  obtain ⟨closing, closed, outcome⟩ := reporting_trail job
    (.error (job.recover (failed, e) last).1) (job.recover (failed, e) last).2
  have all := ((connecting.append trail).append recovered).append closed
  refine ⟨rollback, closing, ?_, ?_⟩
  · have unrecorded : (match closing, (Except.error (job.recover (failed, e) last).1) with
        | none, .ok tables => [job.committed tables]
        | _, _ => []) = [] := by
      cases closing <;> rfl
    rw [unrecorded, List.append_nil] at all
    simpa [Course.exchanges, Course.cleaning, Course.records] using all
  · rw [outcome, stop]
    cases closing <;> rfl

/-- Every wipe takes a course that follows its plan for the tables that were committed when it
began. The course tells its exchanges, its records and its ending. -/
theorem wipe_leaves_trail (job : Job) (w : World) :
    ∃ course : Course,
      course.Follows (plan job.schema (w.server.catalog.tables job.schema)) ∧
      Trail w
        (course.exchanges job.connection (plan job.schema (w.server.catalog.tables job.schema)))
        (course.records job (w.server.catalog.tables job.schema)) (job.wipe w).2 ∧
      (job.wipe w).1 =
        course.ending job.connection job.schema (w.server.catalog.tables job.schema) := by
  obtain ⟨reply, connecting, connection⟩ := connect_trail job w
  cases connects : job.connect w with
  | mk outcome opened =>
    rw [connects] at connecting connection
    cases reply with
    | some e =>
      cases connection
      refine ⟨.unreachable e, trivial, ?_, ?_⟩
      · simp only [Job.wipe, connects]
        exact connecting
      · simp only [Job.wipe, connects, Course.ending]
    | none =>
      cases connection
      obtain ⟨fresh, committed⟩ := connected_fresh connecting.run
      cases transacted : job.transaction opened with
      | mk outcome last =>
        cases outcome with
        | ok tables =>
          have closes : job.wipe w = reporting job (Job.close (.ok tables) last) := by
            simp only [Job.wipe, connects, transacted]
            rfl
          obtain ⟨found, trail⟩ := transaction_completed fresh transacted
          rw [closes, ← committed, ← found]
          obtain ⟨closing, ran, ends⟩ := completed_course connecting trail
          exact ⟨.completed closing, trivial, ran, ends⟩
        | error failure =>
          obtain ⟨failed, e⟩ := failure
          have closes : job.wipe w = reporting job (Job.close
              (.error (job.recover (failed, e) last).1) (job.recover (failed, e) last).2) := by
            simp only [Job.wipe, connects, transacted]
            rfl
          obtain ⟨passed, reached, trail⟩ := transaction_failed fresh transacted
          rw [closes, ← committed]
          obtain ⟨rollback, closing, ran, ends⟩ := broken_course connecting reached trail
          exact ⟨.broken passed failed e rollback closing, reached, ran, ends⟩

/-- An approved request names the schema that is wiped. -/
theorem approved_schema {connection : Connection} {schema : Option String} {name : String}
    (approved : approve connection schema = .ok name) : schema = some name := by
  cases schema with
  | none => cases approved
  | some given =>
    simp only [approve, Guard.identifier] at approved
    split at approved
    · cases complete : connection.ensureComplete with
      | error fault => rw [complete] at approved; cases approved
      | ok _ => rw [complete] at approved; cases approved; rfl
    · cases approved

/-- A request id leaves the server alone. -/
theorem request_keeps_server (w : World) (request : Option String) :
    (w.requestOr request).2.server = w.server := by
  unfold World.requestOr World.issue
  split
  · split <;> rfl
  · rfl

theorem request_keeps_log (w : World) (request : Option String) :
    (w.requestOr request).2.log = w.log := by
  unfold World.requestOr World.issue
  split
  · split <;> rfl
  · rfl

theorem wipe_refused {connection : Connection} {schema : Option String} {stop : Stop}
    (refused : approve connection schema = .error stop) (request : Option String) (w : World) :
    wipe connection schema request w = (.error stop, w) := by
  simp only [wipe, refused]

/-- A wipe that is approved takes a course for the schema that the request names, under the request
id that it was given or that was made for it. -/
theorem approved_wipe_leaves_trail {connection : Connection} {schema : Option String}
    {name : String} (approved : approve connection schema = .ok name) (request : Option String)
    (w : World) :
    ∃ course : Course,
      course.Follows (plan name (w.server.catalog.tables name)) ∧
      Trail w (course.exchanges connection (plan name (w.server.catalog.tables name)))
        (course.records ⟨connection, name, some (w.requestOr request).1⟩
          (w.server.catalog.tables name)) (wipe connection schema request w).2 ∧
      (wipe connection schema request w).1 =
        course.ending connection name (w.server.catalog.tables name) := by
  obtain ⟨course, follows, trail, ends⟩ := wipe_leaves_trail
    ⟨connection, name, some (w.requestOr request).1⟩ (w.requestOr request).2
  have begun := trail.of_same (request_keeps_server w request) (request_keeps_log w request)
  rw [request_keeps_server] at follows begun ends
  simp only [wipe, approved]
  exact ⟨course, follows, begun, ends⟩

/-- What an approved wipe does to the server follows from its course alone. -/
theorem approved_wipe_takes_course {connection : Connection} {schema : Option String}
    {name : String} (approved : approve connection schema = .ok name) (request : Option String)
    (w : World) :
    ∃ course : Course,
      course.Follows (plan name (w.server.catalog.tables name)) ∧
      Run w.server (course.exchanges connection (plan name (w.server.catalog.tables name)))
        (wipe connection schema request w).2.server ∧
      (wipe connection schema request w).1 =
        course.ending connection name (w.server.catalog.tables name) := by
  obtain ⟨course, follows, trail, ends⟩ := approved_wipe_leaves_trail approved request w
  exact ⟨course, follows, trail.run, ends⟩

end SchemaWipe.Wipe
