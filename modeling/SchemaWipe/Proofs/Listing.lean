import SchemaWipe.Proofs.Course

/-! The courses that a listing can take once it is approved. As with a wipe, the exchanges and the
ending follow from the call that failed first. A listing commits nothing on any of them, so what it
finds is still committed when it has ended. -/
namespace SchemaWipe.Wipe
open Database

/-- The calls of a listing between connecting and closing, as long as none of them fails. -/
def listingPlan (schema : String) : List Call :=
  [.cursor, .list schema, .fetch, .cursorClose, .rollback]

/-- A course of a listing. -/
inductive ListingCourse where
  /-- No connection came about. -/
  | unreachable (e : Error)
  /-- A call failed after some had passed. The closing may have failed as well. -/
  | broken (passed : List Call) (failed : Call) (e : Error) (closing : Option Error)
  /-- Every call of the plan passed. -/
  | completed (closing : Option Error)

namespace ListingCourse

/-- A course follows a plan up to the call that failed. -/
def Follows (calls : List Call) : ListingCourse → Prop
  | broken passed failed _ _ => passed ++ [failed] <+: calls
  | _ => True

/-- The exchanges of a course. Behind a failure the cursor is left and the connection closed, but
nothing is rolled back. -/
def exchanges (target : Connection) (calls : List Call) : ListingCourse → List Exchange
  | unreachable e => [⟨.connect target, some e⟩]
  | broken passed failed e closing =>
    (Call.connect target).passed :: passed.map Call.passed ++
      ⟨failed, some e⟩ :: (Course.leaving passed ++ [⟨.close, closing⟩])
  | completed closing =>
    (Call.connect target).passed :: calls.map Call.passed ++ [⟨.close, closing⟩]

/-- The records of a course. A query that fails leaves none. -/
def records (job : Job) (tables : List String) : ListingCourse → List Log.Record
  | unreachable e => if e.isDatabase then [unreached job e] else []
  | broken passed _ _ _ => connectNotes job ++ notes job tables passed
  | completed _ => connectNotes job ++ notes job tables (listingPlan job.schema)

/-- What a course ends with. Only what the query raises is explained, and an error of the closing
takes the place of anything else. -/
def ending (target : Connection) (schema : String) (tables : List String) :
    ListingCourse → Except Stop (List String)
  | unreachable e => .error (explain (.connecting target) schema e)
  | broken _ failed e none =>
    .error (if Job.needsCursor failed then explain .listing schema e else .raised e)
  | completed none => .ok tables
  | broken _ _ _ (some closing) | completed (some closing) => .error (.raised closing)

theorem completed_follows (closing : Option Error) (calls : List Call) :
    (completed closing).Follows calls :=
  trivial

/-- A course connects, makes calls of its plan and closes, and makes no other call. -/
theorem call_of_mem {course : ListingCourse} {target : Connection} {schema : String} {x : Exchange}
    (follows : course.Follows (listingPlan schema))
    (member : x ∈ course.exchanges target (listingPlan schema)) :
    x.call = .connect target ∨ x.call ∈ listingPlan schema ∨ x.call = .close := by
  cases course with
  | unreachable e =>
    obtain rfl := List.mem_singleton.mp member
    exact .inl rfl
  | completed closing =>
    simp only [exchanges, List.cons_append, List.mem_cons, List.mem_append, List.mem_map,
      List.not_mem_nil, or_false] at member
    obtain rfl | ⟨c, planned, rfl⟩ | rfl := member
    · exact .inl rfl
    · exact .inr (.inl planned)
    · exact .inr (.inr rfl)
  | broken passed failed e closing =>
    simp only [exchanges, List.cons_append, List.mem_cons, List.mem_append, List.mem_map,
      List.not_mem_nil, or_false] at member
    obtain rfl | ⟨c, early, rfl⟩ | rfl | left | rfl := member
    · exact .inl rfl
    · exact .inr (.inl (follows.subset (List.mem_append_left _ early)))
    · exact .inr (.inl (follows.subset (by simp)))
    · rw [Course.mem_leaving left]
      exact .inr (.inl (by simp [listingPlan, Call.passed]))
    · exact .inr (.inr rfl)

/-- No course of a listing makes a commit. -/
theorem commit_not_mem {course : ListingCourse} {schema : String}
    (follows : course.Follows (listingPlan schema)) (target : Connection) (reply : Option Error) :
    Exchange.mk .commit reply ∉ course.exchanges target (listingPlan schema) := by
  intro member
  simpa [listingPlan] using call_of_mem follows member

/-- No course of a listing drops a table. -/
theorem drops_nothing {course : ListingCourse} {schema : String}
    (follows : course.Follows (listingPlan schema)) (target : Connection) :
    ∀ x ∈ course.exchanges target (listingPlan schema), x.call.table? = none := by
  intro x member
  rcases call_of_mem follows member with call | planned | call
  · rw [call]; rfl
  · simp only [listingPlan, List.mem_cons, List.not_mem_nil, or_false] at planned
    obtain call | call | call | call | call := planned <;> rw [call] <;> rfl
  · rw [call]; rfl

/-- No course of a listing drops a table or makes a commit. -/
theorem silent {course : ListingCourse} {schema : String}
    (follows : course.Follows (listingPlan schema)) (target : Connection) :
    ∀ x ∈ course.exchanges target (listingPlan schema),
      x.call.table? = none ∧ x.call ≠ .commit := by
  intro x member
  refine ⟨drops_nothing follows target x member, ?_⟩
  intro commits
  have here : Exchange.mk .commit x.error ∈ course.exchanges target (listingPlan schema) := by
    rwa [← commits]
  exact commit_not_mem follows target x.error here

/-- Among all courses only the completed one starts with the exchanges of a listing that found
something. -/
theorem starts_completed {course : ListingCourse} {target other : Connection} {schema : String}
    (follows : course.Follows (listingPlan schema))
    (starts : (completed none).exchanges target (listingPlan schema) <+:
      course.exchanges other (listingPlan schema)) : course = .completed none := by
  cases course with
  | unreachable e => simpa [exchanges, listingPlan] using starts.length_le
  | completed closing =>
    have same := starts.eq_of_length (by simp [exchanges])
    obtain ⟨-, last⟩ := List.append_inj' same rfl
    cases last
    rfl
  | broken passed failed e closing =>
    -- The failed call is among the first six exchanges, and a listing that found something has
    -- seven that raised nothing.
    have early : (Call.connect other).passed :: passed.map Call.passed ++ [⟨failed, some e⟩] <+:
        (broken passed failed e closing).exchanges other (listingPlan schema) := by
      refine ⟨Course.leaving passed ++ [⟨.close, closing⟩], ?_⟩
      simp [exchanges]
    have short := follows.length_le
    have inside := List.prefix_of_prefix_length_le early starts (by
      simp [exchanges, listingPlan] at short ⊢
      omega)
    have raised : Exchange.mk failed (some e) ∈
        (completed none).exchanges target (listingPlan schema) := inside.subset (by simp)
    simp [exchanges, Call.passed] at raised

/-- On a broken course an error was raised by the call that failed, and possibly by the closing. -/
theorem raised_on_broken_iff {target : Connection} {calls passed : List Call} {failed c : Call}
    {e raised : Error} {closing : Option Error} :
    Exchange.mk c (some raised) ∈ (broken passed failed e closing).exchanges target calls ↔
      (c = failed ∧ e = raised) ∨ (c = .close ∧ closing = some raised) := by
  have left : Exchange.mk c (some raised) ∉ Course.leaving passed := by
    intro member
    cases Course.mem_leaving member
  simp [exchanges, Call.passed, left, eq_comm (a := some raised)]

end ListingCourse

variable {job : Job} {w : World} {schema : String} {failed : Call} {e : Error}

/-- A listing needs its cursor for the query. -/
theorem listing_needs_cursor_iff_open {passed : List Call}
    (reached : passed ++ [failed] <+: listingPlan schema) (fails : failed ≠ .cursorClose) :
    Job.needsCursor failed = true ↔ .cursor ∈ passed ∧ .cursorClose ∉ passed := by
  have shape : listingPlan schema =
      .cursor :: ([.list schema, .fetch] ++ [.cursorClose] ++ [.rollback]) := rfl
  rw [shape] at reached
  exact needs_cursor_iff_between (by simp [Job.needsCursor]) rfl reached fails

/-- On a fresh connection the query of a listing finds the tables that are committed. -/
theorem queried_on_committed {s t : Server} (fresh : s.working = none)
    (ran : Run s ([.cursor, .list schema, .fetch].map Call.passed) t) :
    t.rows = s.catalog.tables schema := by
  have fetched := ran.after_passed.after_passed
  cases fetched.after_passed
  simp [Server.apply, Server.view, fresh]

/-- What a listing finds is still there when its last call has passed. -/
theorem listed_on_committed {s t : Server} (fresh : s.working = none)
    (ran : Run s ((listingPlan schema).map Call.passed) t) :
    t.rows = s.catalog.tables schema := by
  have shape : (listingPlan schema).map Call.passed =
      [.cursor, .list schema, .fetch].map Call.passed ++
        [Call.cursorClose.passed, Call.rollback.passed] := rfl
  rw [shape] at ran
  obtain ⟨middle, queried, left⟩ := ran.split
  have found : middle.rows = s.catalog.tables schema := queried_on_committed fresh queried
  cases left.after_passed.after_passed
  exact found

theorem listingStop_eq (job : Job) (failed : Call) (e : Error) :
    job.listingStop (failed, e) =
      if Job.needsCursor failed then explain .listing job.schema e else .raised e := by
  unfold Job.listingStop explain
  by_cases needed : Job.needsCursor failed = true <;> simp [needed]

/-- What a listing fetches on a fresh connection are the tables that are committed. -/
theorem finds_listing {s : Server} (fresh : s.working = none) (job : Job) :
    Finds s (listingPlan job.schema) (s.catalog.tables job.schema) :=
  .of_once [.cursor, .list job.schema] [.cursorClose, .rollback] (by simp) (by simp)
    fun _ ran => queried_on_committed fresh ran

/-- A listing whose script reached its end closes the connection and tells what it found. -/
private theorem completed_listing {opened last : World} {tables : List String}
    (connecting : Trail w [(Call.connect job.connection).passed] (connectNotes job) opened)
    (trail : Trail opened ((listingPlan job.schema).map Call.passed)
      (notes job tables (listingPlan job.schema)) last) :
    ∃ closing, Trail w
        ((ListingCourse.completed closing).exchanges job.connection (listingPlan job.schema))
        ((ListingCourse.completed closing).records job tables)
        (Job.close (.ok tables : Except Stop _) last).2 ∧
      (Job.close (.ok tables) last).1 =
        (ListingCourse.completed closing).ending job.connection job.schema tables := by
  obtain ⟨closing, closed, outcome⟩ := close_trail (.ok tables : Except Stop _) last
  have all := (connecting.append trail).append closed
  rw [List.append_nil] at all
  refine ⟨closing, all, ?_⟩
  rw [outcome]
  cases closing <;> rfl

/-- A listing whose script failed leaves the cursor and closes the connection. -/
private theorem broken_listing {passed : List Call} {opened last : World} {tables : List String}
    (connecting : Trail w [(Call.connect job.connection).passed] (connectNotes job) opened)
    (reached : passed ++ [failed] <+: listingPlan job.schema)
    (trail : Trail opened (passed.map Call.passed ++ [⟨failed, some e⟩])
      (notes job tables passed) last) :
    ∃ closing, Trail w
        ((ListingCourse.broken passed failed e closing).exchanges job.connection
          (listingPlan job.schema))
        ((ListingCourse.broken passed failed e closing).records job tables)
        (Job.close (.error (job.listingStop (failed, e)) : Except Stop (List String))
          (Job.leaveCursor failed last)).2 ∧
      (Job.close (.error (job.listingStop (failed, e))) (Job.leaveCursor failed last)).1 =
        (ListingCourse.broken passed failed e closing).ending job.connection job.schema tables := by
  have fails : failed ≠ .cursorClose := by
    rintro rfl
    exact trail.run.leaving_never_raises (e := e) (by simp)
  have left := leave_cursor_trail last (listing_needs_cursor_iff_open reached fails)
  obtain ⟨closing, closed, outcome⟩ := close_trail
    (.error (job.listingStop (failed, e)) : Except Stop (List String)) (Job.leaveCursor failed last)
  refine ⟨closing, ?_, ?_⟩
  · have all := (connecting.append trail).append (left.append closed)
    simpa [ListingCourse.exchanges, ListingCourse.records] using all
  · rw [outcome, listingStop_eq]
    cases closing <;> rfl

/-- Every listing takes a course that follows its plan, and finds the tables that were committed
when it began. The course tells its exchanges, its records and its ending. -/
theorem list_leaves_trail (job : Job) (w : World) :
    ∃ course : ListingCourse,
      course.Follows (listingPlan job.schema) ∧
      Trail w (course.exchanges job.connection (listingPlan job.schema))
        (course.records job (w.server.catalog.tables job.schema)) (job.list w).2 ∧
      (job.list w).1 =
        course.ending job.connection job.schema (w.server.catalog.tables job.schema) := by
  obtain ⟨reply, connecting, connection⟩ := connect_trail job w
  cases connects : job.connect w with
  | mk outcome opened =>
    rw [connects] at connecting connection
    cases reply with
    | some e =>
      cases connection
      refine ⟨.unreachable e, trivial, ?_, ?_⟩
      · simp only [Job.list, connects]
        exact connecting
      · simp only [Job.list, connects, ListingCourse.ending]
    | none =>
      cases connection
      obtain ⟨fresh, committed⟩ := connected_fresh connecting.run
      have finds := finds_listing fresh job
      cases scripted : job.script job.listing opened with
      | mk stopped last =>
        cases stopped with
        | none =>
          have trail := script_completed finds scripted
          have found := listed_on_committed fresh trail.run
          rw [← found] at trail
          obtain ⟨closing, ran, ends⟩ := completed_listing connecting trail
          simp only [Job.list, connects, scripted]
          rw [← committed, ← found]
          exact ⟨.completed closing, trivial, ran, ends⟩
        | some failure =>
          obtain ⟨failed, e⟩ := failure
          obtain ⟨passed, reached, trail⟩ := script_failed finds scripted
          rw [committed] at trail
          obtain ⟨closing, ran, ends⟩ := broken_listing connecting reached trail
          simp only [Job.list, connects, scripted]
          exact ⟨.broken passed failed e closing, reached, ran, ends⟩

theorem list_refused {connection : Connection} {schema : Option String} {stop : Stop}
    (refused : approve connection schema = .error stop) (request : Option String) (w : World) :
    list connection schema request w = (.error stop, w) := by
  simp only [list, refused]

/-- A listing that is approved takes a course for the schema that the request names, under the
request id that it was given. -/
theorem approved_listing_leaves_trail {connection : Connection} {schema : Option String}
    {name : String} (approved : approve connection schema = .ok name) (request : Option String)
    (w : World) :
    ∃ course : ListingCourse,
      course.Follows (listingPlan name) ∧
      Trail w (course.exchanges connection (listingPlan name))
        (course.records ⟨connection, name, request⟩ (w.server.catalog.tables name))
        (list connection schema request w).2 ∧
      (list connection schema request w).1 =
        course.ending connection name (w.server.catalog.tables name) := by
  simpa only [list, approved] using list_leaves_trail ⟨connection, name, request⟩ w

/-- What an approved listing does to the server follows from its course alone. -/
theorem approved_listing_takes_course {connection : Connection} {schema : Option String}
    {name : String} (approved : approve connection schema = .ok name) (request : Option String)
    (w : World) :
    ∃ course : ListingCourse,
      course.Follows (listingPlan name) ∧
      Run w.server (course.exchanges connection (listingPlan name))
        (list connection schema request w).2.server ∧
      (list connection schema request w).1 =
        course.ending connection name (w.server.catalog.tables name) := by
  obtain ⟨course, follows, trail, ends⟩ := approved_listing_leaves_trail approved request w
  exact ⟨course, follows, trail.run, ends⟩

/-- A listing leaves the committed tables alone, however it ends. -/
theorem listing_keeps_catalog (connection : Connection) (schema request : Option String)
    (w : World) :
    (list connection schema request w).2.server.catalog = w.server.catalog := by
  cases approved : approve connection schema with
  | error stop => rw [list_refused approved]
  | ok name =>
    obtain ⟨course, follows, ran, -⟩ := approved_listing_takes_course approved request w
    exact ran.catalog_uncommitted (ListingCourse.commit_not_mem follows connection none)

theorem listed_keeps_catalog {connection : Connection} {schema request : Option String}
    {after : World} {outcome : Except Stop (List String)}
    (ran : list connection schema request w = (outcome, after)) :
    after.server.catalog = w.server.catalog := by
  have kept := listing_keeps_catalog connection schema request w
  rwa [ran] at kept

/-- A listing that finds something was approved, found the tables that are committed, and made all
the calls of its plan. -/
theorem listing_found {connection : Connection} {schema request : Option String}
    {tables : List String} (found : (list connection schema request w).1 = .ok tables) :
    ∃ name, approve connection schema = .ok name ∧ tables = w.server.catalog.tables name ∧
      Run w.server ((ListingCourse.completed none).exchanges connection (listingPlan name))
        (list connection schema request w).2.server := by
  cases approved : approve connection schema with
  | error stop =>
    rw [list_refused approved] at found
    cases found
  | ok name =>
    obtain ⟨course, follows, ran, ends⟩ := approved_listing_takes_course approved request w
    rw [ends] at found
    cases course with
    | unreachable e => cases found
    | broken passed failed e closing => cases closing <;> cases found
    | completed closing =>
      cases closing with
      | some e => cases found
      | none =>
        cases found
        exact ⟨name, rfl, rfl, ran⟩

/-- Where no faults are planted, an approved listing finds the tables of the schema. -/
theorem faultless_listing {connection : Connection} {schema : Option String} {name : String}
    (approved : approve connection schema = .ok name) (request : Option String) {w : World}
    (unplanted : w.server.faults = []) :
    (list connection schema request w).1 = .ok (w.server.catalog.tables name) := by
  obtain ⟨course, follows, ran, ends⟩ := approved_listing_takes_course approved request w
  have passes := (ran.faultless unplanted).1
  cases course with
  | unreachable e => cases passes _ (List.mem_singleton_self _)
  | broken passed failed e closing =>
    cases passes _ (ListingCourse.raised_on_broken_iff.mpr (.inl ⟨rfl, rfl⟩))
  | completed closing =>
    cases closing with
    | some e => cases passes ⟨.close, some e⟩ (by simp [ListingCourse.exchanges])
    | none => exact ends

end SchemaWipe.Wipe
