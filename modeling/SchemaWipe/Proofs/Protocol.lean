import SchemaWipe.Proofs.Course

/-! The order in which a wipe makes its calls. The shape is that of a course; what follows from it
for every wipe is that it commits only behind a complete plan, that nothing is executed behind a
failure, that a connection that was opened is closed once and last, and which statements with which
bound values the database gets to see. -/
namespace SchemaWipe.Wipe
open Database

/-- A statement, with the values that are bound to its parameters. -/
abbrev Statement := String × List String

/-- The statement of a call, if it sends one. -/
def sentBy? (c : Call) : Option Statement :=
  c.statement?.map fun text => (text, c.bound)

/-- The statements that exchanges sent, in their order. -/
def sent (exchanges : List Exchange) : List Statement :=
  exchanges.filterMap fun x => sentBy? x.call

/-- The query for the tables of a schema. -/
def query (schema : String) : Statement :=
  ("SELECT tablename FROM pg_catalog.pg_tables WHERE schemaname = %s ORDER BY tablename", [schema])

/-- The statements that drop all of some tables: one each, in their order, behind the query, while
the enforcement of triggers and foreign keys is suspended. -/
def statements (schema : String) (tables : List String) : List Statement :=
  [("SET session_replication_role = replica", []), query schema] ++
    tables.map (fun table => (Sql.dropTable schema table, [])) ++
    [("SET session_replication_role = DEFAULT", [])]

variable {target : Connection} {schema : String} {tables : List String} {course : Course}

/-- The exchanges of a wipe of a schema that holds some tables, under planted faults. -/
structure Protocol (target : Connection) (schema : String) (tables : List String)
    (faults : List Fault) (exchanges : List Exchange) : Prop where
  /-- They are those of a course along the plan. -/
  shape : ∃ course : Course, course.Follows (plan schema tables) ∧
    exchanges = course.exchanges target (plan schema tables)
  /-- The faults decide which call is the first to fail. -/
  replied : exchanges.map (·.error) = replies faults (exchanges.map (·.call))
  /-- A commit is made only if every other call of the plan has passed. -/
  commits : ∀ reply, ⟨.commit, reply⟩ ∈ exchanges →
    ∀ c ∈ plan schema tables, c ≠ .commit → c.passed ∈ exchanges
  /-- No statement is executed behind a call that failed. -/
  silent : exchanges.Pairwise fun earlier later =>
    earlier.error ≠ none → later.call.statement? = none
  /-- The statements are sent in their order, up to one that fails. -/
  sends : sent exchanges <+: statements schema tables
  /-- A commit is made only behind all of them. -/
  sends_all : ∀ reply, ⟨.commit, reply⟩ ∈ exchanges → sent exchanges = statements schema tables
  /-- A connection that came about is closed once, by the last call. -/
  closes : (Call.connect target).passed ∈ exchanges →
    (exchanges.map (·.call)).count .close = 1 ∧
      (exchanges.map (·.call)).getLast? = some .close

/-- Where calls that raise nothing come first and calls without a statement last, no statement is
executed behind a failure. -/
theorem silent_behind {front back : List Exchange} {x : Exchange}
    (calm : ∀ y ∈ front, y.error = none) (mute : ∀ y ∈ back, y.call.statement? = none) :
    (front ++ x :: back).Pairwise fun earlier later =>
      earlier.error ≠ none → later.call.statement? = none := by
  rw [List.pairwise_append, List.pairwise_cons]
  refine ⟨?_, ⟨fun later member _ => mute later member, ?_⟩, ?_⟩
  · exact List.pairwise_of_forall_mem_list fun earlier member _ _ raised =>
      absurd (calm earlier member) raised
  · exact List.pairwise_of_forall_mem_list fun _ _ later member _ => mute later member
  · intro earlier member later _ raised
    exact absurd (calm earlier member) raised

/-- A course that comes to the commit has made its plan as a whole. -/
theorem course_at_commit (follows : course.Follows (plan schema tables)) {reply : Option Error}
    (made : ⟨.commit, reply⟩ ∈ course.exchanges target (plan schema tables)) :
    (∃ closing, course = .completed closing) ∨
      ∃ passed e rollback closing, course = .broken passed .commit e rollback closing ∧
        passed ++ [.commit] = plan schema tables := by
  cases course with
  | unreachable e => simp [Course.exchanges] at made
  | completed closing => exact .inl ⟨closing, rfl⟩
  | broken passed failed e rollback closing =>
    obtain ⟨absent, whole⟩ := commit_is_last follows
    rcases List.mem_append.mp made with front | back
    · simp only [Call.passed, List.mem_cons, List.mem_map, Exchange.mk.injEq, reduceCtorEq,
        false_and, false_or] at front
      obtain ⟨call, early, rfl, -⟩ := front
      exact absurd early absent
    · rcases List.mem_cons.mp back with here | cleaned
      · obtain rfl : failed = .commit := (congrArg Exchange.call here).symm
        exact .inr ⟨passed, e, rollback, closing, rfl, whole rfl⟩
      · exact absurd cleaned (Course.no_commit_in_cleaning passed e rollback closing reply)

theorem course_commits (follows : course.Follows (plan schema tables)) {reply : Option Error}
    (made : ⟨.commit, reply⟩ ∈ course.exchanges target (plan schema tables)) :
    ∀ c ∈ plan schema tables, c ≠ .commit →
      c.passed ∈ course.exchanges target (plan schema tables) := by
  intro c member other
  rcases course_at_commit follows made with
    ⟨closing, rfl⟩ | ⟨passed, e, rollback, closing, rfl, whole⟩
  · have passes := List.mem_map_of_mem (f := Call.passed) member
    simp [Course.exchanges, passes]
  · rw [← whole] at member
    have early := (List.mem_append.mp member).resolve_right (by simpa using other)
    have passes := List.mem_map_of_mem (f := Call.passed) early
    simp [Course.exchanges, passes]

theorem statements_picked : Course.PicksPlanned sentBy? :=
  ⟨fun _ => rfl, rfl, rfl, rfl⟩

/-- A plan sends the query, and a statement for each table, between the two for the enforcement. -/
theorem planned_statements (schema : String) (tables : List String) :
    (plan schema tables).filterMap sentBy? = statements schema tables := by
  have drops : (tables.map (Call.drop schema)).filterMap sentBy? =
      tables.map fun table => (Sql.dropTable schema table, []) := by
    rw [List.filterMap_map]
    exact congrFun List.filterMap_eq_map tables
  have opening : [Call.cursor, .relax, .list schema, .fetch].filterMap sentBy? =
      [("SET session_replication_role = replica", []), query schema] := rfl
  have ending : [Call.restore, .cursorClose, .commit].filterMap sentBy? =
      [("SET session_replication_role = DEFAULT", [])] := rfl
  rw [plan, List.filterMap_append, List.filterMap_append, opening, drops, ending]
  rfl

theorem course_sends (follows : course.Follows (plan schema tables)) (target : Connection) :
    sent (course.exchanges target (plan schema tables)) <+: statements schema tables := by
  have picked := Course.picked_prefix statements_picked follows target
  rwa [planned_statements] at picked

theorem course_sends_all (follows : course.Follows (plan schema tables)) {reply : Option Error}
    (made : ⟨.commit, reply⟩ ∈ course.exchanges target (plan schema tables)) :
    sent (course.exchanges target (plan schema tables)) = statements schema tables := by
  rw [← planned_statements]
  rcases course_at_commit follows made with
    ⟨closing, rfl⟩ | ⟨passed, e, rollback, closing, rfl, whole⟩
  · exact Course.picked_completed statements_picked target _ closing
  · rw [← whole]
    exact Course.picked_broken statements_picked target _ passed .commit e rollback closing

theorem course_silent (course : Course) (target : Connection) (calls : List Call) :
    (course.exchanges target calls).Pairwise fun earlier later =>
      earlier.error ≠ none → later.call.statement? = none := by
  have calm (done : List Call) :
      ∀ y ∈ (Call.connect target).passed :: done.map Call.passed, y.error = none := by
    simp [Call.passed]
  cases course with
  | unreachable e => exact List.pairwise_singleton _ _
  | completed closing => exact silent_behind (calm calls) (by simp)
  | broken passed failed e rollback closing =>
    refine silent_behind (calm passed) ?_
    intro y member
    rcases Course.mem_cleaning member with rfl | ⟨-, rfl⟩ | rfl <;> rfl

/-- Exchanges that end in the only closing among them. -/
theorem closed_once {front : List Exchange} (closing : Option Error)
    (unclosed : ∀ x ∈ front, x.call ≠ .close) :
    ((front ++ [Exchange.mk .close closing]).map (·.call)).count .close = 1 ∧
      ((front ++ [Exchange.mk .close closing]).map (·.call)).getLast? = some .close := by
  have absent : .close ∉ front.map (·.call) := by
    intro member
    obtain ⟨x, inside, call⟩ := List.mem_map.mp member
    exact unclosed x inside call
  rw [List.map_append, List.count_append, List.count_eq_zero.mpr absent]
  exact ⟨by simp, List.getLast?_concat⟩

theorem course_closes (follows : course.Follows (plan schema tables))
    (connected : (Call.connect target).passed ∈ course.exchanges target (plan schema tables)) :
    ((course.exchanges target (plan schema tables)).map (·.call)).count .close = 1 ∧
      ((course.exchanges target (plan schema tables)).map (·.call)).getLast? = some .close := by
  have unplanned : .close ∉ plan schema tables := by simp [plan]
  cases course with
  | unreachable e => simp [Course.exchanges, Call.passed] at connected
  | completed closing =>
    refine closed_once closing ?_
    intro x member
    rcases List.mem_cons.mp member with rfl | planned
    · intro call
      cases call
    · obtain ⟨c, inside, rfl⟩ := List.mem_map.mp planned
      rintro rfl
      exact unplanned inside
  | broken passed failed e rollback closing =>
    have shape : (Course.broken passed failed e rollback closing).exchanges target
        (plan schema tables) =
        ((Call.connect target).passed :: passed.map Call.passed ++
          ⟨failed, some e⟩ :: (Course.leaving passed ++ Course.undoing e rollback)) ++
          [⟨.close, closing⟩] := by
      simp [Course.exchanges, Course.cleaning]
    rw [shape]
    refine closed_once closing ?_
    intro x member
    rcases List.mem_append.mp member with front | back
    · rcases List.mem_cons.mp front with rfl | early
      · intro call
        cases call
      · obtain ⟨c, inside, rfl⟩ := List.mem_map.mp early
        rintro rfl
        exact unplanned (follows.subset (List.mem_append_left _ inside))
    · rcases List.mem_cons.mp back with rfl | cleaned
      · rintro rfl
        exact unplanned (follows.subset (by simp))
      · rcases List.mem_append.mp cleaned with left | undone
        · rw [Course.mem_leaving left]
          intro call
          cases call
        · rw [(Course.mem_undoing undone).2]
          intro call
          cases call

/-- Every approved wipe keeps to the protocol, with a plan for the tables that the schema held when
it began. -/
theorem approved_wipe_keeps_protocol {connection : Connection} {schema : Option String}
    {name : String} (approved : approve connection schema = .ok name) (request : Option String)
    (w : World) :
    ∃ exchanges,
      (wipe connection schema request w).2.server.record = w.server.record ++ exchanges ∧
      Protocol connection name (w.server.catalog.tables name) w.server.faults exchanges := by
  obtain ⟨course, follows, ran, -⟩ := approved_wipe_takes_course approved request w
  exact ⟨_, ran.record, {
    shape := ⟨course, follows, rfl⟩
    replied := ran.errors
    commits := fun _ made => course_commits follows made
    silent := course_silent course connection _
    sends := course_sends follows connection
    sends_all := fun _ made => course_sends_all follows made
    closes := course_closes follows }⟩

/-- The second drop fails, and so do the rollback and the closing behind it. -/
theorem broken_wipe_keeps_protocol :
    let connection : Connection := { password := "secret" }
    let lost : Error := ⟨.database "InterfaceError", "connection already closed", none⟩
    let faults : List Fault := [⟨.drop, some "users", ⟨.privilege, "denied", none⟩, none, 0⟩,
      ⟨.rollback, none, lost, none, 0⟩, ⟨.close, none, lost, none, 0⟩]
    let w : World := { server := { catalog := [("public", ["orders", "users"])], faults } }
    approve connection (some "public") = .ok "public" ∧
      ∃ exchanges, (wipe connection (some "public") none w).2.server.record = exchanges ∧
        exchanges.map (·.call) = [.connect connection, .cursor, .relax, .list "public", .fetch,
          .drop "public" "orders", .drop "public" "users", .cursorClose, .rollback, .close] ∧
        Protocol connection "public" ["orders", "users"] faults exchanges := by
  intro connection lost faults w
  have approved : approve connection (some "public") = .ok "public" := rfl
  obtain ⟨exchanges, ran, protocol⟩ := approved_wipe_keeps_protocol approved none w
  obtain rfl : (wipe connection (some "public") none w).2.server.record = exchanges := ran
  exact ⟨approved, _, rfl, rfl, protocol⟩

end SchemaWipe.Wipe
