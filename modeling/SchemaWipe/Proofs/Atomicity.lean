import SchemaWipe.Proofs.Emptying

/-! A wipe is all or nothing. The commit is the last call of the plan, so a course that breaks has
made none that passed, and the committed tables are those of before. The one thing that can still
go wrong behind the commit is the closing: the wipe then fails, and the tables are gone. -/
namespace SchemaWipe.Wipe
open Database

variable {target : Connection} {schema : String} {tables : List String} {course : Course}

/-- A commit passes on exactly the courses that are completed. -/
theorem committed_iff_completed (target : Connection)
    (follows : course.Follows (plan schema tables)) :
    Call.commit.passed ∈ course.exchanges target (plan schema tables) ↔
      ∃ closing, course = .completed closing := by
  cases course with
  | unreachable e => simp [Course.exchanges, Call.passed]
  | completed closing => simp [Course.exchanges, Call.passed, plan]
  | broken passed failed e rollback closing =>
    have absent := (commit_is_last follows).1
    have cleaned := Course.no_commit_in_cleaning passed e rollback closing none
    simp [Course.exchanges, Call.passed, absent, cleaned]

/-- A schema without tables is committed as it was. -/
theorem completed_catalog_eq_iff {s t : Server} {closing : Option Error}
    (ran : Run s ((Course.completed closing).exchanges target
      (plan schema (s.catalog.tables schema))) t) :
    t.catalog = s.catalog ↔ s.catalog.tables schema = [] := by
  have committed := completed_catalog ran
  constructor
  · intro same
    have emptied : Emptied [schema] s.catalog
        (s.catalog.without schema (gone s.cascades (s.catalog.tables schema))) :=
      Catalog.emptied_without fun table => mem_gone
    rw [← committed, same] at emptied
    exact emptied.empty schema (List.mem_singleton_self schema)
  · intro none_held
    rw [none_held] at committed
    exact committed.trans (Catalog.without_nil s.catalog schema)

/-- A wipe is all or nothing: if its commit passes, the schema is emptied and every other one is as
it was, and if not, nothing has changed. A wipe that reports has committed, and it reports the
tables that the schema held when it began. -/
theorem wipe_is_all_or_nothing (connection : Connection) (schema request : Option String)
    (w : World) :
    ∃ exchanges,
      (wipe connection schema request w).2.server.record = w.server.record ++ exchanges ∧
      (Call.commit.passed ∈ exchanges → ∃ name, schema = some name ∧
        Emptied [name] w.server.catalog (wipe connection schema request w).2.server.catalog) ∧
      (Call.commit.passed ∉ exchanges →
        (wipe connection schema request w).2.server.catalog = w.server.catalog) ∧
      ∀ report, (wipe connection schema request w).1 = .ok report →
        Call.commit.passed ∈ exchanges ∧ schema = some report.schema ∧
          report.dropped = w.server.catalog.tables report.schema ∧
          report.count = (w.server.catalog.tables report.schema).length := by
  cases approved : approve connection schema with
  | error stop =>
    rw [wipe_refused approved]
    refine ⟨[], by simp, ?_, fun _ => rfl, ?_⟩
    · intro committed
      cases committed
    · intro report reported
      cases reported
  | ok name =>
    obtain ⟨course, follows, ran, ends⟩ := approved_wipe_takes_course approved request w
    refine ⟨_, ran.record, ?_, fun uncommitted => ran.catalog_uncommitted uncommitted, ?_⟩
    · intro committed
      obtain ⟨closing, rfl⟩ := (committed_iff_completed connection follows).mp committed
      refine ⟨name, approved_schema approved, ?_⟩
      rw [completed_catalog ran]
      exact Catalog.emptied_without fun table => mem_gone
    · intro report reported
      rw [ends] at reported
      rw [committed_iff_completed connection follows]
      cases course with
      | unreachable e => cases reported
      | broken passed failed e rollback closing => cases closing <;> cases reported
      | completed closing =>
        cases closing with
        | some e => cases reported
        | none =>
          cases reported
          exact ⟨⟨none, rfl⟩, approved_schema approved, rfl, rfl⟩

/-- A wipe that fails has changed nothing, except where the closing raises an error behind a commit
that passed: the tables that the schema held are then gone. -/
theorem failed_wipe_changes_nothing_iff (connection : Connection) (schema request : Option String)
    (w : World) :
    ∃ exchanges,
      (wipe connection schema request w).2.server.record = w.server.record ++ exchanges ∧
      ((∀ stop, (wipe connection schema request w).1 = .error stop →
          (wipe connection schema request w).2.server.catalog = w.server.catalog) ↔
        ¬ (Call.commit.passed ∈ exchanges ∧ (∃ e, Exchange.mk .close (some e) ∈ exchanges) ∧
          ∃ name, schema = some name ∧ w.server.catalog.tables name ≠ [])) := by
  cases approved : approve connection schema with
  | error stop =>
    rw [wipe_refused approved]
    refine ⟨[], by simp, ?_⟩
    simp
  | ok name =>
    obtain ⟨course, follows, ran, ends⟩ := approved_wipe_takes_course approved request w
    refine ⟨_, ran.record, ?_⟩
    rw [ends]
    by_cases committed : ∃ closing, course = .completed closing
    · obtain ⟨closing, rfl⟩ := committed
      cases closing with
      | none => simp [Course.ending, Course.raised_on_completed_iff]
      | some e =>
        have passes := (committed_iff_completed connection follows).mpr ⟨some e, rfl⟩
        rw [completed_catalog_eq_iff ran]
        simp [Course.ending, passes, Course.raised_on_completed_iff, approved_schema approved]
    · have uncommitted := mt (committed_iff_completed connection follows).mp committed
      simp [ran.catalog_uncommitted uncommitted, uncommitted]

/-- The closing fails behind the commit: the wipe raises an error, and the table is gone. -/
theorem failed_closing_hides_commit :
    let connection : Connection := { password := "secret" }
    let lost : Error := ⟨.database "OperationalError", "connection lost", none⟩
    let faults : List Fault := [⟨.close, none, lost, none, 0⟩]
    let w : World := { server := { catalog := [("public", ["users"])], faults } }
    (wipe connection (some "public") none w).1 = .error (.raised lost) ∧
      (wipe connection (some "public") none w).2.server.catalog = [("public", [])] ∧
      (wipe connection (some "public") none w).2.server.catalog ≠ w.server.catalog :=
  ⟨rfl, rfl, by decide⟩

end SchemaWipe.Wipe
