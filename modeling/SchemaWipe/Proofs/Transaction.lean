import SchemaWipe.Proofs.Trail

/-! The transaction of a wipe. It makes the calls of a plan: all of them if it succeeds, and those
up to the one that failed otherwise; and it records those that passed. The plan rests on the tables
that are committed when the transaction begins, because the connection is then a fresh one. -/
namespace SchemaWipe.Wipe
open Database

/-- The calls of a wipe between connecting and closing, as long as none of them fails. -/
def plan (schema : String) (tables : List String) : List Call :=
  [.cursor, .relax, .list schema, .fetch] ++ tables.map (.drop schema) ++
    [.restore, .cursorClose, .commit]

variable {job : Job} {w after : World} {failed : Call} {e : Error}

/-- A connection that came about has no working copy yet. -/
theorem connected_fresh {s t : Server} {target : Connection}
    (ran : Run s [(Call.connect target).passed] t) :
    t.working = none ∧ t.catalog = s.catalog := by
  cases ran.after_passed
  exact ⟨rfl, rfl⟩

/-- On a fresh connection the query finds the tables that are committed, and the working copy is
what is committed. -/
theorem opened_on_committed {s t : Server} {schema : String} (fresh : s.working = none)
    (ran : Run s ([.cursor, .relax, .list schema, .fetch].map Call.passed) t) :
    t.rows = s.catalog.tables schema ∧ t.view = s.catalog := by
  have relaxed := ran.after_passed.after_passed
  cases relaxed.after_passed.after_passed
  exact ⟨by simp [Server.apply, Server.view, fresh], by simp [Server.apply, Server.view, fresh]⟩

theorem plan_eq (job : Job) (tables : List String) :
    plan job.schema tables = job.opening ++ job.dropping tables := by
  simp [plan, Job.opening, Job.dropping]

/-- What the opening of a wipe fetches on a fresh connection are the tables that are committed. -/
theorem finds_opening {s : Server} (fresh : s.working = none) (job : Job) :
    Finds s job.opening (s.catalog.tables job.schema) :=
  .of_once [.cursor, .relax, .list job.schema] [] (by simp) (by simp)
    fun _ ran => (opened_on_committed fresh ran).1

theorem finds_dropping (s : Server) (job : Job) (found tables : List String) :
    Finds s (job.dropping found) tables :=
  .of_not_mem (by simp [Job.dropping]) tables

/-- A transaction that succeeds has dropped the tables that were committed when it began. -/
theorem transaction_completed {tables : List String} (fresh : w.server.working = none)
    (ran : job.transaction w = (.ok tables, after)) :
    tables = w.server.catalog.tables job.schema ∧
      Trail w ((plan job.schema tables).map Call.passed)
        (notes job tables (plan job.schema tables)) after := by
  unfold Job.transaction at ran
  cases opened : job.script job.opening w with
  | mk stopped middle =>
    rw [opened] at ran
    cases stopped with
    | some failed => cases ran
    | none =>
      have first := script_completed (finds_opening fresh job) opened
      have found := (opened_on_committed fresh first.run).1
      dsimp only at ran
      cases dropped : job.script (job.dropping middle.server.rows) middle with
      | mk stopped last =>
        rw [dropped] at ran
        cases stopped with
        | some failed => cases ran
        | none =>
          cases ran
          refine ⟨found, ?_⟩
          rw [← found] at first
          rw [plan_eq, List.map_append, notes_append]
          exact first.append (script_completed (finds_dropping _ job _ _) dropped)

/-- A transaction that fails has followed the plan up to the call that failed. -/
theorem transaction_failed (fresh : w.server.working = none)
    (ran : job.transaction w = (.error (failed, e), after)) :
    ∃ passed, passed ++ [failed] <+: plan job.schema (w.server.catalog.tables job.schema) ∧
      Trail w (passed.map Call.passed ++ [⟨failed, some e⟩])
        (notes job (w.server.catalog.tables job.schema) passed) after := by
  rw [plan_eq]
  unfold Job.transaction at ran
  cases opened : job.script job.opening w with
  | mk stopped middle =>
    rw [opened] at ran
    cases stopped with
    | some early =>
      cases ran
      obtain ⟨passed, reached, trail⟩ := script_failed (finds_opening fresh job) opened
      exact ⟨passed, reached.trans (List.prefix_append ..), trail⟩
    | none =>
      have first := script_completed (finds_opening fresh job) opened
      dsimp only at ran
      cases dropped : job.script (job.dropping middle.server.rows) middle with
      | mk stopped last =>
        rw [dropped] at ran
        cases stopped with
        | none => cases ran
        | some late =>
          cases ran
          obtain ⟨passed, reached, trail⟩ := script_failed (finds_dropping _ job _ _) dropped
          rw [(opened_on_committed fresh first.run).1] at reached
          refine ⟨job.opening ++ passed, ?_, ?_⟩
          · rw [List.append_assoc]
            exact (List.prefix_append_right_inj _).mpr reached
          · rw [List.map_append, List.append_assoc, notes_append]
            exact first.append trail

/-- The commit is the last call of a plan: no call before a failed one commits, and where the commit
itself fails, the plan was made as a whole. -/
theorem commit_is_last {passed : List Call} {schema : String} {tables : List String}
    (reached : passed ++ [failed] <+: plan schema tables) :
    .commit ∉ passed ∧ (failed = .commit → passed ++ [failed] = plan schema tables) := by
  have shape : plan schema tables =
      ([.cursor, .relax, .list schema, .fetch] ++ tables.map (.drop schema) ++
        [.restore, .cursorClose]) ++ [.commit] := by
    simp [plan]
  rw [shape] at reached ⊢
  rcases List.prefix_concat_iff.mp reached with whole | part
  · refine ⟨?_, fun _ => whole⟩
    rw [(List.append_inj' whole rfl).1]
    simp
  · refine ⟨?_, ?_⟩
    · intro member
      have earlier := part.subset (List.mem_append_left [failed] member)
      simp at earlier
    · rintro rfl
      have earlier := part.subset (List.mem_append_right passed (List.mem_singleton_self _))
      simp at earlier

end SchemaWipe.Wipe
