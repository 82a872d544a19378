import SchemaWipe.Proofs.Gate

/-! The confirmation of a wipe while other clients change what is committed. The listing and the wipe
are transactions of their own, and nothing is held between them: the operator sees the tables of the
one and loses those of the other. How far the two can differ is settled by `interleaved_wipe`. -/
namespace SchemaWipe.Command
open CommandLine Wipe Database

/-- What holds of a run that commits a wipe, its schema having had some tables when it was listed and
some when it was wiped. -/
structure Interleaved (schema database : String) (listed found : List String) (t : Terminal)
    (output : String) (exchanges : List Exchange) : Prop where
  /-- The wipe drops what it finds. -/
  dropped : droppedTables exchanges = found
  /-- What was listed had been announced to the operator, if there was anything. -/
  seen : ∃ announced message, Announces schema database listed announced ∧
    output = t.output ++ announced ++ message
  /-- If there was, the operator repeated the schema. -/
  repeated : listed ≠ [] → Guard.Repeats schema t.line?

namespace Interleaved

variable {schema database output : String} {listed found : List String} {t : Terminal}
  {exchanges : List Exchange}

/-- Every table that is dropped was seen exactly if nobody added one after the listing. -/
theorem covered_iff (run : Interleaved schema database listed found t output exchanges) :
    (∀ table ∈ droppedTables exchanges, table ∈ listed) ↔ found ⊆ listed := by
  rw [run.dropped]
  rfl

/-- Where tables are dropped that were seen, the operator repeated the schema. -/
theorem repeated_of_covered (run : Interleaved schema database listed found t output exchanges)
    (covered : found ⊆ listed) (drops : droppedTables exchanges ≠ []) :
    Guard.Repeats schema t.line? := by
  apply run.repeated
  rintro rfl
  rw [run.dropped, List.subset_nil.mp covered] at drops
  exact drops rfl

end Interleaved

variable {settings : Settings} {p : Session} {args : List String} {given : Named Given}

/-- A run that has to be confirmed and commits its wipe drops the tables that are committed by then,
and the operator saw those of before. So the dropped tables are among the ones that were seen exactly
if nobody added any in between, and then the operator repeated the schema for them. -/
theorem interleaved_wipe (asking : Asking args given p settings) (t : Terminal)
    (meanwhile : Catalog → Catalog) :
    ∃ exchanges,
      (run args p t meanwhile).2.1.world.server.record = p.world.server.record ++ exchanges ∧
      (Call.commit.passed ∈ exchanges →
        let listed := p.world.server.catalog.tables settings.reset.schema
        let found := (meanwhile p.world.server.catalog).tables settings.reset.schema
        Interleaved settings.reset.schema settings.connection.database listed found t
            (run args p t meanwhile).2.2.output exchanges ∧
          ((∀ table ∈ droppedTables exchanges, table ∈ listed) ↔ found ⊆ listed) ∧
          (found ⊆ listed → droppedTables exchanges ≠ [] →
            Guard.Repeats settings.reset.schema t.line?)) := by
  cases asking_run_passes asking t meanwhile with
  | halted world output => exact ⟨[], by simp [world], fun commits => by cases commits⟩
  | unlisted target course follows failed ran output =>
    exact ⟨_, ran.record, fun commits => absurd commits (course.commit_not_mem follows target none)⟩
  | unconfirmed target held other ran ending =>
    have follows := ListingCourse.completed_follows none (listingPlan settings.reset.schema)
    exact ⟨_, ran.record, fun commits =>
      absurd commits (ListingCourse.commit_not_mem follows target none)⟩
  | wiped target server course gate listing follows wiping output =>
    have listed := ListingCourse.completed_follows none (listingPlan settings.reset.schema)
    refine ⟨_, listing.record_across wiping, ?_⟩
    intro commits
    have interleaved : Interleaved _ _ _ _ t _ _ :=
      ⟨droppedTables_committed listed follows commits, output, gate⟩
    exact ⟨interleaved, interleaved.covered_iff, interleaved.repeated_of_covered⟩

/-- A table is dropped between the listing and the wipe: the one that is left was seen, and the schema
was repeated. -/
theorem wipe_after_another_drop :
    let server : Server := { catalog := [("public", ["orders", "users"])] }
    let p : Session := { environ := { entries := [("PGPASSWORD", "secret")] }, world := { server } }
    let t : Terminal := { input := ['p', 'u', 'b', 'l', 'i', 'c', '\n'] }
    let settings : Settings := { connection := { password := "secret" } }
    let drop : Catalog → Catalog := (·.without "public" ["orders"])
    Asking ["reset-schema"] [] p settings ∧
      Call.commit.passed ∈ (run ["reset-schema"] p t drop).2.1.world.server.record ∧
      Interleaved "public" "test_db" ["orders", "users"] ["users"] t
        (run ["reset-schema"] p t drop).2.2.output
        (run ["reset-schema"] p t drop).2.1.world.server.record ∧
      Guard.Repeats "public" t.line? := by
  intro server p t settings drop
  have asking : Asking ["reset-schema"] [] p settings :=
    { reads := rfl, loads := rfl, unwaived := rfl, required := rfl }
  obtain ⟨exchanges, ran, commits⟩ := interleaved_wipe asking t drop
  obtain rfl : (run ["reset-schema"] p t drop).2.1.world.server.record = exchanges := ran
  have committed : Call.commit.passed ∈
      (run ["reset-schema"] p t drop).2.1.world.server.record := by decide +kernel
  have dropped : droppedTables (run ["reset-schema"] p t drop).2.1.world.server.record ≠ [] := by
    decide +kernel
  obtain ⟨interleaved, -, repeated⟩ := commits committed
  exact ⟨asking, committed, interleaved, repeated (List.subset_cons_self "orders" _) dropped⟩

/-- A table is created in an empty schema after it was listed: it is dropped, although the operator
saw no table and was asked nothing. -/
theorem unseen_table_is_dropped :
    let server : Server := { catalog := [("public", [])] }
    let p : Session := { environ := { entries := [("PGPASSWORD", "secret")] }, world := { server } }
    let settings : Settings := { connection := { password := "secret" } }
    let after := run ["reset-schema"] p {} fun _ => [("public", ["late"])]
    Asking ["reset-schema"] [] p settings ∧
      Call.commit.passed ∈ after.2.1.world.server.record ∧
      droppedTables after.2.1.world.server.record = ["late"] ∧
      "late" ∉ p.world.server.catalog.tables "public" ∧
      ¬ Guard.Repeats "public" (Terminal.line? {}) ∧
      after.2.2.output =
        "All 1 tables in schema 'public' of database 'test_db' have been dropped.\n" := by
  intro server p settings after
  refine ⟨{ reads := rfl, loads := rfl, unwaived := rfl, required := rfl }, ?_, ?_, ?_, ?_, ?_⟩
  · decide +kernel
  · decide +kernel
  · decide +kernel
  · rintro ⟨answer, typed, -⟩
    cases typed
  · decide +kernel

end SchemaWipe.Command
