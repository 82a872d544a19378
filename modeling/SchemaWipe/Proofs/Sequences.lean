import SchemaWipe.Proofs.Deeds
import SchemaWipe.Proofs.Clearing
import SchemaWipe.Proofs.Identifier
import SchemaWipe.Proofs.Requests

/-! What sequences of acts leave behind. One act either commits a wipe of the schema it is about, or
leaves the committed tables alone; so at the end exactly those schemas are emptied for which a
commit passed, whatever failed in between. Nothing else is handed on from one act to the next. -/
namespace SchemaWipe
open Database Wipe

/-- The schema that an act is to wipe. -/
def Act.aim : Act → Option String
  | .wipe _ schema _ => schema
  | .serve _ (.wipe schema _ _) => schema
  | _ => none

/-- An act ends with the report of a wipe, as it is or as the fields of an answer. -/
inductive Act.Outcome.Reports : Act.Outcome → Report → Prop where
  | wiped (report : Report) : Reports (.wiped (.ok report)) report
  | answered (report : Report) : Reports (.answered (.ok report.fields)) report

/-- What an act with an aim does to a server by some exchanges. -/
structure Act.Effect (aim : Option String) (outcome : Act.Outcome) (exchanges : List Exchange)
    (s t : Server) : Prop where
  record : t.record = s.record ++ exchanges
  cascades : t.cascades = s.cascades
  committed : Call.commit.passed ∈ exchanges → ∃ schema, aim = some schema ∧
    t.catalog = s.catalog.cleared s.cascades [schema]
  uncommitted : Call.commit.passed ∉ exchanges → t.catalog = s.catalog
  reports : ∀ report, outcome.Reports report →
    aim = some report.schema ∧ report.dropped = s.catalog.tables report.schema

/-- The schemas of the acts whose commit passed. -/
def committed (done : List Deed) : List String :=
  (done.filter fun deed => Call.commit.passed ∈ deed.exchanges).filterMap (·.act.aim)

variable {w after : World} {outcome : Act.Outcome}

theorem Report.fields_injective {report other : Report} (same : report.fields = other.fields) :
    report = other := by
  obtain ⟨schema, dropped⟩ := report
  obtain ⟨schema', dropped'⟩ := other
  simp only [Report.fields, List.cons.injEq, Prod.mk.injEq, Value.text.injEq, Value.list.injEq,
    true_and] at same
  obtain ⟨rfl, tables, -⟩ := same
  rw [(List.map_inj_right fun _ _ => Value.text.inj).mp tables]

namespace Act.Effect

/-- Where no call is made, nothing is done. -/
theorem idle {aim : Option String} (quiet : ∀ report, ¬ outcome.Reports report) (s : Server) :
    Effect aim outcome [] s s where
  record := by simp
  cascades := rfl
  committed := nofun
  uncommitted _ := rfl
  reports report reported := absurd reported (quiet report)

theorem of_wipe (connection : Connection) (schema request : Option String) (w : World) :
    ∃ exchanges, Effect schema (.wiped (Wipe.wipe connection schema request w).1) exchanges w.server
      (Wipe.wipe connection schema request w).2.server := by
  have effect := wipe_effect connection schema request w
  generalize Wipe.wipe connection schema request w = r at effect
  cases effect with
  | refused unapproved => exact ⟨[], idle (by rintro report ⟨⟩) _⟩
  | broken approved ran uncommitted breaks =>
    exact ⟨_, ran.record, ran.cascades, fun commits => absurd commits uncommitted,
      ran.catalog_uncommitted, nofun⟩
  | @committed name exchanges outcome after approved ran commits emptied ends =>
    refine ⟨_, ran.record, ran.cascades, fun _ => ⟨name, approved_schema approved, ?_⟩,
      ran.catalog_uncommitted, ?_⟩
    · rw [emptied, Catalog.without_eq_cleared]
    · rintro report ⟨⟩
      rcases ends with ends | ⟨e, ends⟩
      · cases ends
        exact ⟨approved_schema approved, rfl⟩
      · cases ends

theorem of_list (connection : Connection) (schema request : Option String) (w : World) :
    ∃ exchanges, Effect none (.listed (Wipe.list connection schema request w).1) exchanges w.server
      (Wipe.list connection schema request w).2.server := by
  have effect := list_effect connection schema request w
  generalize Wipe.list connection schema request w = r at effect
  have uncommitted {exchanges : List Exchange}
      (silent : ∀ x ∈ exchanges, x.call.table? = none ∧ x.call ≠ .commit) :
      Call.commit.passed ∉ exchanges := fun commits => (silent _ commits).2 rfl
  cases effect with
  | refused unapproved => exact ⟨[], idle (by rintro report ⟨⟩) _⟩
  | broken approved ran silent breaks =>
    exact ⟨_, ran.record, ran.cascades, fun commits => absurd commits (uncommitted silent),
      ran.catalog_uncommitted, nofun⟩
  | found approved ran silent =>
    exact ⟨_, ran.record, ran.cascades, fun commits => absurd commits (uncommitted silent),
      ran.catalog_uncommitted, nofun⟩

/-- The fields of a listing are never those of a report. -/
theorem listing_reports_nothing {name : String} {listing : Except Stop (List String)}
    (report : Report) :
    ¬ (Act.Outcome.answered (listing.map (Remote.listingFields name))).Reports report := by
  generalize answered : Act.Outcome.answered (listing.map (Remote.listingFields name)) = outcome
  intro reports
  cases reports with
  | wiped => cases answered
  | answered =>
    cases listing with
    | error stop => cases answered
    | ok tables =>
      have fields := Except.ok.inj (Act.Outcome.answered.inj answered)
      simp [Remote.listingFields, Report.fields] at fields

/-- The fields of the report of a wipe are those of no other report. -/
theorem reports_of_fields {result : Except Stop Report} {report : Report}
    (reports : (Act.Outcome.answered (result.map Report.fields)).Reports report) :
    (Act.Outcome.wiped result).Reports report := by
  generalize answered : Act.Outcome.answered (result.map Report.fields) = outcome at reports
  cases reports with
  | wiped => cases answered
  | answered =>
    cases result with
    | error stop => cases answered
    | ok found =>
      have fields := Except.ok.inj (Act.Outcome.answered.inj answered)
      rw [Report.fields_injective fields]
      exact .wiped report

/-- A request does what the operation does that it comes to. -/
theorem of_step {settings : Settings} {request : Remote.Request} {answer : Remote.Answer}
    (step : Remote.Step settings w request answer after) :
    ∃ exchanges, Effect (Act.serve settings request).aim (.answered answer) exchanges w.server
      after.server := by
  cases step with
  | refused refuses => exact ⟨[], idle (by rintro report ⟨⟩) _⟩
  | @wiped schema _ _ name request begun _ result permitted identified wipes issued =>
    obtain ⟨same, -⟩ := Guard.identifier_eq_ok_iff.mp permitted.identified
    obtain ⟨exchanges, effect⟩ := of_wipe settings.connection (some name) (some request) begun
    rw [wipes, identified.server_eq, ← same] at effect
    exact ⟨exchanges, { effect with
      reports := fun report reports => effect.reports report (reports_of_fields reports) }⟩
  | unlisted identified aimed refuses =>
    rw [identified.server_eq]
    exact ⟨[], idle (by rintro report ⟨⟩) _⟩
  | @listed _ _ _ name request begun _ result identified aimed accepts lists issued =>
    obtain ⟨exchanges, effect⟩ := of_list settings.connection (some name) (some request) begun
    rw [lists, identified.server_eq] at effect
    exact ⟨exchanges, { effect with
      reports := fun report reports => absurd reports (listing_reports_nothing report) }⟩

end Act.Effect

/-- Every act commits a wipe of the schema it is about, or leaves the committed tables alone. -/
theorem Act.perform_effect (act : Act) (w : World) :
    ∃ exchanges, Effect act.aim (act.perform w).1 exchanges w.server (act.perform w).2.server := by
  cases act with
  | wipe connection schema request => exact Effect.of_wipe connection schema request w
  | list connection schema request => exact Effect.of_list connection schema request w
  | serve settings request => exact Effect.of_step (Remote.step_iff.mpr rfl)
  | plant faults => exact ⟨[], by simp [perform], rfl, nofun, fun _ => rfl, by rintro report ⟨⟩⟩

/-- The same with the calls that a deed tells. -/
theorem Act.deed_effect (act : Act) (w : World) :
    Effect act.aim (act.perform w).1 (act.exchanges w) w.server (act.perform w).2.server := by
  obtain ⟨exchanges, effect⟩ := act.perform_effect w
  rwa [Act.exchanges, effect.record, List.drop_left]

/-- An act leaves no trace: with the same faults ahead, all that is done later ends as it would have
without the act. -/
def Untraced (w after : World) : Prop :=
  ∀ faults later,
    (deeds (.plant faults :: later) after).1 = (deeds (.plant faults :: later) w).1 ∧
      (deeds (.plant faults :: later) after).2.server.catalog =
        (deeds (.plant faults :: later) w).2.server.catalog

/-- Worlds that hold the same are told apart by nothing that is done to them, once they have the
same faults ahead. -/
theorem untraced_of_same (catalog : after.server.catalog = w.server.catalog)
    (cascades : after.server.cascades = w.server.cascades) : Untraced w after := by
  intro faults later
  have planted : Beside id (w.server.record, after.server.record) False False
      ((Act.plant faults).perform w).2 ((Act.plant faults).perform after).2 :=
    ⟨⟨catalog, cascades, rfl, ⟨[], by simp [Act.perform]⟩, nofun, nofun⟩, nofun, nofun⟩
  have keeps : ∀ act ∈ later, act.Keeps id := fun act _ connection _ => rfl
  obtain ⟨same, besides⟩ := planted.deeds keeps
  have catalogs := besides.server.catalog
  rw [Deed.rekeyed_id, List.map_id, funext Act.rekeyed_id, List.map_id'] at same
  rw [funext Act.rekeyed_id, List.map_id'] at catalogs
  have quiet (v : World) : (Act.plant faults).exchanges v = [] := by
    simp [Act.exchanges, Act.perform]
  simp only [deeds, quiet, same]
  exact ⟨rfl, catalogs⟩

/-- An act whose commit does not pass leaves no trace. -/
theorem Act.untraced (act : Act) (w : World) (uncommitted : Call.commit.passed ∉ act.exchanges w) :
    Untraced w (act.perform w).2 := by
  have effect := act.deed_effect w
  exact untraced_of_same (effect.uncommitted uncommitted) effect.cascades

theorem committed_cons (deed : Deed) (rest : List Deed) :
    committed (deed :: rest) = committed [deed] ++ committed rest := by
  simp [committed, ← List.filterMap_append, ← List.filter_append]

/-- At the end exactly those schemas are cleared for which a commit passed. The world changes from
act to act, so the induction is over all of them. -/
theorem deeds_catalog (acts : List Act) (w : World) :
    (deeds acts w).2.server.cascades = w.server.cascades ∧
      (deeds acts w).2.server.catalog =
        w.server.catalog.cleared w.server.cascades (committed (deeds acts w).1) := by
  induction acts generalizing w with
  | nil => exact ⟨rfl, Catalog.cleared_nil.symm⟩
  | cons act rest ih =>
    have effect := act.deed_effect w
    obtain ⟨cascades, catalog⟩ := ih (act.perform w).2
    rw [effect.cascades] at cascades catalog
    refine ⟨cascades, ?_⟩
    simp only [deeds]
    rw [catalog, committed_cons]
    by_cases commits : Call.commit.passed ∈ act.exchanges w
    · obtain ⟨schema, aim, cleared⟩ := effect.committed commits
      rw [cleared, Catalog.cleared_cleared]
      simp [committed, commits, aim]
    · rw [effect.uncommitted commits]
      simp [committed, commits]

/-- A schema without tables gets none. -/
theorem Act.Effect.stays_empty {aim : Option String} {exchanges : List Exchange} {s t : Server}
    {schema : String} (effect : Effect aim outcome exchanges s t)
    (empty : s.catalog.tables schema = []) : t.catalog.tables schema = [] := by
  by_cases commits : Call.commit.passed ∈ exchanges
  · obtain ⟨name, -, cleared⟩ := effect.committed commits
    rw [cleared, Catalog.tables_cleared, empty, ite_self]
  · rw [effect.uncommitted commits, empty]

/-- Where a schema holds no table, no act reports one of it from then on. -/
theorem empty_reports_nothing {schema : String} (acts : List Act) {w : World}
    (empty : w.server.catalog.tables schema = []) :
    ∀ deed ∈ (deeds acts w).1, ∀ report, deed.outcome.Reports report → report.schema = schema →
      report.dropped = [] := by
  induction acts generalizing w with
  | nil => simp [deeds]
  | cons act rest ih =>
    have effect := act.deed_effect w
    intro deed member report reports same
    rcases List.mem_cons.mp member with rfl | later
    · rw [(effect.reports report reports).2, same, empty]
    · exact ih (effect.stays_empty empty) deed later report reports same

/-- Behind a commit about a schema, whatever reports a wipe of it reports that nothing was dropped.
-/
theorem later_reports_nothing (acts : List Act) (w : World) :
    (deeds acts w).1.Pairwise fun earlier later => Call.commit.passed ∈ earlier.exchanges →
      ∀ report, later.outcome.Reports report → earlier.act.aim = some report.schema →
        report.dropped = [] := by
  induction acts generalizing w with
  | nil => exact .nil
  | cons act rest ih =>
    have effect := act.deed_effect w
    refine .cons ?_ (ih _)
    intro later member commits report reports aim
    obtain ⟨schema, same, cleared⟩ := effect.committed commits
    have empty : (act.perform w).2.server.catalog.tables schema = [] := by
      rw [cleared, Catalog.tables_cleared, if_pos (List.mem_singleton_self schema)]
    cases same.symm.trans aim
    exact empty_reports_nothing rest empty later member report reports rfl

/-- Any sequence of operations and requests, with any faults planted in between, empties exactly the
schemas for which a commit passed, and leaves every other one entry by entry as it was. So two
sequences that commit for the same schemas leave the same behind, in whatever order and however
often they do; an act without a commit leaves no trace; and what wipes a schema again and reports,
reports that nothing was dropped. -/
theorem sequence_empties_what_committed (acts : List Act) (w : World) :
    Emptied (committed (deeds acts w).1) w.server.catalog (deeds acts w).2.server.catalog ∧
      (∀ others, (∀ schema, schema ∈ committed (deeds others w).1 ↔
          schema ∈ committed (deeds acts w).1) →
        (deeds others w).2.server.catalog = (deeds acts w).2.server.catalog) ∧
      (∀ act : Act, Call.commit.passed ∉ act.exchanges (deeds acts w).2 →
        Untraced (deeds acts w).2 (act.perform (deeds acts w).2).2) ∧
      (deeds acts w).1.Pairwise fun earlier later => Call.commit.passed ∈ earlier.exchanges →
        ∀ report, later.outcome.Reports report → earlier.act.aim = some report.schema →
          report.dropped = [] := by
  refine ⟨?_, ?_, fun act => act.untraced _, later_reports_nothing acts w⟩
  · rw [(deeds_catalog acts w).2]
    exact Catalog.emptied_cleared
  · intro others same
    rw [(deeds_catalog acts w).2, (deeds_catalog others w).2, Catalog.cleared_congr same]

/-- A wipe that cannot drop the table commits nothing, the next one does, and the one behind that
finds nothing any more. Two wipes would have left the same behind as three, a look at another schema
leaves no trace, and that schema is left alone. -/
theorem second_commit_finds_nothing :
    let error : Error := { kind := .database "LockNotAvailable", message := "lock timeout" }
    let server : Server :=
      { catalog := [("public", ["users"]), ("audit", ["log"])]
        faults := [{ point := .drop, error, times := some 1 }] }
    let again : Act := .wipe { password := "secret" } (some "public") none
    let look : Act := .list { password := "secret" } (some "audit") none
    let done := deeds [again, again, again] { server }
    committed done.1 = ["public", "public"] ∧
      Emptied (committed done.1) server.catalog done.2.server.catalog ∧
      done.2.server.catalog = [("public", []), ("audit", ["log"])] ∧
      (deeds [again, again] { server }).2.server.catalog = done.2.server.catalog ∧
      Untraced done.2 (look.perform done.2).2 ∧
      ∃ third report, done.1[2]? = some third ∧ third.outcome.Reports report ∧
        report.dropped = [] := by
  intro error server again look done
  have thrice : committed done.1 = ["public", "public"] := by decide +kernel
  have twice : committed (deeds [again, again] { server }).1 = ["public"] := by decide +kernel
  obtain ⟨emptied, unordered, untraced, pairs⟩ :=
    sequence_empties_what_committed [again, again, again] { server }
  have later := List.pairwise_iff_getElem.mp pairs 1 2 (by decide) (by decide) (by decide)
  refine ⟨thrice, emptied, by decide +kernel, unordered [again, again] ?_,
    untraced look (by decide +kernel), _, ⟨"public", []⟩, rfl, .wiped _,
    later (by decide +kernel) _ (.wiped _) rfl⟩
  intro schema
  rw [twice]
  change schema ∈ ["public"] ↔ schema ∈ committed done.1
  rw [thrice]
  simp

end SchemaWipe
