import SchemaWipe.Proofs.Emptying
import SchemaWipe.Proofs.Explanation
import SchemaWipe.Proofs.Listing
import SchemaWipe.Proofs.Protocol

/-! A listing is a preview of a wipe: it only reads, and what it finds is what a wipe of the same
tables would drop. Whatever fails on the way, nothing but the query is sent, the connection is
closed, and what is committed stays as it was. -/
namespace SchemaWipe.Wipe
open Database

/-- Exchanges of a listing that only reads, and its outcome, where some tables were committed. -/
structure ReadsOnly (target : Connection) (schema : Option String) (committed : Catalog)
    (exchanges : List Exchange) (outcome : Except Stop (List String)) : Prop where
  /-- No commit is made and no table dropped. -/
  silent : ∀ x ∈ exchanges, x.call ≠ .commit ∧ x.call.table? = none
  /-- No statement is sent but the query for the tables of the schema. -/
  sends : ∀ statement ∈ sent exchanges, ∃ name, schema = some name ∧ statement = query name
  /-- A connection that came about is closed once, by the last call. -/
  closes : (Call.connect target).passed ∈ exchanges →
    (exchanges.map (·.call)).count .close = 1 ∧
      (exchanges.map (·.call)).getLast? = some .close
  /-- A listing that returns has found all tables of the schema, by these calls. -/
  returns : ∀ tables, outcome = .ok tables → ∃ name, schema = some name ∧
    tables = committed.tables name ∧
    exchanges = [.connect target, .cursor, .list name, .fetch, .cursorClose, .rollback,
      .close].map Call.passed
  /-- A query that the database does not answer is explained. -/
  explained : ∀ c e, ⟨c, some e⟩ ∈ exchanges → c = .fetch ∨ (∃ name, c = .list name) →
    e.isDatabase = true → ClosesQuietly exchanges →
    ∃ f, outcome = .error (.failure f) ∧ schema = some f.schema ∧ f.cause = e ∧
      f.category = if e.kind = .privilege then .privilege else .metadata

namespace ListingCourse

variable {course : ListingCourse} {target : Connection} {schema : String} {tables : List String}
  {c : Call} {e : Error}

/-- The only statement of a listing is the query. -/
theorem statement_of_mem (follows : course.Follows (listingPlan schema)) {statement : Statement}
    (member : statement ∈ sent (course.exchanges target (listingPlan schema))) :
    statement = query schema := by
  obtain ⟨x, inside, made⟩ := List.mem_filterMap.mp member
  rcases call_of_mem follows inside with call | planned | call
  · rw [call] at made
    cases made
  · simp only [listingPlan, List.mem_cons, List.not_mem_nil, or_false] at planned
    obtain call | call | call | call | call := planned <;> rw [call] at made <;> cases made
    rfl
  · rw [call] at made
    cases made

/-- A course that connects ends in its only closing. -/
theorem closes (follows : course.Follows (listingPlan schema))
    (connected : (Call.connect target).passed ∈ course.exchanges target (listingPlan schema)) :
    ((course.exchanges target (listingPlan schema)).map (·.call)).count .close = 1 ∧
      ((course.exchanges target (listingPlan schema)).map (·.call)).getLast? = some .close := by
  have unplanned : .close ∉ listingPlan schema := by simp [listingPlan]
  cases course with
  | unreachable e => simp [exchanges, Call.passed] at connected
  | completed closing =>
    refine closed_once closing ?_
    intro x member
    rcases List.mem_cons.mp member with rfl | planned
    · exact Call.noConfusion
    · obtain ⟨d, inside, rfl⟩ := List.mem_map.mp planned
      exact ne_of_mem_of_not_mem inside unplanned
  | broken passed failed e closing =>
    have shape : (broken passed failed e closing).exchanges target (listingPlan schema) =
        ((Call.connect target).passed :: passed.map Call.passed ++
          ⟨failed, some e⟩ :: Course.leaving passed) ++ [⟨.close, closing⟩] := by
      simp [exchanges]
    rw [shape]
    refine closed_once closing ?_
    intro x member
    simp only [List.cons_append, List.mem_cons, List.mem_append, List.mem_map] at member
    obtain rfl | ⟨d, early, rfl⟩ | rfl | left := member
    · exact Call.noConfusion
    · exact ne_of_mem_of_not_mem (follows.subset (List.mem_append_left _ early)) unplanned
    · exact ne_of_mem_of_not_mem (follows.subset (by simp)) unplanned
    · rw [Course.mem_leaving left]
      exact Call.noConfusion

/-- A course whose query fails by an error of the database ends with its explanation, unless the
closing fails as well. -/
theorem ending_of_query (raised : ⟨c, some e⟩ ∈ course.exchanges target (listingPlan schema))
    (query : c = .fetch ∨ ∃ name, c = .list name) (database : e.isDatabase = true)
    (quiet : ClosesQuietly (course.exchanges target (listingPlan schema))) :
    course.ending target schema tables = .error (.failure ⟨.listing, schema, e⟩) := by
  have needs : Job.needsCursor c = true := by
    obtain rfl | ⟨name, rfl⟩ := query <;> rfl
  cases course with
  | unreachable other =>
    cases List.mem_singleton.mp raised
    cases needs
  | completed closing =>
    have last : c = .close ∧ some e = closing := by simpa [exchanges, Call.passed] using raised
    rw [last.1] at needs
    cases needs
  | broken passed failed other closing =>
    rcases raised_on_broken_iff.mp raised with ⟨rfl, rfl⟩ | ⟨rfl, -⟩
    · cases closing with
      | some last => exact absurd (raised_on_broken_iff.mpr (.inr ⟨rfl, rfl⟩)) (quiet last)
      | none => simp [ending, needs, explain, database]
    · cases needs

/-- Every course of a listing only reads. -/
theorem readsOnly (follows : course.Follows (listingPlan schema)) (target : Connection)
    (committed : Catalog) :
    ReadsOnly target (some schema) committed (course.exchanges target (listingPlan schema))
      (course.ending target schema (committed.tables schema)) where
  silent x member := by
    obtain ⟨undropped, uncommitted⟩ := ListingCourse.silent follows target x member
    exact ⟨uncommitted, undropped⟩
  sends statement member := ⟨schema, rfl, statement_of_mem follows member⟩
  closes := closes follows
  returns := by
    intro tables found
    cases course with
    | unreachable e => cases found
    | broken passed failed e closing => cases closing <;> cases found
    | completed closing =>
      cases closing with
      | some e => cases found
      | none =>
        cases found
        exact ⟨schema, rfl, rfl, rfl⟩
  explained := by
    intro c e raised query database quiet
    refine ⟨_, ending_of_query raised query database quiet, rfl, rfl, ?_⟩
    simp [Failure.category, Failure.lacksPrivilege, Stage.category]

end ListingCourse

/-- Where no faults are planted, a listing is refused or finds the tables of the schema. -/
theorem faultless_listing_eq (connection : Connection) (schema request : Option String) {w : World}
    (unplanted : w.server.faults = []) :
    (list connection schema request w).1 =
      (approve connection schema).map w.server.catalog.tables := by
  cases approved : approve connection schema with
  | error stop =>
    rw [list_refused approved]
    rfl
  | ok name => exact faultless_listing approved request unplanted

/-- Where no faults are planted, a wipe is refused or drops the tables of the schema. -/
theorem faultless_wipe_eq (connection : Connection) (schema request : Option String) {w : World}
    (unplanted : w.server.faults = []) :
    (wipe connection schema request w).1.map Report.dropped =
      (approve connection schema).map w.server.catalog.tables := by
  cases approved : approve connection schema with
  | error stop =>
    rw [wipe_refused approved]
    rfl
  | ok name =>
    rw [(faultless_wipe approved request unplanted).1]
    rfl

/-- A listing only reads, however it ends, and leaves what is committed as it was. Where no faults
are planted it finds the tables of the schema, and a wipe that finds the same committed, before or
after it, drops exactly these. -/
theorem listing_previews_wipe (connection : Connection) (schema request : Option String)
    (w : World) :
    (list connection schema request w).2.server.catalog = w.server.catalog ∧
      (∃ exchanges,
        (list connection schema request w).2.server.record = w.server.record ++ exchanges ∧
        ReadsOnly connection schema w.server.catalog exchanges
          (list connection schema request w).1) ∧
      (w.server.faults = [] →
        (list connection schema request w).1 =
            (approve connection schema).map w.server.catalog.tables ∧
          ∀ v : World, v.server.faults = [] → v.server.catalog = w.server.catalog → ∀ other,
            (wipe connection schema other v).1.map Report.dropped =
              (list connection schema request w).1) := by
  refine ⟨listing_keeps_catalog connection schema request w, ?_, ?_⟩
  · cases approved : approve connection schema with
    | error stop =>
      rw [list_refused approved]
      exact ⟨[], by simp, nofun, nofun, nofun, nofun, nofun⟩
    | ok name =>
      obtain ⟨course, follows, ran, ends⟩ := approved_listing_takes_course approved request w
      rw [approved_schema approved] at ran ends ⊢
      exact ⟨_, ran.record, ends ▸ ListingCourse.readsOnly follows connection _⟩
  · intro unplanted
    have found := faultless_listing_eq connection schema request unplanted
    refine ⟨found, fun v clear same other => ?_⟩
    rw [faultless_wipe_eq connection schema other clear, same, found]

end SchemaWipe.Wipe
