import SchemaWipe.Proofs.Atomicity
import SchemaWipe.Proofs.Listing

/-! What an operation leaves behind, by how it ends. A wipe is refused before it does anything,
breaks and leaves the committed tables alone, or commits; a listing is refused, fails or finds
something. The errors that the operations raise themselves tell these apart: only the checks refuse,
and nothing that was committed is explained as a failure. -/
namespace SchemaWipe

/-- An operation was refused by a check. -/
inductive Stop.Refuses : Stop → Prop where
  | fault (cause : Settings.Fault) : Refuses (.fault cause)
  | refusal (cause : Guard.Refusal) : Refuses (.refusal cause)

/-- An operation ended at the database: with an explanation, or by an error as it was raised. -/
inductive Stop.Breaks : Stop → Prop where
  | failure (cause : Wipe.Failure) : Breaks (.failure cause)
  | raised (error : Database.Error) : Breaks (.raised error)

theorem Stop.Breaks.not_refuses {stop : Stop} (breaks : stop.Breaks) : ¬ stop.Refuses := by
  intro refuses
  cases breaks <;> cases refuses

namespace Wipe
open Database

variable {connection : Connection} {schema request : Option String} {name : String}
  {tables : List String} {stop : Stop} {w after : World}

/-- What a wipe ends with and leaves behind. -/
inductive WipeEffect (connection : Connection) (schema : Option String) (w : World) :
    Except Stop Report × World → Prop where
  /-- A check refuses it. -/
  | refused {stop : Stop} (unapproved : approve connection schema = .error stop) :
      WipeEffect connection schema w (.error stop, w)
  /-- It does not come to commit. -/
  | broken {name : String} {exchanges : List Exchange} {stop : Stop} {after : World}
      (approved : approve connection schema = .ok name) (ran : Run w.server exchanges after.server)
      (uncommitted : Call.commit.passed ∉ exchanges) (breaks : stop.Breaks) :
      WipeEffect connection schema w (.error stop, after)
  /-- It commits, and then reports unless the closing fails. -/
  | committed {name : String} {exchanges : List Exchange} {outcome : Except Stop Report}
      {after : World} (approved : approve connection schema = .ok name)
      (ran : Run w.server exchanges after.server) (commits : Call.commit.passed ∈ exchanges)
      (emptied : after.server.catalog = w.server.catalog.without name
        (gone w.server.cascades (w.server.catalog.tables name)))
      (ends : outcome = .ok ⟨name, w.server.catalog.tables name⟩ ∨
        ∃ e, outcome = .error (.raised e)) : WipeEffect connection schema w (outcome, after)

/-- What a listing ends with and leaves behind. -/
inductive ListEffect (connection : Connection) (schema : Option String) (w : World) :
    Except Stop (List String) × World → Prop where
  | refused {stop : Stop} (unapproved : approve connection schema = .error stop) :
      ListEffect connection schema w (.error stop, w)
  | broken {name : String} {exchanges : List Exchange} {stop : Stop} {after : World}
      (approved : approve connection schema = .ok name) (ran : Run w.server exchanges after.server)
      (silent : ∀ x ∈ exchanges, x.call.table? = none ∧ x.call ≠ .commit) (breaks : stop.Breaks) :
      ListEffect connection schema w (.error stop, after)
  | found {name : String} {exchanges : List Exchange} {after : World}
      (approved : approve connection schema = .ok name) (ran : Run w.server exchanges after.server)
      (silent : ∀ x ∈ exchanges, x.call.table? = none ∧ x.call ≠ .commit) :
      ListEffect connection schema w (.ok (w.server.catalog.tables name), after)

theorem refuses_of_unapproved (unapproved : approve connection schema = .error stop) :
    stop.Refuses := by
  unfold approve at unapproved
  cases named : Guard.identifier "schema" schema with
  | error refusal =>
    rw [named] at unapproved
    cases unapproved
    exact .refusal refusal
  | ok name =>
    rw [named] at unapproved
    cases complete : connection.ensureComplete with
    | error fault =>
      rw [complete] at unapproved
      cases unapproved
      exact .fault fault
    | ok _ =>
      rw [complete] at unapproved
      cases unapproved

theorem explain_breaks (stage : Stage) (schema : String) (e : Error) :
    (explain stage schema e).Breaks := by
  unfold explain
  split
  · exact .failure _
  · exact .raised e

theorem undone_breaks (f : Failure) (reply : Option Error) : (undone f reply).Breaks := by
  cases reply with
  | none => exact .failure f
  | some r =>
    simp only [undone]
    split
    · exact .failure f
    · exact .raised r

/-- A course that does not complete ends with an error. -/
theorem uncompleted_breaks (target : Connection) (name : String) (tables : List String)
    {course : Course} (uncompleted : ¬ ∃ closing, course = .completed closing) :
    ∃ stop, course.ending target name tables = .error stop ∧ stop.Breaks := by
  cases course with
  | unreachable e => exact ⟨_, rfl, explain_breaks _ _ _⟩
  | completed closing => exact absurd ⟨closing, rfl⟩ uncompleted
  | broken passed failed e rollback closing =>
    cases closing with
    | some last => exact ⟨_, rfl, .raised last⟩
    | none =>
      refine ⟨_, rfl, ?_⟩
      split
      · exact undone_breaks _ _
      · exact .raised e

/-- Every wipe has one of the effects. -/
theorem wipe_effect (connection : Connection) (schema request : Option String) (w : World) :
    WipeEffect connection schema w (wipe connection schema request w) := by
  cases approved : approve connection schema with
  | error stop =>
    rw [wipe_refused approved]
    exact .refused approved
  | ok name =>
    obtain ⟨course, follows, ran, ends⟩ := approved_wipe_takes_course approved request w
    have commits := committed_iff_completed connection follows
    change WipeEffect connection schema w
      ((wipe connection schema request w).1, (wipe connection schema request w).2)
    rw [ends]
    by_cases completed : ∃ closing, course = .completed closing
    · have passes := commits.mpr completed
      obtain ⟨closing, rfl⟩ := completed
      refine .committed approved ran passes (completed_catalog ran) ?_
      cases closing with
      | none => exact .inl rfl
      | some e => exact .inr ⟨e, rfl⟩
    · obtain ⟨stop, stops, breaks⟩ := uncompleted_breaks connection name
        (w.server.catalog.tables name) completed
      rw [stops]
      exact .broken approved ran (mt commits.mp completed) breaks

/-- Every listing has one of the effects. -/
theorem list_effect (connection : Connection) (schema request : Option String) (w : World) :
    ListEffect connection schema w (list connection schema request w) := by
  cases approved : approve connection schema with
  | error stop =>
    rw [list_refused approved]
    exact .refused approved
  | ok name =>
    obtain ⟨course, follows, ran, ends⟩ := approved_listing_takes_course approved request w
    have silent := course.silent follows connection
    change ListEffect connection schema w
      ((list connection schema request w).1, (list connection schema request w).2)
    rw [ends]
    cases course with
    | unreachable e => exact .broken approved ran silent (explain_breaks _ _ _)
    | completed closing =>
      cases closing with
      | none => exact .found approved ran silent
      | some e => exact .broken approved ran silent (.raised e)
    | broken passed failed e closing =>
      cases closing with
      | some last => exact .broken approved ran silent (.raised last)
      | none =>
        refine .broken approved ran silent ?_
        split
        · exact explain_breaks _ _ _
        · exact .raised e

/-- A wipe that ends with an error was refused and has done nothing, or it broke. -/
theorem wipe_error (ran : wipe connection schema request w = (.error stop, after)) :
    (approve connection schema = .error stop ∧ after = w) ∨
      ∃ name, approve connection schema = .ok name ∧ stop.Breaks := by
  have effect := wipe_effect connection schema request w
  rw [ran] at effect
  generalize ended : (Except.error stop, after) = r at effect
  cases effect with
  | refused unapproved =>
    cases ended
    exact .inl ⟨unapproved, rfl⟩
  | broken approved made uncommitted breaks =>
    cases ended
    exact .inr ⟨_, approved, breaks⟩
  | committed approved made commits emptied ends =>
    rcases ends with rfl | ⟨e, rfl⟩
    · cases ended
    · cases ended
      exact .inr ⟨_, approved, .raised e⟩

/-- A listing that ends with an error was refused and has done nothing, or it broke. -/
theorem list_error (ran : list connection schema request w = (.error stop, after)) :
    (approve connection schema = .error stop ∧ after = w) ∨
      ∃ name, approve connection schema = .ok name ∧ stop.Breaks := by
  have effect := list_effect connection schema request w
  rw [ran] at effect
  cases effect with
  | refused unapproved => exact .inl ⟨unapproved, rfl⟩
  | broken approved made silent breaks => exact .inr ⟨_, approved, breaks⟩

end Wipe
end SchemaWipe
