import SchemaWipe.Proofs.Listing

/-! Which errors come out of an operation when every fault is one of the database. The errors of
guarded calls are explained. Nothing guards the closing, and in a listing neither the opening of the
cursor nor the rollback: what these raise comes out as it is. -/
namespace SchemaWipe

/-- Whether an early end is one of the program's own errors. -/
def Stop.isOwn : Stop → Bool
  | fault _ | refusal _ | failure _ => true
  | raised _ | breakdown _ => false

/-- An operation returns, or raises an error of the program's own. -/
def Contained {α : Type} (outcome : Except Stop α) : Prop :=
  ∀ stop, outcome = .error stop → stop.isOwn = true

theorem contained_ok {α : Type} (result : α) : Contained (.ok result) := by
  rintro stop ⟨⟩

theorem contained_error_iff {α : Type} {stop : Stop} :
    Contained (.error stop : Except Stop α) ↔ stop.isOwn = true := by
  constructor
  · intro contained
    exact contained stop rfl
  · rintro own _ ⟨⟩
    exact own

/-- An error that comes out as it was raised is not contained. -/
theorem not_contained_raised {α : Type} (e : Database.Error) :
    ¬ Contained (.error (.raised e) : Except Stop α) := by
  rw [contained_error_iff]
  exact Bool.false_ne_true

end SchemaWipe

namespace SchemaWipe.Wipe
open Database

/-- The checks before any call refuse with errors of the program's own. -/
theorem refusal_isOwn {connection : Connection} {schema : Option String} {stop : Stop}
    (refused : approve connection schema = .error stop) : stop.isOwn = true := by
  unfold approve at refused
  cases named : Guard.identifier "schema" schema with
  | error refusal => rw [named] at refused; cases refused; rfl
  | ok name =>
    cases complete : connection.ensureComplete with
    | error fault => rw [named, complete] at refused; cases refused; rfl
    | ok _ => rw [named, complete] at refused; cases refused

/-- An error of the database is explained. -/
theorem explain_isOwn {e : Error} (database : e.isDatabase = true) (stage : Stage)
    (schema : String) : (explain stage schema e).isOwn = true := by
  simp [explain, database, Stop.isOwn]

variable {target : Connection} {schema : String} {tables : List String}

/-- A wipe whose errors are all of the database raises one of its own, unless the closing fails. -/
theorem course_contained_iff {course : Course} (follows : course.Follows (plan schema tables))
    (database : ∀ c e, ⟨c, some e⟩ ∈ course.exchanges target (plan schema tables) →
      e.isDatabase = true) :
    Contained (course.ending target schema tables) ↔
      ∀ e, Exchange.mk .close (some e) ∉ course.exchanges target (plan schema tables) := by
  cases course with
  | unreachable e =>
    have known := database (.connect target) e (by simp [Course.exchanges])
    simp [Course.ending, contained_error_iff, explain_isOwn known, Course.exchanges]
  | completed closing =>
    cases closing with
    | none => simp [Course.ending, contained_ok, Course.raised_on_completed_iff]
    | some e =>
      exact iff_of_false (not_contained_raised e) fun quiet =>
        quiet e (Course.raised_on_completed_iff.mpr ⟨rfl, rfl⟩)
  | broken passed failed e rollback closing =>
    have opened : failed ≠ .close := by
      rintro rfl
      have planned : .close ∈ plan schema tables := follows.subset (by simp)
      simp [plan] at planned
    cases closing with
    | some last =>
      exact iff_of_false (not_contained_raised last) fun quiet =>
        quiet last (Course.raised_on_broken_iff.mpr (.inr (.inr ⟨rfl, rfl⟩)))
    | none =>
      have known := database failed e (Course.raised_on_broken_iff.mpr (.inl ⟨rfl, rfl⟩))
      have undoing : (undone ⟨.ofCall failed, schema, e⟩ rollback).isOwn = true := by
        cases rollback with
        | none => rfl
        | some r =>
          have reply := database .rollback r
            (Course.raised_on_broken_iff.mpr (.inr (.inl ⟨rfl, known, rfl⟩)))
          simp [undone, reply, Stop.isOwn]
      simp [Course.ending, contained_error_iff, known, undoing, Course.raised_on_broken_iff,
        Ne.symm opened]

/-- The calls of a listing that nothing guards. -/
def unguarded : List Call := [.cursor, .rollback, .close]

/-- A planned call of a listing is unguarded exactly if it needs no cursor, leaving one apart. -/
theorem unguarded_iff {failed : Call} (planned : failed ∈ listingPlan schema)
    (fails : failed ≠ .cursorClose) : failed ∈ unguarded ↔ Job.needsCursor failed = false := by
  simp only [listingPlan, List.mem_cons, List.not_mem_nil, or_false] at planned
  obtain rfl | rfl | rfl | rfl | rfl := planned
  · simp [unguarded, Job.needsCursor]
  · simp [unguarded, Job.needsCursor]
  · simp [unguarded, Job.needsCursor]
  · exact absurd rfl fails
  · simp [unguarded, Job.needsCursor]

/-- A listing whose errors are all of the database raises one of its own, unless a call fails that
nothing guards. -/
theorem listing_course_contained_iff {course : ListingCourse}
    (follows : course.Follows (listingPlan schema))
    (leaves : ∀ e, Exchange.mk .cursorClose (some e) ∉
      course.exchanges target (listingPlan schema))
    (database : ∀ c e, ⟨c, some e⟩ ∈ course.exchanges target (listingPlan schema) →
      e.isDatabase = true) :
    Contained (course.ending target schema tables) ↔
      ∀ c ∈ unguarded, ∀ e,
        Exchange.mk c (some e) ∉ course.exchanges target (listingPlan schema) := by
  cases course with
  | unreachable e =>
    have known := database (.connect target) e (by simp [ListingCourse.exchanges])
    simp [ListingCourse.ending, contained_error_iff, explain_isOwn known, ListingCourse.exchanges,
      unguarded]
  | completed closing =>
    cases closing with
    | none => simp [ListingCourse.ending, contained_ok, ListingCourse.exchanges, Call.passed]
    | some e =>
      have raised : ⟨.close, some e⟩ ∈
          (ListingCourse.completed (some e)).exchanges target (listingPlan schema) := by
        simp [ListingCourse.exchanges]
      exact iff_of_false (not_contained_raised e) fun quiet =>
        quiet .close (by simp [unguarded]) e raised
  | broken passed failed e closing =>
    have here : ⟨failed, some e⟩ ∈
        (ListingCourse.broken passed failed e closing).exchanges target (listingPlan schema) :=
      ListingCourse.raised_on_broken_iff.mpr (.inl ⟨rfl, rfl⟩)
    have fails : failed ≠ .cursorClose := by
      rintro rfl
      exact leaves e here
    have known := database failed e here
    cases closing with
    | some last =>
      exact iff_of_false (not_contained_raised last) fun quiet =>
        quiet .close (by simp [unguarded]) last
          (ListingCourse.raised_on_broken_iff.mpr (.inr ⟨rfl, rfl⟩))
    | none =>
      have guarded := unguarded_iff (follows.subset (by simp)) fails
      by_cases needed : Job.needsCursor failed = true
      · have absent : failed ∉ unguarded := by simp [guarded, needed]
        simp only [ListingCourse.ending, needed, ↓reduceIte, contained_error_iff,
          explain_isOwn known, true_iff]
        intro c member last failure
        rcases ListingCourse.raised_on_broken_iff.mp failure with ⟨rfl, -⟩ | ⟨-, none⟩
        · exact absent member
        · cases none
      · have free : failed ∈ unguarded := guarded.mpr (by simpa using needed)
        simp only [ListingCourse.ending, needed]
        exact iff_of_false (not_contained_raised e) fun quiet => quiet failed free e here

/-- Where every fault is one of the database, a wipe returns or raises an error of the program's own
exactly if its closing raises nothing, and a listing exactly if none of its cursor's opening, its
rollback and its closing does. -/
theorem contained_iff_unguarded_calls_pass (connection : Connection)
    (schema request : Option String) (w : World)
    (planted : ∀ f ∈ w.server.faults, f.error.isDatabase = true) :
    (∃ exchanges,
      (wipe connection schema request w).2.server.record = w.server.record ++ exchanges ∧
      (Contained (wipe connection schema request w).1 ↔
        ∀ e, Exchange.mk .close (some e) ∉ exchanges)) ∧
    ∃ exchanges,
      (list connection schema request w).2.server.record = w.server.record ++ exchanges ∧
      (Contained (list connection schema request w).1 ↔
        ∀ c ∈ unguarded, ∀ e, Exchange.mk c (some e) ∉ exchanges) := by
  have database {exchanges : List Exchange} {t : Server} (ran : Run w.server exchanges t) :
      ∀ c e, ⟨c, some e⟩ ∈ exchanges → e.isDatabase = true := by
    intro c e raised
    obtain ⟨f, member, rfl⟩ := ran.raised_planted raised
    exact planted f member
  cases approved : approve connection schema with
  | error stop =>
    have own := refusal_isOwn approved
    rw [wipe_refused approved, list_refused approved]
    exact ⟨⟨[], by simp, by simp [contained_error_iff, own]⟩,
      ⟨[], by simp, by simp [contained_error_iff, own]⟩⟩
  | ok name =>
    constructor
    · obtain ⟨course, follows, ran, ends⟩ := approved_wipe_takes_course approved request w
      refine ⟨_, ran.record, ?_⟩
      rw [ends]
      exact course_contained_iff follows (database ran)
    · obtain ⟨course, follows, ran, ends⟩ := approved_listing_takes_course approved request w
      refine ⟨_, ran.record, ?_⟩
      rw [ends]
      exact listing_course_contained_iff follows (fun e => ran.leaving_never_raises) (database ran)

/-- A drop is denied and the rollback behind it fails: the wipe explains the one and records the
other. The same rollback fails behind a listing. -/
theorem failing_rollback_is_contained_in_wipe :
    let connection : Connection := { password := "secret" }
    let lost : Error := ⟨.database "OperationalError", "connection lost", none⟩
    let faults : List Fault := [⟨.drop, none, ⟨.privilege, "denied", none⟩, none, 0⟩,
      ⟨.rollback, none, lost, none, 0⟩]
    let w : World := { server := { catalog := [("public", ["users"])], faults } }
    (∀ f ∈ faults, f.error.isDatabase = true) ∧
      Contained (wipe connection (some "public") none w).1 ∧
      ¬ Contained (list connection (some "public") none w).1 := by
  intro connection lost faults w
  have planted : ∀ f ∈ faults, f.error.isDatabase = true := by decide
  obtain ⟨⟨wiping, ran, wiped⟩, ⟨listing, listed, found⟩⟩ :=
    contained_iff_unguarded_calls_pass connection (some "public") none w planted
  obtain rfl : (wipe connection (some "public") none w).2.server.record = wiping := ran
  obtain rfl : (list connection (some "public") none w).2.server.record = listing := listed
  refine ⟨planted, wiped.mpr ?_, mt found.mp ?_⟩
  · intro e raised
    have quiet : ∀ x ∈ (wipe connection (some "public") none w).2.server.record,
        x.call = .close → x.error = none := by decide
    cases quiet _ raised rfl
  · intro quiet
    exact quiet .rollback (by simp [unguarded]) lost (by decide)

/-- The rollback of a listing fails, and so does the closing of a wipe: either error comes out as the
database raised it. -/
theorem unguarded_errors_escape :
    let connection : Connection := { password := "secret" }
    let lost : Error := ⟨.database "OperationalError", "connection lost", none⟩
    let server (point : Point) : Server :=
      { catalog := [("public", ["users"])], faults := [⟨point, none, lost, none, 0⟩] }
    (list connection (some "public") none { server := server .rollback }).1 =
        .error (.raised lost) ∧
      (wipe connection (some "public") none { server := server .close }).1 =
        .error (.raised lost) ∧
      lost.isDatabase = true :=
  ⟨rfl, rfl, rfl⟩

end SchemaWipe.Wipe
