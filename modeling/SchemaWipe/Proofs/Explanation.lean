import SchemaWipe.Proofs.Course

/-! What a wipe raises. The first call that fails decides it: an error of the database is explained
by the kind of that call, and any other comes out as it is. Only two things can take the place of
this: an error of the rollback that is not the database's, and any error of the closing. -/
namespace SchemaWipe.Wipe
open Database

/-- The first exchange that raised an error. -/
def firstRaised (exchanges : List Exchange) : Option Exchange :=
  exchanges.find? (·.error.isSome)

/-- The closing raised no error. -/
def ClosesQuietly (exchanges : List Exchange) : Prop :=
  ∀ e, Exchange.mk .close (some e) ∉ exchanges

/-- Behind calls that raised nothing the first error is that of the next one that raised any. -/
theorem firstRaised_behind (target : Connection) (done : List Call) (c : Call) (e : Error)
    (back : List Exchange) :
    firstRaised ((Call.connect target).passed :: done.map Call.passed ++ ⟨c, some e⟩ :: back) =
      some ⟨c, some e⟩ := by
  have quiet : ((Call.connect target).passed :: done.map Call.passed).find? (·.error.isSome) =
      none := by
    rw [List.find?_eq_none]
    simp [Call.passed]
  simp only [firstRaised, List.find?_append, quiet, Option.none_or]
  simp

variable {target : Connection} {schema : String} {tables : List String} {calls passed : List Call}
  {failed : Call} {e : Error} {rollback closing : Option Error}

/-- On a broken course that closes quietly the closing raised nothing. -/
theorem closing_of_quiet
    (quiet : ClosesQuietly ((Course.broken passed failed e rollback closing).exchanges target calls)) :
    closing = none := by
  cases closing with
  | none => rfl
  | some last => exact absurd (Course.raised_on_broken_iff.mpr (.inr (.inr ⟨rfl, rfl⟩))) (quiet last)

/-- A course ends with a report exactly if no call raised an error. -/
theorem reports_iff_unraised (course : Course) (target : Connection) (schema : String)
    (tables : List String) (calls : List Call) :
    (∃ report, course.ending target schema tables = .ok report) ↔
      firstRaised (course.exchanges target calls) = none := by
  cases course with
  | unreachable e => simp [Course.ending, Course.exchanges, firstRaised]
  | broken passed failed e rollback closing =>
    rw [Course.exchanges, firstRaised_behind]
    cases closing <;> simp [Course.ending]
  | completed closing =>
    cases closing with
    | none => simp [Course.ending, Course.exchanges, firstRaised, Call.passed]
    | some e =>
      rw [Course.exchanges, firstRaised_behind]
      simp [Course.ending]

end SchemaWipe.Wipe
