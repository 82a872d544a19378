import SchemaWipe.Proofs.Identifier
import SchemaWipe.Proofs.Listing

/-! What is checked before anything reaches the database. Whoever asks, a connection is opened only
to a complete target and on behalf of a plain schema, and all that is sent over it names that
schema. Each operation keeps to this by its course, so whatever is made of operations keeps to it
too. -/
namespace SchemaWipe

/-- A connection has every field that it needs. -/
structure Connection.Complete (c : Connection) : Prop where
  host : c.host ≠ ""
  user : c.user ≠ ""
  password : c.password ≠ ""
  database : c.database ≠ ""

theorem Connection.ensureComplete_eq_ok_iff {c : Connection} :
    c.ensureComplete = .ok () ↔ c.Complete := by
  have nothing_missing : c.missing = [] ↔ c.Complete := by
    simp only [missing, required, List.map_eq_nil_iff, List.filter_eq_nil_iff, List.mem_cons,
      List.not_mem_nil, or_false, forall_eq_or_imp, forall_eq, String.isEmpty_iff]
    exact ⟨fun ⟨host, user, password, database⟩ => ⟨host, user, password, database⟩,
      fun ⟨host, user, password, database⟩ => ⟨host, user, password, database⟩⟩
  rw [← nothing_missing, ensureComplete]
  by_cases missing : c.missing = [] <;> simp [missing]

namespace Database

/-- A call connects to no other target, and queries and drops in no other schema. -/
def Call.KeepsTo (target : Connection) (schema : String) : Call → Prop
  | .connect other => other = target
  | .list name => name = schema
  | .drop name _ => name = schema
  | _ => True

/-- Exchanges with a complete target about a plain schema, and about no other. -/
structure Checked (target : Connection) (schema : String) (exchanges : List Exchange) : Prop where
  complete : target.Complete
  plain : Guard.Plain schema
  /-- The database does not cut the name short. -/
  whole : schema.utf8ByteSize ≤ 63
  keeps : ∀ x ∈ exchanges, x.call.KeepsTo target schema

/-- Nothing is done at all, or the exchanges are checked. -/
def Sound (target : Connection) (schema : String) (exchanges : List Exchange) : Prop :=
  exchanges = [] ∨ Checked target schema exchanges

/-- As soon as any of the exchanges connects, there is a schema for which all of them are checked.
-/
def Reaches (schema : Option String) (exchanges : List Exchange) : Prop :=
  ∀ target reply, ⟨.connect target, reply⟩ ∈ exchanges →
    ∃ name, schema = some name ∧ Checked target name exchanges

variable {target : Connection} {schema : String} {exchanges : List Exchange}

/-- Checked exchanges connect to no other target, so they are checked for each of their connects. -/
theorem Sound.reaches (sound : Sound target schema exchanges) :
    Reaches (some schema) exchanges := by
  intro other reply connects
  rcases sound with rfl | checked
  · cases connects
  · obtain rfl : other = target := checked.keeps _ connects
    exact ⟨schema, rfl, checked⟩

theorem Sound.append {after : List Exchange} (sound : Sound target schema exchanges)
    (later : Sound target schema after) : Sound target schema (exchanges ++ after) := by
  rcases sound with rfl | checked
  · exact later
  · rcases later with rfl | others
    · rw [List.append_nil]
      exact .inr checked
    · refine .inr { checked with keeps := ?_ }
      intro x member
      exact (List.mem_append.mp member).elim (checked.keeps x) (others.keeps x)

end Database

namespace Wipe
open Database

variable {connection target : Connection} {schema : Option String} {name : String}
  {tables : List String} {course : Course}

/-- A request is approved exactly if it names a plain schema and the connection is complete. -/
theorem approve_eq_ok_iff : approve connection schema = .ok name ↔
    (schema = some name ∧ Guard.Plain name) ∧ connection.Complete := by
  have named : Guard.identifier "schema" schema = .ok name ↔
      schema = some name ∧ Guard.Plain name := Guard.identifier_eq_ok_iff
  rw [← named, ← Connection.ensureComplete_eq_ok_iff, approve]
  cases Guard.identifier "schema" schema with
  | error refusal =>
    constructor
    · rintro ⟨⟩
    · rintro ⟨⟨⟩, -⟩
  | ok other =>
    cases connection.ensureComplete with
    | error fault =>
      constructor
      · rintro ⟨⟩
      · rintro ⟨-, ⟨⟩⟩
    | ok _ =>
      constructor
      · rintro ⟨⟩
        exact ⟨rfl, rfl⟩
      · rintro ⟨⟨⟩, -⟩
        rfl

/-- The plan of a wipe keeps to its schema. -/
theorem plan_keeps {c : Call} (planned : c ∈ plan name tables) : c.KeepsTo target name := by
  simp only [plan, List.mem_append, List.mem_cons, List.mem_map, List.not_mem_nil,
    or_false] at planned
  obtain ((rfl | rfl | rfl | rfl) | ⟨table, -, rfl⟩) | rfl | rfl | rfl := planned <;>
    simp [Call.KeepsTo]

theorem listing_plan_keeps {c : Call} (planned : c ∈ listingPlan name) :
    c.KeepsTo target name := by
  simp only [listingPlan, List.mem_cons, List.not_mem_nil, or_false] at planned
  obtain rfl | rfl | rfl | rfl | rfl := planned <;> simp [Call.KeepsTo]

/-- A course connects to its target, follows its plan, and cleans up. -/
theorem course_keeps (follows : course.Follows (plan name tables)) :
    ∀ x ∈ course.exchanges target (plan name tables), x.call.KeepsTo target name := by
  intro x member
  cases course with
  | unreachable e =>
    obtain rfl := List.mem_singleton.mp member
    rfl
  | completed closing =>
    simp only [Course.exchanges, List.cons_append, List.mem_cons, List.mem_append, List.mem_map,
      List.not_mem_nil, or_false] at member
    obtain rfl | ⟨c, planned, rfl⟩ | rfl := member
    · rfl
    · exact plan_keeps planned
    · trivial
  | broken passed failed e rollback closing =>
    simp only [Course.exchanges, List.cons_append, List.mem_cons, List.mem_append,
      List.mem_map] at member
    obtain rfl | ⟨c, early, rfl⟩ | rfl | cleaned := member
    · rfl
    · exact plan_keeps (follows.subset (List.mem_append_left _ early))
    · exact plan_keeps (follows.subset (by simp))
    · rcases Course.mem_cleaning cleaned with rfl | ⟨-, rfl⟩ | rfl <;> trivial

theorem listing_course_keeps {course : ListingCourse}
    (follows : course.Follows (listingPlan name)) :
    ∀ x ∈ course.exchanges target (listingPlan name), x.call.KeepsTo target name := by
  intro x member
  rcases ListingCourse.call_of_mem follows member with call | planned | call
  · rw [call]
    rfl
  · exact listing_plan_keeps planned
  · rw [call]
    trivial

/-- What is approved is checked. -/
theorem checked_of_approved {exchanges : List Exchange}
    (approved : approve connection schema = .ok name)
    (keeps : ∀ x ∈ exchanges, x.call.KeepsTo connection name) :
    Checked connection name exchanges := by
  obtain ⟨⟨-, plain⟩, complete⟩ := approve_eq_ok_iff.mp approved
  exact ⟨complete, plain, plain.utf8ByteSize_le, keeps⟩

/-- A wipe that names a schema makes sound exchanges. -/
theorem wipe_sound (connection : Connection) (name : String) (request : Option String) (w : World) :
    ∃ exchanges, Run w.server exchanges (wipe connection (some name) request w).2.server ∧
      Sound connection name exchanges := by
  cases approved : approve connection (some name) with
  | error stop =>
    rw [wipe_refused approved]
    exact ⟨[], .stop, .inl rfl⟩
  | ok other =>
    cases approved_schema approved
    obtain ⟨course, follows, ran, -⟩ := approved_wipe_takes_course approved request w
    exact ⟨_, ran, .inr (checked_of_approved approved (course_keeps follows))⟩

/-- A listing that names a schema makes sound exchanges. -/
theorem list_sound (connection : Connection) (name : String) (request : Option String) (w : World) :
    ∃ exchanges, Run w.server exchanges (list connection (some name) request w).2.server ∧
      Sound connection name exchanges := by
  cases approved : approve connection (some name) with
  | error stop =>
    rw [list_refused approved]
    exact ⟨[], .stop, .inl rfl⟩
  | ok other =>
    cases approved_schema approved
    obtain ⟨course, follows, ran, -⟩ := approved_listing_takes_course approved request w
    exact ⟨_, ran, .inr (checked_of_approved approved (listing_course_keeps follows))⟩

/-- A schema that is not plain is refused before the connection is looked at. -/
theorem approve_unnamed (unnamed : ∀ name, schema = some name → ¬ Guard.Plain name) :
    approve connection schema = .error (.refusal (.identifier "schema")) := by
  rw [approve, Guard.identifier_eq_error unnamed]
  rfl

end Wipe
end SchemaWipe
