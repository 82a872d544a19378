import SchemaWipe.Proofs.Gate
import SchemaWipe.Proofs.Work
import SchemaWipe.Remote

/-! Remote requests and the operations that they stand for. A wipe that the checks refuse leaves the
world as it is, and any other is the wipe of its schema under one request id; a listing is that of its
schema. What a request comes to is one step of a relation, and what holds of every step is carried
through any number of requests by induction. -/
namespace SchemaWipe.Remote
open Wipe Database

/-- The checks before a remote wipe all pass. -/
structure Permitted (settings : Settings) (schema answer : Option String) (name : String) :
    Prop where
  allowed : settings.server.allowRemoteReset = true
  identified : Guard.identifier "schema" schema = .ok name
  repeated : Guard.Repeats name answer

/-- The first of the checks that fails decides why a remote wipe is refused. -/
inductive Refuses (settings : Settings) (schema answer : Option String) : Guard.Refusal → Prop where
  | remote (disabled : settings.server.allowRemoteReset = false) :
      Refuses settings schema answer .remote
  | identifier (allowed : settings.server.allowRemoteReset = true) {refusal : Guard.Refusal}
      (unidentified : Guard.identifier "schema" schema = .error refusal) :
      Refuses settings schema answer refusal
  | confirmation (allowed : settings.server.allowRemoteReset = true) {name : String}
      (identified : Guard.identifier "schema" schema = .ok name)
      (other : ¬ Guard.Repeats name answer) : Refuses settings schema answer (.confirmation name)

/-- A request goes under the id that is given with it, or under a new one. -/
inductive Identified (w : World) : Option String → String → World → Prop where
  | given {id : String} (filled : id ≠ "") : Identified w (some id) id w
  | made {request : Option String} (blank : request = none ∨ request = some "") :
      Identified w request (World.requestId (w.issued + 1)) { w with issued := w.issued + 1 }

/-- A listing is aimed at the schema that is given with it, or at the one of the settings. -/
inductive Aimed (settings : Settings) : Option String → String → Prop where
  | given {schema : String} (filled : schema ≠ "") : Aimed settings (some schema) schema
  | configured {schema : Option String} (blank : schema = none ∨ schema = some "") :
      Aimed settings schema settings.reset.schema

/-- What a request comes to. -/
inductive Step (settings : Settings) (w : World) : Request → Answer → World → Prop where
  /-- A wipe is refused: nothing is done at all. -/
  | refused {schema answer id : Option String} {refusal : Guard.Refusal}
      (refuses : Refuses settings schema answer refusal) :
      Step settings w (.wipe schema answer id) (.error (.refusal refusal)) w
  /-- A wipe is permitted: it is the operation under its id, and makes no other id. It is answered
  by the schema, the tables that were dropped and their number. -/
  | wiped {schema answer id : Option String} {name request : String} {begun after : World}
      {outcome : Except Stop Report} (permitted : Permitted settings schema answer name)
      (identified : Identified w id request begun)
      (wipes : Wipe.wipe settings.connection (some name) (some request) begun = (outcome, after))
      (issued : after.issued = begun.issued) :
      Step settings w (.wipe schema answer id)
        (outcome.map fun report => [("schema", .text report.schema),
          ("dropped_tables", .list (report.dropped.map .text)),
          ("table_count", .int report.dropped.length)]) after
  /-- A listing is of no schema: only its id was made. -/
  | unlisted {schema id : Option String} {aim request : String} {begun : World}
      {refusal : Guard.Refusal} (identified : Identified w id request begun)
      (aimed : Aimed settings schema aim)
      (refuses : Guard.identifier "schema" (some aim) = .error refusal) :
      Step settings w (.list schema id) (.error (.refusal refusal)) begun
  /-- A listing is the operation under its id, and makes no other id. It is answered by the schema
  and its tables. -/
  | listed {schema id : Option String} {aim name request : String} {begun after : World}
      {outcome : Except Stop (List String)} (identified : Identified w id request begun)
      (aimed : Aimed settings schema aim)
      (accepts : Guard.identifier "schema" (some aim) = .ok name)
      (lists : Wipe.list settings.connection (some name) (some request) begun = (outcome, after))
      (issued : after.issued = begun.issued) :
      Step settings w (.list schema id)
        (outcome.map fun tables => [("schema", .text name),
          ("tables", .list (tables.map .text))]) after

/-- What requests come to that are served one after the other. -/
inductive Steps (settings : Settings) : World → List Request → List Answer → World → Prop where
  | stop {w : World} : Steps settings w [] [] w
  | request {w middle after : World} {request : Request} {answer : Answer}
      {requests : List Request} {answers : List Answer}
      (first : Step settings w request answer middle)
      (rest : Steps settings middle requests answers after) :
      Steps settings w (request :: requests) (answer :: answers) after

variable {settings : Settings} {w begun after : World} {schema answer id : Option String}
  {name : String} {refusal : Guard.Refusal}

theorem approve_of_permitted (permitted : Permitted settings schema answer name) :
    approve settings schema answer = .ok name := by
  have confirmed := Guard.confirm_eq_ok_iff.mpr permitted.repeated
  simp [approve, Guard.remoteAllowed, permitted.allowed, permitted.identified, confirmed, bind,
    Except.bind, pure, Except.pure]

theorem approve_of_refuses (refuses : Refuses settings schema answer refusal) :
    approve settings schema answer = .error refusal := by
  cases refuses with
  | remote disabled => simp [approve, Guard.remoteAllowed, disabled, bind, Except.bind]
  | identifier allowed unidentified =>
    simp [approve, Guard.remoteAllowed, allowed, unidentified, bind, Except.bind]
  | confirmation allowed identified other =>
    have refused := Guard.confirm_eq_error other
    simp [approve, Guard.remoteAllowed, allowed, identified, refused, bind, Except.bind]

/-- Every remote wipe is permitted or refused. -/
theorem permitted_or_refuses (settings : Settings) (schema answer : Option String) :
    (∃ name, Permitted settings schema answer name) ∨
      ∃ refusal, Refuses settings schema answer refusal := by
  cases allowed : settings.server.allowRemoteReset with
  | false => exact .inr ⟨_, .remote allowed⟩
  | true =>
    cases identified : Guard.identifier "schema" schema with
    | error refusal => exact .inr ⟨_, .identifier allowed identified⟩
    | ok name =>
      by_cases repeated : Guard.Repeats name answer
      · exact .inl ⟨_, allowed, identified, repeated⟩
      · exact .inr ⟨_, .confirmation allowed identified repeated⟩

/-- An id is never empty, whether it is given or made. -/
theorem Identified.filled {request : String} (identified : Identified w id request begun) :
    request ≠ "" := by
  cases identified with
  | given filled => exact filled
  | made blank =>
    intro empty
    have prefixed := (String.append_eq_empty_iff.mp empty).1
    revert prefixed
    decide

theorem identified_requestOr (w : World) (id : Option String) :
    Identified w id (w.requestOr id).1 (w.requestOr id).2 := by
  cases id with
  | none => exact .made (.inl rfl)
  | some id =>
    by_cases empty : id = ""
    · subst empty
      exact .made (.inr rfl)
    · simpa [World.requestOr, String.isEmpty_iff, empty] using .given empty

theorem Identified.requestOr_eq {request : String} (identified : Identified w id request begun) :
    w.requestOr id = (request, begun) := by
  cases identified with
  | given filled => simp [World.requestOr, String.isEmpty_iff, filled]
  | made blank => obtain rfl | rfl := blank <;> rfl

theorem aimed_target (settings : Settings) (schema : Option String) :
    Aimed settings schema (target settings schema) := by
  cases schema with
  | none => exact .configured (.inl rfl)
  | some schema =>
    by_cases empty : schema = ""
    · subst empty
      exact .configured (.inr rfl)
    · simpa [target, String.isEmpty_iff, empty] using .given empty

theorem Aimed.target_eq {aim : String} (aimed : Aimed settings schema aim) :
    target settings schema = aim := by
  cases aimed with
  | given filled => simp [target, String.isEmpty_iff, filled]
  | configured blank => obtain rfl | rfl := blank <;> rfl

/-- A wipe under an id makes no other one. -/
theorem issued_wipe {connection : Connection} {request : String} (filled : request ≠ "")
    (w : World) :
    (Wipe.wipe connection schema (some request) w).2.issued = w.issued := by
  cases approved : Wipe.approve connection schema with
  | error stop => rw [wipe_refused approved]
  | ok name =>
    have given : w.requestOr (some request) = (request, w) := (Identified.given filled).requestOr_eq
    simp only [Wipe.wipe, approved, given]
    exact (Worked.wipe _ w).issued

/-- A listing makes no id. -/
theorem issued_list (connection : Connection) (schema request : Option String) (w : World) :
    (Wipe.list connection schema request w).2.issued = w.issued := by
  cases approved : Wipe.approve connection schema with
  | error stop => rw [list_refused approved]
  | ok name =>
    simp only [Wipe.list, approved]
    exact (Worked.list _ w).issued

/-- A request that comes to something is served with it. -/
theorem Step.serve_eq {request : Request} {answer : Answer}
    (step : Step settings w request answer after) : serve settings request w = (answer, after) := by
  cases step with
  | refused refuses => simp [serve, wipe, approve_of_refuses refuses, Except.map]
  | wiped permitted identified wipes issued =>
    simp only [serve, wipe, approve_of_permitted permitted, identified.requestOr_eq, wipes]
    rfl
  | unlisted identified aimed refuses =>
    simp [serve, list, identified.requestOr_eq, aimed.target_eq, refuses, Except.map]
  | @listed _ _ _ _ _ _ _ outcome identified aimed accepts lists issued =>
    simp only [serve, list, identified.requestOr_eq, aimed.target_eq, accepts, lists]
    cases outcome <;> rfl

/-- Every request comes to something. -/
theorem exists_step (settings : Settings) (request : Request) (w : World) :
    ∃ answer after, Step settings w request answer after := by
  cases request with
  | wipe schema answer id =>
    obtain ⟨name, permitted⟩ | ⟨refusal, refuses⟩ := permitted_or_refuses settings schema answer
    · have identified := identified_requestOr w id
      exact ⟨_, _, .wiped permitted identified rfl (issued_wipe identified.filled _)⟩
    · exact ⟨_, _, .refused refuses⟩
  | list schema id =>
    have identified := identified_requestOr w id
    have aimed := aimed_target settings schema
    cases accepts : Guard.identifier "schema" (some (target settings schema)) with
    | error refusal => exact ⟨_, _, .unlisted identified aimed accepts⟩
    | ok name => exact ⟨_, _, .listed identified aimed accepts rfl (issued_list _ _ _ _)⟩

/-- What a request comes to is what it is served with. -/
theorem step_iff {request : Request} {answer : Answer} :
    Step settings w request answer after ↔ serve settings request w = (answer, after) := by
  constructor
  · exact Step.serve_eq
  · intro served
    obtain ⟨found, reached, step⟩ := exists_step settings request w
    have same := step.serve_eq.symm.trans served
    cases same
    exact step

/-- What requests come to is what they are served with one after the other. -/
theorem steps_iff {requests : List Request} {answers : List Answer} :
    Steps settings w requests answers after ↔ serveAll settings requests w = (answers, after) := by
  -- Every request begins in the world that the one before it left, so the world is generalized.
  induction requests generalizing w answers with
  | nil =>
    constructor
    · rintro ⟨⟩
      rfl
    · rintro ⟨⟩
      exact .stop
  | cons request rest ih =>
    constructor
    · rintro (_ | ⟨first, later⟩)
      simp only [serveAll, step_iff.mp first, ih.mp later]
    · intro served
      cases first : serve settings request w with
      | mk answer middle =>
        cases later : serveAll settings rest middle with
        | mk others last =>
          simp only [serveAll, first, later, Prod.mk.injEq] at served
          obtain ⟨rfl, rfl⟩ := served
          exact .request (step_iff.mpr first) (ih.mpr later)

/-- Calls that drop nothing and commit nothing. -/
def Harmless (exchanges : List Exchange) : Prop :=
  ∀ x ∈ exchanges, x.call.table? = none ∧ x.call ≠ .commit

theorem harmless_nil : Harmless [] := by
  rintro x ⟨⟩

theorem harmless_append {before behind : List Exchange} (early : Harmless before)
    (late : Harmless behind) : Harmless (before ++ behind) := by
  intro x member
  exact (List.mem_append.mp member).elim (early x) (late x)

/-- The calls of a listing are harmless. -/
theorem listing_harmless (connection : Connection) (schema request : Option String) (w : World) :
    ∃ exchanges, Run w.server exchanges (Wipe.list connection schema request w).2.server ∧
      Harmless exchanges := by
  cases approved : Wipe.approve connection schema with
  | error stop =>
    rw [list_refused approved]
    exact ⟨[], .stop, harmless_nil⟩
  | ok name =>
    obtain ⟨course, follows, ran, -⟩ := approved_listing_takes_course approved request w
    exact ⟨_, ran, course.silent follows connection⟩

/-- Making an id leaves the server alone. -/
theorem Identified.server_eq {request : String} (identified : Identified w id request begun) :
    begun.server = w.server := by
  cases identified <;> rfl

/-- Where remote wipes are disabled, no request does harm. -/
theorem Step.harmless {request : Request} {answer : Answer}
    (disabled : settings.server.allowRemoteReset = false)
    (step : Step settings w request answer after) :
    ∃ exchanges, Run w.server exchanges after.server ∧ Harmless exchanges := by
  cases step with
  | refused refuses => exact ⟨[], .stop, harmless_nil⟩
  | wiped permitted identified wipes issued =>
    rw [permitted.allowed] at disabled
    cases disabled
  | unlisted identified aimed refuses => exact ⟨[], identified.server_eq ▸ .stop, harmless_nil⟩
  | listed identified aimed accepts lists issued =>
    obtain ⟨exchanges, ran, harmless⟩ := listing_harmless settings.connection (some _) (some _) _
    rw [lists, identified.server_eq] at ran
    exact ⟨exchanges, ran, harmless⟩

theorem Steps.harmless {requests : List Request} {answers : List Answer}
    (disabled : settings.server.allowRemoteReset = false)
    (steps : Steps settings w requests answers after) :
    ∃ exchanges, Run w.server exchanges after.server ∧ Harmless exchanges := by
  induction steps with
  | stop => exact ⟨[], .stop, harmless_nil⟩
  | request first rest ih =>
    obtain ⟨before, ran, early⟩ := first.harmless disabled
    obtain ⟨behind, later, late⟩ := ih
    exact ⟨before ++ behind, ran.append later, harmless_append early late⟩

/-- Requests that are served one after the other come to the operations that they stand for, as far
as the checks permit them, and to nothing else. Where remote wipes are disabled, no table is dropped
and nothing is committed, whatever is asked for. -/
theorem requests_refine_operations (settings : Settings) (requests : List Request) (w : World) :
    (∀ answers after, Steps settings w requests answers after ↔
      serveAll settings requests w = (answers, after)) ∧
    (settings.server.allowRemoteReset = false → ∃ exchanges,
      (serveAll settings requests w).2.server.record = w.server.record ++ exchanges ∧
      Harmless exchanges ∧
      (serveAll settings requests w).2.server.catalog = w.server.catalog) := by
  refine ⟨fun _ _ => steps_iff, ?_⟩
  intro disabled
  have served : Steps settings w requests _ _ := steps_iff.mpr rfl
  obtain ⟨exchanges, ran, harmless⟩ := served.harmless disabled
  refine ⟨exchanges, ran.record, harmless, ran.catalog_uncommitted ?_⟩
  intro commits
  exact (harmless _ commits).2 rfl

end SchemaWipe.Remote
