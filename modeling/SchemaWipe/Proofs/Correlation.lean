import SchemaWipe.Proofs.Deeds
import SchemaWipe.Proofs.Requests

/-! What a wipe or a request writes goes under one request id: the one that is given with it, or one
that is made for it. Each act makes at most one, and none is made twice, so the records of different
acts can be told apart wherever no id is given twice. -/
namespace SchemaWipe
open Database Wipe

/-- A record goes under a request id. -/
def Log.Record.Carries (id : String) (r : Log.Record) : Prop :=
  r.fields.get? "request_id" = some (.text id)

namespace Act

/-- The request id that is given with an act. -/
def request? : Act → Option String
  | .wipe _ _ request | .list _ _ request => request
  | .serve _ (.wipe _ _ id) | .serve _ (.list _ id) => id
  | .plant _ => none

/-- The records that an act writes. -/
def records (act : Act) (w : World) : List Log.Record :=
  (act.perform w).2.log.drop w.log.length

/-- The request ids that are made during an act. -/
def made (act : Act) (w : World) : List String :=
  (List.range' (w.issued + 1) ((act.perform w).2.issued - w.issued)).map World.requestId

/-- An act for which a request id is found if none is given. Listings that are made directly go
without. -/
def Identifies : Act → Prop
  | .list .. => False
  | _ => True

end Act

/-- An act that was done, and what it left: records, and request ids that were made. -/
structure Trace where
  act : Act
  records : List Log.Record
  made : List String

/-- Does one act after the other. -/
def traces : List Act → World → List Trace × World
  | [], w => ([], w)
  | act :: rest, w =>
    let (more, last) := traces rest (act.perform w).2
    (⟨act, act.records w, act.made w⟩ :: more, last)

/-- All records go under one request id. -/
inductive Correlated (request : Option String) (records : List Log.Record) (made : List String) :
    Prop where
  /-- It is the one that was given, and no other was made. -/
  | given {id : String} (asked : request = some id) (filled : id ≠ "") (unmade : made = [])
      (carried : ∀ r ∈ records, r.Carries id)
  /-- It is the only one that was made. -/
  | made {id : String} (blank : request = none ∨ request = some "") (once : made = [id])
      (carried : ∀ r ∈ records, r.Carries id)
  /-- There was nothing to write, and no need of one. -/
  | silent (blank : request = none ∨ request = some "") (unmade : made = [])
      (unwritten : records = [])

namespace Wipe

variable {c : Connection} {schema request : Option String} {name id : String}
  {tables : List String} {w begun : World} {r : Log.Record}

theorem carries_note {server : Server} {call : Call}
    (noted : Job.note? ⟨c, name, some id⟩ server call = some r) : r.Carries id := by
  cases call <;> cases noted <;> rfl

theorem carries_notes {calls : List Call}
    (member : r ∈ notes ⟨c, name, some id⟩ tables calls) : r.Carries id := by
  obtain ⟨call, -, noted⟩ := List.mem_filterMap.mp member
  exact carries_note noted

theorem carries_connectNotes (member : r ∈ connectNotes ⟨c, name, some id⟩) : r.Carries id := by
  obtain rfl := List.mem_singleton.mp member
  rfl

theorem carries_undoNotes {f : Failure} {rollback : Option Error}
    (member : r ∈ undoNotes ⟨c, name, some id⟩ f rollback) : r.Carries id := by
  have rolled : (Job.rolledBack ⟨c, name, some id⟩ f).Carries id := by
    unfold Job.rolledBack
    split <;> rfl
  cases rollback with
  | none =>
    obtain rfl := List.mem_singleton.mp member
    exact rolled
  | some e =>
    obtain ⟨-, warned⟩ := List.mem_ite_nil_right.mp member
    rcases List.mem_cons.mp warned with rfl | last
    · rfl
    · obtain rfl := List.mem_singleton.mp last
      exact rolled

theorem carries_unreached {e : Error}
    (member : r ∈ if e.isDatabase then [unreached ⟨c, name, some id⟩ e] else []) :
    r.Carries id := by
  obtain ⟨-, warned⟩ := List.mem_ite_nil_right.mp member
  obtain rfl := List.mem_singleton.mp warned
  rfl

/-- Every record of a wipe goes under its request id, whatever course it takes. -/
theorem Course.records_carry (course : Course)
    (member : r ∈ course.records ⟨c, name, some id⟩ tables) : r.Carries id := by
  cases course with
  | unreachable e => exact carries_unreached member
  | completed closing =>
    simp only [Course.records, List.mem_append, List.mem_ite_nil_right, List.mem_singleton]
      at member
    obtain (early | noted) | ⟨-, rfl⟩ := member
    · exact carries_connectNotes early
    · exact carries_notes noted
    · rfl
  | broken passed failed e rollback closing =>
    simp only [Course.records, List.mem_append, List.mem_ite_nil_right] at member
    obtain (early | noted) | ⟨-, undone⟩ := member
    · exact carries_connectNotes early
    · exact carries_notes noted
    · exact carries_undoNotes undone

/-- Every record of a listing under a request id goes under it. -/
theorem ListingCourse.records_carry (course : ListingCourse)
    (member : r ∈ course.records ⟨c, name, some id⟩ tables) : r.Carries id := by
  cases course with
  | unreachable e => exact carries_unreached member
  | completed closing =>
    rcases List.mem_append.mp member with early | noted
    · exact carries_connectNotes early
    · exact carries_notes noted
  | broken passed failed e closing =>
    rcases List.mem_append.mp member with early | noted
    · exact carries_connectNotes early
    · exact carries_notes noted

/-- What an act does to the log and to the request ids: nothing at all, or it goes under one id. -/
inductive Goes (w : World) (request : Option String) (after : World) : Prop where
  | quiet (log : after.log = w.log) (issued : after.issued = w.issued)
  | under {id : String} {begun : World} {records : List Log.Record}
      (identified : Remote.Identified w request id begun) (log : after.log = w.log ++ records)
      (carried : ∀ r ∈ records, r.Carries id) (issued : after.issued = begun.issued)

/-- The records of a listing under a request id. -/
theorem list_carries (c : Connection) (schema : Option String) (id : String) (w : World) :
    ∃ records, (list c schema (some id) w).2.log = w.log ++ records ∧
      ∀ r ∈ records, r.Carries id := by
  cases approved : approve c schema with
  | error stop =>
    rw [list_refused approved]
    exact ⟨[], by simp, by rintro r ⟨⟩⟩
  | ok name =>
    obtain ⟨course, -, trail, -⟩ := approved_listing_leaves_trail approved (some id) w
    exact ⟨_, trail.log, fun r member => course.records_carry member⟩

/-- A wipe goes under its request id. -/
theorem wipe_goes (c : Connection) (schema request : Option String) (w : World) :
    Goes w request (wipe c schema request w).2 := by
  cases approved : approve c schema with
  | error stop =>
    rw [wipe_refused approved]
    exact .quiet rfl rfl
  | ok name =>
    obtain ⟨course, -, trail, -⟩ := approved_wipe_leaves_trail approved request w
    refine .under (Remote.identified_requestOr w request) trail.log
      (fun r member => course.records_carry member) ?_
    simp only [wipe, approved]
    exact (Worked.wipe _ _).issued

end Wipe

namespace Remote
open Wipe

variable {settings : Settings} {request : Request} {answer : Answer} {w begun after : World}
  {id : Option String} {given : String}

theorem Identified.log_eq (identified : Identified w id given begun) : begun.log = w.log := by
  cases identified <;> rfl

/-- A wipe under an id that a request found goes under it, and under no other. -/
theorem Identified.goes (identified : Identified w id given begun)
    (later : Goes begun (some given) after) : Goes w id after := by
  cases later with
  | quiet log issued =>
    have unwritten : after.log = w.log ++ [] := by rw [log, identified.log_eq, List.append_nil]
    exact .under identified unwritten (by rintro r ⟨⟩) issued
  | under again log carried issued =>
    have same := again.requestOr_eq.symm.trans (Identified.given identified.filled).requestOr_eq
    cases same
    exact .under identified (identified.log_eq ▸ log) carried issued

/-- A request goes under its id. -/
theorem Step.goes (step : Step settings w request answer after) :
    Goes w (Act.serve settings request).request? after := by
  cases step with
  | refused refuses => exact .quiet rfl rfl
  | @wiped schema reply id name given begun _ outcome permitted identified wipes issued =>
    have goes := wipe_goes settings.connection (some name) (some given) begun
    rw [wipes] at goes
    exact identified.goes goes
  | unlisted identified aimed refuses => exact identified.goes (.quiet rfl rfl)
  | @listed schema id aim name given begun _ outcome identified aimed accepts lists issued =>
    obtain ⟨records, log, carried⟩ := list_carries settings.connection (some name) given begun
    rw [lists, identified.log_eq] at log
    exact .under identified log carried issued

end Remote

namespace Act

variable {w : World} {act : Act}

/-- An act that identifies itself goes under its request id. -/
theorem goes (identifies : act.Identifies) (w : World) :
    Goes w act.request? (act.perform w).2 := by
  cases act with
  | wipe connection schema request => exact wipe_goes connection schema request w
  | list connection schema request => exact identifies.elim
  | serve settings request => exact (Remote.step_iff.mpr rfl).goes
  | plant faults => exact .quiet rfl rfl

end Act

namespace Wipe

variable {w after : World} {request : Option String}

/-- What goes under a request id only adds to the log. -/
theorem Goes.keeps_log (goes : Goes w request after) : w.log <+: after.log := by
  cases goes with
  | quiet log issued => exact log ▸ List.prefix_rfl
  | under identified log carried issued => exact ⟨_, log.symm⟩

/-- The number of request ids never falls. -/
theorem Goes.issued_le (goes : Goes w request after) : w.issued ≤ after.issued := by
  cases goes with
  | quiet log issued => exact Nat.le_of_eq issued.symm
  | under identified log carried issued =>
    rw [issued]
    cases identified with
    | given filled => exact Nat.le_refl _
    | made blank => exact Nat.le_succ _

/-- What goes under one request id is correlated by it. -/
theorem Goes.correlated (goes : Goes w request after) :
    Correlated request (after.log.drop w.log.length)
      ((List.range' (w.issued + 1) (after.issued - w.issued)).map World.requestId) := by
  cases goes with
  | quiet log issued =>
    have unwritten : after.log.drop w.log.length = [] := by rw [log, List.drop_length]
    have unmade : (List.range' (w.issued + 1) (after.issued - w.issued)).map World.requestId =
        [] := by
      simp [issued]
    rw [unwritten, unmade]
    cases request with
    | none => exact .silent (.inl rfl) rfl rfl
    | some id =>
      by_cases empty : id = ""
      · exact .silent (.inr (by rw [empty])) rfl rfl
      · exact .given rfl empty rfl (by rintro r ⟨⟩)
  | @under id begun records identified log carried issued =>
    have written : after.log.drop w.log.length = records := by rw [log, List.drop_left]
    rw [written, issued]
    cases identified with
    | given filled => exact .given rfl filled (by simp) carried
    | made blank => exact .made blank (by simp) carried

/-- A number can be read back from its digits, zeros in front or not. -/
theorem ofDigitChars_padded (width n : Nat) :
    Nat.ofDigitChars 10 (Binary64.padded width n) 0 = n := by
  rw [Binary64.padded, Nat.ofDigitChars_append, Nat.ofDigitChars_replicate_zero, Nat.mul_zero,
    Nat.ofDigitChars_toDigits (by decide) (by decide)]

/-- No request id is made twice. -/
theorem requestId_injective {m n : Nat} (same : World.requestId m = World.requestId n) :
    m = n := by
  have digits : Binary64.padded 12 m = Binary64.padded 12 n :=
    String.ofList_inj.mp ((String.append_right_inj _).mp same)
  calc
    m = Nat.ofDigitChars 10 (Binary64.padded 12 m) 0 := (ofDigitChars_padded 12 m).symm
    _ = Nat.ofDigitChars 10 (Binary64.padded 12 n) 0 := by rw [digits]
    _ = n := ofDigitChars_padded 12 n

end Wipe

variable {acts : List Act}

theorem traces_acts (acts : List Act) (w : World) : (traces acts w).1.map (·.act) = acts := by
  induction acts generalizing w with
  | nil => rfl
  | cons act rest ih => simp only [traces, List.map_cons, ih]

theorem traces_correlated (identify : ∀ act ∈ acts, act.Identifies) (w : World) :
    ∀ trace ∈ (traces acts w).1,
      Correlated trace.act.request? trace.records trace.made := by
  induction acts generalizing w with
  | nil => rintro trace ⟨⟩
  | cons act rest ih =>
    obtain ⟨first, others⟩ := List.forall_mem_cons.mp identify
    exact List.forall_mem_cons.mpr ⟨(act.goes first w).correlated, ih others _⟩

/-- The acts write the log together, each its own part of it. -/
theorem traces_log (identify : ∀ act ∈ acts, act.Identifies) (w : World) :
    (traces acts w).2.log = w.log ++ (traces acts w).1.flatMap (·.records) := by
  induction acts generalizing w with
  | nil => exact (List.append_nil _).symm
  | cons act rest ih =>
    obtain ⟨first, others⟩ := List.forall_mem_cons.mp identify
    have written : w.log ++ act.records w = (act.perform w).2.log :=
      List.prefix_iff_eq_append.mp (act.goes first w).keeps_log
    have later := ih others (act.perform w).2
    simp only [traces, List.flatMap_cons]
    rw [later, ← List.append_assoc, written]

/-- The request ids that acts make are counted on from act to act. -/
theorem traces_made (identify : ∀ act ∈ acts, act.Identifies) (w : World) :
    w.issued ≤ (traces acts w).2.issued ∧
      (traces acts w).1.flatMap (·.made) =
        (List.range' (w.issued + 1) ((traces acts w).2.issued - w.issued)).map
          World.requestId := by
  induction acts generalizing w with
  | nil => simp [traces]
  | cons act rest ih =>
    obtain ⟨first, others⟩ := List.forall_mem_cons.mp identify
    have begun := (act.goes first w).issued_le
    obtain ⟨grown, later⟩ := ih others (act.perform w).2
    refine ⟨Nat.le_trans begun grown, ?_⟩
    have next : (act.perform w).2.issued + 1 =
        w.issued + 1 + ((act.perform w).2.issued - w.issued) := by omega
    have count : (traces rest (act.perform w).2).2.issued - w.issued =
        ((act.perform w).2.issued - w.issued) +
          ((traces rest (act.perform w).2).2.issued - (act.perform w).2.issued) := by omega
    simp only [traces, List.flatMap_cons]
    rw [later, Act.made, ← List.map_append, next, List.range'_append_1, count]

/-- Request ids that are counted on are pairwise different. -/
theorem nodup_counted (start count : Nat) :
    ((List.range' start count).map World.requestId).Nodup := by
  refine List.pairwise_map.mpr ((List.nodup_range' (s := start) (n := count)).imp ?_)
  intro m n differ same
  exact differ (requestId_injective same)

/-- Requests are correlated with their records. In every sequence of wipes and of requests of remote
callers, whatever ids are given and whatever faults are planted in between, all records of an act go
under one request id: the given one, or else one that is made for this act and only once. The ids
that are made are pairwise different, and nothing is logged that belongs to no act. -/
theorem requests_are_correlated {acts : List Act} (identify : ∀ act ∈ acts, act.Identifies)
    (w : World) :
    (traces acts w).1.map (·.act) = acts ∧
      (∀ trace ∈ (traces acts w).1,
        Correlated trace.act.request? trace.records trace.made) ∧
      ((traces acts w).1.flatMap (·.made)).Nodup ∧
      (traces acts w).2.log = w.log ++ (traces acts w).1.flatMap (·.records) := by
  refine ⟨traces_acts acts w, traces_correlated identify w, ?_, traces_log identify w⟩
  rw [(traces_made identify w).2]
  exact nodup_counted _ _

/-- Two wipes and two requests. The first and the last go without an id and make one each, though
the last finds no connection; the wipe of no schema is refused before it makes any. -/
theorem mixed_calls_are_correlated :
    let connection : Connection := { password := "secret" }
    let settings : Settings := { connection, server := { allowRemoteReset := true } }
    let lost : Error := ⟨.database "OperationalError", "connection refused", none⟩
    let acts : List Act := [.wipe connection (some "public") none,
      .serve settings (.list none (some "r1")), .wipe connection none (some ""),
      .plant [⟨.connect, none, lost, none, 0⟩],
      .serve settings (.wipe (some "public") (some "public") (some ""))]
    let w : World := { server := { catalog := [("public", ["users"])] } }
    (traces acts w).1.map (fun trace => (trace.made, trace.records.length)) =
        [([World.requestId 1], 4), ([], 2), ([], 0), ([], 0), ([World.requestId 2], 1)] ∧
      (∀ trace ∈ (traces acts w).1,
        Correlated trace.act.request? trace.records trace.made) ∧
      ((traces acts w).1.flatMap (·.made)).Nodup := by
  intro connection settings lost acts w
  have identify : ∀ act ∈ acts, act.Identifies := by
    intro act member
    simp only [acts, List.mem_cons, List.not_mem_nil, or_false] at member
    obtain rfl | rfl | rfl | rfl | rfl := member <;> trivial
  obtain ⟨-, correlated, different, -⟩ := requests_are_correlated identify w
  exact ⟨by decide +kernel, correlated, different⟩

end SchemaWipe
