import SchemaWipe.Proofs.Run
import SchemaWipe.Wipe.Job

/-! What jobs leave behind: the calls that they make and the records that they write, side by side.
A step records its call if that passed, so the records of a script are those of the calls it made,
up to the one that failed. -/
namespace SchemaWipe.Wipe
open Database

/-- The exchanges take the first world to the second, and the records are written on the way. -/
structure Trail (w : World) (exchanges : List Exchange) (records : List Log.Record)
    (after : World) : Prop where
  run : Run w.server exchanges after.server
  log : after.log = w.log ++ records

/-- The records of calls that passed, where the query found some tables. -/
def notes (job : Job) (tables : List String) (calls : List Call) : List Log.Record :=
  calls.filterMap (job.note? { rows := tables })

/-- The rows that a script fetches, if it comes to that, are some tables. -/
def Finds (s : Server) (calls : List Call) (tables : List String) : Prop :=
  ∀ before behind t, calls = before ++ .fetch :: behind →
    Run s ((before ++ [.fetch]).map Call.passed) t → t.rows = tables

variable {job : Job} {w middle after : World} {c failed : Call} {calls : List Call} {e : Error}
  {tables : List String}

namespace Trail

theorem stop (w : World) : Trail w [] [] w :=
  ⟨.stop, (List.append_nil _).symm⟩

theorem append {early late : List Exchange} {first second : List Log.Record}
    (before : Trail w early first middle) (behind : Trail middle late second after) :
    Trail w (early ++ late) (first ++ second) after where
  run := before.run.append behind.run
  log := by rw [behind.log, before.log, List.append_assoc]

/-- Where a trail begins, only the server and the log matter. -/
theorem of_same {exchanges : List Exchange} {records : List Log.Record}
    (trail : Trail middle exchanges records after) (server : middle.server = w.server)
    (log : middle.log = w.log) : Trail w exchanges records after :=
  ⟨server ▸ trail.run, log ▸ trail.log⟩

/-- A call about which nothing is recorded. -/
theorem silent {reply : Option Error} (made : w.call c = (reply, after)) :
    Trail w [⟨c, reply⟩] [] after := by
  cases made
  exact ⟨.single w.server c, (List.append_nil _).symm⟩

theorem write {exchanges : List Exchange} {records : List Log.Record}
    (trail : Trail w exchanges records after) (r : Log.Record) :
    Trail w exchanges (records ++ [r]) (after.write r) where
  run := trail.run
  log := by rw [← List.append_assoc, ← trail.log]; rfl

end Trail

/-- Only the record of the rows depends on the server. -/
theorem note?_eq {s : Server} (found : c = .fetch → s.rows = tables) :
    job.note? s c = job.note? { rows := tables } c := by
  cases c with
  | fetch => simp only [Job.note?, found rfl]
  | _ => rfl

theorem notes_cons (job : Job) (tables : List String) (c : Call) (calls : List Call) :
    notes job tables (c :: calls) = (job.note? { rows := tables } c).toList ++
      notes job tables calls := by
  unfold notes
  rw [List.filterMap_cons]
  cases job.note? { rows := tables } c <;> rfl

theorem notes_append (job : Job) (tables : List String) (before behind : List Call) :
    notes job tables (before ++ behind) =
      notes job tables before ++ notes job tables behind :=
  List.filterMap_append

/-- A step whose call passes records it. -/
theorem step_passed (stepped : job.step c w = (none, after)) :
    Trail w [c.passed] (job.note? after.server c).toList after := by
  unfold Job.step at stepped
  cases called : w.call c with
  | mk reply next =>
    rw [called] at stepped
    cases reply with
    | some e => cases stepped
    | none =>
      have trail := Trail.silent called
      dsimp only at stepped
      split at stepped
      · rename_i r noted
        cases stepped
        have same : (next.write r).server = next.server := rfl
        rw [same, noted]
        exact trail.write r
      · rename_i unnoted
        cases stepped
        rwa [unnoted]

/-- A step whose call fails records nothing. -/
theorem step_raised (stepped : job.step c w = (some e, after)) :
    Trail w [⟨c, some e⟩] [] after := by
  unfold Job.step at stepped
  cases called : w.call c with
  | mk reply next =>
    rw [called] at stepped
    cases reply with
    | some raised =>
      cases stepped
      exact Trail.silent called
    | none =>
      dsimp only at stepped
      split at stepped <;> cases stepped

theorem Finds.of_not_mem {s : Server} (absent : .fetch ∉ calls) (tables : List String) :
    Finds s calls tables := by
  rintro before behind t rfl -
  simp at absent

/-- Where a script fetches once, it finds what it fetches there. -/
theorem Finds.of_once {s : Server} (before behind : List Call) (early : Call.fetch ∉ before)
    (late : Call.fetch ∉ behind)
    (found : ∀ t, Run s ((before ++ [Call.fetch]).map Call.passed) t → t.rows = tables) :
    Finds s (before ++ .fetch :: behind) tables := by
  intro front back t shape ran
  rcases List.append_eq_append_iff.mp shape with ⟨more, rfl, rest⟩ | ⟨more, rfl, rest⟩
  · cases more with
    | nil =>
      rw [List.append_nil] at ran
      exact found t ran
    | cons first more =>
      obtain ⟨-, rfl⟩ := List.cons.inj rest
      simp at late
  · cases more with
    | nil =>
      rw [List.append_nil] at found
      exact found t ran
    | cons first more =>
      obtain ⟨rfl, -⟩ := List.cons.inj rest
      simp at early

/-- Behind a call that passed, a script finds what it would have found. -/
theorem Finds.tail {s t : Server} (finds : Finds s (c :: calls) tables)
    (passes : Run s [c.passed] t) : Finds t calls tables := by
  rintro before behind u rfl ran
  exact finds (c :: before) behind u rfl (passes.append ran)

/-- The record of a call that passed, at the head of a script. -/
theorem step_noted (finds : Finds w.server (c :: calls) tables)
    (stepped : job.step c w = (none, after)) :
    Trail w [c.passed] (job.note? { rows := tables } c).toList after := by
  have trail := step_passed stepped
  rwa [note?_eq fun fetches => ?_] at trail
  subst fetches
  exact finds [] calls after.server rfl trail.run

/-- A script that reaches its end has made all its calls, and recorded them. -/
theorem script_completed (finds : Finds w.server calls tables)
    (ran : job.script calls w = (none, after)) :
    Trail w (calls.map Call.passed) (notes job tables calls) after := by
  induction calls generalizing w with
  | nil =>
    cases ran
    exact .stop _
  | cons c rest ih =>
    cases stepped : job.step c w with
    | mk reply next =>
      cases reply with
      | some e => simp [Job.script, stepped] at ran
      | none =>
        simp only [Job.script, stepped] at ran
        have first := step_noted finds stepped
        rw [notes_cons]
        exact first.append (ih (finds.tail first.run) ran)

/-- A script that fails has made its calls up to the one that failed, and recorded those that
passed. -/
theorem script_failed (finds : Finds w.server calls tables)
    (ran : job.script calls w = (some (failed, e), after)) :
    ∃ passed, passed ++ [failed] <+: calls ∧
      Trail w (passed.map Call.passed ++ [⟨failed, some e⟩]) (notes job tables passed) after := by
  induction calls generalizing w with
  | nil => cases ran
  | cons c rest ih =>
    cases stepped : job.step c w with
    | mk reply next =>
      cases reply with
      | some raised =>
        simp only [Job.script, stepped, Prod.mk.injEq, Option.some.injEq] at ran
        obtain ⟨⟨rfl, rfl⟩, rfl⟩ := ran
        exact ⟨[], ⟨rest, rfl⟩, step_raised stepped⟩
      | none =>
        simp only [Job.script, stepped] at ran
        have first := step_noted finds stepped
        obtain ⟨passed, reached, later⟩ := ih (finds.tail first.run) ran
        refine ⟨c :: passed, List.cons_prefix_cons.mpr ⟨rfl, reached⟩, ?_⟩
        rw [notes_cons]
        exact first.append later

end SchemaWipe.Wipe
