import SchemaWipe.Database.Server

/-! Runs of a server: calls made one after the other, with the errors that they raised. What one
call keeps is carried through a whole run by induction. Of everything that a run can do, only a
commit that passes reaches the committed tables. -/
namespace SchemaWipe.Database

/-- A call that raised nothing. -/
def Call.passed (c : Call) : Exchange := ⟨c, none⟩

/-- The exchanges take the first server to the second: their calls are made in this order, and each
of them raises what its exchange tells. -/
inductive Run : Server → List Exchange → Server → Prop where
  | stop {s : Server} : Run s [] s
  | call {s t : Server} {exchanges : List Exchange} (c : Call) (rest : Run (s.perform c).2 exchanges t) :
      Run s (⟨c, (s.perform c).1⟩ :: exchanges) t

/-- What calls raise, one after the other, under planted faults. -/
def replies : List Fault → List Call → List (Option Error)
  | _, [] => []
  | faults, c :: rest => (strike c faults).1 :: replies (strike c faults).2 rest

variable {s t : Server} {c : Call} {e : Error} {before exchanges after : List Exchange}

/-- The error that a call raises is that of a planted fault. -/
theorem strike_planted {faults : List Fault} (struck : (strike c faults).1 = some e) :
    ∃ f ∈ faults, f.error = e := by
  induction faults with
  | nil => cases struck
  | cons f rest ih =>
    unfold strike at struck
    split at struck
    · obtain ⟨g, member, same⟩ := ih struck
      exact ⟨g, List.mem_cons_of_mem f member, same⟩
    · split at struck
      · obtain ⟨g, member, same⟩ := ih struck
        exact ⟨g, List.mem_cons_of_mem f member, same⟩
      · exact ⟨f, List.mem_cons_self, Option.some.inj struck⟩

/-- A call changes how often faults still strike, but not the errors that they raise. -/
theorem strike_errors (c : Call) (faults : List Fault) :
    (strike c faults).2.map (·.error) = faults.map (·.error) := by
  induction faults with
  | nil => rfl
  | cons f rest ih =>
    unfold strike
    split
    · simp [ih]
    · split <;> simp [ih]

namespace Server

theorem faults_apply (s : Server) (c : Call) : (s.apply c).faults = s.faults := by
  cases c <;> rfl

theorem cascades_apply (s : Server) (c : Call) : (s.apply c).cascades = s.cascades := by
  cases c <;> rfl

/-- The effect of a call does not depend on what is on record or on the faults that are left. -/
theorem apply_bookkeeping (s : Server) (c : Call) (record : List Exchange) (faults : List Fault) :
    apply { s with record, faults } c = { s.apply c with record, faults } := by
  cases c <;> rfl

theorem faults_perform (s : Server) (c : Call) :
    (s.perform c).2.faults = (strike c s.faults).2 := by
  unfold perform
  cases struck : strike c s.faults with
  | mk error faults =>
    cases error with
    | none => exact faults_apply _ c
    | some e => rfl

/-- A call that passes has its effect and goes on record. -/
theorem perform_passed (passes : (s.perform c).1 = none) :
    (s.perform c).2 =
      { s.apply c with record := s.record ++ [c.passed], faults := (strike c s.faults).2 } := by
  rw [error_perform] at passes
  unfold perform
  cases struck : strike c s.faults with
  | mk error faults =>
    rw [struck] at passes
    cases passes
    exact apply_bookkeeping s c _ _

/-- A call that raises an error is only put on record. -/
theorem perform_raised (raises : (s.perform c).1 = some e) :
    (s.perform c).2 =
      { s with record := s.record ++ [⟨c, some e⟩], faults := (strike c s.faults).2 } := by
  rw [error_perform] at raises
  unfold perform
  cases struck : strike c s.faults with
  | mk error faults =>
    rw [struck] at raises
    cases raises
    rfl

theorem cascades_perform (s : Server) (c : Call) : (s.perform c).2.cascades = s.cascades := by
  cases replied : (s.perform c).1 with
  | none => rw [perform_passed replied]; exact cascades_apply s c
  | some e => rw [perform_raised replied]

/-- No fault waits for a cursor to be left. -/
theorem leaving_passes (s : Server) : (s.perform .cursorClose).1 = none := by
  rw [error_perform]
  induction s.faults with
  | nil => rfl
  | cons f rest ih => simp [strike, Fault.awaits, Call.point?, ih]

/-- A call that does not commit, or fails to, leaves the committed tables alone. -/
theorem catalog_perform_uncommitted
    (uncommitted : Exchange.mk c (s.perform c).1 ≠ Call.commit.passed) :
    (s.perform c).2.catalog = s.catalog := by
  by_cases commits : c = .commit
  · subst commits
    cases replied : (s.perform .commit).1 with
    | none => exact absurd (congrArg (Exchange.mk .commit) replied) uncommitted
    | some e => rw [perform_raised replied]
  · exact catalog_perform_of_ne commits s

end Server

namespace Run

theorem append {u : Server} (first : Run s before t) (second : Run t after u) :
    Run s (before ++ after) u := by
  induction first with
  | stop => exact second
  | call c rest ih => exact .call c (ih second)

theorem single (s : Server) (c : Call) : Run s [⟨c, (s.perform c).1⟩] (s.perform c).2 :=
  .call c .stop

/-- A run splits where its exchanges do. -/
theorem split (ran : Run s (before ++ after) t) : ∃ u, Run s before u ∧ Run u after t := by
  induction before generalizing s with
  | nil => exact ⟨s, .stop, ran⟩
  | cons x before ih =>
    cases ran with
    | call c rest =>
      obtain ⟨u, first, second⟩ := ih rest
      exact ⟨u, .call c first, second⟩

/-- A run puts its exchanges on record behind those that were there. -/
theorem record (ran : Run s exchanges t) : t.record = s.record ++ exchanges := by
  induction ran with
  | stop => simp
  | call c rest ih => rw [ih, Server.record_perform, Server.error_perform]; simp

/-- What other clients commit between two runs is not on record. -/
theorem record_across {u : Server} {catalog : Catalog} (first : Run s before t)
    (second : Run { t with catalog } after u) : u.record = s.record ++ (before ++ after) := by
  rw [second.record, ← List.append_assoc, ← first.record]

/-- What the calls of a run raise is settled by the faults that were planted before it. -/
theorem errors (ran : Run s exchanges t) :
    exchanges.map (·.error) = replies s.faults (exchanges.map (·.call)) := by
  induction ran with
  | stop => rfl
  | call c rest ih =>
    rw [Server.faults_perform] at ih
    simp only [List.map_cons, replies, ih, Server.error_perform]

/-- What goes along with a table never changes. -/
theorem cascades (ran : Run s exchanges t) : t.cascades = s.cascades := by
  induction ran with
  | stop => rfl
  | call c rest ih => rw [ih, Server.cascades_perform]

/-- Leaving a cursor raises no error in any run. -/
theorem leaving_never_raises (ran : Run s exchanges t) :
    Exchange.mk .cursorClose (some e) ∉ exchanges := by
  induction ran with
  | stop => simp
  | @call s t exchanges c rest ih =>
    intro member
    rcases List.mem_cons.mp member with same | later
    · obtain ⟨rfl, raised⟩ := Exchange.mk.inj same
      rw [s.leaving_passes] at raised
      cases raised
    · exact ih later

/-- The errors that faults raise stay the same in every run. -/
theorem fault_errors (ran : Run s exchanges t) :
    t.faults.map (·.error) = s.faults.map (·.error) := by
  induction ran with
  | stop => rfl
  | call c rest ih => rw [ih, Server.faults_perform, strike_errors]

/-- Every error that a run raises was planted before it. -/
theorem raised_planted (ran : Run s exchanges t) (raised : ⟨c, some e⟩ ∈ exchanges) :
    ∃ f ∈ s.faults, f.error = e := by
  induction ran with
  | stop => cases raised
  | @call s t exchanges d rest ih =>
    rcases List.mem_cons.mp raised with same | later
    · obtain ⟨-, reply⟩ := Exchange.mk.inj same
      rw [Server.error_perform] at reply
      exact strike_planted reply.symm
    · obtain ⟨f, member, same⟩ := ih later
      have error := List.mem_map_of_mem (f := Fault.error) member
      rw [Server.faults_perform, strike_errors] at error
      obtain ⟨g, planted, alike⟩ := List.mem_map.mp error
      exact ⟨g, planted, alike.trans same⟩

/-- Where no faults are planted, every call of a run passes, and none are planted on the way. -/
theorem faultless (ran : Run s exchanges t) (unplanted : s.faults = []) :
    (∀ x ∈ exchanges, x.error = none) ∧ t.faults = [] := by
  constructor
  · rintro ⟨c, error⟩ member
    cases error with
    | none => rfl
    | some e =>
      obtain ⟨f, planted, -⟩ := ran.raised_planted member
      rw [unplanted] at planted
      cases planted
  · have errors := ran.fault_errors
    rw [unplanted] at errors
    exact List.map_eq_nil_iff.mp errors

/-- A run without a commit that passes leaves the committed tables alone. -/
theorem catalog_uncommitted (ran : Run s exchanges t)
    (uncommitted : Call.commit.passed ∉ exchanges) : t.catalog = s.catalog := by
  induction ran with
  | stop => rfl
  | call c rest ih =>
    simp only [List.mem_cons, not_or] at uncommitted
    obtain ⟨first, later⟩ := uncommitted
    exact (ih later).trans (Server.catalog_perform_uncommitted (Ne.symm first))

/-- A run that starts with a call that passed goes on from the effect of that call. -/
theorem after_passed (ran : Run s (c.passed :: exchanges) t) :
    Run { s.apply c with record := s.record ++ [c.passed], faults := (strike c s.faults).2 }
      exchanges t := by
  generalize started : c.passed :: exchanges = all at ran
  cases ran with
  | stop => cases started
  | call d rest =>
    obtain ⟨same, rfl⟩ := List.cons.inj started
    obtain ⟨rfl, passes⟩ := Exchange.mk.inj same
    rwa [Server.perform_passed passes.symm] at rest

end Run
end SchemaWipe.Database
