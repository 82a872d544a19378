import SchemaWipe.Wipe.Job

/-! How a job changes the world: it makes calls and writes records, and does nothing else. So whatever
the two keep, every wipe and every listing keeps. -/
namespace SchemaWipe.Wipe
open Database

/-- The second world comes from the first by calls and records. -/
inductive Worked : World → World → Prop where
  | stop {w : World} : Worked w w
  | call {w after : World} (c : Call) (rest : Worked (w.call c).2 after) : Worked w after
  | write {w after : World} (r : Log.Record) (rest : Worked (w.write r) after) : Worked w after

namespace Worked

variable {w middle after : World}

theorem trans (first : Worked w middle) (second : Worked middle after) : Worked w after := by
  induction first with
  | stop => exact second
  | call c rest ih => exact .call c (ih second)
  | write r rest ih => exact .write r (ih second)

/-- What calls and records keep is kept by all work. -/
theorem keeps {α : Type} {read : World → α} (calls : ∀ w c, read (World.call w c).2 = read w)
    (writes : ∀ w r, read (World.write w r) = read w) (worked : Worked w after) :
    read after = read w := by
  induction worked with
  | stop => rfl
  | call c rest ih => exact ih.trans (calls _ c)
  | write r rest ih => exact ih.trans (writes _ r)

/-- No work makes a request id. -/
theorem issued (worked : Worked w after) : after.issued = w.issued :=
  worked.keeps (fun _ _ => rfl) fun _ _ => rfl

/-- A call, whatever it replies. -/
theorem of_call {c : Call} {reply : Option Error} (called : w.call c = (reply, after)) :
    Worked w after := by
  have after_eq : (w.call c).2 = after := congrArg Prod.snd called
  exact .call c (after_eq ▸ .stop)

theorem step (job : Job) (c : Call) (w : World) : Worked w (job.step c w).2 := by
  unfold Job.step
  cases called : w.call c with
  | mk reply after =>
    have worked := of_call called
    cases reply with
    | some e => exact worked
    | none =>
      dsimp only
      split
      · exact worked.trans (.write _ .stop)
      · exact worked

theorem script (job : Job) (calls : List Call) (w : World) : Worked w (job.script calls w).2 := by
  induction calls generalizing w with
  | nil => exact .stop
  | cons c rest ih =>
    have worked := step job c w
    unfold Job.script
    cases stepped : job.step c w with
    | mk reply after =>
      rw [stepped] at worked
      cases reply with
      | some e => exact worked
      | none => exact worked.trans (ih after)

theorem connect (job : Job) (w : World) : Worked w (job.connect w).2 := by
  have worked := step job (.connect job.connection) w
  unfold Job.connect
  cases stepped : job.step (.connect job.connection) w with
  | mk reply after =>
    rw [stepped] at worked
    cases reply with
    | none => exact worked
    | some e =>
      dsimp only
      split
      · exact worked.trans (.write _ .stop)
      · exact worked

theorem close {α : Type} (outcome : Except Stop α) (w : World) :
    Worked w (Job.close outcome w).2 := by
  unfold Job.close
  cases called : w.call .close with
  | mk reply after => cases reply <;> exact of_call called

theorem leaveCursor (failed : Call) (w : World) : Worked w (Job.leaveCursor failed w) := by
  unfold Job.leaveCursor
  split
  · exact .call .cursorClose .stop
  · exact .stop

theorem transaction (job : Job) (w : World) : Worked w (job.transaction w).2 := by
  have opening := script job job.opening w
  unfold Job.transaction
  cases opened : job.script job.opening w with
  | mk stopped middle =>
    rw [opened] at opening
    cases stopped with
    | some failed => exact opening
    | none =>
      have dropping := script job (job.dropping middle.server.rows) middle
      dsimp only
      cases dropped : job.script (job.dropping middle.server.rows) middle with
      | mk stopped last =>
        rw [dropped] at dropping
        cases stopped <;> exact opening.trans dropping

theorem rollBack (job : Job) (f : Failure) (w : World) : Worked w (job.rollBack f w).2 := by
  unfold Job.rollBack
  cases called : w.call .rollback with
  | mk reply after =>
    have worked := of_call called
    cases reply with
    | none => exact worked.trans (.write _ .stop)
    | some e =>
      dsimp only
      split
      · exact worked.trans (.write _ (.write _ .stop))
      · exact worked

theorem recover (job : Job) (failed : Call × Error) (w : World) :
    Worked w (job.recover failed w).2 := by
  have left := leaveCursor failed.1 w
  unfold Job.recover
  dsimp only
  split
  · exact left.trans (rollBack job _ _)
  · exact left

/-- Behind its transaction a wipe closes the connection, and records what it reports. -/
private theorem report (job : Job) (outcome : Except Stop (List String)) (w : World) :
    Worked w (match Job.close outcome w with
      | (.error why, w) => ((.error why, w) : Except Stop Report × World)
      | (.ok tables, w) => (.ok ⟨job.schema, tables⟩, w.write (job.committed tables))).2 := by
  have closing := close outcome w
  cases closed : Job.close outcome w with
  | mk outcome after =>
    rw [closed] at closing
    cases outcome with
    | error stop => exact closing
    | ok tables => exact closing.trans (.write _ .stop)

theorem wipe (job : Job) (w : World) : Worked w (job.wipe w).2 := by
  have connecting := connect job w
  unfold Job.wipe
  cases connected : job.connect w with
  | mk outcome opened =>
    rw [connected] at connecting
    cases outcome with
    | error stop => exact connecting
    | ok _ =>
      have transacting := transaction job opened
      dsimp only
      cases transacted : job.transaction opened with
      | mk outcome last =>
        rw [transacted] at transacting
        have worked := connecting.trans transacting
        cases outcome with
        | error failed => exact worked.trans ((recover job failed last).trans (report job _ _))
        | ok tables => exact worked.trans (report job _ _)

theorem list (job : Job) (w : World) : Worked w (job.list w).2 := by
  have connecting := connect job w
  unfold Job.list
  cases connected : job.connect w with
  | mk outcome opened =>
    rw [connected] at connecting
    cases outcome with
    | error stop => exact connecting
    | ok _ =>
      have scripting := script job job.listing opened
      dsimp only
      cases scripted : job.script job.listing opened with
      | mk stopped last =>
        rw [scripted] at scripting
        have worked := connecting.trans scripting
        cases stopped with
        | none => exact worked.trans (close _ _)
        | some failed => exact worked.trans ((leaveCursor failed.1 last).trans (close _ _))

end Worked
end SchemaWipe.Wipe
