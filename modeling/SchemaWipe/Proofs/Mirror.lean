import SchemaWipe.Proofs.Rekeying
import SchemaWipe.Proofs.Effect

/-! Two runs side by side: of one operation, with other passwords, under another request id and
behind another past. Whatever the first does the second does too, call by call, because neither
passwords nor what was recorded and logged so far is ever read. What the two share is followed
through every part of an operation; while no connection is open it need not include what the last
one worked on. -/
namespace SchemaWipe

namespace Database

/-- One server mirrors another: it holds the same and has the same faults ahead, and behind the
pasts that they have it has the same calls on record with other passwords. While a connection is
open, that works on the same. -/
structure Server.Mirrors (rekey : Rekey) (pasts : List Exchange × List Exchange) (opened : Prop)
    (s t : Server) : Prop where
  catalog : t.catalog = s.catalog
  cascades : t.cascades = s.cascades
  faults : t.faults = s.faults
  record : ∃ exchanges, s.record = pasts.1 ++ exchanges ∧
    t.record = pasts.2 ++ exchanges.map (Exchange.rekeyed rekey)
  working : opened → t.working = s.working
  rows : opened → t.rows = s.rows

namespace Server.Mirrors

variable {rekey : Rekey} {pasts : List Exchange × List Exchange} {opened : Prop} {s t : Server}
  {c : Call}

/-- A call meets the same fault, or none, and goes on record beside the other. -/
theorem replies (mirrors : s.Mirrors rekey pasts opened t) (c : Call) :
    (t.perform (c.rekeyed rekey)).1 = (s.perform c).1 := by
  rw [Server.error_perform, Server.error_perform, mirrors.faults, strike_rekeyed]

theorem recorded (mirrors : s.Mirrors rekey pasts opened t) (c : Call) :
    ∃ exchanges, (s.perform c).2.record = pasts.1 ++ exchanges ∧
      (t.perform (c.rekeyed rekey)).2.record =
        pasts.2 ++ exchanges.map (Exchange.rekeyed rekey) := by
  obtain ⟨exchanges, here, there⟩ := mirrors.record
  refine ⟨exchanges ++ [⟨c, (strike c s.faults).1⟩], ?_, ?_⟩
  · rw [Server.record_perform, here, List.append_assoc]
  · rw [Server.record_perform, there, mirrors.faults, strike_rekeyed]
    simp [Exchange.rekeyed]

/-- A call that raises an error leaves both servers as they were, record and faults apart. -/
theorem raised (mirrors : s.Mirrors rekey pasts opened t) {e : Error}
    (raises : (s.perform c).1 = some e) :
    (s.perform c).2.Mirrors rekey pasts opened (t.perform (c.rekeyed rekey)).2 := by
  have record := mirrors.recorded c
  have raises' := (mirrors.replies c).trans raises
  rw [Server.perform_raised raises, Server.perform_raised raises'] at record ⊢
  exact ⟨mirrors.catalog, mirrors.cascades, by rw [strike_rekeyed, mirrors.faults], record,
    mirrors.working, mirrors.rows⟩

/-- A call that passes has the same effect on both servers while a connection is open. -/
theorem passed (mirrors : s.Mirrors rekey pasts True t) (passes : (s.perform c).1 = none) :
    (s.perform c).2.Mirrors rekey pasts True (t.perform (c.rekeyed rekey)).2 := by
  have record := mirrors.recorded c
  have passes' := (mirrors.replies c).trans passes
  have view : t.view = s.view := by
    rw [Server.view, Server.view, mirrors.working trivial, mirrors.catalog]
  have cascades := mirrors.cascades
  have catalog := mirrors.catalog
  have working := mirrors.working trivial
  have rows := mirrors.rows trivial
  rw [Server.perform_passed passes, Server.perform_passed passes'] at record ⊢
  rw [Server.apply_rekeyed] at record ⊢
  refine ⟨?_, ?_, by rw [strike_rekeyed, mirrors.faults], record, fun _ => ?_, fun _ => ?_⟩ <;>
    cases c <;> simp [Server.apply, view, cascades, catalog, working, rows]

/-- Connecting starts afresh, whatever the last connection worked on. -/
theorem connected (mirrors : s.Mirrors rekey pasts opened t) {target : Connection}
    (passes : (s.perform (.connect target)).1 = none) :
    (s.perform (.connect target)).2.Mirrors rekey pasts True
      (t.perform (.connect (target.rekeyed rekey))).2 := by
  have record := mirrors.recorded (.connect target)
  have passes' := (mirrors.replies (.connect target)).trans passes
  rw [Call.rekeyed] at record passes'
  rw [Server.perform_passed passes, Server.perform_passed passes'] at record ⊢
  have faults : strike (.connect (target.rekeyed rekey)) s.faults =
      strike (.connect target) s.faults := strike_rekeyed (Call.connect target) s.faults
  exact ⟨mirrors.catalog, mirrors.cascades, by rw [mirrors.faults, faults], record,
    fun _ => rfl, fun _ => rfl⟩

end Server.Mirrors
end Database

namespace Wipe
open Database

/-- One world is beside another: its server mirrors the other's. Where `told` holds, its log and its
request ids are those of the other. -/
structure Beside (rekey : Rekey) (pasts : List Exchange × List Exchange) (told opened : Prop)
    (w v : World) : Prop where
  server : w.server.Mirrors rekey pasts opened v.server
  log : told → v.log = w.log
  issued : told → v.issued = w.issued

/-- The job with the password replaced and under another request id. -/
def Job.rekeyed (rekey : Rekey) (request : Option String) (job : Job) : Job :=
  ⟨job.connection.rekeyed rekey, job.schema, request⟩

namespace Beside

variable {rekey : Rekey} {pasts : List Exchange × List Exchange} {told opened : Prop}
  {w after v : World} {job : Job} {request : Option String}

/-- Where no connection is open, it does not matter any more what the last one worked on. -/
theorem weaken (beside : Beside rekey pasts told opened w v) {open' : Prop}
    (still : open' → opened) : Beside rekey pasts told open' w v where
  server := { beside.server with
    working := fun now => beside.server.working (still now)
    rows := fun now => beside.server.rows (still now) }
  log := beside.log
  issued := beside.issued

theorem relog (beside : Beside rekey pasts told opened w v) {log log' : List Log.Record}
    (same : told → log' = log) :
    Beside rekey pasts told opened { w with log } { v with log := log' } :=
  ⟨beside.server, same, beside.issued⟩

/-- Records that are the same are written beside each other. -/
theorem write (beside : Beside rekey pasts told opened w v) {r r' : Log.Record}
    (same : told → r' = r) : Beside rekey pasts told opened (w.write r) (v.write r') :=
  beside.relog fun known => by rw [beside.log known, same known]

theorem served (beside : Beside rekey pasts told opened w v) {open' : Prop} {s t : Server}
    (mirrors : s.Mirrors rekey pasts open' t) :
    Beside rekey pasts told open' { w with server := s } { v with server := t } :=
  ⟨mirrors, beside.log, beside.issued⟩

theorem call (beside : Beside rekey pasts told True w v) {c : Call} {reply : Option Error}
    (called : w.call c = (reply, after)) :
    ∃ last, v.call (c.rekeyed rekey) = (reply, last) ∧ Beside rekey pasts told True after last := by
  obtain ⟨rfl, rfl⟩ := Prod.mk.inj called
  refine ⟨{ v with server := (v.server.perform (c.rekeyed rekey)).2 },
    Prod.ext (beside.server.replies c) rfl, beside.served ?_⟩
  cases replied : (w.server.perform c).1 with
  | none => exact beside.server.passed replied
  | some e => exact beside.server.raised replied

/-- A call that holds no password is made on both sides as it is. -/
theorem same_call (beside : Beside rekey pasts told True w v) {c : Call} {reply : Option Error}
    (keyless : c.rekeyed rekey = c) (called : w.call c = (reply, after)) :
    ∃ last, v.call c = (reply, last) ∧ Beside rekey pasts told True after last :=
  keyless ▸ beside.call called

/-- What a job notes about a call does not depend on the password. -/
theorem noted (beside : Beside rekey pasts told True w v) (same : told → request = job.request)
    (c : Call) :
    told → (job.rekeyed rekey request).note? v.server (c.rekeyed rekey) = job.note? w.server c := by
  intro known
  cases same known
  have rows := beside.server.rows trivial
  cases c with
  | fetch => simp only [Call.rekeyed, Job.note?, rows]; rfl
  | _ => rfl

theorem step (beside : Beside rekey pasts told True w v) (same : told → request = job.request)
    {c : Call} {reply : Option Error} (stepped : job.step c w = (reply, after)) :
    ∃ last, (job.rekeyed rekey request).step (c.rekeyed rekey) v = (reply, last) ∧
      Beside rekey pasts told True after last := by
  unfold Job.step at stepped ⊢
  cases called : w.call c with
  | mk answer middle =>
    obtain ⟨middle', called', beside⟩ := beside.call called
    simp only [called] at stepped
    simp only [called']
    cases answer with
    | some e =>
      cases stepped
      exact ⟨middle', rfl, beside⟩
    | none =>
      -- Where both are told, both write the same record or none; elsewhere the logs do not matter.
      have notes := beside.noted same c
      dsimp only at stepped ⊢
      cases noted : job.note? middle.server c <;>
        cases noted' : (job.rekeyed rekey request).note? middle'.server (c.rekeyed rekey) <;>
        simp only [noted, noted'] at stepped notes ⊢ <;> cases stepped <;>
        refine ⟨_, rfl, beside.relog fun known => ?_⟩
      · exact beside.log known
      · cases notes known
      · cases notes known
      · rw [beside.log known, Option.some.inj (notes known)]

/-- Calls that hold no password are made beside each other up to the same one. -/
theorem script (beside : Beside rekey pasts told True w v) (same : told → request = job.request)
    {calls : List Call} (keyless : ∀ c ∈ calls, c.rekeyed rekey = c)
    {failed : Option (Call × Error)} (ran : job.script calls w = (failed, after)) :
    ∃ last, (job.rekeyed rekey request).script calls v = (failed, last) ∧
      Beside rekey pasts told True after last := by
  induction calls generalizing w v with
  | nil =>
    cases ran
    exact ⟨v, rfl, beside⟩
  | cons c rest ih =>
    obtain ⟨first, others⟩ := List.forall_mem_cons.mp keyless
    unfold Job.script at ran ⊢
    cases stepped : job.step c w with
    | mk reply middle =>
      obtain ⟨middle', stepped', beside⟩ := beside.step same stepped
      rw [first] at stepped'
      simp only [stepped] at ran
      simp only [stepped']
      cases reply with
      | some e =>
        cases ran
        exact ⟨middle', rfl, beside⟩
      | none => exact ih beside others ran

/-- Whatever was worked on before, a call that connects opens both sides or neither. -/
theorem reach (beside : Beside rekey pasts told opened w v) {target : Connection}
    {reply : Option Error} (called : w.call (.connect target) = (reply, after)) :
    ∃ last, v.call (.connect (target.rekeyed rekey)) = (reply, last) ∧
      Beside rekey pasts told (reply = none) after last := by
  have replied : (w.server.perform (.connect target)).1 = reply := congrArg Prod.fst called
  obtain rfl : { w with server := (w.server.perform (.connect target)).2 } = after :=
    congrArg Prod.snd called
  have answers := beside.server.replies (.connect target)
  refine ⟨{ v with server := (v.server.perform (.connect (target.rekeyed rekey))).2 },
    Prod.ext (answers.trans replied) rfl, ?_⟩
  cases reply with
  | none => exact (beside.served (beside.server.connected replied)).weaken fun _ => trivial
  | some e => exact (beside.served (beside.server.raised replied)).weaken nofun

/-- Connecting succeeds or fails beside each other; if it succeeds, a connection is open. -/
theorem connect (beside : Beside rekey pasts told opened w v) (same : told → request = job.request)
    {outcome : Except Stop Unit} (ran : job.connect w = (outcome, after)) :
    ∃ last, (job.rekeyed rekey request).connect v = (outcome.mapError (Stop.rekeyed rekey), last) ∧
      Beside rekey pasts told (outcome = .ok ()) after last := by
  unfold Job.connect Job.step at ran ⊢
  cases called : w.call (.connect job.connection) with
  | mk reply middle =>
    obtain ⟨middle', called', beside⟩ := beside.reach called
    simp only [called, Job.note?] at ran
    simp only [Job.rekeyed, called', Job.note?, Connection.connectionFields_rekeyed]
    cases reply with
    | none =>
      cases ran
      refine ⟨_, rfl, (beside.write fun known => ?_).weaken fun _ => rfl⟩
      rw [same known]
    | some e =>
      dsimp only at ran ⊢
      split at ran
      · rename_i database
        rw [if_pos database]
        cases ran
        refine ⟨_, rfl, (beside.write fun known => ?_).weaken (by rintro ⟨⟩)⟩
        rw [same known]
      · rename_i foreign
        rw [if_neg foreign]
        cases ran
        exact ⟨_, rfl, beside.weaken (by rintro ⟨⟩)⟩

theorem close {α : Type} (beside : Beside rekey pasts told True w v) {outcome ended : Except Stop α}
    (ran : Job.close outcome w = (ended, after)) :
    ∃ last, Job.close (outcome.mapError (Stop.rekeyed rekey)) v =
        (ended.mapError (Stop.rekeyed rekey), last) ∧ Beside rekey pasts told True after last := by
  unfold Job.close at ran ⊢
  cases called : w.call .close with
  | mk reply middle =>
    obtain ⟨middle', called', beside⟩ := beside.same_call rfl called
    simp only [called] at ran
    simp only [called']
    cases reply <;> cases ran <;> exact ⟨middle', rfl, beside⟩

theorem leaveCursor (beside : Beside rekey pasts told True w v) (failed : Call) :
    Beside rekey pasts told True (Job.leaveCursor failed w) (Job.leaveCursor failed v) := by
  unfold Job.leaveCursor
  split
  · cases called : w.call .cursorClose with
    | mk reply after =>
      obtain ⟨last, called', beside⟩ := beside.same_call rfl called
      rwa [called']
  · exact beside

theorem transaction (beside : Beside rekey pasts told True w v)
    (same : told → request = job.request) {outcome : Except (Call × Error) (List String)}
    (ran : job.transaction w = (outcome, after)) :
    ∃ last, (job.rekeyed rekey request).transaction v = (outcome, last) ∧
      Beside rekey pasts told True after last := by
  have opening : ∀ c ∈ job.opening, c.rekeyed rekey = c := by simp [Job.opening, Call.rekeyed]
  unfold Job.transaction at ran ⊢
  cases opened : job.script job.opening w with
  | mk failed middle =>
    obtain ⟨middle', opened', beside⟩ := beside.script same opening opened
    have calls : (job.rekeyed rekey request).opening = job.opening := rfl
    simp only [opened] at ran
    simp only [calls, opened']
    cases failed with
    | some failed =>
      cases ran
      exact ⟨middle', rfl, beside⟩
    | none =>
      have dropping (tables : List String) :
          ∀ c ∈ job.dropping tables, c.rekeyed rekey = c := by
        simp [Job.dropping, Call.rekeyed, or_imp, forall_and]
      have calls (tables : List String) :
        (job.rekeyed rekey request).dropping tables = job.dropping tables := rfl
      simp only [beside.server.rows trivial, calls]
      dsimp only at ran
      cases dropped : job.script (job.dropping middle.server.rows) middle with
      | mk failed last =>
        obtain ⟨last', dropped', beside⟩ := beside.script same (dropping _) dropped
        simp only [dropped] at ran
        simp only [dropped']
        cases failed <;> cases ran <;> exact ⟨last', rfl, beside⟩

theorem rollBack (beside : Beside rekey pasts told True w v) (same : told → request = job.request)
    {f : Failure} (keyless : f.rekeyed rekey = f) {stop : Stop}
    (ran : job.rollBack f w = (stop, after)) :
    ∃ last, (job.rekeyed rekey request).rollBack f v = (stop, last) ∧
      stop.rekeyed rekey = stop ∧ Beside rekey pasts told True after last := by
  unfold Job.rollBack at ran ⊢
  cases called : w.call .rollback with
  | mk reply middle =>
    obtain ⟨middle', called', beside⟩ := beside.same_call rfl called
    have undone (known : told) :
        (job.rekeyed rekey request).rolledBack f = job.rolledBack f := by
      cases same known
      rfl
    have stuck (e : Error) (known : told) :
        (job.rekeyed rekey request).rollbackFailed e = job.rollbackFailed e := by
      cases same known
      rfl
    simp only [called] at ran
    simp only [called']
    cases reply with
    | none =>
      cases ran
      exact ⟨_, rfl, congrArg Stop.failure keyless, beside.write undone⟩
    | some e =>
      dsimp only at ran ⊢
      split at ran
      · rename_i database
        rw [if_pos database]
        cases ran
        exact ⟨_, rfl, congrArg Stop.failure keyless, (beside.write (stuck e)).write undone⟩
      · rename_i foreign
        rw [if_neg foreign]
        cases ran
        exact ⟨_, rfl, rfl, beside⟩

/-- No password is in what failed on an open connection, so the stops are the same. -/
theorem recover (beside : Beside rekey pasts told True w v) (same : told → request = job.request)
    {failed : Call × Error} {stop : Stop} (ran : job.recover failed w = (stop, after)) :
    ∃ last, (job.rekeyed rekey request).recover failed v = (stop, last) ∧
      stop.rekeyed rekey = stop ∧ Beside rekey pasts told True after last := by
  have beside := beside.leaveCursor failed.1
  unfold Job.recover at ran ⊢
  dsimp only at ran ⊢
  split at ran
  · rename_i database
    rw [if_pos database]
    have keyless (schema : String) (e : Error) :
        Failure.rekeyed rekey ⟨.ofCall failed.1, schema, e⟩ = ⟨.ofCall failed.1, schema, e⟩ := by
      rw [Failure.rekeyed, Stage.rekeyed_ofCall]
    exact beside.rollBack same (keyless _ _) ran
  · rename_i foreign
    rw [if_neg foreign]
    cases ran
    exact ⟨_, rfl, rfl, beside⟩

/-- How a wipe ends behind its transaction: it closes the connection, and records what it reports.
-/
private theorem report (beside : Beside rekey pasts told True w v)
    (same : told → request = job.request) {transaction : Except Stop (List String)}
    {outcome : Except Stop Report}
    (ran : (match Job.close transaction w with
      | (.error why, w) => ((.error why, w) : Except Stop Report × World)
      | (.ok tables, w) => (.ok ⟨job.schema, tables⟩, w.write (job.committed tables))) =
        (outcome, after)) :
    ∃ last, (match Job.close (transaction.mapError (Stop.rekeyed rekey)) v with
      | (.error why, v) => ((.error why, v) : Except Stop Report × World)
      | (.ok tables, v) => (.ok ⟨(job.rekeyed rekey request).schema, tables⟩,
          v.write ((job.rekeyed rekey request).committed tables))) =
        (outcome.mapError (Stop.rekeyed rekey), last) ∧
      Beside rekey pasts told False after last := by
  cases closed : Job.close transaction w with
  | mk ended last =>
    obtain ⟨last', closed', beside⟩ := beside.close closed
    simp only [closed] at ran
    simp only [closed']
    cases ended with
    | error stop =>
      cases ran
      exact ⟨last', rfl, beside.weaken nofun⟩
    | ok tables =>
      cases ran
      refine ⟨_, rfl, (beside.write fun known => ?_).weaken nofun⟩
      cases same known
      rfl

theorem wipe (beside : Beside rekey pasts told opened w v) (same : told → request = job.request)
    {outcome : Except Stop Report} (ran : job.wipe w = (outcome, after)) :
    ∃ last, (job.rekeyed rekey request).wipe v = (outcome.mapError (Stop.rekeyed rekey), last) ∧
      Beside rekey pasts told False after last := by
  unfold Job.wipe at ran ⊢
  cases connected : job.connect w with
  | mk connection middle =>
    obtain ⟨middle', connected', beside⟩ := beside.connect same connected
    simp only [connected] at ran
    rw [connected']
    cases connection with
    | error stop =>
      cases ran
      exact ⟨middle', rfl, beside.weaken nofun⟩
    | ok _ =>
      have beside : Beside rekey pasts told True middle middle' := beside.weaken fun _ => rfl
      rw [Stop.mapError_ok]
      dsimp only at ran ⊢
      cases transacted : job.transaction middle with
      | mk transaction last =>
        obtain ⟨last', transacted', beside⟩ := beside.transaction same transacted
        simp only [transacted] at ran
        simp only [transacted']
        cases transaction with
        | error failed =>
          dsimp only at ran ⊢
          cases recovered : job.recover failed last with
          | mk stop rest =>
            obtain ⟨rest', recovered', keyless, beside⟩ := beside.recover same recovered
            simp only [recovered] at ran
            simp only [recovered']
            have reported := beside.report same ran
            rwa [Stop.mapError_rekeyed keyless] at reported
        | ok tables => exact beside.report same ran

theorem list (beside : Beside rekey pasts told opened w v) (same : told → request = job.request)
    {outcome : Except Stop (List String)} (ran : job.list w = (outcome, after)) :
    ∃ last, (job.rekeyed rekey request).list v = (outcome.mapError (Stop.rekeyed rekey), last) ∧
      Beside rekey pasts told False after last := by
  unfold Job.list at ran ⊢
  cases connected : job.connect w with
  | mk connection middle =>
    obtain ⟨middle', connected', beside⟩ := beside.connect same connected
    simp only [connected] at ran
    rw [connected']
    cases connection with
    | error stop =>
      cases ran
      exact ⟨middle', rfl, beside.weaken nofun⟩
    | ok _ =>
      have beside : Beside rekey pasts told True middle middle' := beside.weaken fun _ => rfl
      rw [Stop.mapError_ok]
      have listing : ∀ c ∈ job.listing, c.rekeyed rekey = c := by simp [Job.listing, Call.rekeyed]
      have calls : (job.rekeyed rekey request).listing = job.listing := rfl
      dsimp only at ran ⊢
      cases scripted : job.script job.listing middle with
      | mk failed last =>
        obtain ⟨last', scripted', beside⟩ := beside.script same listing scripted
        simp only [scripted] at ran
        simp only [calls, scripted']
        cases failed with
        | some failed =>
          obtain ⟨closed, closes, beside⟩ := (beside.leaveCursor failed.1).close ran
          have keyless : (job.listingStop failed).rekeyed rekey = job.listingStop failed := by
            unfold Job.listingStop
            split <;> rfl
          rw [Stop.mapError_rekeyed keyless] at closes
          exact ⟨closed, closes, beside.weaken nofun⟩
        | none =>
          dsimp only at ran ⊢
          have rows := beside.server.rows trivial
          obtain ⟨closed, closes, beside⟩ := beside.close ran
          rw [rows]
          exact ⟨closed, closes, beside.weaken nofun⟩

end Beside

theorem approve_rekeyed {rekey : Rekey} {connection : Connection} (keeps : connection.Keeps rekey)
    (schema : Option String) :
    approve (connection.rekeyed rekey) schema = approve connection schema := by
  rw [approve, approve, Connection.ensureComplete_rekeyed keeps]

/-- No password is in what a check refuses. -/
theorem rekeyed_of_refuses {rekey : Rekey} {stop : Stop}
    (refuses : stop.Refuses) : stop.rekeyed rekey = stop := by
  cases refuses <;> rfl

namespace Beside

variable {rekey : Rekey} {pasts : List Exchange × List Exchange} {told opened : Prop}
  {w after v : World} {connection : Connection} {schema request : Option String}

/-- Asking for a request id makes no call and writes no record. -/
theorem requestOr_eq (w : World) (request : Option String) :
    (w.requestOr request).2 = { w with issued := (w.requestOr request).2.issued } := by
  unfold World.requestOr
  split
  · split <;> rfl
  · rfl

/-- Where both are told, they are given the same request id. -/
theorem requestOr (beside : Beside rekey pasts told opened w v) {request' : Option String}
    (same : told → request' = request) :
    (told → (v.requestOr request').1 = (w.requestOr request).1) ∧
      Beside rekey pasts told opened (w.requestOr request).2 (v.requestOr request').2 := by
  have alike (known : told) : (v.requestOr request').1 = (w.requestOr request).1 ∧
      (v.requestOr request').2.issued = (w.requestOr request).2.issued := by
    rw [same known]
    have issued := beside.issued known
    cases request with
    | none => exact ⟨congrArg (fun n => World.requestId (n + 1)) issued, congrArg (· + 1) issued⟩
    | some id =>
      unfold World.requestOr
      dsimp only
      split
      · exact ⟨congrArg (fun n => World.requestId (n + 1)) issued, congrArg (· + 1) issued⟩
      · exact ⟨rfl, issued⟩
  refine ⟨fun known => (alike known).1, ?_⟩
  rw [requestOr_eq w, requestOr_eq v]
  exact ⟨beside.server, beside.log, fun known => (alike known).2⟩

/-- What a check refuses is refused alike, and nothing is done. -/
theorem refused {α : Type} (beside : Beside rekey pasts told opened w v) {stop : Stop}
    (unapproved : approve connection schema = .error stop) {outcome : Except Stop α}
    (ran : (.error stop, w) = (outcome, after)) :
    ∃ last, (.error stop, v) = (outcome.mapError (Stop.rekeyed rekey), last) ∧
      Beside rekey pasts told False after last := by
  cases ran
  refine ⟨v, ?_, beside.weaken nofun⟩
  rw [Stop.mapError_rekeyed (rekeyed_of_refuses (refuses_of_unapproved unapproved))]

/-- An operation that wipes ends the same with another password, and does the same calls. -/
theorem wipes (beside : Beside rekey pasts told opened w v) (keeps : connection.Keeps rekey)
    {request' : Option String} (same : told → request' = request) {outcome : Except Stop Report}
    (ran : Wipe.wipe connection schema request w = (outcome, after)) :
    ∃ last, Wipe.wipe (connection.rekeyed rekey) schema request' v =
        (outcome.mapError (Stop.rekeyed rekey), last) ∧
      Beside rekey pasts told False after last := by
  cases approved : approve connection schema with
  | error stop =>
    have approved' := (approve_rekeyed keeps schema).trans approved
    rw [wipe_refused approved] at ran
    rw [wipe_refused approved']
    exact beside.refused approved ran
  | ok name =>
    have approved' := (approve_rekeyed keeps schema).trans approved
    obtain ⟨same, beside⟩ := beside.requestOr same
    simp only [Wipe.wipe, approved] at ran
    simp only [Wipe.wipe, approved']
    exact beside.wipe (fun known => congrArg some (same known)) ran

/-- An operation that lists ends the same with another password, and does the same calls. -/
theorem lists (beside : Beside rekey pasts told opened w v) (keeps : connection.Keeps rekey)
    {request' : Option String} (same : told → request' = request)
    {outcome : Except Stop (List String)}
    (ran : Wipe.list connection schema request w = (outcome, after)) :
    ∃ last, Wipe.list (connection.rekeyed rekey) schema request' v =
        (outcome.mapError (Stop.rekeyed rekey), last) ∧
      Beside rekey pasts told False after last := by
  cases approved : approve connection schema with
  | error stop =>
    have approved' := (approve_rekeyed keeps schema).trans approved
    rw [list_refused approved] at ran
    rw [list_refused approved']
    exact beside.refused approved ran
  | ok name =>
    have approved' := (approve_rekeyed keeps schema).trans approved
    simp only [Wipe.list, approved] at ran
    simp only [Wipe.list, approved']
    exact beside.list same ran

end Beside
end Wipe

namespace Remote
open Wipe

/-- A request of a remote caller is answered the same with another password. -/
theorem serves_beside {rekey : Rekey} {pasts : List Database.Exchange × List Database.Exchange}
    {told opened : Prop} {w after v : World} {settings : Settings} {request : Request}
    {answer : Answer}
    (beside : Beside rekey pasts told opened w v) (keeps : settings.connection.Keeps rekey)
    (ran : serve settings request w = (answer, after)) :
    ∃ last, serve (settings.rekeyed rekey) request v =
        (answer.mapError (Stop.rekeyed rekey), last) ∧
      Beside rekey pasts told False after last := by
  cases request with
  | list schema id =>
    obtain ⟨same, beside⟩ := beside.requestOr (fun _ => rfl : told → id = id)
    have aims : target (settings.rekeyed rekey) schema = target settings schema := rfl
    simp only [serve, list, aims] at ran ⊢
    cases named : Guard.identifier "schema" (some (target settings schema)) with
    | error refusal =>
      simp only [named] at ran
      cases ran
      exact ⟨_, rfl, beside.weaken nofun⟩
    | ok name =>
      simp only [named] at ran
      cases listed : Wipe.list settings.connection (some name) (some (w.requestOr id).1)
          (w.requestOr id).2 with
      | mk outcome last =>
        obtain ⟨last', listed', beside⟩ :=
          beside.lists keeps (fun known => congrArg some (same known)) listed
        simp only [listed] at ran
        simp only [Settings.rekeyed, listed']
        cases ran
        refine ⟨last', ?_, beside⟩
        cases outcome <;> rfl
  | wipe schema answer id =>
    have approves : approve (settings.rekeyed rekey) schema answer =
        approve settings schema answer := rfl
    simp only [serve, wipe, approves] at ran ⊢
    cases approved : approve settings schema answer with
    | error refusal =>
      simp only [approved] at ran
      cases ran
      exact ⟨_, rfl, beside.weaken nofun⟩
    | ok name =>
      obtain ⟨same, beside⟩ := beside.requestOr (fun _ => rfl : told → id = id)
      simp only [approved] at ran
      cases wiped : Wipe.wipe settings.connection (some name) (some (w.requestOr id).1)
          (w.requestOr id).2 with
      | mk outcome last =>
        obtain ⟨last', wiped', beside⟩ :=
          beside.wipes keeps (fun known => congrArg some (same known)) wiped
        simp only [wiped] at ran
        simp only [Settings.rekeyed, wiped']
        cases ran
        refine ⟨last', ?_, beside⟩
        cases outcome <;> rfl

end Remote
end SchemaWipe
