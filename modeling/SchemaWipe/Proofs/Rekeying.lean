import SchemaWipe.Proofs.Run
import SchemaWipe.Remote

/-! The same things with other passwords. Giving a connection another password changes nothing that
a caller gets to see: not the text of the connection, not what is logged about it, and of an error
neither kind nor message, schema or table. Only the calls that connect tell the difference. -/
namespace SchemaWipe

/-- How passwords are replaced. -/
abbrev Rekey := String → String

namespace Connection

/-- The connection with its password replaced. -/
def rekeyed (rekey : Rekey) (c : Connection) : Connection :=
  c.withPassword (rekey c.password)

/-- The replacement leaves a connection with a password if it had one. -/
def Keeps (rekey : Rekey) (c : Connection) : Prop :=
  (rekey c.password).isEmpty = c.password.isEmpty

variable {rekey : Rekey} {c : Connection}

@[simp] theorem rekeyed_database : (c.rekeyed rekey).database = c.database := rfl

/-- The password is not among what is logged of a connection. -/
theorem connectionFields_rekeyed (more : Named Value) :
    Log.connectionFields (c.rekeyed rekey) more = Log.connectionFields c more := rfl

theorem ensureComplete_rekeyed (keeps : c.Keeps rekey) :
    (c.rekeyed rekey).ensureComplete = c.ensureComplete := by
  have empty : (rekey c.password).isEmpty = c.password.isEmpty := keeps
  -- Only the names of the empty fields count, and those are the same.
  have missing : (c.rekeyed rekey).missing = c.missing := by
    simp only [missing, required, rekeyed, withPassword, List.filter_cons, empty]
    cases c.host.isEmpty <;> cases c.user.isEmpty <;> cases c.password.isEmpty <;>
      cases c.database.isEmpty <;> rfl
  rw [ensureComplete, ensureComplete, missing]

end Connection

/-- The settings with the password replaced. -/
def Settings.rekeyed (rekey : Rekey) (settings : Settings) : Settings :=
  { settings with connection := settings.connection.rekeyed rekey }

namespace Database

/-- The call with the password in it replaced. -/
def Call.rekeyed (rekey : Rekey) : Call → Call
  | .connect target => .connect (target.rekeyed rekey)
  | c => c

/-- The exchange with the password in its call replaced. -/
def Exchange.rekeyed (rekey : Rekey) (x : Exchange) : Exchange :=
  { x with call := x.call.rekeyed rekey }

variable {rekey : Rekey}

theorem Call.rekeyed_id (c : Call) : c.rekeyed id = c := by
  cases c <;> rfl

theorem Exchange.rekeyed_id : Exchange.rekeyed id = id := by
  funext x
  simp [Exchange.rekeyed, Call.rekeyed_id]

/-- Which fault strikes a call does not depend on the password in it. -/
theorem strike_rekeyed (c : Call) (faults : List Fault) :
    strike (c.rekeyed rekey) faults = strike c faults := by
  have awaits (f : Fault) : f.awaits (c.rekeyed rekey) = f.awaits c := by
    cases c <;> rfl
  induction faults with
  | nil => rfl
  | cons f rest ih => simp only [strike, awaits, ih]

/-- The effect of a call does not depend on the password in it. -/
theorem Server.apply_rekeyed (s : Server) (c : Call) : s.apply (c.rekeyed rekey) = s.apply c := by
  cases c <;> rfl

end Database

namespace Wipe

/-- The stage with the password in it replaced. -/
def Stage.rekeyed (rekey : Rekey) : Stage → Stage
  | .connecting target => .connecting (target.rekeyed rekey)
  | stage => stage

/-- The failure with the password in its stage replaced. -/
def Failure.rekeyed (rekey : Rekey) (f : Failure) : Failure :=
  { f with stage := f.stage.rekeyed rekey }

variable {rekey : Rekey}

theorem Stage.rekeyed_id (stage : Stage) : stage.rekeyed id = stage := by
  cases stage <;> rfl

/-- A call of an open connection fails at a stage that holds no password. -/
theorem Stage.rekeyed_ofCall (c : Database.Call) : (Stage.ofCall c).rekeyed rekey = .ofCall c := by
  cases c <;> rfl

namespace Failure

theorem rekeyed_id (f : Failure) : f.rekeyed id = f := by
  simp [rekeyed, Stage.rekeyed_id]

theorem category_rekeyed (f : Failure) : (f.rekeyed rekey).category = f.category := by
  obtain ⟨stage, schema, cause⟩ := f
  cases stage <;> rfl

theorem table?_rekeyed (f : Failure) : (f.rekeyed rekey).table? = f.table? := by
  obtain ⟨stage, schema, cause⟩ := f
  cases stage <;> rfl

theorem message_rekeyed (f : Failure) : (f.rekeyed rekey).message = f.message := by
  obtain ⟨stage, schema, cause⟩ := f
  cases stage <;> rfl

end Failure
end Wipe

namespace Stop

/-- The stop with the password in it replaced. -/
def rekeyed (rekey : Rekey) : Stop → Stop
  | .failure cause => .failure (cause.rekeyed rekey)
  | stop => stop

/-- What kind of error a caller meets. -/
inductive Kind where
  | settings
  | guardrail
  | failure (category : Wipe.Category)
  | raised (kind : Database.ErrorKind)
  | breakdown (cause : Breakdown)

/-- What a caller sees of an error. -/
structure Appearance where
  kind : Kind
  message : String
  schema : Option String := none
  table : Option String := none
  /-- The error of the database that is explained. -/
  cause : Option Database.Error := none

/-- How an early end looks to the caller. -/
def appearance (stop : Stop) : Appearance :=
  match stop with
  | .fault _ => ⟨.settings, stop.message, none, none, none⟩
  | .refusal _ => ⟨.guardrail, stop.message, none, none, none⟩
  | .failure f => ⟨.failure f.category, stop.message, some f.schema, f.table?, some f.cause⟩
  | .raised e => ⟨.raised e.kind, stop.message, none, none, none⟩
  | .breakdown cause => ⟨.breakdown cause, stop.message, none, none, none⟩

variable {rekey : Rekey}

theorem rekeyed_id (stop : Stop) : stop.rekeyed id = stop := by
  cases stop <;> simp [rekeyed, Wipe.Failure.rekeyed_id]

theorem mapError_ok {α : Type} (a : α) :
    (Except.ok a : Except Stop α).mapError (rekeyed rekey) = .ok a :=
  rfl

/-- An error that holds no password stays the same. -/
theorem mapError_rekeyed {α : Type} {stop : Stop} (keyless : stop.rekeyed rekey = stop) :
    (Except.error stop : Except Stop α).mapError (rekeyed rekey) = .error stop :=
  congrArg Except.error keyless

/-- Another password looks the same in every error. -/
theorem appearance_rekeyed (stop : Stop) : (stop.rekeyed rekey).appearance = stop.appearance := by
  cases stop with
  | failure f =>
    simp only [rekeyed, appearance, message, f.category_rekeyed, f.message_rekeyed,
      f.table?_rekeyed]
    rfl
  | fault cause => rfl
  | refusal cause => rfl
  | raised error => rfl
  | breakdown cause => rfl

end Stop
end SchemaWipe
