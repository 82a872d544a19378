import SchemaWipe.Proofs.Checked
import SchemaWipe.Proofs.Precedence

/-! Settings that are read are valid, and a password is all that their connection may lack. With
one, what is checked when settings are read and what is checked before an operation agree: the
operation finds nothing missing, and for a plain schema it goes on to connect. -/
namespace SchemaWipe

/-- Settings that can be used, but for the password, which may come later. -/
structure Settings.Valid (settings : Settings) : Prop where
  host : settings.connection.host ≠ ""
  user : settings.connection.user ≠ ""
  database : settings.connection.database ≠ ""
  port : 1 ≤ settings.connection.port ∧ settings.connection.port ≤ 65535
  connectTimeout : 1 ≤ settings.connection.connectTimeout
  logLevel : settings.observability.logLevel ≠ ""

namespace Settings

theorem port_bounds {value : Value} {n : Int} (made : port value = .ok n) : 1 ≤ n ∧ n ≤ 65535 := by
  obtain ⟨-, low, high⟩ := port_eq_ok_iff.mp made
  omega

theorem timeout_pos {value : Value} {n : Int} (made : timeout value = .ok n) : 1 ≤ n := by
  obtain ⟨-, positive⟩ := timeout_eq_ok_iff.mp made
  omega

/-- Settings that are made of values are valid, whatever the values are. -/
theorem MadeOf.valid {value : Field → Value} {settings : Settings} (made : settings.MadeOf value) :
    settings.Valid := by
  obtain ⟨host, user, database⟩ := made.connection.filled
  obtain ⟨level, -, usual⟩ := made.logLevel
  refine ⟨host, user, database, port_bounds made.connection.port,
    timeout_pos made.connection.connectTimeout, ?_⟩
  rw [usual]
  split
  · decide
  · assumption

/-- With a password, the connection of valid settings is complete. -/
theorem Valid.complete {settings : Settings} (valid : settings.Valid) {password : String}
    (filled : password ≠ "") : (settings.connection.withPassword password).Complete :=
  ⟨valid.host, valid.user, filled, valid.database⟩

end Settings

namespace Wipe
open Database

/-- Every course begins by connecting to its target. -/
theorem Course.connects_first (course : Course) (target : Connection) (calls : List Call) :
    ∃ reply rest, course.exchanges target calls = ⟨.connect target, reply⟩ :: rest := by
  cases course <;> exact ⟨_, _, rfl⟩

theorem ListingCourse.connects_first (course : ListingCourse) (target : Connection)
    (calls : List Call) :
    ∃ reply rest, course.exchanges target calls = ⟨.connect target, reply⟩ :: rest := by
  cases course <;> exact ⟨_, _, rfl⟩

/-- An outcome does not say that something is wrong with the settings. -/
def Faultless {α : Type} (outcome : Except Stop α) : Prop :=
  ∀ fault, outcome ≠ .error (.fault fault)

variable {name : String} {target connection : Connection} {tables : List String}

/-- No error of a call is one of the settings. -/
theorem explain_ne_fault (stage : Stage) (schema : String) (e : Error) (fault : Settings.Fault) :
    explain stage schema e ≠ .fault fault := by
  unfold explain
  split <;> nofun

theorem undone_ne_fault (f : Failure) (reply : Option Error) (fault : Settings.Fault) :
    undone f reply ≠ .fault fault := by
  unfold undone
  split
  · split <;> nofun
  · nofun

/-- What a course ends with is no fault of the settings. -/
theorem Course.faultless (course : Course) : Faultless (course.ending target name tables) := by
  intro fault
  unfold Course.ending
  split
  · simp [explain_ne_fault]
  · split <;> simp [undone_ne_fault]
  all_goals nofun

theorem ListingCourse.faultless (course : ListingCourse) :
    Faultless (course.ending target name tables) := by
  intro fault
  unfold ListingCourse.ending
  split
  · simp [explain_ne_fault]
  · split <;> simp [explain_ne_fault]
  all_goals nofun

/-- Of a complete connection nothing is said to be missing, whatever the schema is. -/
theorem refusal_ne_fault {schema : Option String} {stop : Stop} (complete : connection.Complete)
    (refused : approve connection schema = .error stop) (fault : Settings.Fault) :
    stop ≠ .fault fault := by
  rw [approve, Connection.ensureComplete_eq_ok_iff.mpr complete] at refused
  cases named : Guard.identifier "schema" schema with
  | error refusal =>
    rw [named] at refused
    cases refused
    rintro ⟨⟩
  | ok name =>
    rw [named] at refused
    cases refused

/-- What operations do on a connection that lacks nothing: they never say that the settings are at
fault, and for a plain schema the first thing that they do is to connect with it. -/
structure Serves (connection : Connection) : Prop where
  complete : connection.ensureComplete = .ok ()
  wipe_faultless : ∀ schema request w, Faultless (wipe connection schema request w).1
  list_faultless : ∀ schema request w, Faultless (list connection schema request w).1
  wipe_connects : ∀ name, Guard.Plain name → ∀ request w, ∃ reply rest,
    (wipe connection (some name) request w).2.server.record =
      w.server.record ++ ⟨.connect connection, reply⟩ :: rest
  list_connects : ∀ name, Guard.Plain name → ∀ request w, ∃ reply rest,
    (list connection (some name) request w).2.server.record =
      w.server.record ++ ⟨.connect connection, reply⟩ :: rest

theorem serves_of_complete (complete : connection.Complete) : Serves connection where
  complete := Connection.ensureComplete_eq_ok_iff.mpr complete
  wipe_faultless schema request w := by
    cases approved : approve connection schema with
    | error stop =>
      rw [wipe_refused approved]
      exact fun fault said => refusal_ne_fault complete approved fault (Except.error.inj said)
    | ok name =>
      obtain ⟨course, -, -, ends⟩ := approved_wipe_takes_course approved request w
      exact ends ▸ course.faultless
  list_faultless schema request w := by
    cases approved : approve connection schema with
    | error stop =>
      rw [list_refused approved]
      exact fun fault said => refusal_ne_fault complete approved fault (Except.error.inj said)
    | ok name =>
      obtain ⟨course, -, -, ends⟩ := approved_listing_takes_course approved request w
      exact ends ▸ course.faultless
  wipe_connects name plain request w := by
    have approved := approve_eq_ok_iff.mpr ⟨⟨rfl, plain⟩, complete⟩
    obtain ⟨course, -, ran, -⟩ := approved_wipe_takes_course approved request w
    obtain ⟨reply, rest, starts⟩ := course.connects_first connection
      (plan name (w.server.catalog.tables name))
    exact ⟨reply, rest, starts ▸ ran.record⟩
  list_connects name plain request w := by
    have approved := approve_eq_ok_iff.mpr ⟨⟨rfl, plain⟩, complete⟩
    obtain ⟨course, -, ran, -⟩ := approved_listing_takes_course approved request w
    obtain ⟨reply, rest, starts⟩ := course.connects_first connection (listingPlan name)
    exact ⟨reply, rest, starts ▸ ran.record⟩

end Wipe

namespace Settings

variable {files : Files} {path : Option String} {env : Variables} {options : Named Value}
  {settings : Settings}

/-- Settings that are read are valid; and with any password that is not empty, operations on their
connection find nothing missing and connect to it. -/
theorem loaded_settings_are_valid (loaded : load files path env options = .ok settings) :
    settings.Valid ∧ ∀ password, password ≠ "" →
      Wipe.Serves (settings.connection.withPassword password) := by
  obtain ⟨s, -, made⟩ := load_eq_ok_iff.mp loaded
  refine ⟨made.valid, fun password filled => ?_⟩
  exact Wipe.serves_of_complete (made.valid.complete filled)

/-- The greatest port and the least time limit are accepted, an empty log level is the usual one,
and a password is all that is needed to go on. -/
theorem outermost_settings_are_valid :
    ∃ settings, load {} none [("PGPORT", "65535")]
        [("connect_timeout", .bool true), ("log_level", .text "")] = .ok settings ∧
      settings.connection.port = 65535 ∧ settings.connection.connectTimeout = 1 ∧
      settings.Valid ∧ Wipe.Serves (settings.connection.withPassword "secret") := by
  have loaded : load {} none [("PGPORT", "65535")]
      [("connect_timeout", .bool true), ("log_level", .text "")] =
      .ok { connection := { port := 65535, connectTimeout := 1 } } :=
    ok_of_toOption (by decide +kernel)
  obtain ⟨valid, serves⟩ := loaded_settings_are_valid loaded
  exact ⟨_, loaded, rfl, rfl, valid, serves "secret" (by decide)⟩

end Settings
end SchemaWipe
