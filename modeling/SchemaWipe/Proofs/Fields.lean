import SchemaWipe.Proofs.References

/-! The fields of settings. Sections hold a value for each of them, or else it has its usual one.
Settings are made of these values and of nothing else: each is converted, one after the other, and
the first check that fails decides the error. -/
namespace SchemaWipe

/-- The error that a computation ends with. -/
def failure? {ε α : Type} : Except ε α → Option ε
  | .error e => some e
  | .ok _ => none

theorem eq_error_iff {ε α : Type} {x : Except ε α} {e : ε} :
    x = .error e ↔ failure? x = some e := by
  cases x <;> simp [failure?]

namespace Settings

/-- What settings consist of. -/
inductive Field where
  | host
  | port
  | user
  | password
  | database
  | connectTimeout
  | schema
  | requireConfirmation
  | allowRemoteReset
  | logLevel
  deriving DecidableEq

namespace Field

/-- The name of a field in its section and among the options. -/
def name : Field → String
  | host => "host"
  | port => "port"
  | user => "user"
  | password => "password"
  | database => "database"
  | connectTimeout => "connect_timeout"
  | schema => "schema"
  | requireConfirmation => "require_confirmation"
  | allowRemoteReset => "allow_remote_reset"
  | logLevel => "log_level"

/-- The section that holds a field. -/
def entries (s : Sections) : Field → List (Value × Value)
  | schema | requireConfirmation => s.reset
  | allowRemoteReset => s.server
  | logLevel => s.observability
  | _ => s.connection

/-- The value of a field that no source gives. -/
def usual : Field → Value
  | host => .text "127.0.0.1"
  | port => .int 5432
  | user => .text "postgres"
  | password => .text ""
  | database => .text "test_db"
  | connectTimeout => .int 10
  | schema => .text "public"
  | requireConfirmation => .bool true
  | allowRemoteReset => .bool false
  | logLevel => .text "info"

/-- The value that sections give a field, null included. -/
def ofSections? (s : Sections) (x : Field) : Option Value :=
  Value.find? x.name (x.entries s)

end Field

/-- To tell what is wrong ends in no value. -/
theorem told_ne_ok {α : Type} {text : Except Breakdown String} {fault : String → Fault} {a : α} :
    (shownOr text >>= fun shown => (throw (.fault (fault shown)) : Except Error α)) ≠ .ok a := by
  intro made
  obtain ⟨_, -, told⟩ := ok_of_bind made
  cases told

/-- A port is made exactly of the whole numbers in its range. -/
theorem port_eq_ok_iff {value : Value} {n : Int} :
    port value = .ok n ↔ wholeNumber value = .ok n ∧ 0 < n ∧ n < 65536 := by
  unfold port
  rcases wholeNumber value with (_ | _) | m
  · exact iff_of_false told_ne_ok nofun
  · exact iff_of_false nofun nofun
  · dsimp only
    split
    · rename_i allowed
      simp only [Except.ok.injEq, iff_self_and]
      rintro rfl
      exact allowed
    · rename_i outside
      refine iff_of_false told_ne_ok ?_
      rintro ⟨⟨⟩, allowed⟩
      exact outside allowed

/-- A time limit is made exactly of the whole numbers that are positive. -/
theorem timeout_eq_ok_iff {value : Value} {n : Int} :
    timeout value = .ok n ↔ wholeNumber value = .ok n ∧ 0 < n := by
  unfold timeout
  rcases wholeNumber value with (_ | _) | m
  · exact iff_of_false told_ne_ok nofun
  · exact iff_of_false nofun nofun
  · dsimp only
    split
    · rename_i positive
      simp only [Except.ok.injEq, iff_self_and]
      rintro rfl
      exact positive
    · rename_i other
      refine iff_of_false nofun ?_
      rintro ⟨⟨⟩, positive⟩
      exact other positive

/-- The text that a value is converted to; null is the empty one. -/
def asText : Value → Except Error String
  | .null => .ok ""
  | value => shownOr value.shown

theorem text_eq (entries : List (Value × Value)) (name usual : String) :
    text entries name usual = asText (Sections.getD entries name (.text usual)) := by
  unfold text Sections.getD
  cases Value.find? name entries with
  | none => rfl
  | some value => cases value <;> rfl

end Settings

/-- A connection is made of values: each of its fields is what its value is converted to, and the
host, the user and the database are not empty. -/
structure Connection.MadeOf (value : Settings.Field → Value) (c : Connection) : Prop where
  host : Settings.asText (value .host) = .ok c.host
  port : Settings.port (value .port) = .ok c.port
  user : Settings.asText (value .user) = .ok c.user
  password : Settings.asText (value .password) = .ok c.password
  database : Settings.asText (value .database) = .ok c.database
  connectTimeout : Settings.timeout (value .connectTimeout) = .ok c.connectTimeout
  filled : c.host ≠ "" ∧ c.user ≠ "" ∧ c.database ≠ ""

/-- Settings are made of values. An empty log level is the usual one. -/
structure Settings.MadeOf (value : Field → Value) (settings : Settings) : Prop where
  connection : settings.connection.MadeOf value
  schema : asText (value .schema) = .ok settings.reset.schema
  requireConfirmation : switch "require_confirmation" (value .requireConfirmation) =
    .ok settings.reset.requireConfirmation
  allowRemoteReset : switch "allow_remote_reset" (value .allowRemoteReset) =
    .ok settings.server.allowRemoteReset
  logLevel : ∃ level, asText (value .logLevel) = .ok level ∧
    settings.observability.logLevel = if level = "" then "info" else level

namespace Settings

/-- What is done with the values of fields on the way to settings. -/
inductive Check where
  | convert (x : Field)
  /-- The host, the user and the database must not be empty. -/
  | require

/-- Why a value cannot be converted for a field. -/
def Field.failure? (value : Value) : Field → Option Error
  | port => SchemaWipe.failure? (Settings.port value)
  | connectTimeout => SchemaWipe.failure? (timeout value)
  | requireConfirmation => SchemaWipe.failure? (switch "require_confirmation" value)
  | allowRemoteReset => SchemaWipe.failure? (switch "allow_remote_reset" value)
  | _ => SchemaWipe.failure? (asText value)

namespace Check

/-- The checks in the order in which they are made. -/
def all : List Check :=
  [.convert .host, .convert .port, .convert .user, .convert .password, .convert .database,
    .convert .connectTimeout, .require, .convert .schema, .convert .requireConfirmation,
    .convert .allowRemoteReset, .convert .logLevel]

/-- Why a check fails. What cannot be converted is not found empty. -/
def failure? (value : Field → Value) : Check → Option Error
  | convert x => x.failure? (value x)
  | require =>
    match asText (value .host), asText (value .user), asText (value .database) with
    | .ok host, .ok user, .ok database =>
      if host.isEmpty || user.isEmpty || database.isEmpty then some (.fault .connectionBlank)
      else none
    | _, _, _ => none

end Check

namespace Sections

variable {s s' : Sections}

/-- The value of a field in sections. -/
def value (s : Sections) (x : Field) : Value :=
  (x.ofSections? s).getD x.usual

theorem toConnection_eq_ok_iff {c : Connection} :
    s.toConnection = .ok c ↔ c.MadeOf s.value := by
  unfold toConnection
  simp only [text_eq]
  constructor
  · intro made
    obtain ⟨host, host_made, made⟩ := ok_of_bind made
    obtain ⟨port, port_made, made⟩ := ok_of_bind made
    obtain ⟨user, user_made, made⟩ := ok_of_bind made
    obtain ⟨password, password_made, made⟩ := ok_of_bind made
    obtain ⟨database, database_made, made⟩ := ok_of_bind made
    obtain ⟨timeout, timeout_made, made⟩ := ok_of_bind made
    split at made
    · cases made
    · rename_i filled
      cases made
      refine ⟨host_made, port_made, user_made, password_made, database_made, timeout_made, ?_⟩
      simpa [not_or, and_assoc] using filled
  · rintro ⟨host, port, user, password, database, timeout, host_filled, user_filled, filled⟩
    simp only [value, Field.ofSections?, Field.name, Field.entries, Field.usual]
      at host port user password database timeout
    simp [getD, host, port, user, password, database, timeout, bind, Except.bind, pure, Except.pure,
      host_filled, user_filled, filled]

/-- Sections make exactly the settings that their values make. -/
theorem toSettings_eq_ok_iff {settings : Settings} :
    s.toSettings = .ok settings ↔ settings.MadeOf s.value := by
  unfold toSettings
  simp only [text_eq]
  constructor
  · intro made
    obtain ⟨c, c_made, made⟩ := ok_of_bind made
    obtain ⟨schema, schema_made, made⟩ := ok_of_bind made
    obtain ⟨confirmation, confirmation_made, made⟩ := ok_of_bind made
    obtain ⟨remote, remote_made, made⟩ := ok_of_bind made
    obtain ⟨level, level_made, made⟩ := ok_of_bind made
    cases made
    exact ⟨toConnection_eq_ok_iff.mp c_made, schema_made, confirmation_made, remote_made,
      level, level_made, by simp⟩
  · rintro ⟨connection, schema, confirmation, remote, level, level_made, usual⟩
    have connected := toConnection_eq_ok_iff.mpr connection
    obtain ⟨c, reset, server, ⟨logLevel⟩⟩ := settings
    simp only [value, Field.ofSections?, Field.name, Field.entries, Field.usual]
      at schema confirmation remote level_made
    simp only at usual connected
    simp [getD, connected, schema, confirmation, remote, level_made, usual, bind, Except.bind, pure,
      Except.pure]

/-- Where sections make no settings, the first check that fails says why. -/
theorem failure?_toSettings (s : Sections) :
    failure? s.toSettings = Check.all.findSome? (Check.failure? s.value) := by
  unfold toSettings toConnection
  simp only [text_eq, getD, Check.all, List.findSome?, Check.failure?, Field.failure?, value,
    Field.ofSections?, Field.name, Field.entries, Field.usual]
  -- The two sides look at the same conversions one by one, and stop at the first that fails.
  rcases asText ((Value.find? "host" s.connection).getD (.text "127.0.0.1")) with e | host
  · rfl
  rcases port ((Value.find? "port" s.connection).getD (.int 5432)) with e | port
  · rfl
  rcases asText ((Value.find? "user" s.connection).getD (.text "postgres")) with e | user
  · rfl
  rcases asText ((Value.find? "password" s.connection).getD (.text "")) with e | password
  · rfl
  rcases asText ((Value.find? "database" s.connection).getD (.text "test_db")) with e | database
  · rfl
  rcases timeout ((Value.find? "connect_timeout" s.connection).getD (.int 10)) with e | limit
  · rfl
  dsimp only [bind, Except.bind]
  cases host.isEmpty || user.isEmpty || database.isEmpty with
  | true => rfl
  | false =>
    rcases asText ((Value.find? "schema" s.reset).getD (.text "public")) with e | schema
    · rfl
    rcases switch "require_confirmation"
      ((Value.find? "require_confirmation" s.reset).getD (.bool true)) with e | confirmation
    · rfl
    rcases switch "allow_remote_reset"
      ((Value.find? "allow_remote_reset" s.server).getD (.bool false)) with e | remote
    · rfl
    cases asText ((Value.find? "log_level" s.observability).getD (.text "info")) <;> rfl

/-- Sections with the same values make the same settings, or fail alike. -/
theorem toSettings_congr (same : s'.value = s.value) : s'.toSettings = s.toSettings := by
  cases made : s.toSettings with
  | ok settings => rwa [toSettings_eq_ok_iff, same, ← toSettings_eq_ok_iff]
  | error e =>
    rwa [eq_error_iff, failure?_toSettings, same, ← failure?_toSettings, ← eq_error_iff]

end Sections

end Settings
end SchemaWipe
