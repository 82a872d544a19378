import SchemaWipe.Proofs.References
import SchemaWipe.Proofs.Rekeying
import SchemaWipe.Command.Run

/-! Settings under two environments that differ in the password. The password is a variable among
others up to where it is put into the connection; as long as no document refers to it, what is read
under the one environment is what is read under the other, or is refused for the same reason, and
only the password of the connection can be another. -/
namespace SchemaWipe

/-- Two ways of looking something up differ at most under one key, where both find something of a
kind. -/
structure Differ {α : Type} (key : String) (kind : α → Prop) (look look' : String → Option α) :
    Prop where
  others : ∀ name, name ≠ key → look' name = look name
  here : look' key = look key ∨ ∃ a b, kind a ∧ kind b ∧ look key = some a ∧ look' key = some b

/-- A look-up finds something under a name, and everywhere else what another one finds. -/
structure Puts {α : Type} (name : String) (x : α) (look next : String → Option α) : Prop where
  found : next name = some x
  others : ∀ other, other ≠ name → next other = look other

theorem Named.puts {α : Type} (name : String) (x : α) (entries : Named α) :
    Puts name x (entries.get? ·) ((entries.put name x).get? ·) :=
  ⟨get?_put_self name x entries, fun _ apart => get?_put_of_ne apart x entries⟩

theorem Value.puts (name : String) (value : Value) (entries : List (Value × Value)) :
    Puts name value (find? · entries) (find? · (put name value entries)) :=
  ⟨find?_put_self name value entries, fun _ apart => find?_put_of_ne apart value entries⟩

namespace Differ

variable {α : Type} {key : String} {kind : α → Prop} {look look' next next' : String → Option α}

theorem refl (key : String) (kind : α → Prop) (look : String → Option α) :
    Differ key kind look look :=
  ⟨fun _ _ => rfl, .inl rfl⟩

/-- The same thing put under a name on both sides makes no difference. -/
theorem same (differ : Differ key kind look look') {name : String} {x : α}
    (puts : Puts name x look next) (puts' : Puts name x look' next') :
    Differ key kind next next' := by
  have found (other : String) (same : look' other = look other) : next' other = next other := by
    by_cases met : other = name
    · rw [met, puts.found, puts'.found]
    · rw [puts.others other met, puts'.others other met, same]
  refine ⟨fun other apart => found other (differ.others other apart), ?_⟩
  rcases differ.here with equal | ⟨a, b, filled, filled', here, here'⟩
  · exact .inl (found key equal)
  · by_cases met : key = name
    · exact .inl (by rw [met, puts.found, puts'.found])
    · refine .inr ⟨a, b, filled, filled', ?_, ?_⟩
      · rw [puts.others key met, here]
      · rw [puts'.others key met, here']

/-- Things of the kind put under the key leave no other difference. -/
theorem apart (differ : Differ key kind look look') {a b : α} (fits : kind a) (fits' : kind b)
    (puts : Puts key a look next) (puts' : Puts key b look' next') :
    Differ key kind next next' where
  others other met := by
    rw [puts.others other met, puts'.others other met, differ.others other met]
  here := .inr ⟨a, b, fits, fits', puts.found, puts'.found⟩

end Differ

namespace Settings

variable {name : String} {env env' : Variables} {a b : String}

/-- Two environments differ at most in a variable, which neither leaves empty. -/
def Variables.Differ (name : String) (env env' : Variables) : Prop :=
  SchemaWipe.Differ name (· ≠ "") (env.get? ·) (env'.get? ·)

namespace Variables.Differ

theorem put (differ : Variables.Differ name env env') (key value : String) :
    Variables.Differ name (Named.put key value env) (Named.put key value env') :=
  SchemaWipe.Differ.same differ (Named.puts key value env) (Named.puts key value env')

theorem apart (differ : Variables.Differ name env env') (filled : a ≠ "") (filled' : b ≠ "") :
    Variables.Differ name (Named.put name a env) (Named.put name b env') :=
  SchemaWipe.Differ.apart differ filled filled' (Named.puts name a env) (Named.puts name b env')

/-- More variables on top make no further difference. -/
theorem override (differ : Variables.Differ name env env') (more : Variables) :
    Variables.Differ name (env.override more) (env'.override more) := by
  induction more generalizing env env' with
  | nil => exact differ
  | cons entry rest ih => exact ih (differ.put entry.1 entry.2)

/-- Environments that differ in a variable differ in nothing else on top of others. -/
theorem on_top (differ : Variables.Differ name env env') (filled : a ≠ "") (filled' : b ≠ "")
    (more : Variables) :
    Variables.Differ name (env.override (more.put name a)) (env'.override (more.put name b)) := by
  induction more generalizing env env' with
  | nil => exact differ.apart filled filled'
  | cons entry rest ih =>
    obtain ⟨key, value⟩ := entry
    by_cases same : key = name
    · subst same
      rw [Named.put, Named.put, if_pos rfl, if_pos rfl]
      exact (differ.apart filled filled').override rest
    · simp only [Named.put, if_neg same]
      exact ih (differ.put key value)

/-- Whether a variable is filled is the same, and so is the value of every other one. -/
theorem filled?_eq (differ : Variables.Differ name env env') {key : String} (apart : key ≠ name) :
    env'.filled? key = env.filled? key := by
  unfold filled?
  rw [differ.others key apart]

end Variables.Differ

/-- A text that is not empty. -/
def FilledText (value : Value) : Prop :=
  ∃ s, value = .text s ∧ s ≠ ""

namespace Sections

/-- The sections of settings differ at most in the password of the connection, which neither leaves
empty. -/
structure Differ (s s' : Sections) : Prop where
  connection : SchemaWipe.Differ "password" FilledText (Value.find? · s.connection)
    (Value.find? · s'.connection)
  reset : s'.reset = s.reset
  server : s'.server = s.server
  observability : s'.observability = s.observability

variable {s s' : Sections}

theorem Differ.put (differ : Differ s s') (field : String) (value : Value) :
    Differ { s with connection := Value.put field value s.connection }
      { s' with connection := Value.put field value s'.connection } where
  connection := differ.connection.same (Value.puts field value s.connection)
    (Value.puts field value s'.connection)
  reset := differ.reset
  server := differ.server
  observability := differ.observability

/-- A variable is put into the same field on both sides; the password is the one that may differ. -/
theorem Differ.applyVariable (differ : Differ s s')
    (environs : Variables.Differ Command.passwordVariable env env') {entry : String × String}
    (guarded : entry.1 = Command.passwordVariable → entry.2 = "password") :
    Differ (s.applyVariable env entry) (s'.applyVariable env' entry) := by
  obtain ⟨key, field⟩ := entry
  have alike (equal : env'.filled? key = env.filled? key) :
      Differ (s.applyVariable env (key, field)) (s'.applyVariable env' (key, field)) := by
    simp only [Sections.applyVariable, equal]
    cases env.filled? key with
    | none => exact differ
    | some value => exact differ.put field (.text value)
  by_cases secret : key = Command.passwordVariable
  · obtain rfl : field = "password" := guarded secret
    subst secret
    rcases environs.here with equal | ⟨a, b, filled, filled', here, here'⟩
    · apply alike
      unfold Variables.filled?
      rw [equal]
    · have found : env.filled? Command.passwordVariable = some a := by
        simp [Variables.filled?, here, filled]
      have found' : env'.filled? Command.passwordVariable = some b := by
        simp [Variables.filled?, here', filled']
      simp only [Sections.applyVariable, found, found']
      exact {
        connection := differ.connection.apart ⟨a, rfl, filled⟩ ⟨b, rfl, filled'⟩
          (Value.puts "password" (.text a) s.connection)
          (Value.puts "password" (.text b) s'.connection)
        reset := differ.reset
        server := differ.server
        observability := differ.observability }
  · exact alike (environs.filled?_eq secret)

theorem Differ.applyVariables (differ : Differ s s')
    (environs : Variables.Differ Command.passwordVariable env env') :
    Differ (s.applyVariables env) (s'.applyVariables env') := by
  have guarded : ∀ entry ∈ connectionVariables,
      entry.1 = Command.passwordVariable → entry.2 = "password" := by decide
  have folded (entries : List (String × String))
      (guarded : ∀ entry ∈ entries, entry.1 = Command.passwordVariable → entry.2 = "password")
      {s s' : Sections} (differ : Differ s s') :
      Differ (entries.foldl (Sections.applyVariable env) s)
        (entries.foldl (Sections.applyVariable env') s') := by
    induction entries generalizing s s' with
    | nil => exact differ
    | cons entry rest ih =>
      obtain ⟨first, others⟩ := List.forall_mem_cons.mp guarded
      exact ih others (differ.applyVariable environs first)
  have differ := folded connectionVariables guarded differ
  have schema : schemaVariable ≠ Command.passwordVariable := by decide
  unfold Sections.applyVariables
  dsimp only
  rw [environs.filled?_eq schema]
  cases env.filled? schemaVariable with
  | none => exact differ
  | some value => exact { differ with reset := by rw [differ.reset] }

theorem Differ.applyOption (differ : Differ s s') (option : String × Value) :
    Differ (s.applyOption option) (s'.applyOption option) := by
  obtain ⟨name, value⟩ := option
  by_cases null : value = .null
  · subst null
    exact differ
  · rw [applyOption_of_ne null, applyOption_of_ne null]
    split
    · exact { differ with reset := by rw [differ.reset] }
    · split
      · exact { differ with observability := by rw [differ.observability] }
      · exact differ.put name value

/-- The connection of sections without its password. -/
def reach (s : Sections) : Except Error Connection := do
  let host ← text s.connection "host" "127.0.0.1"
  let port ← port (getD s.connection "port" (.int 5432))
  let user ← text s.connection "user" "postgres"
  let database ← text s.connection "database" "test_db"
  let connectTimeout ← timeout (getD s.connection "connect_timeout" (.int 10))
  if host.isEmpty || user.isEmpty || database.isEmpty then throw (.fault .connectionBlank)
  pure { host, port, user, database, connectTimeout }

/-- Where there is a text for the password, it is put into the connection and decides nothing. -/
theorem toConnection_eq {password : String}
    (given : text s.connection "password" "" = .ok password) :
    s.toConnection = s.reach.map (·.withPassword password) := by
  unfold toConnection reach
  rw [given]
  rcases text s.connection "host" "127.0.0.1" with e | host
  · rfl
  rcases port (getD s.connection "port" (.int 5432)) with e | port
  · rfl
  rcases text s.connection "user" "postgres" with e | user
  · rfl
  rcases text s.connection "database" "test_db" with e | database
  · rfl
  rcases timeout (getD s.connection "connect_timeout" (.int 10)) with e | connectTimeout
  · rfl
  by_cases blank : (host.isEmpty || user.isEmpty || database.isEmpty) = true
  · simp [blank, bind, Except.bind, Except.map, throw, throwThe, MonadExceptOf.throw]
  · simp [blank, bind, Except.bind, Except.map, pure, Except.pure, Connection.withPassword]

/-- Sections that differ in the password make the same connection with another password, or the same
error. -/
theorem Differ.toConnection (differ : Differ s s') :
    ∃ rekey, s'.toConnection = s.toConnection.map (Connection.rekeyed rekey) ∧
      ∀ c, s.toConnection = .ok c → c.Keeps rekey := by
  have texts (name usual : String) (apart : name ≠ "password") :
      text s'.connection name usual = text s.connection name usual := by
    rw [text, differ.connection.others name apart, text]
  have values (name : String) (usual : Value) (apart : name ≠ "password") :
      getD s'.connection name usual = getD s.connection name usual := by
    rw [getD, differ.connection.others name apart, getD]
  have reaches : s'.reach = s.reach := by
    rw [reach, texts "host" _ (by decide), values "port" _ (by decide), texts "user" _ (by decide),
      texts "database" _ (by decide), values "connect_timeout" _ (by decide), reach]
  rcases differ.connection.here with
    equal | ⟨_, _, ⟨a, rfl, filled⟩, ⟨b, rfl, filled'⟩, here, here'⟩
  · refine ⟨id, ?_, fun c _ => rfl⟩
    have password : text s'.connection "password" "" = text s.connection "password" "" := by
      rw [text, equal, text]
    rw [Sections.toConnection, password, texts "host" _ (by decide), values "port" _ (by decide),
      texts "user" _ (by decide), texts "database" _ (by decide),
      values "connect_timeout" _ (by decide), ← Sections.toConnection]
    cases s.toConnection <;> rfl
  · have given : text s.connection "password" "" = .ok a := by rw [text, here]; rfl
    have given' : text s'.connection "password" "" = .ok b := by rw [text, here']; rfl
    refine ⟨fun _ => b, ?_, ?_⟩
    · rw [toConnection_eq given, toConnection_eq given', reaches]
      cases s.reach <;> rfl
    · intro c made
      rw [toConnection_eq given] at made
      cases reached : s.reach with
      | error e =>
        rw [reached] at made
        cases made
      | ok bare =>
        rw [reached] at made
        cases made
        have kept : a.isEmpty = false := by simpa using filled
        have kept' : b.isEmpty = false := by simpa using filled'
        exact kept'.trans kept.symm

end Sections

/-- Two attempts to read settings come to the same, but for the password of the connection. -/
def LoadAlike (outcome outcome' : Except Error Settings) : Prop :=
  ∃ rekey, outcome' = outcome.map (Settings.rekeyed rekey) ∧
    ∀ settings, outcome = .ok settings → settings.connection.Keeps rekey

theorem LoadAlike.error (e : Error) : LoadAlike (.error e) (.error e) :=
  ⟨id, rfl, nofun⟩

namespace Sections

/-- The settings of sections without their connection. -/
def policies (s : Sections) : Except Error Settings := do
  let schema ← text s.reset "schema" "public"
  let requireConfirmation ←
    switch "require_confirmation" (getD s.reset "require_confirmation" (.bool true))
  let allowRemoteReset ←
    switch "allow_remote_reset" (getD s.server "allow_remote_reset" (.bool false))
  let level ← text s.observability "log_level" "info"
  pure {
    reset := { schema, requireConfirmation }
    server := { allowRemoteReset }
    observability := { logLevel := if level.isEmpty then "info" else level } }

theorem toSettings_eq (s : Sections) :
    s.toSettings = (do
      let connection ← s.toConnection
      s.policies.map fun settings => { settings with connection }) := by
  unfold toSettings policies
  refine bind_congr_ok fun connection _ => ?_
  rcases text s.reset "schema" "public" with e | schema
  · rfl
  rcases switch "require_confirmation" (getD s.reset "require_confirmation" (.bool true)) with e | _
  · rfl
  rcases switch "allow_remote_reset" (getD s.server "allow_remote_reset" (.bool false)) with e | _
  · rfl
  rcases text s.observability "log_level" "info" with e | level
  · rfl
  rfl

/-- Sections that differ in the password make the same settings but for it, or the same error. -/
theorem Differ.toSettings {s s' : Sections} (differ : Differ s s') :
    LoadAlike s.toSettings s'.toSettings := by
  obtain ⟨rekey, alike, keeps⟩ := differ.toConnection
  have policies : s'.policies = s.policies := by
    rw [Sections.policies, differ.reset, differ.server, differ.observability, Sections.policies]
  rw [toSettings_eq, toSettings_eq, alike, policies]
  cases made : s.toConnection with
  | error e => exact .error e
  | ok c =>
    refine ⟨rekey, ?_, ?_⟩
    · cases s.policies <;> rfl
    · intro settings found
      change s.policies.map _ = .ok settings at found
      generalize s.policies = policies at found
      cases policies with
      | error e => cases found
      | ok bare =>
        cases found
        exact keeps c made

end Sections

/-- Environments that differ in the password are read as the same settings but for it, unless a
document refers to it. -/
theorem load_alike {files : Files} {path : Option String} (options : Named Value)
    (differ : Variables.Differ Command.passwordVariable env env')
    (unreferred : ∀ file value, path = some file → stored? files file = some value →
      ¬ value.Refers Command.passwordVariable) :
    LoadAlike (load files path env options) (load files path env' options) := by
  have documents : document files path env' = document files path env := by
    refine document_congr fun file value named held name refers => differ.others name ?_
    rintro rfl
    exact unreferred file value named held refers
  unfold load
  rw [documents]
  cases document files path env with
  | error e => exact .error e
  | ok entries =>
    unfold combine
    dsimp only [bind, Except.bind]
    cases Sections.ofDocument entries with
    | error e => exact .error e
    | ok sections =>
      have applied : Sections.Differ (sections.applyVariables env) (sections.applyVariables env') :=
        Sections.Differ.applyVariables ⟨.refl _ _ _, rfl, rfl, rfl⟩ differ
      have folded (options : Named Value) {s s' : Sections} (differ : Sections.Differ s s') :
          Sections.Differ (options.foldl Sections.applyOption s)
            (options.foldl Sections.applyOption s') := by
        induction options generalizing s s' with
        | nil => exact differ
        | cons option rest ih => exact ih (differ.applyOption option)
      exact (folded options applied).toSettings

end Settings
end SchemaWipe
