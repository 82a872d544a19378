import SchemaWipe.Proofs.PasswordSource

/-! Variables of the environment that are empty. To the settings an empty variable is as good as
none: the file of the settings decides then, or the usual value. But it still hides the variable of
the same name that a file of variables sets, so without it that one would decide. -/
namespace SchemaWipe

theorem Named.get?_filter_names {α : Type} (names : List String) (name : String)
    (entries : Named α) : Named.get? name (entries.filter (·.1 ∉ names)) =
      if name ∈ names then none else entries.get? name := by
  induction entries with
  | nil => simp [get?]
  | cons entry rest ih =>
    obtain ⟨key, x⟩ := entry
    by_cases dropped : key ∈ names
    · rw [List.filter_cons_of_neg (by simpa using dropped), ih]
      by_cases asked : name ∈ names
      · simp [asked]
      · have apart : key ≠ name := fun same => asked (same ▸ dropped)
        rw [if_neg asked, if_neg asked, get?, if_neg apart]
    · rw [List.filter_cons_of_pos (by simpa using dropped), get?, get?, ih]
      by_cases same : key = name
      · subst same
        simp [dropped]
      · simp [same]

namespace Settings

/-- The setting of a field is what a value is converted to. -/
def Field.Takes (settings : Settings) (value : Value) : Field → Prop
  | host => asText value = .ok settings.connection.host
  | port => Settings.port value = .ok settings.connection.port
  | user => asText value = .ok settings.connection.user
  | password => asText value = .ok settings.connection.password
  | database => asText value = .ok settings.connection.database
  | connectTimeout => timeout value = .ok settings.connection.connectTimeout
  | schema => asText value = .ok settings.reset.schema
  | requireConfirmation =>
    switch "require_confirmation" value = .ok settings.reset.requireConfirmation
  | allowRemoteReset => switch "allow_remote_reset" value = .ok settings.server.allowRemoteReset
  | logLevel => ∃ level, asText value = .ok level ∧
    settings.observability.logLevel = if level = "" then "info" else level

/-- Settings made of values are made of others exactly if each field takes its new value. -/
theorem MadeOf.iff_takes {settings : Settings} {value value' : Field → Value}
    (made : settings.MadeOf value) :
    settings.MadeOf value' ↔ ∀ x : Field, x.Takes settings (value' x) := by
  constructor
  · intro other x
    cases x with
    | host => exact other.connection.host
    | port => exact other.connection.port
    | user => exact other.connection.user
    | password => exact other.connection.password
    | database => exact other.connection.database
    | connectTimeout => exact other.connection.connectTimeout
    | schema => exact other.schema
    | requireConfirmation => exact other.requireConfirmation
    | allowRemoteReset => exact other.allowRemoteReset
    | logLevel => exact other.logLevel
  · intro takes
    exact {
      connection := {
        host := takes .host
        port := takes .port
        user := takes .user
        password := takes .password
        database := takes .database
        connectTimeout := takes .connectTimeout
        filled := made.connection.filled }
      schema := takes .schema
      requireConfirmation := takes .requireConfirmation
      allowRemoteReset := takes .allowRemoteReset
      logLevel := takes .logLevel }

end Settings

namespace Command
open CommandLine
open Settings (Field)

/-- The value that a variable has in the file of variables that an option names. -/
def ofVariableFile? (p : Session) (given : Named Given) (name : String) : Option String :=
  (filledOf given "--env-file").bind fun path =>
    (Settings.Variables.ofFile p.files path).toOption.bind (·.get? name)

/-- A session with some variables taken out of its environment. -/
def Session.without (p : Session) (names : List String) : Session :=
  { p with environ := ⟨p.environ.entries.filter (·.1 ∉ names),
      p.environ.distinct.sublist (List.filter_sublist.map Prod.fst)⟩ }

/-- One of these names hides a value from a field: the file of variables gives it under the name,
and no option gives the field another one. -/
structure Hidden (p : Session) (given : Named Given) (names : List String) (x : Field)
    (value : String) : Prop where
  held : ∃ name ∈ names, x.variableName? = some name ∧ ofVariableFile? p given name = some value
  filled : value ≠ ""
  ungiven : x.ofOptions? (options given) = none

/-- Variables of the environment that set a field each, but to nothing, and that the file of the
settings does not refer to. -/
structure Idle (p : Session) (given : Named Given) (names : List String) : Prop where
  fields : ∀ name ∈ names, ∃ x : Field, x.variableName? = some name
  empty : ∀ name ∈ names, p.environ.entries.get? name = some ""
  unreferred : ∀ env file value, mergedVariables p.files p.environ given = .ok env →
    configPath env given = some file → Settings.stored? p.files file = some value →
    ∀ name ∈ names, ¬ value.Refers name

variable {p : Session} {given : Named Given} {names : List String} {name : String}
  {env env' : Settings.Variables} {s : Settings.Sections} {x : Field}

theorem lookUp_eq (p : Session) (given : Named Given) (name : String) :
    lookUp p given name = (p.environ.entries.get? name).or (ofVariableFile? p given name) := rfl

theorem lookUp_without (p : Session) (given : Named Given) (names : List String) (name : String) :
    lookUp (p.without names) given name =
      if name ∈ names then ofVariableFile? p given name else lookUp p given name := by
  have found : (p.without names).environ.entries.get? name = _ := Named.get?_filter_names ..
  rw [lookUp_eq, found]
  split <;> rfl

/-- No field is set by the variable that names the file of the settings. -/
theorem variableName?_ne_path (x : Field) : x.variableName? ≠ some pathVariable := by
  cases x <;> decide

/-- What is merged for a command, with some variables of its environment and without them. -/
structure Merges (p : Session) (given : Named Given) (names : List String)
    (env env' : Settings.Variables) : Prop where
  kept : mergedVariables p.files p.environ given = .ok env
  before : ∀ name, env.get? name = lookUp p given name
  behind : ∀ name, env'.get? name =
    if name ∈ names then ofVariableFile? p given name else lookUp p given name

/-- What stops the merging is wrong with the file of variables, whatever the environment. -/
theorem mergedVariables_error {files : Files} {environ : Settings.Environment} {e : Settings.Error}
    (stopped : mergedVariables files environ given = .error e) (other : Settings.Environment) :
    mergedVariables files other given = .error e := by
  unfold mergedVariables at stopped ⊢
  cases named : filledOf given "--env-file" with
  | none =>
    rw [named] at stopped
    cases stopped
  | some path =>
    rw [named] at stopped
    dsimp only at stopped ⊢
    cases held : Settings.Variables.ofFile files path with
    | ok fromFile =>
      rw [held] at stopped
      cases stopped
    | error fault =>
      rw [held] at stopped
      exact stopped

/-- Both with the variables and without them something is merged, or the same fault stops that. -/
theorem mergedVariables_without (p : Session) (given : Named Given) (names : List String) :
    (∃ env env', Merges p given names env env' ∧
      mergedVariables p.files (p.without names).environ given = .ok env') ∨
    ∃ e, mergedVariables p.files p.environ given = .error e ∧
      mergedVariables p.files (p.without names).environ given = .error e := by
  have merges {env env' : Settings.Variables}
      (kept : mergedVariables p.files p.environ given = .ok env)
      (left : mergedVariables p.files (p.without names).environ given = .ok env') :
      Merges p given names env env' :=
    ⟨kept, get?_mergedVariables kept, fun name =>
      (get?_mergedVariables left name).trans
        (lookUp_without p given names name)⟩
  cases kept : mergedVariables p.files p.environ given with
  | ok env =>
    cases left : mergedVariables p.files (p.without names).environ given with
    | ok env' => exact .inl ⟨env, env', merges kept left, rfl⟩
    | error e => cases kept.symm.trans (mergedVariables_error left p.environ)
  | error e => exact .inr ⟨e, rfl, mergedVariables_error kept _⟩

/-- The file of the settings is the same without the variables, and says the same. -/
theorem Merges.sections_eq (merges : Merges p given names env env') (idle : Idle p given names) :
    Settings.sections p.files (configPath env' given) env' =
      Settings.sections p.files (configPath env given) env := by
  have same {name : String} (other : name ∉ names) : env'.get? name = env.get? name := by
    rw [merges.behind, if_neg other, merges.before]
  have path : configPath env' given = configPath env given := by
    have kept : pathVariable ∉ names := by
      intro member
      obtain ⟨x, named⟩ := idle.fields _ member
      exact variableName?_ne_path x named
    unfold configPath
    rw [same kept]
  have read : Settings.document p.files (configPath env given) env' =
      Settings.document p.files (configPath env given) env :=
    Settings.document_congr fun file value named stored name refers =>
      same fun member => idle.unreferred env file value merges.kept named stored name member refers
  unfold Settings.sections
  rw [path, read]

theorem Hidden.unique {value value' : String} (first : Hidden p given names x value)
    (second : Hidden p given names x value') : value = value' := by
  obtain ⟨name, -, named, held⟩ := first.held
  obtain ⟨name', -, named', held'⟩ := second.held
  cases named.symm.trans named'
  exact Option.some.inj (held.symm.trans held')

/-- The variables give a field the value of its own one, unless that is empty. -/
theorem ofVariables?_of_named (named : x.variableName? = some name) (env : Settings.Variables) :
    x.ofVariables? env = ((env.get? name).filter (· ≠ "")).map .text := by
  rw [Field.ofVariables?, named, Option.bind_some, filled?_eq_filter]

/-- Without the variables a field takes the value that they hide from it. If they hide none, its
value stays the same. -/
theorem Merges.effective (merges : Merges p given names env env') (idle : Idle p given names)
    (s : Settings.Sections) (x : Field) :
    (∃ value, Hidden p given names x value ∧
      Field.effective s env' (options given) x = .text value) ∨
    (∀ value, ¬ Hidden p given names x value) ∧
      Field.effective s env' (options given) x = Field.effective s env (options given) x := by
  unfold Field.effective
  by_cases cleared : ∃ name ∈ names, x.variableName? = some name
  · obtain ⟨name, member, named⟩ := cleared
    cases outdone : x.ofOptions? (options given) with
    | some value =>
      refine .inr ⟨fun value hidden => ?_, rfl⟩
      cases outdone.symm.trans hidden.ungiven
    | none =>
      have unset : x.ofVariables? env = none := by
        have blank : env.get? name = some "" := by
          rw [merges.before, lookUp_eq, idle.empty name member, Option.some_or]
        rw [ofVariables?_of_named named, blank]
        rfl
      have supplied : x.ofVariables? env' =
          ((ofVariableFile? p given name).filter (· ≠ "")).map .text := by
        rw [ofVariables?_of_named named, merges.behind, if_pos member]
      rw [unset, supplied]
      cases filled : (ofVariableFile? p given name).filter (· ≠ "") with
      | some value =>
        obtain ⟨held, apart⟩ := Option.filter_eq_some_iff.mp filled
        exact .inl ⟨value, ⟨⟨name, member, named, held⟩, by simpa using apart, outdone⟩, rfl⟩
      | none =>
        refine .inr ⟨fun value hidden => ?_, rfl⟩
        obtain ⟨other, -, named', held⟩ := hidden.held
        cases named.symm.trans named'
        rw [held, Option.filter_eq_none_iff] at filled
        exact hidden.filled (by simpa using filled)
  · refine .inr ⟨fun value hidden => ?_, ?_⟩
    · obtain ⟨name, member, named, -⟩ := hidden.held
      exact cleared ⟨name, member, named⟩
    · have same : x.ofVariables? env' = x.ofVariables? env := by
        cases named : x.variableName? with
        | none => simp [Field.ofVariables?, named]
        | some name =>
          have kept : name ∉ names := fun member => cleared ⟨name, member, named⟩
          rw [ofVariables?_of_named named, ofVariables?_of_named named, merges.behind,
            if_neg kept, merges.before]
      rw [same]

/-- A command reads its settings from what is merged for it. -/
theorem load_of_merged {files : Files} {environ : Settings.Environment}
    (merged : mergedVariables files environ given = .ok env) :
    load files environ given = Settings.load files (configPath env given) env (options given) := by
  rw [load, merged]
  rfl

/-- Empty variables are as good as none, unless they hide what a file of variables sets: where they
hide nothing, the settings are the same without them, or are refused for the same reason. Settings
that are read with them are read without them exactly if every field takes the value hidden from it
for the one that it has anyway. -/
theorem empty_variables_count_as_none_iff (p : Session) (given : Named Given) (names : List String)
    (idle : Idle p given names) :
    ((∀ x value, ¬ Hidden p given names x value) →
      load p.files (p.without names).environ given = load p.files p.environ given) ∧
    ∀ settings, load p.files p.environ given = .ok settings →
      (load p.files (p.without names).environ given = .ok settings ↔
        ∀ x value, Hidden p given names x value → x.Takes settings (.text value)) := by
  rcases mergedVariables_without p given names with
    ⟨env, env', merges, left⟩ | ⟨e, stopped, stopped'⟩
  · rw [load_of_merged left, load_of_merged merges.kept]
    have sections := merges.sections_eq idle
    constructor
    · intro none_hidden
      cases read : Settings.sections p.files (configPath env given) env with
      | error e =>
        rw [Settings.load_eq, Settings.load_eq, sections, read]
        rfl
      | ok s =>
        refine Settings.load_eq_of_effective_eq read (sections.trans read) (funext fun x => ?_)
        rcases merges.effective idle s x with ⟨value, hidden, -⟩ | ⟨-, same⟩
        · exact absurd hidden (none_hidden x value)
        · exact same
    · intro settings loads
      obtain ⟨s, read, made⟩ := Settings.load_eq_ok_iff.mp loads
      rw [Settings.load_eq_ok_iff, sections, read]
      simp only [Except.ok.injEq, exists_eq_left', made.iff_takes]
      constructor
      · intro takes x value hidden
        rcases merges.effective idle s x with ⟨value', hidden', same⟩ | ⟨none_hidden, -⟩
        · rw [hidden.unique hidden', ← same]
          exact takes x
        · exact absurd hidden (none_hidden value)
      · intro takes x
        rcases merges.effective idle s x with ⟨value, hidden, same⟩ | ⟨-, same⟩
        · rw [same]
          exact takes x value hidden
        · rw [same]
          exact made.iff_takes.mp made x
  · have refused {environ : Settings.Environment}
        (stopped : mergedVariables p.files environ given = .error e) :
        load p.files environ given = .error e := by
      rw [load, stopped]
      rfl
    rw [refused stopped, refused stopped']
    exact ⟨fun _ => rfl, nofun⟩

/-- A session whose variables for the user and the database are empty, and a file that sets them. -/
def emptySession : Session where
  environ := { entries := [("PGUSER", ""), ("PGDATABASE", "")] }
  files := ({} : Files).write "v.env" "PGUSER=\nPGDATABASE=test_db\n".toUTF8

/-- One of two empty variables hides nothing, for the file leaves it empty as well. The other one
hides the usual name of the database, which is the name anyway. -/
theorem usual_value_may_be_hidden :
    load emptySession.files emptySession.environ [("--env-file", .text "v.env")] = .ok {} ∧
    load emptySession.files {} [("--env-file", .text "v.env")] = .ok {} := by
  have merged : mergedVariables emptySession.files emptySession.environ
      [("--env-file", .text "v.env")] = .ok [("PGUSER", ""), ("PGDATABASE", "")] := rfl
  have loads : load emptySession.files emptySession.environ [("--env-file", .text "v.env")] =
      .ok {} := ok_of_toOption (by decide +kernel)
  have idle : Idle emptySession [("--env-file", .text "v.env")] ["PGUSER", "PGDATABASE"] := {
    fields := by
      intro name member
      simp only [List.mem_cons, List.not_mem_nil, or_false] at member
      rcases member with rfl | rfl
      · exact ⟨.user, rfl⟩
      · exact ⟨.database, rfl⟩
    empty := by decide
    unreferred := by
      intro env file value kept named
      cases merged.symm.trans kept
      cases named }
  have user : ofVariableFile? emptySession [("--env-file", .text "v.env")] "PGUSER" = some "" := rfl
  have database : ofVariableFile? emptySession [("--env-file", .text "v.env")] "PGDATABASE" =
      some "test_db" := rfl
  have taken : ∀ (x : Field) (value : String),
      Hidden emptySession [("--env-file", .text "v.env")] ["PGUSER", "PGDATABASE"] x value →
        x.Takes {} (.text value) := by
    intro x value hidden
    obtain ⟨name, member, named, held⟩ := hidden.held
    simp only [List.mem_cons, List.not_mem_nil, or_false] at member
    rcases member with rfl | rfl
    · exact absurd (Option.some.inj (held.symm.trans user)) hidden.filled
    · obtain rfl := Option.some.inj (held.symm.trans database)
      cases x with
      | database => rfl
      | _ => simp [Field.variableName?] at named
  exact ⟨loads, ((empty_variables_count_as_none_iff emptySession _ ["PGUSER", "PGDATABASE"]
    idle).2 {} loads).mpr taken⟩

/-- A session whose variable for the host is empty, with a file of variables and one of settings
that each name a host. -/
def twoHosts : Session where
  environ := { entries := [("PGHOST", "")] }
  files := (({} : Files).write "v.env" "PGHOST=of-variables\n".toUTF8).write "c.yml"
    "connection: \x7bhost: of-settings\x7d".toUTF8

/-- The arguments that name both files. -/
def bothFiles : Named Given :=
  [("--env-file", .text "v.env"), ("--config", .text "c.yml")]

/-- An empty variable hides a host that would decide without it. -/
theorem empty_variable_hides_host :
    operatorMenu.read ["list-tables", "--env-file", "v.env", "--config", "c.yml"] =
      .run "list-tables" bothFiles ∧
    load twoHosts.files twoHosts.environ bothFiles =
      .ok { connection := { host := "of-settings" } } ∧
    load twoHosts.files (twoHosts.without ["PGHOST"]).environ bothFiles =
      .ok { connection := { host := "of-variables" } } :=
  ⟨rfl, ok_of_toOption (by decide +kernel), ok_of_toOption (by decide +kernel)⟩

end Command
end SchemaWipe
