import SchemaWipe.Proofs.Fields

/-! Which source decides a field. Its value is what an option gives it, or else a variable, or else
the file, or else the usual one. Settings are read exactly if these values can be converted, so one
that another source outdoes is neither converted nor refused. -/
namespace SchemaWipe

/-- A value that is given: any but null. -/
def Value.given? : Value → Option Value
  | .null => none
  | value => some value

theorem Value.given?_of_ne {value : Value} (apart : value ≠ .null) : value.given? = some value := by
  cases value <;> first | rfl | exact absurd rfl apart

namespace Settings

namespace Field

/-- The variable that sets a field. -/
def variableName? : Field → Option String
  | host => some "PGHOST"
  | port => some "PGPORT"
  | user => some "PGUSER"
  | password => some "PGPASSWORD"
  | database => some "PGDATABASE"
  | schema => some "SCHEMA_RESET_SCHEMA"
  | _ => none

/-- The names of the fields that options set: all but the safety switches. -/
def optionNames : List String :=
  ["host", "port", "user", "password", "database", "connect_timeout", "schema", "log_level"]

/-- The value that an option gives a field: one under its name, unless it is null. -/
def optionValue? (x : Field) (option : String × Value) : Option Value :=
  if option.1 = x.name ∧ x.name ∈ optionNames then option.2.given? else none

/-- The value that the options give a field; of several it is the last one. -/
def ofOptions? (options : Named Value) (x : Field) : Option Value :=
  (options.filterMap x.optionValue?).getLast?

/-- The value that the variables give a field: that of its variable, unless it is empty. -/
def ofVariables? (env : Variables) (x : Field) : Option Value :=
  (x.variableName?.bind env.filled?).map .text

/-- The value of a field: that of the first source that gives it one. -/
def effective (s : Sections) (env : Variables) (options : Named Value) (x : Field) : Value :=
  (((x.ofOptions? options).or (x.ofVariables? env)).or (x.ofSections? s)).getD x.usual

/-- A field keeps its value when something is put under a name that is not its own. -/
theorem ofSections?_of_ne {name : String} {x : Field} (apart : name ≠ x.name) (value : Value)
    (s : Sections) : x.ofSections? (s.applyOption (name, value)) = x.ofSections? s := by
  by_cases null : value = .null
  · rw [null]
    rfl
  · have kept := Value.find?_put_of_ne (Ne.symm apart) value
    rw [Sections.applyOption_of_ne null]
    unfold ofSections?
    split
    · rename_i schema
      subst schema
      cases x <;> first | rfl | exact kept s.reset
    · split
      · rename_i level
        subst level
        cases x <;> first | rfl | exact kept s.observability
      · cases x <;> first | rfl | exact kept s.connection

/-- After an option, a field has what the option gives it, or else what it had. -/
theorem ofSections?_applyOption (s : Sections) (option : String × Value) (x : Field) :
    x.ofSections? (s.applyOption option) = (x.optionValue? option).or (x.ofSections? s) := by
  obtain ⟨name, value⟩ := option
  by_cases here : name = x.name
  · subst here
    by_cases null : value = .null
    · subst null
      simp [optionValue?, Value.given?, Sections.applyOption]
    · have given := Value.given?_of_ne null
      rw [Sections.applyOption_of_ne null]
      cases x <;>
        simp [ofSections?, optionValue?, given, Field.name, entries, optionNames,
          Value.find?_put_self]
  · have none_given : x.optionValue? (name, value) = none := if_neg fun both => here both.1
    rw [none_given, Option.none_or, ofSections?_of_ne here]

/-- After options, a field has what they give it, or else what it had. -/
theorem ofSections?_foldl_applyOption (x : Field) (options : Named Value) (s : Sections) :
    x.ofSections? (options.foldl Sections.applyOption s) =
      (x.ofOptions? options).or (x.ofSections? s) := by
  induction options generalizing s with
  | nil => rfl
  | cons option rest ih =>
    rw [List.foldl_cons, ih, ofSections?_applyOption, ← Option.or_assoc]
    congr 1
    unfold ofOptions?
    cases given : x.optionValue? option with
    | none => simp [given]
    | some value =>
      cases later : (rest.filterMap x.optionValue?).getLast? <;>
        simp [given, List.getLast?_cons, later]

end Field

/-- The option that a variable acts as: it gives its field a text, unless it is empty. -/
def variableOption? (env : Variables) (entry : String × String) : Option (String × Value) :=
  (env.filled? entry.1).map fun value => (entry.2, .text value)

/-- The options that the variables act as. -/
def variableOptions (env : Variables) : Named Value :=
  (connectionVariables ++ [(schemaVariable, "schema")]).filterMap (variableOption? env)

/-- Variables of the connection act as options. -/
theorem Sections.foldl_applyVariable {env : Variables} {entries : List (String × String)}
    (others : ∀ entry ∈ entries, entry.2 ≠ "schema" ∧ entry.2 ≠ "log_level") (s : Sections) :
    entries.foldl (applyVariable env) s =
      (entries.filterMap (variableOption? env)).foldl applyOption s := by
  induction entries generalizing s with
  | nil => rfl
  | cons entry rest ih =>
    obtain ⟨other, others⟩ := List.forall_mem_cons.mp others
    rw [List.foldl_cons, ih others, List.filterMap_cons]
    cases found : env.filled? entry.1 with
    | none => simp [applyVariable, variableOption?, found]
    | some value => simp [applyVariable, variableOption?, found, applyOption, other]

/-- Variables act as options that come before the others. -/
theorem Sections.applyVariables_eq (s : Sections) (env : Variables) :
    s.applyVariables env = (variableOptions env).foldl Sections.applyOption s := by
  unfold applyVariables
  rw [foldl_applyVariable (by decide), variableOptions, List.filterMap_append, List.foldl_append]
  cases found : env.filled? schemaVariable <;> simp [variableOption?, found, applyOption]

theorem Field.ofOptions?_variableOptions (env : Variables) (x : Field) :
    x.ofOptions? (variableOptions env) = x.ofVariables? env := by
  unfold ofOptions? variableOptions ofVariables? connectionVariables
  rw [List.filterMap_filterMap]
  -- Of the six variables at most one has the name of the field.
  cases x <;>
    simp [variableOption?, optionValue?, Field.name, optionNames, variableName?, schemaVariable]
  all_goals cases env.filled? _ <;> rfl

/-- What decides a field, once variables and options are applied, is its effective value. -/
theorem Sections.value_applied (s : Sections) (env : Variables) (options : Named Value) :
    (options.foldl Sections.applyOption (s.applyVariables env)).value =
      Field.effective s env options := by
  funext x
  rw [Sections.value, x.ofSections?_foldl_applyOption, Sections.applyVariables_eq,
    x.ofSections?_foldl_applyOption, x.ofOptions?_variableOptions, Field.effective,
    Option.or_assoc]

/-- The sections of the file that settings are read from, with the references in it resolved. -/
def sections (files : Files) (path : Option String) (env : Variables) : Except Error Sections :=
  document files path env >>= Sections.ofDocument

variable {files : Files} {path : Option String} {env : Variables} {options : Named Value}

theorem load_eq (files : Files) (path : Option String) (env : Variables) (options : Named Value) :
    load files path env options = (do
      let s ← sections files path env
      (options.foldl Sections.applyOption (s.applyVariables env)).toSettings) := by
  unfold load sections combine
  rw [bind_assoc]

/-- Settings are read exactly if there are sections to read and the effective values of all fields
can be converted. -/
theorem load_eq_ok_iff {settings : Settings} : load files path env options = .ok settings ↔
    ∃ s, sections files path env = .ok s ∧ settings.MadeOf (Field.effective s env options) := by
  rw [load_eq]
  constructor
  · intro loaded
    obtain ⟨s, read, made⟩ := ok_of_bind loaded
    rw [Sections.toSettings_eq_ok_iff, Sections.value_applied] at made
    exact ⟨s, read, made⟩
  · rintro ⟨s, read, made⟩
    rw [← Sections.value_applied, ← Sections.toSettings_eq_ok_iff] at made
    rw [read]
    exact made

/-- What is read depends on nothing but the effective values. -/
theorem load_eq_of_effective_eq {files' : Files} {path' : Option String} {env' : Variables}
    {options' : Named Value} {s s' : Sections} (read : sections files path env = .ok s)
    (read' : sections files' path' env' = .ok s')
    (same : Field.effective s' env' options' = Field.effective s env options) :
    load files' path' env' options' = load files path env options := by
  rw [load_eq, load_eq, read, read']
  refine Sections.toSettings_congr ?_
  rw [Sections.value_applied, Sections.value_applied, same]

/-- Options under names that no field takes give no field a value. -/
theorem Field.ofOptions?_filter (options : Named Value) (x : Field) :
    x.ofOptions? (options.filter (·.1 ∈ optionNames)) = x.ofOptions? options := by
  unfold ofOptions?
  rw [List.filterMap_filter]
  congr 2
  funext option
  by_cases named : option.1 ∈ optionNames
  · simp [named]
  · have other : x.optionValue? option = none := by
      rw [optionValue?, if_neg]
      rintro ⟨same, taken⟩
      exact named (same ▸ taken)
    simp [named, other]

/-- The sources of settings have an order of precedence. Each field is converted from its effective
value: what an option gives it, or else a variable, or else the file, or else the usual value; and
wherever all of these can be converted, settings are read. Options under other names change nothing.
Nothing else is looked at: other files, variables and options that come to the same effective values
are read as the same settings, or are refused for the same reason. -/
theorem settings_follow_precedence (files : Files) (path : Option String) (env : Variables)
    (options : Named Value) :
    (∀ settings, load files path env options = .ok settings ↔
      ∃ s, sections files path env = .ok s ∧
        settings.MadeOf (Field.effective s env options)) ∧
    load files path env (options.filter (·.1 ∈ Field.optionNames)) =
      load files path env options ∧
    ∀ files' path' env' options' s s', sections files path env = .ok s →
      sections files' path' env' = .ok s' →
      Field.effective s' env' options' = Field.effective s env options →
      load files' path' env' options' = load files path env options := by
  refine ⟨fun settings => load_eq_ok_iff, ?_, ?_⟩
  · cases read : sections files path env with
    | error e => rw [load_eq, load_eq, read]; rfl
    | ok s =>
      refine load_eq_of_effective_eq read read ?_
      funext x
      rw [Field.effective, Field.ofOptions?_filter, Field.effective]
  · intro files' path' env' options' s s' read read' same
    exact load_eq_of_effective_eq read read' same

/-- A file with a host that refers to a variable and a port that is no number. -/
def brokenPort : Files :=
  ({} : Files).write "c.yml"
    "connection: \x7b'host': '$\x7bH\x7d', 'port': 'oops'\x7d".toUTF8

/-- Variables of which one is what the file refers to, one sets the port and one sets nothing. -/
def portVariables : Variables :=
  [("H", "db"), ("PGPORT", "15432"), ("PGUSER", "")]

/-- A broken port in a file does no harm where a variable sets the port. Neither does an empty
variable, an option that is null or one under a name that no field takes; and an option may say the
same again. -/
theorem outdone_port_is_harmless :
    load brokenPort (some "c.yml") portVariables
        [("user", .null), ("database", .text "live"), ("colour", .text "red")] =
      .ok { connection := { host := "db", port := 15432, database := "live" } } ∧
    load brokenPort (some "c.yml") portVariables
        [("database", .text "live"), ("port", .text "15432")] =
      .ok { connection := { host := "db", port := 15432, database := "live" } } := by
  have loaded : load brokenPort (some "c.yml") portVariables
      [("user", .null), ("database", .text "live"), ("colour", .text "red")] =
      .ok { connection := { host := "db", port := 15432, database := "live" } } :=
    ok_of_toOption (by decide +kernel)
  obtain ⟨converted, -, alike⟩ := settings_follow_precedence brokenPort (some "c.yml")
    portVariables [("user", .null), ("database", .text "live"), ("colour", .text "red")]
  obtain ⟨s, read, -⟩ := (converted _).mp loaded
  refine ⟨loaded, ?_⟩
  rw [← loaded]
  refine alike _ _ _ _ s s read read ?_
  funext x
  cases x <;> rfl

end Settings
end SchemaWipe
