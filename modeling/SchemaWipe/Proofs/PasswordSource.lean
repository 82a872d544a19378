import SchemaWipe.Proofs.EntryPoints
import SchemaWipe.Proofs.Names
import SchemaWipe.Proofs.Precedence

/-! Where the password of a command comes from, and where it stays. The first source that holds one
decides: a variable, the file of the settings, the operator. The operator is asked once, and only
where the others hold none; nothing is sent before. Whatever becomes of the run, the variable is
gone from the environment. -/
namespace SchemaWipe

namespace Command
open CommandLine Wipe Database

/-- The value of a variable for a command: the one of the environment, even if it is empty, or else
the one of the file that an option names. -/
def lookUp (p : Session) (given : Named Given) (name : String) : Option String :=
  (p.environ.entries.get? name).or <| (filledOf given "--env-file").bind fun path =>
    (Settings.Variables.ofFile p.files path).toOption.bind (·.get? name)

/-- The password that the file of the settings holds for a command: what is there as a text, once
the references to variables are resolved. A file without one, or none at all, holds the empty one.
-/
def Holds (p : Session) (given : Named Given) (password : String) : Prop :=
  ∃ env s, mergedVariables p.files p.environ given = .ok env ∧
    Settings.sections p.files (configPath env given) env = .ok s ∧
    Settings.text s.connection "password" "" = .ok password

/-- No variable is set to a password. -/
def Unset (p : Session) (given : Named Given) : Prop :=
  ∀ value, lookUp p given passwordVariable = some value → value = ""

/-- The operator has to be asked for the password. -/
structure Unsupplied (p : Session) (given : Named Given) : Prop where
  unset : Unset p given
  blank : Holds p given ""

/-- The password of a command: that of its first source. -/
inductive Password (p : Session) (given : Named Given) (t : Terminal) : String → Prop where
  | set {password : String} (found : lookUp p given passwordVariable = some password)
      (filled : password ≠ "") : Password p given t password
  | file {password : String} (unset : Unset p given) (held : Holds p given password)
      (filled : password ≠ "") : Password p given t password
  | typed {password : String} (unsupplied : Unsupplied p given)
      (answers : t.passwords.head? = some password) : Password p given t password

theorem Holds.unique {p : Session} {given : Named Given} {a b : String} (first : Holds p given a)
    (second : Holds p given b) : a = b := by
  obtain ⟨env, s, merged, read, held⟩ := first
  obtain ⟨env', s', merged', read', held'⟩ := second
  cases merged.symm.trans merged'
  cases read.symm.trans read'
  exact Except.ok.inj (held.symm.trans held')

/-- No command has two passwords: a source counts only where those before it hold none. -/
theorem Password.unique {p : Session} {given : Named Given} {t : Terminal} {a b : String}
    (first : Password p given t a) (second : Password p given t b) : a = b := by
  cases first with
  | set found filled =>
    cases second with
    | set found' filled' => exact Option.some.inj (found.symm.trans found')
    | file unset held filled' => exact absurd (unset a found) filled
    | typed unsupplied answers => exact absurd (unsupplied.unset a found) filled
  | file unset held filled =>
    cases second with
    | set found filled' => exact absurd (unset b found) filled'
    | file unset' held' filled' => exact held.unique held'
    | typed unsupplied answers => exact absurd (held.unique unsupplied.blank) filled
  | typed unsupplied answers =>
    cases second with
    | set found filled => exact absurd (unsupplied.unset b found) filled
    | file unset held filled => exact absurd (held.unique unsupplied.blank) filled
    | typed unsupplied' answers' => exact Option.some.inj (answers.symm.trans answers')

/-- What a run of a command does about its password. -/
structure Keyed (args : List String) (given : Named Given) (p : Session) (t : Terminal)
    (exchanges : List Exchange) : Prop where
  /-- However it ends, the variable is gone, and no other has changed. -/
  scrubbed : (run args p t).2.1.environ.entries = p.environ.entries.filter (·.1 != passwordVariable)
  /-- All connections are made with the one password of the command. -/
  connects : ∀ target reply, ⟨.connect target, reply⟩ ∈ exchanges →
    Password p given t target.password
  /-- The operator is asked at most once, and only if there is no other source. -/
  asks : (run args p t).2.2.questions = t.questions ∨
    Unsupplied p given ∧
      ∃ question, (run args p t).2.2.questions = t.questions ++ [question]
  /-- Nothing is sent before the operator has answered: without an answer nothing ever is. -/
  asks_first : (run args p t).2.2.questions ≠ t.questions →
    (run args p { t with passwords := [] }).2.1.world = p.world

/-- What becomes of a connection that may lack a password. -/
inductive Unlocks (c : Connection) (t : Terminal) :
    Except Stop Connection × Terminal → Prop where
  /-- It has one. -/
  | held (filled : c.password ≠ "") : Unlocks c t (.ok c, t)
  /-- The operator types one. -/
  | typed {password : String} {rest : List String} (blank : c.password = "")
      (answers : t.passwords = password :: rest) :
      Unlocks c t (.ok (c.withPassword password),
        { t with questions := t.questions ++ [passwordQuestion c], passwords := rest })
  /-- The operator is asked, but the input is over. -/
  | closed (blank : c.password = "") (ended : t.passwords = []) :
      Unlocks c t (.error (.breakdown .endOfInput),
        { t with questions := t.questions ++ [passwordQuestion c] })

variable {command : String} {given : Named Given} {p : Session} {t : Terminal} {c : Connection}
  {policy : WipePolicy} {w : World} {settings : Settings} {operations : List Operation}
  {env : Settings.Variables} {a b : String}

theorem withPassword_unlocks (c : Connection) (t : Terminal) : Unlocks c t (withPassword c t) := by
  unfold withPassword
  by_cases blank : c.password = ""
  · have asked : c.password.isEmpty = true := by simpa using blank
    rw [if_pos asked, Terminal.askPassword]
    cases answers : t.passwords with
    | nil => simpa [answers] using Unlocks.closed blank answers
    | cons password rest => simpa [answers] using Unlocks.typed blank answers
  · have kept : ¬ c.password.isEmpty = true := by simpa using blank
    rw [if_neg kept]
    exact .held blank

/-- A variable has its value in what is merged for a command. -/
theorem get?_mergedVariables (merged : mergedVariables p.files p.environ given = .ok env)
    (name : String) : env.get? name = lookUp p given name := by
  unfold mergedVariables at merged
  unfold lookUp
  cases named : filledOf given "--env-file" with
  | none =>
    rw [named] at merged
    cases merged
    simp
  | some path =>
    rw [named] at merged
    dsimp only at merged
    cases held : Settings.Variables.ofFile p.files path with
    | error fault =>
      rw [held] at merged
      cases merged
    | ok fromFile =>
      rw [held] at merged
      cases merged
      rw [Named.get?_override fromFile p.environ.distinct, Option.bind_some, held]
      rfl

/-- A variable that is set to a text is filled, unless the text is empty. -/
theorem filled?_eq_filter (env : Settings.Variables) (name : String) :
    env.filled? name = (env.get? name).filter (· ≠ "") := by
  unfold Settings.Variables.filled?
  cases env.get? name with
  | none => rfl
  | some value => by_cases empty : value = "" <;> simp [Option.filter, empty]

/-- No option of the command sets the password. -/
theorem ofOptions?_password (given : Named Given) :
    Settings.Field.ofOptions? (options given) .password = none := by
  simp [Settings.Field.ofOptions?, options, Settings.Field.optionValue?, Settings.Field.name]

/-- The password of settings is that of the variable, or else that of the file. -/
theorem password_of_load (loads : load p.files p.environ given = .ok settings) :
    (lookUp p given passwordVariable = some settings.connection.password ∧
        settings.connection.password ≠ "") ∨
      (Unset p given ∧ Holds p given settings.connection.password) := by
  obtain ⟨env, merged, loaded⟩ := ok_of_bind loads
  obtain ⟨s, read, made⟩ := Settings.load_eq_ok_iff.mp loaded
  have converted := made.connection.password
  have found := get?_mergedVariables merged passwordVariable
  unfold Settings.Field.effective at converted
  rw [ofOptions?_password, Option.none_or] at converted
  have supplied : Settings.Field.ofVariables? env .password =
      (env.filled? passwordVariable).map .text := rfl
  rw [supplied] at converted
  cases filled : env.filled? passwordVariable with
  | some value =>
    rw [filled] at converted
    cases converted
    rw [filled?_eq_filter, found, Option.filter_eq_some_iff] at filled
    exact .inl ⟨filled.1, by simpa using filled.2⟩
  | none =>
    rw [filled] at converted
    refine .inr ⟨?_, env, s, merged, read, ?_⟩
    · rw [filled?_eq_filter, found, Option.filter_eq_none_iff] at filled
      simpa [Unset] using filled
    · rw [Settings.text_eq]
      exact converted

/-- The password that a connection comes to has a source, and the operator is asked only where
there is no other. -/
theorem unlocked_password (loads : load p.files p.environ given = .ok settings) {asked : Terminal}
    (unlocks : Unlocks settings.connection t (.ok c, asked)) : Password p given t c.password := by
  rcases password_of_load loads with ⟨set, filled⟩ | ⟨unset, held⟩
  · cases unlocks with
    | held _ => exact .set set filled
    | typed blank answers => exact absurd blank filled
  · cases unlocks with
    | held filled => exact .file unset held filled
    | @typed password rest blank answers =>
      rw [blank] at held
      exact .typed ⟨unset, held⟩ (by rw [answers]; rfl)

/-- A password that is missing has no other source than the operator. -/
theorem unsupplied_of_blank (loads : load p.files p.environ given = .ok settings)
    (blank : settings.connection.password = "") : Unsupplied p given := by
  rcases password_of_load loads with ⟨set, filled⟩ | ⟨unset, held⟩
  · exact absurd blank filled
  · exact ⟨unset, blank ▸ held⟩

theorem prompted_questions (schema database : String) (t : Terminal) (tables : List String) :
    (prompted schema database t tables).questions = t.questions := by
  cases tables with
  | nil => rfl
  | cons first rest => simp [prompted, Terminal.print]

/-- Nobody is asked for a password once there is a connection. -/
theorem Works.questions {r : Finish × World × Terminal}
    (works : Works command given c policy w t operations r) : r.2.2.questions = t.questions := by
  cases works with
  | listed lists ran => rfl
  | waived wipes waives ran => rfl
  | unlisted asks ran => rfl
  | unconfirmed asks ran held other => exact prompted_questions ..
  | confirmed asks listed gate ran => exact prompted_questions ..

/-- On every way the variable of the password is gone in the end. -/
theorem Way.scrubbed {r : Ending × Session × Terminal} (way : Way command given p t operations r) :
    r.2.1.environ.entries = p.environ.entries.filter (·.1 != passwordVariable) := by
  cases way <;> rfl

/-- A way on which the operator was asked needed a password, and has put one question. -/
theorem Way.asks {r : Ending × Session × Terminal} (way : Way command given p t operations r) :
    r.2.2.questions = t.questions ∨
      ∃ settings question, load p.files p.environ given = .ok settings ∧
        settings.connection.password = "" ∧ r.2.2.questions = t.questions ++ [question] := by
  cases way with
  | unread loads => exact .inl rfl
  | unlogged loads configured => exact .inl rfl
  | refused loads configured unnamed => exact .inl rfl
  | @locked settings stop setup asked loads configured named typed =>
    have unlocks := withPassword_unlocks settings.connection t
    rw [typed] at unlocks
    cases unlocks with
    | closed blank ended => exact .inr ⟨settings, _, loads, blank, rfl⟩
  | @worked settings setup c asked operations r loads configured named typed works =>
    have unlocks := withPassword_unlocks settings.connection t
    rw [typed] at unlocks
    have same : (concluded p setup r).2.2.questions = asked.questions := works.questions
    rw [same]
    cases unlocks with
    | held filled => exact .inl rfl
    | typed blank answers => exact .inr ⟨settings, _, loads, blank, rfl⟩

/-- A way on which a password is missing and nobody answers leaves everything alone. -/
theorem Way.unmoved {r : Ending × Session × Terminal} (way : Way command given p t operations r)
    (loads : load p.files p.environ given = .ok settings)
    (blank : settings.connection.password = "") (ended : t.passwords = []) :
    r.2.1.world = p.world := by
  cases way with
  | unread other => rfl
  | unlogged other configured => rfl
  | refused other configured unnamed => rfl
  | locked other configured named typed => rfl
  | worked other configured named typed works =>
    cases loads.symm.trans other
    have unlocks := withPassword_unlocks settings.connection t
    rw [typed] at unlocks
    cases unlocks with
    | held filled => exact absurd blank filled
    | typed blank answers =>
      rw [ended] at answers
      cases answers

/-- All connections of a way are made with the password of the command. -/
theorem Way.connects {r : Ending × Session × Terminal}
    (way : Way command given p t operations r) :
    ∃ exchanges, r.2.1.world.server.record = p.world.server.record ++ exchanges ∧
      ∀ target reply, ⟨.connect target, reply⟩ ∈ exchanges →
        Password p given t target.password := by
  have uncalled {r : Ending × Session × Terminal}
      (world : r.2.1.world.server = p.world.server) :
      ∃ exchanges, r.2.1.world.server.record = p.world.server.record ++ exchanges ∧
        ∀ target reply, ⟨.connect target, reply⟩ ∈ exchanges →
          Password p given t target.password :=
    ⟨[], by rw [world, List.append_nil], by rintro target reply ⟨⟩⟩
  cases way with
  | unread loads => exact uncalled rfl
  | unlogged loads configured => exact uncalled rfl
  | refused loads configured unnamed => exact uncalled rfl
  | locked loads configured named typed => exact uncalled rfl
  | @worked settings setup c asked operations r loads configured named typed works =>
    have unlocks := withPassword_unlocks settings.connection t
    rw [typed] at unlocks
    obtain ⟨exchanges, ran, sound⟩ := works.sound
    refine ⟨exchanges, ran.record, ?_⟩
    intro target reply member
    rcases sound with rfl | checked
    · cases member
    · obtain rfl : target = c := checked.keeps _ member
      exact unlocked_password loads unlocks

/-- The password of a command has one source. Whatever the arguments, the environment, the files,
the operator and the database are, every run connects with the password of its first source, each
time that it connects; asks for it at most once, only if there is no other source, and before it
sends anything; and leaves an environment without the variable. -/
theorem password_has_one_source {args : List String}
    (reads : operatorMenu.read args = .run command given) (p : Session)
    (t : Terminal) :
    ∃ exchanges,
      (run args p t).2.1.world.server.record = p.world.server.record ++ exchanges ∧
      Keyed args given p t exchanges ∧
      ∀ a b, Password p given t a → Password p given t b → a = b := by
  obtain ⟨operations, way⟩ := run_goes reads p t
  obtain ⟨exchanges, record, keys⟩ := way.connects
  refine ⟨exchanges, record, ?_, fun a b => Password.unique⟩
  exact {
    scrubbed := way.scrubbed
    connects := keys
    asks := by
      rcases way.asks with unasked | ⟨settings, question, loads, blank, asked⟩
      · exact .inl unasked
      · exact .inr ⟨unsupplied_of_blank loads blank, question, asked⟩
    asks_first := by
      intro asked
      rcases way.asks with unasked | ⟨settings, question, loads, blank, -⟩
      · exact absurd unasked asked
      · obtain ⟨others, unanswered⟩ := run_goes reads p { t with passwords := [] }
        exact unanswered.unmoved loads blank rfl }

/-- A file of variables that sets the password. -/
def passwordFile : Files :=
  ({} : Files).write "db.env" "PGPASSWORD=stale\n".toUTF8

/-- An empty variable hides the one of the file. So the operator is asked, once for both connections
of a confirmed wipe. -/
theorem hidden_password_is_typed :
    let server : Server := { catalog := [("public", ["users"])] }
    let p : Session :=
      { environ := { entries := [("PGPASSWORD", ""), ("LANG", "C")] }, files := passwordFile,
        world := { server } }
    let t : Terminal := { input := "public\n".toList, passwords := ["typed", "unused"] }
    let args := ["reset-schema", "--env-file", "db.env"]
    (run args p t).2.1.environ.entries = [("LANG", "C")] ∧
      (run args p t).2.1.world.server.record.filterMap (fun x =>
        match x.call with
        | .connect target => some target.password
        | _ => none) = ["typed", "typed"] ∧
      (run args p t).2.2.questions = ["Enter PostgreSQL password for user postgres: "] ∧
      Keyed args [("--env-file", .text "db.env")] p t (run args p t).2.1.world.server.record ∧
      Unsupplied p [("--env-file", .text "db.env")] := by
  intro server p t args
  have reads : operatorMenu.read args =
      .run wipeCommand [("--env-file", .text "db.env")] := rfl
  have connected : (run args p t).2.1.world.server.record.filterMap (fun x =>
      match x.call with
      | .connect target => some target.password
      | _ => none) = ["typed", "typed"] := by decide +kernel
  have asked : (run args p t).2.2.questions = ["Enter PostgreSQL password for user postgres: "] := by
    decide +kernel
  have fresh : p.world.server.record = [] := rfl
  have remaining : p.environ.entries.filter (·.1 != passwordVariable) =
      [("LANG", "C")] := by decide
  obtain ⟨exchanges, record, keyed, -⟩ := password_has_one_source reads p t
  rw [fresh, List.nil_append] at record
  refine ⟨keyed.scrubbed.trans remaining, connected, asked, record ▸ keyed, ?_⟩
  rcases keyed.asks with unasked | ⟨unsupplied, -⟩
  · cases asked.symm.trans unasked
  · exact unsupplied

end Command
end SchemaWipe
