import SchemaWipe.Proofs.Deeds
import SchemaWipe.Proofs.Loading
import SchemaWipe.Proofs.Operations

/-! The password is only ever sent to the database, to connect. Two runs that differ in it are told
apart by nothing that they end with, log, print or commit; the calls that they make are the same,
too, but for the password in those that connect. For operations and requests this is the mirror of
their sequences; a run of the command comes to it by the settings that it reads. -/
namespace SchemaWipe
open Database Wipe

/-- What a caller sees of an outcome. -/
inductive Act.Seen where
  | wiped (outcome : Except Stop.Appearance Report)
  | listed (outcome : Except Stop.Appearance (List String))
  | answered (answer : Except Stop.Appearance (Named Value))
  | planted

/-- How an outcome looks to the caller. -/
def Act.Outcome.seen : Act.Outcome → Act.Seen
  | .wiped outcome => .wiped (outcome.mapError Stop.appearance)
  | .listed outcome => .listed (outcome.mapError Stop.appearance)
  | .answered answer => .answered (answer.mapError Stop.appearance)
  | .planted => .planted

/-- Another password looks the same in every outcome. -/
theorem Act.Outcome.seen_rekeyed {rekey : Rekey} (outcome : Act.Outcome) :
    (outcome.rekeyed rekey).seen = outcome.seen := by
  have same {α : Type} (result : Except Stop α) :
      (result.mapError (Stop.rekeyed rekey)).mapError Stop.appearance =
        result.mapError Stop.appearance := by
    cases result with
    | ok x => rfl
    | error stop => exact congrArg Except.error stop.appearance_rekeyed
  cases outcome <;> simp only [rekeyed, seen, same]

/-- Two sequences of acts are told apart by nothing but the password in the calls that connect. -/
structure DoneAlike (password : String) (done done' : List Deed × World) : Prop where
  outcomes : done'.1.map (·.outcome.seen) = done.1.map (·.outcome.seen)
  exchanges : done'.1.map (·.exchanges) =
    done.1.map (·.exchanges.map (Exchange.rekeyed fun _ => password))
  log : done'.2.log = done.2.log
  catalog : done'.2.server.catalog = done.2.server.catalog

/-- The same acts with another password are done alike. -/
theorem deeds_alike {password : String} (filled : password ≠ "") {acts : List Act}
    (given : ∀ act ∈ acts, ∀ c, act.connection? = some c → c.password ≠ "") (w : World) :
    DoneAlike password (deeds acts w) (deeds (acts.map (Act.rekeyed fun _ => password)) w) := by
  have keeps : ∀ act ∈ acts, act.Keeps fun _ => password := by
    intro act member c used
    have kept : password.isEmpty = false := by simpa using filled
    have kept' : c.password.isEmpty = false := by simpa using given act member c used
    exact kept.trans kept'.symm
  obtain ⟨same, beside⟩ := (Beside.self (fun _ => password) w).deeds keeps
  refine ⟨?_, ?_, beside.log trivial, beside.server.catalog⟩
  · rw [same, List.map_map]
    exact List.map_congr_left fun deed _ => deed.outcome.seen_rekeyed
  · rw [same, List.map_map]
    rfl

namespace Command
open CommandLine

variable {rekey : Rekey} {pasts : List Exchange × List Exchange} {opened : Prop} {w v : World}
  {c : Connection} {policy : WipePolicy}

/-- How the work of a command finishes, with the password in it replaced. -/
def Finish.rekeyed (rekey : Rekey) : Finish → Finish
  | .stopped why => .stopped (why.rekeyed rekey)
  | finish => finish

/-- A stop ends a run alike, and is told alike, with another password. -/
theorem conclude_rekeyed (stop : Stop) : conclude (stop.rekeyed rekey) = conclude stop := by
  cases stop with
  | failure f => simp only [Stop.rekeyed, conclude, f.category_rekeyed, f.message_rekeyed]
  | _ => rfl

theorem Finish.ending_rekeyed (finish : Finish) :
    (finish.rekeyed rekey).ending = finish.ending := by
  cases finish with
  | stopped stop => exact conclude_rekeyed stop
  | done => rfl
  | aborted refusal => rfl

/-- Two results of work on the database are beside each other: they finish alike, passwords apart,
at the same terminal. -/
structure Alike (rekey : Rekey) (pasts : List Exchange × List Exchange)
    (r r' : Finish × World × Terminal) : Prop where
  finish : r'.1 = r.1.rekeyed rekey
  beside : Beside rekey pasts True False r.2.1 r'.2.1
  terminal : r'.2.2 = r.2.2

theorem list_alike (beside : Beside rekey pasts True opened w v) (keeps : c.Keeps rekey)
    (schema : String) (t : Terminal) :
    Alike rekey pasts (list c schema w t) (list (c.rekeyed rekey) schema v t) := by
  unfold list
  cases listed : Wipe.list c (some schema) none w with
  | mk outcome after =>
    obtain ⟨last, listed', beside⟩ := beside.lists keeps (fun _ => rfl) listed
    rw [listed']
    cases outcome <;> exact ⟨rfl, beside, rfl⟩

theorem wipe_alike (beside : Beside rekey pasts True opened w v) (keeps : c.Keeps rekey)
    (schema : String) (t : Terminal) :
    Alike rekey pasts (wipe c schema w t) (wipe (c.rekeyed rekey) schema v t) := by
  unfold wipe
  cases wiped : Wipe.wipe c (some schema) none w with
  | mk outcome after =>
    obtain ⟨last, wiped', beside⟩ := beside.wipes keeps (fun _ => rfl) wiped
    rw [wiped']
    cases outcome <;> exact ⟨rfl, beside, rfl⟩

/-- What the operator sees and answers before a wipe is the same. -/
theorem confirmAndWipe_alike (beside : Beside rekey pasts True opened w v) (keeps : c.Keeps rekey)
    (yes : Bool) (t : Terminal) :
    Alike rekey pasts (confirmAndWipe c policy yes w t)
      (confirmAndWipe (c.rekeyed rekey) policy yes v t) := by
  unfold confirmAndWipe confirm
  split
  · cases listed : Wipe.list c (some policy.schema) none w with
    | mk outcome after =>
      obtain ⟨last, listed', beside⟩ := beside.lists keeps (fun _ => rfl) listed
      rw [listed']
      cases outcome with
      | error stop => exact ⟨rfl, beside, rfl⟩
      | ok tables =>
        rw [Stop.mapError_ok]
        cases tables with
        | nil => exact wipe_alike beside keeps _ t
        | cons first rest =>
          dsimp only [Connection.rekeyed_database]
          generalize (t.print (preview policy.schema c.database (first :: rest))).ask
            (confirmQuestion policy.schema) = answered
          cases Guard.confirm policy.schema answered.1 with
          | error refusal => exact ⟨rfl, beside, rfl⟩
          | ok _ => exact wipe_alike beside keeps _ answered.2
  · exact wipe_alike beside keeps _ t

/-- A password is asked for in both runs or in neither. One that is typed takes the place of any
other, so what was different before makes no difference any more. -/
theorem withPassword_rekeyed (keeps : c.Keeps rekey) (t : Terminal) :
    ∃ rekey', withPassword (c.rekeyed rekey) t =
        ((withPassword c t).1.map (Connection.rekeyed rekey'), (withPassword c t).2) ∧
      ∀ d, (withPassword c t).1 = .ok d → d.Keeps rekey' := by
  have empty : (c.rekeyed rekey).password.isEmpty = c.password.isEmpty := keeps
  have question : passwordQuestion (c.rekeyed rekey) = passwordQuestion c := rfl
  by_cases asked : c.password.isEmpty = true
  · have same : withPassword (c.rekeyed rekey) t = withPassword c t := by
      rw [withPassword, withPassword, empty, question, if_pos asked, if_pos asked]
      rfl
    refine ⟨id, ?_, fun d _ => rfl⟩
    rw [same]
    cases withPassword c t with
    | mk outcome asked => cases outcome <;> rfl
  · rw [withPassword, withPassword, empty, if_neg asked, if_neg asked]
    refine ⟨rekey, rfl, ?_⟩
    rintro d ⟨⟩
    exact keeps

theorem work_alike {settings : Settings} (keeps : settings.connection.Keeps rekey)
    (command : String) (given : Named Given) (w : World) (t : Terminal) :
    ∃ rekey', Alike rekey' (w.server.record, w.server.record) (work command given settings w t)
      (work command given (settings.rekeyed rekey) w t) := by
  have unmoved (finish : Finish) (keyless : finish.rekeyed id = finish) (t : Terminal) :
      Alike id (w.server.record, w.server.record) (finish, w, t) (finish, w, t) :=
    ⟨keyless.symm, .unmoved w, rfl⟩
  have reset : (settings.rekeyed rekey).reset = settings.reset := rfl
  unfold work
  dsimp only
  rw [reset]
  cases Guard.identifier "schema" (some settings.reset.schema) with
  | error refusal => exact ⟨id, unmoved _ rfl t⟩
  | ok name =>
    obtain ⟨rekey', typed', keeps⟩ := withPassword_rekeyed keeps t
    have connection : (settings.rekeyed rekey).connection = settings.connection.rekeyed rekey := rfl
    rw [connection, typed']
    cases typed : withPassword settings.connection t with
    | mk outcome asked =>
      rw [typed] at keeps
      cases outcome with
      | error stop =>
        refine ⟨id, unmoved _ ?_ asked⟩
        rw [Finish.rekeyed, stop.rekeyed_id]
      | ok c =>
        have keeps := keeps c rfl
        have beside := Beside.self rekey' w
        dsimp only [Except.map]
        split
        · exact ⟨rekey', confirmAndWipe_alike beside keeps _ asked⟩
        · exact ⟨rekey', list_alike beside keeps _ asked⟩

/-- Two runs of the command are told apart by nothing but the password in the calls that connect. -/
structure Indistinct (w : World) (r r' : Ending × Session × Terminal) : Prop where
  ending : r'.1 = r.1
  terminal : r'.2.2 = r.2.2
  setup : r'.2.1.setup = r.2.1.setup
  beside : ∃ rekey, Beside rekey (w.server.record, w.server.record) True False r.2.1.world
    r'.2.1.world

/-- The same settings but for the password are run alike. -/
theorem perform_indistinct {p q : Session} {command : String} {given : Named Given}
    (world : q.world = p.world) (setup : q.setup = p.setup)
    (loads : Settings.LoadAlike (load p.files p.environ given) (load q.files q.environ given))
    (t : Terminal) :
    Indistinct p.world (perform command given p t) (perform command given q t) := by
  obtain ⟨rekey, alike, keeps⟩ := loads
  unfold perform
  dsimp only
  rw [alike, world, setup]
  cases loaded : load p.files p.environ given with
  | error e => exact ⟨rfl, rfl, rfl, id, .unmoved p.world⟩
  | ok settings =>
    have level : (settings.rekeyed rekey).observability = settings.observability := rfl
    dsimp only [Except.map]
    rw [level]
    cases p.setup.configure settings.observability.logLevel with
    | mk outcome configured =>
      cases outcome with
      | error cause => exact ⟨rfl, rfl, rfl, id, .unmoved p.world⟩
      | ok _ =>
        obtain ⟨rekey', finish, beside, terminal⟩ :=
          work_alike (keeps settings loaded) command given p.world t
        have logged := beside.log trivial
        have lines : ∀ before, logLines configured before
            (work command given (settings.rekeyed rekey) p.world t).2.1 =
            logLines configured before (work command given settings p.world t).2.1 := by
          intro before
          rw [logLines, logged, logLines]
        dsimp only
        rw [finish, Finish.ending_rekeyed, terminal, lines]
        exact ⟨rfl, rfl, rfl, rekey', beside⟩

/-- The session with a password in its environment. -/
def Session.withPassword (p : Session) (password : String) : Session :=
  { p with environ := p.environ.put passwordVariable password }

/-- The file of the settings that a command line comes to refers to no password. -/
def Unreferring (args : List String) (p : Session) : Prop :=
  ∀ command given env file value, operatorMenu.read args = .run command given →
    mergedVariables p.files p.environ given = .ok env → configPath env given = some file →
      Settings.stored? p.files file = some value → ¬ value.Refers passwordVariable

/-- What a command finds set differs at most in the password. -/
theorem mergedVariables_differ (files : Files) (environ : Settings.Environment) (given : Named Given)
    {a b : String} (filled : a ≠ "") (filled' : b ≠ "") :
    (∃ e, mergedVariables files (environ.put passwordVariable a) given = .error e ∧
      mergedVariables files (environ.put passwordVariable b) given = .error e) ∨
    ∃ env env', mergedVariables files (environ.put passwordVariable a) given = .ok env ∧
      mergedVariables files (environ.put passwordVariable b) given = .ok env' ∧
      Settings.Variables.Differ passwordVariable env env' := by
  have same (env : Settings.Variables) : Settings.Variables.Differ passwordVariable env env :=
    .refl _ _ _
  cases named : filledOf given "--env-file" with
  | none =>
    simp only [mergedVariables, named]
    exact .inr ⟨_, _, rfl, rfl, (same environ.entries).apart filled filled'⟩
  | some path =>
    cases held : Settings.Variables.ofFile files path with
    | error fault =>
      simp only [mergedVariables, named, held]
      exact .inl ⟨_, rfl, rfl⟩
    | ok fromFile =>
      simp only [mergedVariables, named, held]
      exact .inr ⟨_, _, rfl, rfl, (same fromFile).on_top filled filled' environ.entries⟩

/-- A command reads the same settings but for the password. -/
theorem load_alike {args : List String} {command : String} {given : Named Given} {p : Session}
    {a b : String} (reads : operatorMenu.read args = .run command given) (filled : a ≠ "")
    (filled' : b ≠ "") (unreferring : Unreferring args (p.withPassword a)) :
    Settings.LoadAlike (load p.files (p.withPassword a).environ given)
      (load p.files (p.withPassword b).environ given) := by
  rcases mergedVariables_differ p.files p.environ given filled filled' with
    ⟨e, merged, merged'⟩ | ⟨env, env', merged, merged', differ⟩
  · simp only [load, Session.withPassword, merged, merged']
    exact .error e
  · have paths : configPath env' given = configPath env given := by
      rw [configPath, differ.others pathVariable (by decide), configPath]
    simp only [load, Session.withPassword, merged, merged']
    dsimp only [bind, Except.bind]
    rw [paths]
    exact Settings.load_alike (options given) differ fun file value named stored =>
      unreferring command given env file value reads merged named stored

/-- No run of the command lets anybody but the database see which password it was given. -/
theorem run_indistinct {args : List String} {p : Session} {a b : String} (filled : a ≠ "")
    (filled' : b ≠ "") (unreferring : Unreferring args (p.withPassword a)) (t : Terminal) :
    Indistinct p.world (run args (p.withPassword a) t) (run args (p.withPassword b) t) := by
  have columns : (p.withPassword b).columns = (p.withPassword a).columns := by
    have apart : columnsVariable ≠ passwordVariable := by decide
    have same (password : String) : (p.withPassword password).columns = p.columns :=
      congrArg columnsOf (Named.get?_put_of_ne apart password p.environ.entries)
    rw [same, same]
  unfold run
  cases reads : operatorMenu.read args with
  | help page =>
    dsimp only
    rw [columns]
    exact ⟨rfl, rfl, rfl, id, .unmoved p.world⟩
  | fault page message =>
    dsimp only
    rw [columns]
    exact ⟨rfl, rfl, rfl, id, .unmoved p.world⟩
  | run command given =>
    exact perform_indistinct (p := p.withPassword a) (q := p.withPassword b) rfl rfl
      (load_alike reads filled filled' unreferring) t

end Command

/-- The password is only ever sent to the database, to connect. The same sequence of operations and
requests with another password gives the same results and errors, the same log and the same tables,
and its calls differ in the password of those that connect; the text of a connection leaves it out.
A run of the command with another password in its environment ends the same and prints and asks the
same, as long as the file of its settings does not refer to the variable. -/
theorem password_is_only_sent_to_connect :
    (∀ (acts : List Act) (password : String) (w : World), password ≠ "" →
      (∀ act ∈ acts, ∀ c, act.connection? = some c → c.password ≠ "") →
      DoneAlike password (deeds acts w) (deeds (acts.map (Act.rekeyed fun _ => password)) w)) ∧
    (∀ (c : Connection) (password : String), (c.withPassword password).text = c.text) ∧
    ∀ (args : List String) (p : Command.Session) (t : Command.Terminal) (a b : String),
      a ≠ "" → b ≠ "" → Command.Unreferring args (p.withPassword a) →
      Command.Indistinct p.world (Command.run args (p.withPassword a) t)
        (Command.run args (p.withPassword b) t) :=
  ⟨fun _ _ w filled given => deeds_alike filled given w, fun _ _ => rfl,
    fun _ _ t _ _ filled filled' unreferring => Command.run_indistinct filled filled' unreferring t⟩

/-- A refused login is told the same whichever password it was made with, though the calls differ.
-/
theorem refused_login_tells_no_password :
    let error : Error := { kind := .database "OperationalError", message := "login refused" }
    let server : Server := { faults := [{ point := .connect, error }] }
    let acts : List Act := [.wipe { password := "first" } (some "public") none]
    let p : Command.Session := { world := { server } }
    let first := Command.run ["list-tables"] (p.withPassword "first") {}
    let second := Command.run ["list-tables"] (p.withPassword "second") {}
    DoneAlike "second" (deeds acts { server })
        (deeds (acts.map (Act.rekeyed fun _ => "second")) { server }) ∧
      first.1 = .returned 3 ∧ Command.Indistinct p.world first second ∧
      first.2.1.world.server.record ≠ second.2.1.world.server.record := by
  intro error server acts p first second
  have given : ∀ act ∈ acts, ∀ c, act.connection? = some c → c.password ≠ "" := by
    intro act member c used
    obtain rfl := List.mem_singleton.mp member
    cases used
    decide
  have unreferring : Command.Unreferring ["list-tables"] (p.withPassword "first") := by
    intro command given env file value reads merged named
    cases reads
    cases merged
    cases named
  obtain ⟨operations, -, runs⟩ := password_is_only_sent_to_connect
  exact ⟨operations acts "second" { server } (by decide) given, rfl,
    runs ["list-tables"] p {} "first" "second" (by decide) (by decide) unreferring,
    by decide +kernel⟩

end SchemaWipe
