import SchemaWipe.Command.Terminal
import SchemaWipe.CommandLine.Programs
import SchemaWipe.Settings.Load
import SchemaWipe.Wipe.Job

/-! The command for operators: production `main`. It lists the tables of a schema or wipes it.
Before a wipe the operator sees the tables and has to type the name of the schema. The listing and
the wipe have a connection each, and what other clients commit between the two is a parameter of the
command: as a rule nothing. -/
namespace SchemaWipe.Command
open CommandLine Wipe Database

/-- What commands share that run one after the other. -/
structure Session where
  environ : Settings.Environment := {}
  files : Files := {}
  setup : Log.Setup := {}
  world : World := {}

/-- How many columns help pages have. -/
def Session.columns (s : Session) : Nat :=
  columnsOf (s.environ.entries.get? columnsVariable)

/-- How a command ends. -/
inductive Ending where
  | returned (code : Nat)
  /-- The command line asked for nothing to be done. -/
  | exited (code : Nat)
  /-- Nothing caught why it ended. -/
  | stopped (why : Stop)

/-- The exit code of a wipe that the operator did not confirm: production `EXIT_ABORTED`. -/
def abortedCode : Nat := 1

/-- The exit code of a command whose settings or request are refused: production `EXIT_CONFIG`. -/
def refusedCode : Nat := 2

/-- The text given for an option. -/
def textOf (given : Named Given) (name : String) : Option String :=
  match given.get? name with
  | some (.text s) => some s
  | _ => none

/-- The text given for an option, if it is not empty. -/
def filledOf (given : Named Given) (name : String) : Option String :=
  (textOf given name).filter (!·.isEmpty)

/-- The value given for an option, as a setting. -/
def settingOf (given : Named Given) (name : String) : Value :=
  match given.get? name with
  | some (.text s) => .text s
  | some (.integer i) => .int i
  | _ => .null

/-- The settings that options set. -/
def options (given : Named Given) : Named Value :=
  [("host", settingOf given "--host"), ("port", settingOf given "--port"),
    ("user", settingOf given "--user"), ("database", settingOf given "--database"),
    ("schema", settingOf given "--schema"), ("log_level", settingOf given "--log-level")]

/-- The variables of a command: those of the environment win over those of a file. Production
`_load`, up to where it reads the settings. -/
def mergedVariables (files : Files) (environ : Settings.Environment) (given : Named Given) :
    Except Settings.Error Settings.Variables :=
  match filledOf given "--env-file" with
  | none => .ok environ.entries
  | some path =>
    match Settings.Variables.ofFile files path with
    | .ok fromFile => .ok (fromFile.override environ.entries)
    | .error fault => .error (.fault fault)

/-- The variable that names the file of the settings. -/
def pathVariable : String := "SCHEMA_RESET_CONFIG"

/-- The file of the settings: the one that an option names, or else a variable. -/
def configPath (env : Settings.Variables) (given : Named Given) : Option String :=
  (filledOf given "--config").orElse fun _ => env.get? pathVariable

/-- Reads the settings of a command: production `_load`. -/
def load (files : Files) (environ : Settings.Environment) (given : Named Given) :
    Except Settings.Error Settings := do
  let env ← mergedVariables files environ given
  Settings.load files (configPath env given) env (options given)

/-- The variable that is taken away from the environment, so that no child of the program inherits
it. -/
def passwordVariable : String := "PGPASSWORD"

/-- The question for a password. -/
def passwordQuestion (c : Connection) : String :=
  s!"Enter PostgreSQL password for user {c.user}: "

/-- The connection with a password: the one it has, or one that the operator types. Production
`_with_password`. -/
def withPassword (c : Connection) (t : Terminal) : Except Stop Connection × Terminal :=
  if c.password.isEmpty then
    match t.askPassword (passwordQuestion c) with
    | (none, t) => (.error (.breakdown .endOfInput), t)
    | (some password, t) => (.ok (c.withPassword password), t)
  else (.ok c, t)

/-- The tables that are about to be dropped, as production `_confirm` prints them. -/
def preview (schema database : String) (tables : List String) : String :=
  s!"The following {tables.length} tables in schema '{schema}' of database '{database}' " ++
    "will be DROPPED:\n" ++ String.join (tables.map fun table => "  " ++ table ++ "\n")

/-- The question that a wipe is confirmed with. -/
def confirmQuestion (schema : String) : String :=
  s!"Type '{schema}' to confirm: "

/-- Why a wipe is not confirmed. -/
inductive Unconfirmed where
  | refused (refusal : Guard.Refusal)
  | stopped (why : Stop)

/-- Has the operator confirm the wipe of a schema that holds tables: production `_confirm`. -/
def confirm (c : Connection) (schema : String) (w : World) (t : Terminal) :
    Except Unconfirmed Unit × World × Terminal :=
  match Wipe.list c (some schema) none w with
  | (.error stop, w) => (.error (.stopped stop), w, t)
  | (.ok [], w) => (.ok (), w, t)
  | (.ok tables, w) =>
    let (answer, t) := (t.print (preview schema c.database tables)).ask (confirmQuestion schema)
    ((Guard.confirm schema answer).mapError .refused, w, t)

/-- The message after a wipe. -/
def wiped (database : String) (report : Report) : String :=
  s!"All {report.count} tables in schema '{report.schema}' of database '{database}' " ++
    "have been dropped.\n"

/-- How the part of a command that works on the database ends. -/
inductive Finish where
  | done
  | aborted (refusal : Guard.Refusal)
  | stopped (why : Stop)

/-- Wipes a schema. -/
def wipe (c : Connection) (schema : String) (w : World) (t : Terminal) :
    Finish × World × Terminal :=
  match Wipe.wipe c (some schema) none w with
  | (.error stop, w) => (.stopped stop, w, t)
  | (.ok report, w) => (.done, w, t.print (wiped c.database report))

/-- Wipes a schema, once it is confirmed where that is needed: production `_reset`. Other clients
may have changed what is committed by the time that it is. -/
def confirmAndWipe (c : Connection) (policy : WipePolicy) (yes : Bool) (w : World)
    (t : Terminal) (meanwhile : Catalog → Catalog := id) : Finish × World × Terminal :=
  if policy.requireConfirmation && !yes then
    match confirm c policy.schema w t with
    | (.error (.refused refusal), w, t) => (.aborted refusal, w, t)
    | (.error (.stopped why), w, t) => (.stopped why, w, t)
    | (.ok (), w, t) => wipe c policy.schema (w.changed meanwhile) t
  else wipe c policy.schema w t

/-- Lists the tables of a schema: production `_list`. -/
def list (c : Connection) (schema : String) (w : World) (t : Terminal) :
    Finish × World × Terminal :=
  match Wipe.list c (some schema) none w with
  | (.error stop, w) => (.stopped stop, w, t)
  | (.ok tables, w) =>
    (.done, w, t.print (String.join (tables.map fun table => table ++ "\n")))

/-- The part of a command after its log is set up. -/
def work (command : String) (given : Named Given) (settings : Settings) (w : World)
    (t : Terminal) (meanwhile : Catalog → Catalog := id) : Finish × World × Terminal :=
  let schema := settings.reset.schema
  match Guard.identifier "schema" (some schema) with
  | .error refusal => (.stopped (.refusal refusal), w, t)
  | .ok _ =>
    match withPassword settings.connection t with
    | (.error stop, t) => (.stopped stop, w, t)
    | (.ok connection, t) =>
      if command = wipeCommand then
        confirmAndWipe connection settings.reset (given.get? "--yes").isSome w t meanwhile
      else list connection schema w t

/-- The records that were added to a log and pass it, as lines. -/
def logLines (setup : Log.Setup) (before after : World) : String :=
  String.join (((after.log.drop before.log.length).filter setup.passes).map Log.Record.line)

/-- The ending of a command that stops, and what is printed about it: the errors that production
`main` catches, and those that it does not. -/
def conclude : Stop → Ending × String
  | .fault cause => (.returned refusedCode, s!"error: {cause.message}\n")
  | .refusal cause => (.returned refusedCode, s!"error: {cause.message}\n")
  | .failure cause => (.returned cause.category.exitCode, s!"error: {cause.message}\n")
  | why => (.stopped why, "")

/-- The ending of the part of a command that works on the database. -/
def Finish.ending : Finish → Ending × String
  | .done => (.returned 0, "")
  | .aborted refusal => (.returned abortedCode, s!"Aborted: {refusal.message}\n")
  | .stopped why => conclude why

/-- Runs a command that the command line asks for. -/
def perform (command : String) (given : Named Given) (p : Session) (t : Terminal)
    (meanwhile : Catalog → Catalog := id) : Ending × Session × Terminal :=
  let loaded := load p.files p.environ given
  let p := { p with environ := p.environ.remove passwordVariable }
  match loaded with
  | .error e =>
    let (ending, text) := conclude (.ofSettings e)
    (ending, p, t.complain text)
  | .ok settings =>
    match p.setup.configure settings.observability.logLevel with
    | (.error cause, setup) => (.stopped (.breakdown cause), { p with setup }, t)
    | (.ok (), setup) =>
      let (finish, world, t) := work command given settings p.world t meanwhile
      let (ending, text) := finish.ending
      (ending, { p with setup, world }, (t.complain (logLines setup p.world world)).complain text)

/-- Runs the command for operators: production `main`. -/
def run (args : List String) (p : Session) (t : Terminal)
    (meanwhile : Catalog → Catalog := id) : Ending × Session × Terminal :=
  match operatorMenu.read args with
  | .help page => (.exited 0, p, t.print (page.text p.columns))
  | .fault page message => (.exited 2, p, t.complain (page.faultText p.columns message))
  | .run command given => perform command given p t meanwhile

end SchemaWipe.Command
