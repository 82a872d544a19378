import SchemaWipe.Proofs.Checked
import SchemaWipe.Proofs.Operations
import SchemaWipe.Proofs.Requests

/-! Every way to the database goes through the checks: the two operations, the requests of remote
callers, and the command with its listing and its wipe. A schema that is not plain is refused on all
of them before anything is sent, and by the command before anything is asked. -/
namespace SchemaWipe
open Database

/-- What an entry point does that was asked for a schema, or for none. -/
structure Screened (schema : Option String) (w after : Wipe.World) (outcome : Except Stop Unit) :
    Prop where
  /-- If it connects, the schema is plain, and everything is checked for it. -/
  reaches : ∃ exchanges, after.server.record = w.server.record ++ exchanges ∧
    Reaches schema exchanges
  /-- If the schema is not plain, it is refused, and the server is left alone. -/
  refuses : (∀ name, schema = some name → ¬ Guard.Plain name) →
    (∃ refusal, outcome = .error (.refusal refusal)) ∧ after.server = w.server

namespace Wipe

/-- An operation is screened if it is sound for every name, and does nothing where it is not
approved. -/
theorem screened_of_sound {α : Type} {connection : Connection} {w : World}
    (operation : Option String → Except Stop α × World)
    (sound : ∀ name, ∃ exchanges, Run w.server exchanges (operation (some name)).2.server ∧
      Sound connection name exchanges)
    (unapproved : ∀ {schema stop}, approve connection schema = .error stop →
      operation schema = (.error stop, w)) (schema : Option String) :
    Screened schema w (operation schema).2 ((operation schema).1.map fun _ => ()) where
  reaches := by
    cases schema with
    | none =>
      rw [unapproved (approve_unnamed (by simp))]
      exact ⟨[], by simp, by rintro target reply ⟨⟩⟩
    | some name =>
      obtain ⟨exchanges, ran, sound⟩ := sound name
      exact ⟨exchanges, ran.record, sound.reaches⟩
  refuses := by
    intro unnamed
    rw [unapproved (approve_unnamed unnamed)]
    exact ⟨⟨_, rfl⟩, rfl⟩

theorem wipe_screened (connection : Connection) (schema request : Option String) (w : World) :
    Screened schema w (wipe connection schema request w).2
      ((wipe connection schema request w).1.map fun _ => ()) :=
  screened_of_sound (wipe connection · request w) (wipe_sound connection · request w)
    (fun unapproved => wipe_refused unapproved request w) schema

theorem list_screened (connection : Connection) (schema request : Option String) (w : World) :
    Screened schema w (list connection schema request w).2
      ((list connection schema request w).1.map fun _ => ()) :=
  screened_of_sound (list connection · request w) (list_sound connection · request w)
    (fun unapproved => list_refused unapproved request w) schema

end Wipe

namespace Remote
open Wipe

/-- The schema that a request is about, if it names one. -/
def Request.aim (settings : Settings) : Request → Option String
  | .list schema _ => some (target settings schema)
  | .wipe schema _ _ => schema

variable {settings : Settings} {request : Request} {answer : Answer} {w after : World}

/-- What a request comes to makes sound exchanges with the connection of the settings. -/
theorem Step.sound (step : Step settings w request answer after) :
    ∃ exchanges, Run w.server exchanges after.server ∧
      (exchanges = [] ∨ ∃ name, request.aim settings = some name ∧
        Sound settings.connection name exchanges) := by
  cases step with
  | refused refuses => exact ⟨[], .stop, .inl rfl⟩
  | @wiped _ _ _ name request begun _ outcome permitted identified wipes issued =>
    obtain ⟨same, -⟩ := Guard.identifier_eq_ok_iff.mp permitted.identified
    obtain ⟨exchanges, ran, sound⟩ := wipe_sound settings.connection name (some request) begun
    rw [wipes, identified.server_eq] at ran
    exact ⟨exchanges, ran, .inr ⟨name, same, sound⟩⟩
  | unlisted identified aimed refuses => exact ⟨[], identified.server_eq ▸ .stop, .inl rfl⟩
  | @listed _ _ aim name request begun _ outcome identified aimed accepts lists issued =>
    obtain ⟨same, -⟩ := Guard.identifier_eq_ok_iff.mp accepts
    obtain ⟨exchanges, ran, sound⟩ := list_sound settings.connection name (some request) begun
    rw [lists, identified.server_eq] at ran
    exact ⟨exchanges, ran, .inr ⟨name, by rw [Request.aim, aimed.target_eq, same], sound⟩⟩

/-- A request about no plain schema is refused. -/
theorem Step.unnamed (step : Step settings w request answer after)
    (unnamed : ∀ name, request.aim settings = some name → ¬ Guard.Plain name) :
    (∃ refusal, answer = .error (.refusal refusal)) ∧ after.server = w.server := by
  cases step with
  | refused refuses => exact ⟨⟨_, rfl⟩, rfl⟩
  | wiped permitted identified wipes issued =>
    obtain ⟨same, plain⟩ := Guard.identifier_eq_ok_iff.mp permitted.identified
    exact absurd plain (unnamed _ same)
  | unlisted identified aimed refuses => exact ⟨⟨_, rfl⟩, identified.server_eq⟩
  | listed identified aimed accepts lists issued =>
    obtain ⟨same, plain⟩ := Guard.identifier_eq_ok_iff.mp accepts
    exact absurd plain (unnamed _ (by rw [Request.aim, aimed.target_eq, same]))

theorem serve_screened (settings : Settings) (request : Request) (w : World) :
    Screened (request.aim settings) w (serve settings request w).2
      ((serve settings request w).1.map fun _ => ()) := by
  have step : Step settings w request (serve settings request w).1 (serve settings request w).2 :=
    step_iff.mpr rfl
  constructor
  · obtain ⟨exchanges, ran, rfl | ⟨name, aim, sound⟩⟩ := step.sound
    · exact ⟨[], ran.record, by rintro target reply ⟨⟩⟩
    · exact ⟨exchanges, ran.record, aim ▸ sound.reaches⟩
  · intro unnamed
    obtain ⟨⟨refusal, refused⟩, server⟩ := step.unnamed unnamed
    exact ⟨⟨refusal, by rw [refused]; rfl⟩, server⟩

end Remote

namespace Command
open CommandLine Wipe

variable {command : String} {given : Named Given} {p : Session} {t : Terminal} {c : Connection}
  {policy : WipePolicy} {w : World} {settings : Settings} {operations : List Operation}

/-- Whatever a command does with its connection, it makes sound exchanges. -/
theorem Works.sound {r : Finish × World × Terminal}
    (works : Works command given c policy w t operations r) :
    ∃ exchanges, Run w.server exchanges r.2.1.server ∧ Sound c policy.schema exchanges := by
  have listing {w after : World} {outcome : Except Stop (List String)}
      (ran : Wipe.list c (some policy.schema) none w = (outcome, after)) :
      ∃ exchanges, Run w.server exchanges after.server ∧ Sound c policy.schema exchanges := by
    have sound := list_sound c policy.schema none w
    rwa [ran] at sound
  have wiping {w after : World} {outcome : Except Stop Report}
      (ran : Wipe.wipe c (some policy.schema) none w = (outcome, after)) :
      ∃ exchanges, Run w.server exchanges after.server ∧ Sound c policy.schema exchanges := by
    have sound := wipe_sound c policy.schema none w
    rwa [ran] at sound
  cases works with
  | listed lists ran => exact listing ran
  | waived wipes waives ran => exact wiping ran
  | unlisted asks ran => exact listing ran
  | unconfirmed asks ran held other => exact listing ran
  | confirmed asks listed gate ran =>
    obtain ⟨before, first, sound⟩ := listing listed
    obtain ⟨behind, second, later⟩ := wiping ran
    exact ⟨before ++ behind, first.append second, sound.append later⟩

/-- A name that is a standard one for a level of the log, in any case. -/
def StandardLevel (level : String) : Prop :=
  (Log.levels.get? (Text.upper level)).isSome = true

/-- A standard level can always be set up. -/
theorem configure_standard {level : String} (standard : StandardLevel level) (setup : Log.Setup) :
    ∃ after, setup.configure level = (.ok (), after) := by
  unfold Log.Setup.configure
  split
  · exact ⟨_, rfl⟩
  · obtain ⟨number, named⟩ := Option.isSome_iff_exists.mp standard
    simp [Log.misnomers_get?_of_level named]

/-- A run about a schema that is not plain ends before anything is asked or sent. -/
structure Barred (p : Session) (t : Terminal) (r : Ending × Session × Terminal) : Prop where
  ending : r.1 = .returned 2
  server : r.2.1.world.server = p.world.server
  questions : r.2.2.questions = t.questions
  output : r.2.2.output = t.output
  input : r.2.2.input = t.input

theorem Way.barred {r : Ending × Session × Terminal} (way : Way command given p t operations r)
    (loads : load p.files p.environ given = .ok settings)
    (standard : StandardLevel settings.observability.logLevel)
    (unnamed : ¬ Guard.Plain settings.reset.schema) : Barred p t r := by
  obtain ⟨setup, configures⟩ := configure_standard standard p.setup
  -- Of the ways only the refusal is left: the log is set up, and the others need a plain schema.
  cases way with
  | unread other =>
    rw [loads] at other
    cases other
  | unlogged other configured =>
    rw [loads] at other
    cases other
    rw [configures] at configured
    cases configured
  | refused other configured refuses => exact ⟨rfl, rfl, rfl, rfl, rfl⟩
  | locked other configured plain typed =>
    rw [loads] at other
    cases other
    exact absurd plain unnamed
  | worked other configured plain typed works =>
    rw [loads] at other
    cases other
    exact absurd plain unnamed

/-- A run either leaves the server alone, or has settings and makes sound exchanges about their
schema. -/
theorem Way.sound {r : Ending × Session × Terminal} (way : Way command given p t operations r) :
    r.2.1.world.server = p.world.server ∨
      ∃ settings c exchanges, load p.files p.environ given = .ok settings ∧
        Run p.world.server exchanges r.2.1.world.server ∧
        Sound c settings.reset.schema exchanges := by
  cases way with
  | unread loads => exact .inl rfl
  | unlogged loads configured => exact .inl rfl
  | refused loads configured refuses => exact .inl rfl
  | locked loads configured plain typed => exact .inl rfl
  | @worked settings setup c asked operations r loads configured plain typed works =>
    obtain ⟨exchanges, ran, sound⟩ := works.sound
    exact .inr ⟨settings, c, exchanges, loads, ran, sound⟩

/-- A run that connects was asked for with settings whose schema all its exchanges are about. -/
theorem run_reaches (args : List String) (p : Session) (t : Terminal) :
    ∃ exchanges, (run args p t).2.1.world.server.record = p.world.server.record ++ exchanges ∧
      ∀ target reply, ⟨.connect target, reply⟩ ∈ exchanges → ∃ command given settings,
        operatorMenu.read args = .run command given ∧
          load p.files p.environ given = .ok settings ∧
          Checked target settings.reset.schema exchanges := by
  cases reads : operatorMenu.read args with
  | help page =>
    simp only [run, reads]
    exact ⟨[], by simp, by rintro target reply ⟨⟩⟩
  | fault page message =>
    simp only [run, reads]
    exact ⟨[], by simp, by rintro target reply ⟨⟩⟩
  | run command given =>
    obtain ⟨operations, way⟩ := run_goes reads p t
    rcases way.sound with server | ⟨settings, c, exchanges, loads, ran, sound⟩
    · exact ⟨[], by rw [server, List.append_nil], by rintro target reply ⟨⟩⟩
    · refine ⟨exchanges, ran.record, ?_⟩
      intro target reply connects
      obtain ⟨name, same, checked⟩ := sound.reaches target reply connects
      cases same
      exact ⟨command, given, settings, rfl, loads, checked⟩

end Command

/-- Nothing reaches the database unchecked, whoever asks for it: an operation, a request of a remote
caller, or a run of the command. -/
theorem nothing_reaches_database_unchecked :
    (∀ (connection : Connection) (schema request : Option String) (w : Wipe.World),
      Screened schema w (Wipe.wipe connection schema request w).2
        ((Wipe.wipe connection schema request w).1.map fun _ => ()) ∧
      Screened schema w (Wipe.list connection schema request w).2
        ((Wipe.list connection schema request w).1.map fun _ => ())) ∧
    (∀ (settings : Settings) (request : Remote.Request) (w : Wipe.World),
      Screened (request.aim settings) w (Remote.serve settings request w).2
        ((Remote.serve settings request w).1.map fun _ => ())) ∧
    ∀ (args : List String) (p : Command.Session) (t : Command.Terminal),
      (∃ exchanges,
        (Command.run args p t).2.1.world.server.record = p.world.server.record ++ exchanges ∧
        ∀ target reply, ⟨.connect target, reply⟩ ∈ exchanges → ∃ command given settings,
          CommandLine.operatorMenu.read args = .run command given ∧
            Command.load p.files p.environ given = .ok settings ∧
            Checked target settings.reset.schema exchanges) ∧
      ∀ command given settings, CommandLine.operatorMenu.read args = .run command given →
        Command.load p.files p.environ given = .ok settings →
        Command.StandardLevel settings.observability.logLevel →
        ¬ Guard.Plain settings.reset.schema → Command.Barred p t (Command.run args p t) := by
  refine ⟨fun connection schema request w => ⟨Wipe.wipe_screened connection schema request w,
    Wipe.list_screened connection schema request w⟩, Remote.serve_screened, ?_⟩
  intro args p t
  refine ⟨Command.run_reaches args p t, ?_⟩
  intro command given settings reads loads standard unnamed
  obtain ⟨operations, way⟩ := Command.run_goes reads p t
  exact way.barred loads standard unnamed

/-- A schema that holds a blank is refused on the command line although tables of that name exist.
-/
theorem blank_in_schema_is_barred :
    let server : Server := { catalog := [("no schema", ["users"])] }
    let p : Command.Session := { world := { server } }
    let args := ["list-tables", "--schema", "no schema"]
    ¬ Guard.Plain "no schema" ∧ Command.Barred p {} (Command.run args p {}) := by
  intro server p args
  have unnamed : ¬ Guard.Plain "no schema" := by
    rw [← Guard.isIdentifier_iff]
    decide
  have runs := (nothing_reaches_database_unchecked.2.2 args p {}).2
  exact ⟨unnamed, runs CommandLine.listCommand [("--schema", .text "no schema")]
    { reset := { schema := "no schema" } } rfl rfl rfl unnamed⟩

end SchemaWipe
