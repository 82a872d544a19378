import SchemaWipe.Proofs.Gate
import SchemaWipe.Proofs.Identifier

/-! What a run of the command does, however it was asked for: whether it comes to the database,
which operations it makes there, and what it ends with. There are five ways on the database, and
four of stopping before it; `run_goes` is the one place that looks at how the command is programmed.
-/
namespace SchemaWipe.Command
open CommandLine Wipe Database

/-- An operation that a command makes, and what the operation ends with. -/
inductive Operation where
  | list (outcome : Except Stop (List String))
  | wipe (outcome : Except Stop Report)

/-- An operation raises an error. -/
inductive Operation.Raises : Operation → Stop → Prop where
  | list (stop : Stop) : Raises (.list (.error stop)) stop
  | wipe (stop : Stop) : Raises (.wipe (.error stop)) stop

/-- A command asks for a wipe which has to be confirmed. -/
structure Asks (command : String) (given : Named Given) (policy : WipePolicy) : Prop where
  wipes : command = wipeCommand
  unwaived : given.get? "--yes" = none
  required : policy.requireConfirmation = true

/-- How a listing finishes. -/
def Finish.ofList : Except Stop (List String) → Finish
  | .ok _ => .done
  | .error stop => .stopped stop

/-- What is printed about a listing. One that fails is reported elsewhere. -/
def found : Except Stop (List String) → String
  | .ok tables => String.join (tables.map fun table => table ++ "\n")
  | .error _ => ""

/-- What a command with a connection does on the database: its operations, and how it finishes. -/
inductive Works (command : String) (given : Named Given) (c : Connection) (policy : WipePolicy)
    (w : World) (t : Terminal) : List Operation → Finish × World × Terminal → Prop where
  /-- It lists tables. -/
  | listed {outcome : Except Stop (List String)} {after : World} (lists : command ≠ wipeCommand)
      (ran : Wipe.list c (some policy.schema) none w = (outcome, after)) :
      Works command given c policy w t [.list outcome]
        (.ofList outcome, after, t.print (found outcome))
  /-- It wipes without being confirmed. -/
  | waived {outcome : Except Stop Report} {after : World} (wipes : command = wipeCommand)
      (waives : ¬ Asks command given policy)
      (ran : Wipe.wipe c (some policy.schema) none w = (outcome, after)) :
      Works command given c policy w t [.wipe outcome]
        (.ofWipe outcome, after, t.print (reported c.database outcome))
  /-- The listing before the wipe fails. -/
  | unlisted {stop : Stop} {after : World} (asks : Asks command given policy)
      (ran : Wipe.list c (some policy.schema) none w = (.error stop, after)) :
      Works command given c policy w t [.list (.error stop)] (.stopped stop, after, t)
  /-- There are tables, and the operator does not repeat the schema. -/
  | unconfirmed {tables : List String} {after : World} (asks : Asks command given policy)
      (ran : Wipe.list c (some policy.schema) none w = (.ok tables, after)) (held : tables ≠ [])
      (other : ¬ Guard.Repeats policy.schema t.line?) :
      Works command given c policy w t [.list (.ok tables)]
        (.aborted (.confirmation policy.schema), after, prompted policy.schema c.database t tables)
  /-- There are no tables or the operator repeats the schema, and the wipe follows. -/
  | confirmed {tables : List String} {outcome : Except Stop Report} {middle after : World}
      (asks : Asks command given policy)
      (listed : Wipe.list c (some policy.schema) none w = (.ok tables, middle))
      (gate : tables ≠ [] → Guard.Repeats policy.schema t.line?)
      (ran : Wipe.wipe c (some policy.schema) none middle = (outcome, after)) :
      Works command given c policy w t [.list (.ok tables), .wipe outcome]
        (.ofWipe outcome, after,
          (prompted policy.schema c.database t tables).print (reported c.database outcome))

/-- What a run of a command does: its operations on the database, and what it ends with. -/
inductive Way (command : String) (given : Named Given) (p : Session) (t : Terminal) :
    List Operation → Ending × Session × Terminal → Prop where
  /-- Its settings cannot be read. -/
  | unread {e : Settings.Error} (loads : load p.files p.environ given = .error e) :
      Way command given p t []
        ((conclude (.ofSettings e)).1, { p with environ := p.environ.remove passwordVariable },
          t.complain (conclude (.ofSettings e)).2)
  /-- Its log cannot be set up. -/
  | unlogged {settings : Settings} {cause : Breakdown} {setup : Log.Setup}
      (loads : load p.files p.environ given = .ok settings)
      (configured : p.setup.configure settings.observability.logLevel = (.error cause, setup)) :
      Way command given p t []
        (.stopped (.breakdown cause),
          { p with environ := p.environ.remove passwordVariable, setup }, t)
  /-- Its schema is no identifier. -/
  | refused {settings : Settings} {refusal : Guard.Refusal} {setup : Log.Setup}
      (loads : load p.files p.environ given = .ok settings)
      (configured : p.setup.configure settings.observability.logLevel = (.ok (), setup))
      (unnamed : Guard.identifier "schema" (some settings.reset.schema) = .error refusal) :
      Way command given p t [] (concluded p setup (.stopped (.refusal refusal), p.world, t))
  /-- There is no password. -/
  | locked {settings : Settings} {stop : Stop} {setup : Log.Setup} {asked : Terminal}
      (loads : load p.files p.environ given = .ok settings)
      (configured : p.setup.configure settings.observability.logLevel = (.ok (), setup))
      (named : Guard.Plain settings.reset.schema)
      (typed : withPassword settings.connection t = (.error stop, asked)) :
      Way command given p t [] (concluded p setup (.stopped stop, p.world, asked))
  /-- It comes to the database. -/
  | worked {settings : Settings} {setup : Log.Setup} {c : Connection} {asked : Terminal}
      {operations : List Operation} {r : Finish × World × Terminal}
      (loads : load p.files p.environ given = .ok settings)
      (configured : p.setup.configure settings.observability.logLevel = (.ok (), setup))
      (named : Guard.Plain settings.reset.schema)
      (typed : withPassword settings.connection t = (.ok c, asked))
      (works : Works command given c settings.reset p.world asked operations r) :
      Way command given p t operations (concluded p setup r)

variable {command : String} {given : Named Given} {c : Connection} {policy : WipePolicy}

theorem list_eq (c : Connection) (schema : String) (w : World) (t : Terminal) :
    list c schema w t =
      (.ofList (Wipe.list c (some schema) none w).1, (Wipe.list c (some schema) none w).2,
        t.print (found (Wipe.list c (some schema) none w).1)) := by
  unfold list
  cases Wipe.list c (some schema) none w with
  | mk outcome after =>
    cases outcome with
    | ok tables => rfl
    | error stop => simp [Finish.ofList, found, Terminal.print]

/-- A wipe that has to be confirmed goes one of three ways. -/
theorem asking_wipe_works (asks : Asks command given policy) (w : World) (t : Terminal) :
    ∃ operations,
      Works command given c policy w t operations (confirmAndWipe c policy false w t) := by
  cases ran : Wipe.list c (some policy.schema) none w with
  | mk outcome after =>
    cases outcome with
    | error stop =>
      rw [unlisted_wipe asks.required (congrArg Prod.fst ran), ran]
      exact ⟨_, .unlisted asks ran⟩
    | ok tables =>
      by_cases gate : tables ≠ [] → Guard.Repeats policy.schema t.line?
      · rw [passed_wipe asks.required (congrArg Prod.fst ran) gate, wipe_eq, World.changed_id, ran]
        exact ⟨_, .confirmed asks ran gate rfl⟩
      · obtain ⟨held, other⟩ := Classical.not_imp.mp gate
        rw [unconfirmed_wipe asks.required (congrArg Prod.fst ran) held other, ran]
        exact ⟨_, .unconfirmed asks ran held other⟩

/-- A wipe that needs no confirmation is made at once. -/
theorem unasked_wipe (wipes : command = wipeCommand) (waives : ¬ Asks command given policy)
    (w : World) (t : Terminal) :
    confirmAndWipe c policy (given.get? "--yes").isSome w t = wipe c policy.schema w t := by
  have skipped : (policy.requireConfirmation && !(given.get? "--yes").isSome) = false := by
    rw [Bool.eq_false_iff]
    intro needed
    obtain ⟨required, unwaived⟩ := Bool.and_eq_true_iff.mp needed
    exact waives ⟨wipes, by simpa using unwaived, required⟩
  rw [confirmAndWipe, skipped]
  rfl

/-- A command that has a connection works on the database in one of five ways. -/
theorem connected_work (command : String) (given : Named Given) (c : Connection)
    (policy : WipePolicy) (w : World) (t : Terminal) :
    ∃ operations, Works command given c policy w t operations
      (if command = wipeCommand then
        confirmAndWipe c policy (given.get? "--yes").isSome w t
      else list c policy.schema w t) := by
  by_cases wipes : command = wipeCommand
  · rw [if_pos wipes]
    by_cases asks : Asks command given policy
    · rw [asks.unwaived]
      exact asking_wipe_works asks w t
    · rw [unasked_wipe wipes asks, wipe_eq]
      exact ⟨_, .waived wipes asks rfl⟩
  · rw [if_neg wipes, list_eq]
    exact ⟨_, .listed wipes rfl⟩

/-- Every run of a command goes one of the ways. -/
theorem run_goes {args : List String} (reads : operatorMenu.read args = .run command given)
    (p : Session) (t : Terminal) :
    ∃ operations, Way command given p t operations (run args p t) := by
  simp only [run, reads]
  cases loads : load p.files p.environ given with
  | error e =>
    refine ⟨[], ?_⟩
    simp only [perform, loads]
    exact .unread loads
  | ok settings =>
    cases configured : p.setup.configure settings.observability.logLevel with
    | mk outcome setup =>
      cases outcome with
      | error cause =>
        refine ⟨[], ?_⟩
        simp only [perform, loads, configured]
        exact .unlogged loads configured
      | ok _ =>
        have concludes : perform command given p t =
            concluded p setup (work command given settings p.world t) := by
          simp only [perform, loads, configured, concluded]
        rw [concludes]
        cases named : Guard.identifier "schema" (some settings.reset.schema) with
        | error refusal =>
          simp only [work, named]
          exact ⟨[], .refused loads configured named⟩
        | ok name =>
          obtain ⟨same, plain⟩ := Guard.identifier_eq_ok_iff.mp named
          cases same
          cases typed : withPassword settings.connection t with
          | mk outcome asked =>
            cases outcome with
            | error stop =>
              simp only [work, named, typed]
              exact ⟨[], .locked loads configured plain typed⟩
            | ok c =>
              obtain ⟨operations, works⟩ :=
                connected_work command given c settings.reset p.world asked
              simp only [work, named, typed]
              exact ⟨operations, .worked loads configured plain typed works⟩

end SchemaWipe.Command
