import SchemaWipe.Proofs.Atomicity
import SchemaWipe.Proofs.Listing
import SchemaWipe.Command.Run

/-! How a run of the command goes whose wipe has to be confirmed. It comes to the database at most
twice, for the listing and for the wipe, and the operator's answer stands between the two. All that
is claimed of such runs rests on `asking_run_passes`. -/
namespace SchemaWipe.Wipe
open Database

/-- The tables that statements were to drop, in their order. -/
def droppedTables (exchanges : List Exchange) : List String :=
  exchanges.filterMap (·.call.table?)

variable {target : Connection} {schema : String} {tables : List String}

theorem droppedTables_append (before after : List Exchange) :
    droppedTables (before ++ after) = droppedTables before ++ droppedTables after :=
  List.filterMap_append

theorem droppedTables_eq_nil {exchanges : List Exchange}
    (silent : ∀ x ∈ exchanges, x.call.table? = none) : droppedTables exchanges = [] :=
  List.filterMap_eq_nil_iff.mpr silent

/-- A plan drops its tables in their order. -/
theorem planned_tables (schema : String) (tables : List String) :
    (plan schema tables).filterMap Call.table? = tables := by
  have drops : (tables.map (Call.drop schema)).filterMap Call.table? = tables := by
    rw [List.filterMap_map]
    exact List.filterMap_some
  have opening : [Call.cursor, .relax, .list schema, .fetch].filterMap Call.table? = [] := rfl
  have ending : [Call.restore, .cursorClose, .commit].filterMap Call.table? = [] := rfl
  rw [plan, List.filterMap_append, List.filterMap_append, opening, drops, ending]
  simp

theorem tables_picked : Course.PicksPlanned Call.table? :=
  ⟨fun _ => rfl, rfl, rfl, rfl⟩

/-- A wipe that completes has dropped every table of its plan. -/
theorem droppedTables_completed (closing : Option Error) :
    droppedTables ((Course.completed closing).exchanges target (plan schema tables)) = tables :=
  (Course.picked_completed tables_picked target _ closing).trans (planned_tables schema tables)

/-- A wipe drops the tables of its plan in their order, up to where it fails. -/
theorem droppedTables_prefix {course : Course} (follows : course.Follows (plan schema tables))
    (target : Connection) :
    droppedTables (course.exchanges target (plan schema tables)) <+: tables := by
  have picked := Course.picked_prefix tables_picked follows target
  rwa [planned_tables] at picked

/-- A listing drops no tables. -/
theorem droppedTables_listing {listing : ListingCourse}
    (follows : listing.Follows (listingPlan schema)) (target : Connection) :
    droppedTables (listing.exchanges target (listingPlan schema)) = [] :=
  droppedTables_eq_nil (listing.drops_nothing follows target)

/-- What is dropped behind a listing is what the wipe drops. -/
theorem droppedTables_behind {listing : ListingCourse}
    (follows : listing.Follows (listingPlan schema)) (target : Connection)
    (after : List Exchange) :
    droppedTables (listing.exchanges target (listingPlan schema) ++ after) =
      droppedTables after := by
  rw [droppedTables_append, droppedTables_listing follows, List.nil_append]

/-- A wipe behind a listing that commits has dropped every table of its plan. -/
theorem droppedTables_committed {listing : ListingCourse} {course : Course}
    (listed : listing.Follows (listingPlan schema)) (follows : course.Follows (plan schema tables))
    (committed : Call.commit.passed ∈ listing.exchanges target (listingPlan schema) ++
      course.exchanges target (plan schema tables)) :
    droppedTables (listing.exchanges target (listingPlan schema) ++
      course.exchanges target (plan schema tables)) = tables := by
  have behind := (List.mem_append.mp committed).resolve_left
    (ListingCourse.commit_not_mem listed target none)
  obtain ⟨closing, rfl⟩ := (committed_iff_completed target follows).mp behind
  rw [droppedTables_behind listed, droppedTables_completed]

end SchemaWipe.Wipe

namespace SchemaWipe.Command
open CommandLine Wipe Database

/-- A command line that asks for a wipe under settings that can be read. -/
structure Wiping (args : List String) (given : Named Given) (p : Session) (settings : Settings) :
    Prop where
  reads : operatorMenu.read args = .run wipeCommand given
  loads : load p.files p.environ given = .ok settings

/-- A command line that asks for a wipe which has to be confirmed. -/
structure Asking (args : List String) (given : Named Given) (p : Session) (settings : Settings) :
    Prop extends Wiping args given p settings where
  unwaived : given.get? "--yes" = none
  required : settings.reset.requireConfirmation = true

/-- One terminal differs from another at most by what was asked about passwords. -/
structure Undisturbed (t asked : Terminal) : Prop where
  input : asked.input = t.input
  output : asked.output = t.output
  errors : asked.errors = t.errors

theorem Undisturbed.line?_eq {t asked : Terminal} (undisturbed : Undisturbed t asked) :
    asked.line? = t.line? := by
  simp [Terminal.line?, undisturbed.input]

/-- What a command ends with that came to the database. -/
def concluded (p : Session) (setup : Log.Setup) (r : Finish × World × Terminal) :
    Ending × Session × Terminal :=
  (r.1.ending.1,
    { p with environ := p.environ.remove passwordVariable, setup, world := r.2.1 },
    (r.2.2.complain (logLines setup p.world r.2.1)).complain r.1.ending.2)

/-- A line for each table, in their order. -/
inductive TableLines : List String → String → Prop where
  | nil : TableLines [] ""
  | cons {rest : List String} {below : String} (table : String) (lines : TableLines rest below) :
      TableLines (table :: rest) ("  " ++ table ++ "\n" ++ below)

/-- What announces that tables of a schema will be dropped: how many there are and where, a line for
each of them, and what has to be typed. No tables are announced by nothing. -/
inductive Announces (schema database : String) : List String → String → Prop where
  | nothing : Announces schema database [] ""
  | tables {tables : List String} {lines : String} (held : tables ≠ [])
      (each : TableLines tables lines) :
      Announces schema database tables
        ("The following " ++ toString tables.length ++ " tables in schema '" ++ schema ++
          "' of database '" ++ database ++ "' will be DROPPED:\n" ++ lines ++
          "Type '" ++ schema ++ "' to confirm: ")

/-- What the operator sees before a wipe begins: the tables and the question, if there are any
tables. -/
def shown (schema database : String) : List String → String
  | [] => ""
  | tables => preview schema database tables ++ confirmQuestion schema

/-- The terminal after the operator saw that, and answered. -/
def prompted (schema database : String) (t : Terminal) : List String → Terminal
  | [] => t
  | tables => ((t.print (preview schema database tables)).ask (confirmQuestion schema)).2

theorem tableLines_join (tables : List String) :
    TableLines tables (String.join (tables.map fun table => "  " ++ table ++ "\n")) := by
  induction tables with
  | nil => exact .nil
  | cons table rest ih =>
    rw [List.map_cons, String.join_cons]
    exact .cons table ih

/-- The text that is printed about tables, and the question behind it. -/
theorem preview_confirmQuestion (schema database : String) (tables : List String) :
    preview schema database tables ++ confirmQuestion schema =
      "The following " ++ toString tables.length ++ " tables in schema '" ++ schema ++
        "' of database '" ++ database ++ "' will be DROPPED:\n" ++
        String.join (tables.map fun table => "  " ++ table ++ "\n") ++
        "Type '" ++ schema ++ "' to confirm: " := by
  have plain (s : String) : toString s = s := rfl
  have mark : "' will be DROPPED:\n" = "' " ++ "will be DROPPED:\n" := by simp
  rw [mark]
  unfold preview confirmQuestion
  simp only [plain, String.append_assoc]

/-- What the operator sees announces the tables. -/
theorem shown_announces (schema database : String) (tables : List String) :
    Announces schema database tables (shown schema database tables) := by
  cases tables with
  | nil => exact .nothing
  | cons first rest =>
    have printed : shown schema database (first :: rest) =
        preview schema database (first :: rest) ++ confirmQuestion schema := rfl
    rw [printed, preview_confirmQuestion]
    exact .tables (List.cons_ne_nil first rest) (tableLines_join (first :: rest))

theorem prompted_output (schema database : String) (t : Terminal) (tables : List String) :
    (prompted schema database t tables).output = t.output ++ shown schema database tables := by
  cases tables with
  | nil => simp [prompted, shown]
  | cons first rest => simp [prompted, shown, Terminal.print, String.append_assoc]

theorem prompted_errors (schema database : String) (t : Terminal) (tables : List String) :
    (prompted schema database t tables).errors = t.errors := by
  cases tables with
  | nil => rfl
  | cons first rest => simp [prompted, Terminal.print]

variable {p : Session} {t asked : Terminal} {settings : Settings} {c d : Connection}
  {w : World} {meanwhile : Catalog → Catalog} {policy : WipePolicy} {tables : List String}

theorem withPassword_undisturbed (c : Connection) (t : Terminal) :
    Undisturbed t (withPassword c t).2 := by
  unfold withPassword Terminal.askPassword
  split
  · dsimp only
    cases t.passwords <;> exact ⟨rfl, rfl, rfl⟩
  · exact ⟨rfl, rfl, rfl⟩

/-- A connection changes only its password. -/
theorem withPassword_database (typed : (withPassword c t).1 = .ok d) : d.database = c.database := by
  unfold withPassword Terminal.askPassword at typed
  split at typed
  · dsimp only at typed
    cases passwords : t.passwords with
    | nil => simp [passwords] at typed
    | cons password rest =>
      simp only [passwords, Except.ok.injEq] at typed
      rw [← typed]
      rfl
  · cases typed
    rfl

theorem logLines_self (setup : Log.Setup) (w : World) : logLines setup w w = "" := by
  simp [logLines]

/-- A run that wipes either stops before the database, or comes to it with a connection. Which of
the two it is does not depend on the confirmation. -/
theorem wiping_run (p : Session) (settings : Settings) (t : Terminal) :
    (∃ r : Ending × Session × Terminal, r.2.1.world = p.world ∧ r.2.2.output = t.output ∧
      (∃ text, r.2.2.errors = t.errors ++ logLines r.2.1.setup p.world r.2.1.world ++ text) ∧
      ∀ args given meanwhile, Wiping args given p settings → run args p t meanwhile = r) ∨
    ∃ c asked setup, c.database = settings.connection.database ∧ Undisturbed t asked ∧
      ∀ args given meanwhile, Wiping args given p settings →
        run args p t meanwhile = concluded p setup
          (confirmAndWipe c settings.reset (given.get? "--yes").isSome p.world asked meanwhile) := by
  have performs : ∀ args given meanwhile, Wiping args given p settings →
      run args p t meanwhile = perform wipeCommand given p t meanwhile := by
    intro args given meanwhile wiping
    simp only [run, wiping.reads]
  -- Three things can still stop the run: the log, the name of the schema and the password. None of
  -- them looks at the option that waives the confirmation, so the case is the same for all arguments.
  cases configured : p.setup.configure settings.observability.logLevel with
  | mk outcome setup =>
    cases outcome with
    | error cause =>
      refine .inl ⟨(.stopped (.breakdown cause),
        { p with environ := p.environ.remove passwordVariable, setup }, t), rfl, rfl,
        ⟨"", by simp [logLines_self]⟩, ?_⟩
      intro args given meanwhile wiping
      rw [performs args given meanwhile wiping]
      simp only [perform, wiping.loads, configured]
    | ok _ =>
      cases named : Guard.identifier "schema" (some settings.reset.schema) with
      | error refusal =>
        refine .inl ⟨concluded p setup (.stopped (.refusal refusal), p.world, t), rfl, rfl,
          ⟨_, rfl⟩, ?_⟩
        intro args given meanwhile wiping
        rw [performs args given meanwhile wiping]
        simp only [perform, wiping.loads, configured, work, named, concluded]
      | ok name =>
        have undisturbed := withPassword_undisturbed settings.connection t
        cases typed : withPassword settings.connection t with
        | mk outcome asked =>
          rw [typed] at undisturbed
          cases outcome with
          | error stop =>
            refine .inl ⟨concluded p setup (.stopped stop, p.world, asked), rfl,
              undisturbed.output, ⟨_, by rw [← undisturbed.errors]; rfl⟩, ?_⟩
            intro args given meanwhile wiping
            rw [performs args given meanwhile wiping]
            simp only [perform, wiping.loads, configured, work, named, typed, concluded]
          | ok c =>
            have database := withPassword_database (congrArg Prod.fst typed)
            refine .inr ⟨c, asked, setup, database, undisturbed, ?_⟩
            intro args given meanwhile wiping
            rw [performs args given meanwhile wiping]
            simp only [perform, wiping.loads, configured, work, named, typed, concluded, ↓reduceIte]

/-- How the wipe itself finishes. -/
def Finish.ofWipe : Except Stop Report → Finish
  | .ok _ => .done
  | .error stop => .stopped stop

/-- What is printed about a wipe. One that fails is reported elsewhere. -/
def reported (database : String) : Except Stop Report → String
  | .ok report => wiped database report
  | .error _ => ""

theorem wipe_eq (c : Connection) (schema : String) (w : World) (t : Terminal) :
    wipe c schema w t =
      (.ofWipe (Wipe.wipe c (some schema) none w).1, (Wipe.wipe c (some schema) none w).2,
        t.print (reported c.database (Wipe.wipe c (some schema) none w).1)) := by
  unfold wipe
  cases Wipe.wipe c (some schema) none w with
  | mk outcome after =>
    cases outcome with
    | ok report => rfl
    | error stop => simp [Finish.ofWipe, reported, Terminal.print]

/-- A listing that found no tables needs no confirmation, and any other an answer. -/
theorem confirm_found {schema : String} (listed : (Wipe.list c (some schema) none w).1 = .ok tables) :
    confirm c schema w t =
      (if tables = [] then .ok () else (Guard.confirm schema t.line?).mapError .refused,
        (Wipe.list c (some schema) none w).2, prompted schema c.database t tables) := by
  cases listing : Wipe.list c (some schema) none w with
  | mk outcome after =>
    rw [listing] at listed
    cases listed
    cases tables with
    | nil => simp [confirm, listing, prompted]
    | cons first rest =>
      have line : (t.print (preview schema c.database (first :: rest))).line? = t.line? := rfl
      simp [confirm, listing, prompted, line]

/-- A wipe whose listing fails ends with it. -/
theorem unlisted_wipe {stop : Stop} (required : policy.requireConfirmation = true)
    (listed : (Wipe.list c (some policy.schema) none w).1 = .error stop) :
    confirmAndWipe c policy false w t meanwhile =
      (.stopped stop, (Wipe.list c (some policy.schema) none w).2, t) := by
  cases listing : Wipe.list c (some policy.schema) none w with
  | mk outcome after =>
    rw [listing] at listed
    cases listed
    simp [confirmAndWipe, confirm, required, listing]

/-- A wipe of tables that is not confirmed ends with the listing. -/
theorem unconfirmed_wipe (required : policy.requireConfirmation = true)
    (listed : (Wipe.list c (some policy.schema) none w).1 = .ok tables) (held : tables ≠ [])
    (other : ¬ Guard.Repeats policy.schema t.line?) :
    confirmAndWipe c policy false w t meanwhile =
      (.aborted (.confirmation policy.schema), (Wipe.list c (some policy.schema) none w).2,
        prompted policy.schema c.database t tables) := by
  have refused : (Guard.confirm policy.schema t.line?).mapError Unconfirmed.refused =
      .error (.refused (.confirmation policy.schema)) := by
    rw [Guard.confirm_eq_error other]
    rfl
  simp [confirmAndWipe, required, confirm_found listed, held, refused]

/-- A wipe of no tables, or one that is confirmed, goes on with what is committed by then. -/
theorem passed_wipe (required : policy.requireConfirmation = true)
    (listed : (Wipe.list c (some policy.schema) none w).1 = .ok tables)
    (gate : tables ≠ [] → Guard.Repeats policy.schema t.line?) :
    confirmAndWipe c policy false w t meanwhile =
      wipe c policy.schema ((Wipe.list c (some policy.schema) none w).2.changed meanwhile)
        (prompted policy.schema c.database t tables) := by
  by_cases held : tables = []
  · simp [confirmAndWipe, required, confirm_found listed, held]
  · have accepted : (Guard.confirm policy.schema t.line?).mapError Unconfirmed.refused = .ok () := by
      rw [Guard.confirm_eq_ok_iff.mpr (gate held)]
      rfl
    simp [confirmAndWipe, required, confirm_found listed, held, accepted]

/-- How a run goes that has to be confirmed, and what it has done by its end. The tables that the
operator sees are those of the listing; the wipe finds its own. -/
inductive Passage (settings : Settings) (p : Session) (t : Terminal)
    (meanwhile : Catalog → Catalog) (r : Ending × Session × Terminal) : Prop where
  /-- It stops before the database. -/
  | halted (world : r.2.1.world = p.world) (output : r.2.2.output = t.output)
  /-- The listing fails. -/
  | unlisted (target : Connection) (course : ListingCourse)
      (follows : course.Follows (listingPlan settings.reset.schema))
      (failed : course ≠ .completed none)
      (ran : Run p.world.server (course.exchanges target (listingPlan settings.reset.schema))
        r.2.1.world.server)
      (output : r.2.2.output = t.output)
  /-- There are tables, and the operator does not repeat the schema. -/
  | unconfirmed (target : Connection)
      (held : p.world.server.catalog.tables settings.reset.schema ≠ [])
      (other : ¬ Guard.Repeats settings.reset.schema t.line?)
      (ran : Run p.world.server
        ((ListingCourse.completed none).exchanges target (listingPlan settings.reset.schema))
        r.2.1.world.server)
      (ending : r.1 = .returned 1)
  /-- There are no tables or the operator repeats the schema, and a wipe follows. -/
  | wiped (target : Connection) (listed : Server) (course : Course)
      (gate : p.world.server.catalog.tables settings.reset.schema ≠ [] →
        Guard.Repeats settings.reset.schema t.line?)
      (listing : Run p.world.server
        ((ListingCourse.completed none).exchanges target (listingPlan settings.reset.schema))
        listed)
      (follows : course.Follows (plan settings.reset.schema
        ((meanwhile p.world.server.catalog).tables settings.reset.schema)))
      (wiping : Run { listed with catalog := meanwhile listed.catalog }
        (course.exchanges target (plan settings.reset.schema
          ((meanwhile p.world.server.catalog).tables settings.reset.schema)))
        r.2.1.world.server)
      (output : ∃ announced message,
        Announces settings.reset.schema settings.connection.database
          (p.world.server.catalog.tables settings.reset.schema) announced ∧
        r.2.2.output = t.output ++ announced ++ message)

/-- Every run that has to be confirmed goes one of these ways. -/
theorem asking_run_passes {args : List String} {given : Named Given}
    (asking : Asking args given p settings) (t : Terminal) (meanwhile : Catalog → Catalog) :
    Passage settings p t meanwhile (run args p t meanwhile) := by
  rcases wiping_run p settings t with ⟨r, world, output, -, runs⟩ | reached
  · rw [runs args given meanwhile asking.toWiping]
    exact .halted world output
  · obtain ⟨c, asked, setup, database, undisturbed, runs⟩ := reached
    rw [runs args given meanwhile asking.toWiping, asking.unwaived, Option.isSome_none]
    have line := undisturbed.line?_eq
    -- What the listing returns decides: without tables to show there is no question to answer.
    cases listed : (Wipe.list c (some settings.reset.schema) none p.world).1 with
    | error stop =>
      rw [unlisted_wipe asking.required listed]
      cases approved : approve c (some settings.reset.schema) with
      | error refusal => exact .halted (by rw [list_refused approved]; rfl) undisturbed.output
      | ok name =>
        cases approved_schema approved
        obtain ⟨course, follows, ran, ends⟩ :=
          approved_listing_takes_course approved none p.world
        refine .unlisted c course follows ?_ ran undisturbed.output
        rintro rfl
        rw [listed] at ends
        cases ends
    | ok tables =>
      obtain ⟨name, approved, rfl, ran⟩ := listing_found listed
      cases approved_schema approved
      by_cases gate : p.world.server.catalog.tables settings.reset.schema ≠ [] →
          Guard.Repeats settings.reset.schema asked.line?
      · rw [passed_wipe asking.required listed gate, wipe_eq]
        have found : ((Wipe.list c (some settings.reset.schema) none p.world).2.changed
            meanwhile).server.catalog = meanwhile p.world.server.catalog :=
          congrArg meanwhile (listing_keeps_catalog c _ none p.world)
        obtain ⟨course, follows, wiping, -⟩ := approved_wipe_takes_course approved none
          ((Wipe.list c (some settings.reset.schema) none p.world).2.changed meanwhile)
        rw [found] at follows wiping
        refine .wiped c _ course (line ▸ gate) ran follows wiping
          ⟨_, reported c.database (Wipe.wipe c (some settings.reset.schema) none
            ((Wipe.list c (some settings.reset.schema) none p.world).2.changed meanwhile)).1,
            shown_announces .., ?_⟩
        simp only [concluded, Terminal.complain, Terminal.print, prompted_output,
          undisturbed.output, database]
      · obtain ⟨held, other⟩ := Classical.not_imp.mp gate
        rw [unconfirmed_wipe asking.required listed held other]
        exact .unconfirmed c held (line ▸ other) ran rfl

end SchemaWipe.Command
