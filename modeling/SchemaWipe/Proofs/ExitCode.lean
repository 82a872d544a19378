import SchemaWipe.Proofs.Effect
import SchemaWipe.Proofs.Operations

/-! What the exit code of a command tells. Zero behind a wipe means that the schema is emptied, and
any other code that nothing has changed; two means that the database was never called; and the codes
of failures are told exactly where an operation of the run raised a failure of that category. Codes
come from three places (what is refused, what is not confirmed, what an operation raises), so `run`
is followed through all its ways. -/
namespace SchemaWipe.Command
open CommandLine Wipe Database

/-- Some operation of a run raises a failure of a category. -/
def Fails (operations : List Operation) (category : Category) : Prop :=
  ∃ f, f.category = category ∧ ∃ operation ∈ operations, operation.Raises (.failure f)

/-- The operator did not confirm the wipe of the tables that were listed. -/
structure Unconfirmed.Left (command : String) (given : Named Given) (p : Session) (t : Terminal)
    (operations : List Operation) (settings : Settings) (tables : List String) : Prop where
  loads : load p.files p.environ given = .ok settings
  asks : Asks command given settings.reset
  listed : operations = [.list (.ok tables)]
  held : tables ≠ []
  other : ¬ Guard.Repeats settings.reset.schema t.line?

/-- What an exit code tells about a run with some operations. -/
structure Tells (command : String) (given : Named Given) (p : Session) (t : Terminal)
    (operations : List Operation) (r : Ending × Session × Terminal) (code : Nat) : Prop where
  range : code ≤ 6
  /-- A wipe has emptied its schema. -/
  emptied : code = 0 → command = wipeCommand → ∃ settings,
    load p.files p.environ given = .ok settings ∧
      Emptied [settings.reset.schema] p.world.server.catalog r.2.1.world.server.catalog
  /-- Nothing has changed. -/
  kept : code ≠ 0 ∨ command = listCommand →
    r.2.1.world.server.catalog = p.world.server.catalog
  /-- No call was made. -/
  uncalled : code = 2 → r.2.1.world.server.record = p.world.server.record
  /-- An operation could not connect. -/
  connection : code = 3 ↔ Fails operations .connection
  /-- An operation lacked a privilege. -/
  privilege : code = 4 ↔ Fails operations .privilege
  /-- An operation could not list the tables. -/
  metadata : code = 5 ↔ Fails operations .metadata
  /-- An operation could not drop a table. -/
  drop : code = 6 ↔ Fails operations .drop
  /-- The wipe was not confirmed, and nothing was dropped, or an operation failed otherwise. -/
  aborted : code = 1 ↔
    (∃ settings tables exchanges,
      Unconfirmed.Left command given p t operations settings tables ∧
        r.2.1.world.server.record = p.world.server.record ++ exchanges ∧
        droppedTables exchanges = []) ∨ Fails operations .general

variable {command : String} {given : Named Given} {p : Session} {t : Terminal} {c : Connection}
  {policy : WipePolicy} {w : World} {operations : List Operation} {stop : Stop} {code : Nat}

theorem exitCode_injective {a b : Category} (same : a.exitCode = b.exitCode) : a = b := by
  cases a <;> cases b <;> first | rfl | cases same

theorem exitCode_ne_refusedCode (category : Category) : category.exitCode ≠ refusedCode := by
  cases category <;> decide

/-- A stop ends a run with a code exactly if it is a refusal or a failure with that code. -/
theorem conclude_returned_iff : (conclude stop).1 = .returned code ↔
    (stop.Refuses ∧ code = refusedCode) ∨ ∃ f, stop = .failure f ∧ code = f.category.exitCode := by
  cases stop with
  | fault cause =>
    have refuses : (Stop.fault cause).Refuses := .fault cause
    simp [conclude, refuses, eq_comm]
  | refusal cause =>
    have refuses : (Stop.refusal cause).Refuses := .refusal cause
    simp [conclude, refuses, eq_comm]
  | failure f =>
    have breaks := (Stop.Breaks.failure f).not_refuses
    simp [conclude, breaks, eq_comm]
  | raised e =>
    have breaks := (Stop.Breaks.raised e).not_refuses
    simp [conclude, breaks]
  | breakdown cause =>
    have foreign : ¬ (Stop.breakdown cause).Refuses := by rintro ⟨⟩
    simp [conclude, foreign]

/-- The work of a command ends a run with a code by being done, by not being confirmed, or by a stop
with that code. -/
theorem Finish.returned_iff {finish : Finish} : finish.ending.1 = .returned code ↔
    (finish = .done ∧ code = 0) ∨ (∃ refusal, finish = .aborted refusal ∧ code = abortedCode) ∨
      ∃ stop, finish = .stopped stop ∧
        ((stop.Refuses ∧ code = refusedCode) ∨
          ∃ f, stop = .failure f ∧ code = f.category.exitCode) := by
  cases finish with
  | done => simp [Finish.ending, eq_comm]
  | aborted refusal => simp [Finish.ending, eq_comm]
  | stopped stop => simpa [Finish.ending] using conclude_returned_iff

/-- The code of a category tells that a failure of that category is the end. One is told also when
the operator does not confirm. -/
theorem Finish.code_eq_iff {finish : Finish} (ends : finish.ending.1 = .returned code)
    (category : Category) : code = category.exitCode ↔
      (∃ f, f.category = category ∧ finish = .stopped (.failure f)) ∨
        (category = .general ∧ ∃ refusal, finish = .aborted refusal) := by
  rcases Finish.returned_iff.mp ends with
    ⟨rfl, rfl⟩ | ⟨refusal, rfl, rfl⟩ | ⟨stop, rfl, ⟨refuses, rfl⟩ | ⟨f, rfl, rfl⟩⟩
  · cases category <;> simp [Category.exitCode]
  · cases category <;> simp [Category.exitCode, abortedCode]
  · have unfailed : ∀ f, stop ≠ .failure f := by
      rintro f rfl
      exact (Stop.Breaks.failure f).not_refuses refuses
    simp [unfailed, (exitCode_ne_refusedCode category).symm]
  · simp only [Finish.stopped.injEq, Stop.failure.injEq, reduceCtorEq, exists_false, and_false,
      or_false, exists_eq_right']
    exact ⟨exitCode_injective, congrArg _⟩

/-- The work of a command stops by what one of its operations raises, and by nothing else. -/
theorem Works.stopped_iff {r : Finish × World × Terminal}
    (works : Works command given c policy w t operations r) :
    r.1 = .stopped stop ↔ ∃ operation ∈ operations, operation.Raises stop := by
  have listed (outcome : Except Stop (List String)) :
      Finish.ofList outcome = .stopped stop ↔ Operation.Raises (.list outcome) stop := by
    cases outcome with
    | ok tables => exact iff_of_false (by rintro ⟨⟩) (by rintro ⟨⟩)
    | error why => exact ⟨by rintro ⟨⟩; exact .list _, by rintro ⟨⟩; rfl⟩
  have wiped (outcome : Except Stop Report) :
      Finish.ofWipe outcome = .stopped stop ↔ Operation.Raises (.wipe outcome) stop := by
    cases outcome with
    | ok report => exact iff_of_false (by rintro ⟨⟩) (by rintro ⟨⟩)
    | error why => exact ⟨by rintro ⟨⟩; exact .wipe _, by rintro ⟨⟩; rfl⟩
  have quiet (tables : List String) : ¬ Operation.Raises (.list (.ok tables)) stop := by
    rintro ⟨⟩
  cases works with
  | listed lists ran => simpa using listed _
  | waived wipes waives ran => simpa using wiped _
  | unlisted asks ran => simpa [Finish.ofList] using listed (.error _)
  | unconfirmed asks ran held other => simp [quiet]
  | confirmed asks listed gate ran => simpa [quiet] using wiped _

/-- Which failure an operation raised is how the work of its command finishes. -/
theorem Works.fails_iff {r : Finish × World × Terminal} {category : Category}
    (works : Works command given c policy w t operations r) :
    Fails operations category ↔ ∃ f, f.category = category ∧ r.1 = .stopped (.failure f) := by
  constructor
  · rintro ⟨f, same, raises⟩
    exact ⟨f, same, works.stopped_iff.mpr raises⟩
  · rintro ⟨f, same, stops⟩
    exact ⟨f, same, works.stopped_iff.mp stops⟩

/-- The work of a command is aborted where the wipe of the tables it listed is not confirmed, and it
has dropped nothing by then. -/
theorem Works.aborted_iff {r : Finish × World × Terminal}
    (works : Works command given c policy w t operations r) :
    (∃ refusal, r.1 = .aborted refusal) ↔ ∃ tables exchanges, Asks command given policy ∧
      operations = [.list (.ok tables)] ∧ tables ≠ [] ∧ ¬ Guard.Repeats policy.schema t.line? ∧
      r.2.1.server.record = w.server.record ++ exchanges ∧ droppedTables exchanges = [] := by
  constructor
  · rintro ⟨refusal, aborts⟩
    cases works with
    | @listed outcome after lists ran => cases outcome <;> cases aborts
    | @waived outcome after wipes waives ran => cases outcome <;> cases aborts
    | unlisted asks ran => cases aborts
    | @confirmed tables outcome middle after asks listed gate ran => cases outcome <;> cases aborts
    | @unconfirmed tables after asks ran held other =>
      have effect := list_effect c (some policy.schema) none w
      rw [ran] at effect
      cases effect with
      | found named made silent =>
        have undropped := droppedTables_eq_nil fun x member => (silent x member).1
        exact ⟨_, _, asks, rfl, held, other, made.record, undropped⟩
  · rintro ⟨tables, exchanges, asks, alone, held, other, -, -⟩
    cases works with
    | unconfirmed asks ran held other => exact ⟨_, rfl⟩
    | listed lists ran => exact absurd asks.wipes lists
    | waived wipes waives ran => cases alone
    | unlisted asks ran => cases alone
    | confirmed asks listed gate ran => cases alone

/-- A wipe behind a listing that found something is not refused: it passes the same checks. -/
theorem breaks_behind_found {schema request : Option String} {tables : List String}
    {middle after : World} (found : Wipe.list c schema request w = (.ok tables, middle))
    (ran : Wipe.wipe c schema request middle = (.error stop, after)) : stop.Breaks := by
  obtain ⟨name, approved, -⟩ := listing_found (congrArg Prod.fst found)
  rcases wipe_error ran with ⟨unapproved, -⟩ | ⟨-, -, breaks⟩
  · rw [approved] at unapproved
    cases unapproved
  · exact breaks

/-- Work that is refused has not begun. -/
theorem Works.unmoved {r : Finish × World × Terminal}
    (works : Works command given c policy w t operations r) (stops : r.1 = .stopped stop)
    (refuses : stop.Refuses) : r.2.1 = w := by
  have same {after : World} {checked : Except Stop String}
      (ends : (checked = .error stop ∧ after = w) ∨ ∃ name, checked = .ok name ∧ stop.Breaks) :
      after = w := by
    rcases ends with ⟨-, same⟩ | ⟨-, -, breaks⟩
    · exact same
    · exact absurd refuses breaks.not_refuses
  cases works with
  | @listed outcome after lists ran =>
    cases outcome with
    | ok tables => cases stops
    | error why =>
      cases stops
      exact same (list_error ran)
  | @waived outcome after wipes waives ran =>
    cases outcome with
    | ok report => cases stops
    | error why =>
      cases stops
      exact same (wipe_error ran)
  | unlisted asks ran =>
    cases stops
    exact same (list_error ran)
  | unconfirmed asks ran held other => cases stops
  | @confirmed tables outcome middle after asks listed gate ran =>
    cases outcome with
    | ok report => cases stops
    | error why =>
      cases stops
      exact absurd refuses (breaks_behind_found listed ran).not_refuses

/-- Wiping work that is done has emptied the schema. -/
theorem Works.emptied {r : Finish × World × Terminal}
    (works : Works command given c policy w t operations r) (wipes : command = wipeCommand)
    (done : r.1 = .done) : Emptied [policy.schema] w.server.catalog r.2.1.server.catalog := by
  have wiping {w after : World} {outcome : Except Stop Report}
      (ran : Wipe.wipe c (some policy.schema) none w = (outcome, after))
      (done : Finish.ofWipe outcome = .done) :
      Emptied [policy.schema] w.server.catalog after.server.catalog := by
    have effect := wipe_effect c (some policy.schema) none w
    rw [ran] at effect
    cases effect with
    | refused unapproved => cases done
    | broken approved made uncommitted breaks => cases done
    | committed approved made commits emptied ends =>
      cases approved_schema approved
      rw [emptied]
      exact Catalog.emptied_without fun table => mem_gone
  cases works with
  | listed lists ran => exact absurd wipes lists
  | waived wipes waives ran => exact wiping ran done
  | unlisted asks ran => cases done
  | unconfirmed asks ran held other => cases done
  | @confirmed tables outcome middle after asks listed gate ran =>
    rw [← listed_keeps_catalog listed]
    exact wiping ran done

/-- Work changes nothing that is committed where it only lists, or is aborted, or stops otherwise
than by an error that nothing explained. -/
theorem Works.kept {r : Finish × World × Terminal}
    (works : Works command given c policy w t operations r)
    (short : command = wipeCommand → r.1 ≠ .done ∧ ∀ e, r.1 ≠ .stopped (.raised e)) :
    r.2.1.server.catalog = w.server.catalog := by
  have wiping {w after : World} {outcome : Except Stop Report}
      (ran : Wipe.wipe c (some policy.schema) none w = (outcome, after))
      (short : Finish.ofWipe outcome ≠ .done ∧ ∀ e, Finish.ofWipe outcome ≠ .stopped (.raised e)) :
      after.server.catalog = w.server.catalog := by
    have effect := wipe_effect c (some policy.schema) none w
    rw [ran] at effect
    cases effect with
    | refused unapproved => rfl
    | broken approved made uncommitted breaks => exact made.catalog_uncommitted uncommitted
    | committed approved made commits emptied ends =>
      rcases ends with rfl | ⟨e, rfl⟩
      · exact absurd rfl short.1
      · exact absurd rfl (short.2 e)
  cases works with
  | listed lists ran => exact listed_keeps_catalog ran
  | waived wipes waives ran => exact wiping ran (short wipes)
  | unlisted asks ran => exact listed_keeps_catalog ran
  | unconfirmed asks ran held other => exact listed_keeps_catalog ran
  | confirmed asks listed gate ran =>
    exact (wiping ran (short asks.wipes)).trans (listed_keeps_catalog listed)

/-- The code of a special category tells that an operation failed so. -/
theorem Works.failed_iff {r : Finish × World × Terminal}
    (works : Works command given c policy w t operations r)
    (returns : r.1.ending.1 = .returned code) (category : Category)
    (special : category ≠ .general) : code = category.exitCode ↔ Fails operations category := by
  rw [Finish.code_eq_iff returns, works.fails_iff]
  simp [special]

/-- A way that does not come to the database ends as a refusal if it returns, and leaves the world
as it was. -/
theorem tells_of_refused {r : Ending × Session × Terminal} (world : r.2.1.world = p.world)
    (refused : code = refusedCode) : Tells command given p t [] r code := by
  subst refused
  have unfailed : ∀ category, ¬ Fails [] category := by
    rintro category ⟨f, -, operation, member, -⟩
    cases member
  exact {
    range := by decide
    emptied := fun done => absurd done (by decide)
    kept := fun _ => by rw [world]
    uncalled := fun _ => by rw [world]
    connection := iff_of_false (by decide) (unfailed _)
    privilege := iff_of_false (by decide) (unfailed _)
    metadata := iff_of_false (by decide) (unfailed _)
    drop := iff_of_false (by decide) (unfailed _)
    aborted := by
      refine iff_of_false (by decide) ?_
      rintro (⟨settings, tables, exchanges, left, -⟩ | fails)
      · cases left.listed
      · exact unfailed _ fails }

/-- A password is missing only where the input is over. -/
theorem withPassword_stop {asked : Terminal} (typed : withPassword c t = (.error stop, asked)) :
    stop = .breakdown .endOfInput := by
  unfold withPassword at typed
  split at typed
  · generalize t.askPassword (passwordQuestion c) = answer at typed
    obtain ⟨given, after⟩ := answer
    cases given <;> cases typed
    rfl
  · cases typed

/-- The work of a command tells by its code what it did. -/
theorem Works.tells {r : Finish × World × Terminal} {settings : Settings} {setup : Log.Setup}
    {asked : Terminal} (loads : load p.files p.environ given = .ok settings)
    (undisturbed : Undisturbed t asked)
    (works : Works command given c settings.reset p.world asked operations r)
    (returns : r.1.ending.1 = .returned code) :
    Tells command given p t operations (concluded p setup r) code := by
  have ends := Finish.returned_iff.mp returns
  exact {
    range := by
      rcases ends with ⟨-, rfl⟩ | ⟨-, -, rfl⟩ | ⟨-, -, ⟨-, rfl⟩ | ⟨f, -, rfl⟩⟩
      · decide
      · decide
      · decide
      · cases f.category <;> decide
    emptied := by
      intro zero wipes
      refine ⟨settings, loads, works.emptied wipes ?_⟩
      rcases ends with ⟨done, -⟩ | ⟨-, -, rfl⟩ | ⟨-, -, ⟨-, rfl⟩ | ⟨f, -, rfl⟩⟩
      · exact done
      · cases zero
      · cases zero
      · exact absurd zero (by cases f.category <;> decide)
    kept := by
      intro short
      apply works.kept
      intro wipes
      have nonzero : code ≠ 0 := short.resolve_right (by rw [wipes]; decide)
      rcases ends with ⟨-, rfl⟩ | ⟨refusal, aborts, -⟩ | ⟨stop, stops, ⟨refuses, -⟩ | ⟨f, rfl, -⟩⟩
      · exact absurd rfl nonzero
      · simp [aborts]
      · refine ⟨by simp [stops], fun e raised => ?_⟩
        cases stops.symm.trans raised
        exact (Stop.Breaks.raised e).not_refuses refuses
      · simp [stops]
    uncalled := by
      intro refused
      rcases ends with ⟨-, rfl⟩ | ⟨-, -, rfl⟩ | ⟨stop, stops, ⟨refuses, -⟩ | ⟨f, -, rfl⟩⟩
      · cases refused
      · cases refused
      · exact congrArg (·.server.record) (works.unmoved stops refuses)
      · exact absurd refused (exitCode_ne_refusedCode f.category)
    connection := works.failed_iff returns .connection (by decide)
    privilege := works.failed_iff returns .privilege (by decide)
    metadata := works.failed_iff returns .metadata (by decide)
    drop := works.failed_iff returns .drop (by decide)
    aborted := by
      have general := Finish.code_eq_iff returns .general
      rw [← works.fails_iff, works.aborted_iff] at general
      refine general.trans ?_
      rw [or_comm]
      refine or_congr_left ?_
      constructor
      · rintro ⟨-, tables, exchanges, asks, listed, held, other, record, undropped⟩
        rw [undisturbed.line?_eq] at other
        exact ⟨settings, tables, exchanges, ⟨loads, asks, listed, held, other⟩, record, undropped⟩
      · rintro ⟨settings', tables, exchanges, left, record, undropped⟩
        cases loads.symm.trans left.loads
        have other := left.other
        rw [← undisturbed.line?_eq] at other
        exact ⟨rfl, tables, exchanges, left.asks, left.listed, left.held, other, record,
          undropped⟩ }

/-- Every way that returns a code tells by it what it did. -/
theorem Way.tells {r : Ending × Session × Terminal} (way : Way command given p t operations r)
    (returns : r.1 = .returned code) : Tells command given p t operations r code := by
  cases way with
  | @unread e loads =>
    cases e with
    | fault cause =>
      cases returns
      exact tells_of_refused rfl rfl
    | breakdown cause => cases returns
  | unlogged loads configured => cases returns
  | refused loads configured unnamed =>
    cases returns
    exact tells_of_refused rfl rfl
  | locked loads configured named typed =>
    cases withPassword_stop typed
    cases returns
  | @worked settings setup c asked operations r loads configured named typed works =>
    have undisturbed := withPassword_undisturbed settings.connection t
    rw [typed] at undisturbed
    exact works.tells loads undisturbed returns

/-- Exit codes tell the truth. Every run of a command that the parser reads makes some operations,
and if it returns a code, then that code tells how they ended and what they left behind. -/
theorem exit_code_tells_what_happened {args : List String}
    (reads : CommandLine.operatorMenu.read args = .run command given) (p : Session) (t : Terminal) :
    ∃ operations, Way command given p t operations (run args p t) ∧
      ∀ code, (run args p t).1 = .returned code →
        Tells command given p t operations (run args p t) code := by
  obtain ⟨operations, way⟩ := run_goes reads p t
  exact ⟨operations, way, fun code returns => way.tells returns⟩

/-- A table cannot be dropped: the code is the one of failed drops, and the table is still there. -/
theorem failed_drop_exits_six :
    let error : Error := { kind := .database "LockNotAvailable", message := "lock timeout" }
    let server : Server :=
      { catalog := [("public", ["users"])], faults := [{ point := .drop, error }] }
    let p : Session := { environ := { entries := [("PGPASSWORD", "secret")] }, world := { server } }
    let r := run ["reset-schema", "--yes"] p {}
    operatorMenu.read ["reset-schema", "--yes"] = .run wipeCommand [("--yes", .on)] ∧
      r.1 = .returned 6 ∧ r.2.1.world.server.catalog = [("public", ["users"])] ∧
      ∃ operations,
        Way wipeCommand [("--yes", .on)] p {} operations r ∧ Fails operations .drop := by
  intro error server p r
  have reads : operatorMenu.read ["reset-schema", "--yes"] =
      .run wipeCommand [("--yes", .on)] := rfl
  have returns : r.1 = .returned 6 := rfl
  obtain ⟨operations, way, tells⟩ := exit_code_tells_what_happened reads p {}
  have told := tells 6 returns
  exact ⟨reads, returns, told.kept (.inl (by decide)), operations, way,
    told.drop.mp rfl⟩

end SchemaWipe.Command
