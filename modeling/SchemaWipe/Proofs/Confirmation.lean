import SchemaWipe.Proofs.Gate
import SchemaWipe.Proofs.Waiver

/-! The confirmation of a wipe, as long as nobody else changes what is committed. Tables are dropped
only behind an answer that repeats the schema, and they are those that the operator saw; any other
answer to them ends the run with the listing. A run that is confirmed ends as it does with the
confirmation waived. -/
namespace SchemaWipe.Command
open CommandLine Wipe Database

/-- What holds of a run that drops tables, the committed ones of the schema being these. -/
structure DropsConfirmed (schema database : String) (tables : List String) (t : Terminal)
    (output : String) (exchanges : List Exchange) : Prop where
  /-- These tables had been announced to the operator. -/
  seen : ∃ announced message, Announces schema database tables announced ∧
    output = t.output ++ announced ++ message
  /-- The operator repeated the schema. -/
  repeated : Guard.Repeats schema t.line?
  /-- Behind the listing comes a wipe that is to drop these tables. -/
  planned : ∃ target course, Course.Follows (plan schema tables) course ∧
    exchanges = (ListingCourse.completed none).exchanges target (listingPlan schema) ++
      course.exchanges target (plan schema tables)
  /-- They are dropped in this order, up to where the wipe fails. -/
  ordered : droppedTables exchanges <+: tables
  /-- What is committed is that all of them are dropped. -/
  whole : Call.commit.passed ∈ exchanges → droppedTables exchanges = tables

/-- What holds of a run whose operator gives another answer. -/
structure Refused (p : Session) (listing exchanges : List Exchange)
    (r : Ending × Session × Terminal) : Prop where
  ending : r.1 = .returned 1
  exchanges : exchanges = listing
  catalog : r.2.1.world.server.catalog = p.world.server.catalog

/-- How a run is gated that has to be confirmed, by what it did. -/
structure Gated (settings : Settings) (p : Session) (t : Terminal) (exchanges : List Exchange)
    (r : Ending × Session × Terminal) : Prop where
  /-- It drops only what was confirmed. -/
  drops : droppedTables exchanges ≠ [] →
    DropsConfirmed settings.reset.schema settings.connection.database
      (p.world.server.catalog.tables settings.reset.schema) t r.2.2.output exchanges
  /-- If its listing finds tables, another answer than the schema ends it there. -/
  refuses : ∀ target,
    (ListingCourse.completed none).exchanges target (listingPlan settings.reset.schema) <+:
        exchanges →
      p.world.server.catalog.tables settings.reset.schema ≠ [] →
      ¬ Guard.Repeats settings.reset.schema t.line? →
    Refused p
      ((ListingCourse.completed none).exchanges target (listingPlan settings.reset.schema))
      exchanges r

/-- Two wipes finish alike, though the first may have shown something before. -/
structure FinishAlike (t : Terminal) (seen : String → Prop) (r waived : Finish × World × Terminal) :
    Prop where
  finish : r.1 = waived.1
  catalog : r.2.1.server.catalog = waived.2.1.server.catalog
  output : ∃ more message, (more = "" ∨ seen more) ∧
    r.2.2.output = t.output ++ more ++ message ∧ waived.2.2.output = t.output ++ message
  errors : r.2.2.errors = t.errors ∧ waived.2.2.errors = t.errors

/-- Two runs end alike, though the first may have shown something before. -/
structure EndAlike (p : Session) (t : Terminal) (seen : String → Prop)
    (r waived : Ending × Session × Terminal) : Prop where
  ending : r.1 = waived.1
  catalog : r.2.1.world.server.catalog = waived.2.1.world.server.catalog
  output : ∃ more message, (more = "" ∨ seen more) ∧
    r.2.2.output = t.output ++ more ++ message ∧ waived.2.2.output = t.output ++ message
  /-- What is printed last about errors is the same behind the records of each run. -/
  errors : ∃ message,
    r.2.2.errors = t.errors ++ logLines r.2.1.setup p.world r.2.1.world ++ message ∧
      waived.2.2.errors =
        t.errors ++ logLines waived.2.1.setup p.world waived.2.1.world ++ message

variable {settings : Settings} {p : Session} {t : Terminal} {r : Ending × Session × Terminal}
  {args : List String} {given : Named Given}

/-- Whatever way a run goes, it drops only what was confirmed, and another answer ends it. -/
theorem passage_gated (passage : Passage settings p t id r) :
    ∃ exchanges, r.2.1.world.server.record = p.world.server.record ++ exchanges ∧
      Gated settings p t exchanges r := by
  have listed := ListingCourse.completed_follows none (listingPlan settings.reset.schema)
  cases passage with
  | halted world output =>
    refine ⟨[], by simp [world], fun drops => absurd rfl drops, ?_⟩
    intro target starts
    simp [ListingCourse.exchanges] at starts
  | unlisted target course follows failed ran output =>
    refine ⟨_, ran.record, fun drops => absurd (droppedTables_listing follows target) drops, ?_⟩
    intro other starts
    exact absurd (ListingCourse.starts_completed follows starts) failed
  | unconfirmed target held other ran ending =>
    refine ⟨_, ran.record, fun drops => absurd (droppedTables_listing listed target) drops, ?_⟩
    intro given starts _ _
    have same := starts.eq_of_length (by simp [ListingCourse.exchanges])
    exact ⟨ending, same.symm,
      ran.catalog_uncommitted (ListingCourse.commit_not_mem listed target none)⟩
  | wiped target server course gate listing follows wiping output =>
    have drops := droppedTables_prefix follows target
    rw [← droppedTables_behind listed target] at drops
    refine ⟨_, listing.record_across wiping, ?_, fun _ _ held other => absurd (gate held) other⟩
    intro dropped
    have held : p.world.server.catalog.tables settings.reset.schema ≠ [] := by
      intro empty
      rw [id, empty] at drops dropped
      exact dropped (List.prefix_nil.mp drops)
    exact ⟨output, gate held, ⟨target, course, follows, rfl⟩, drops,
      droppedTables_committed listed follows⟩

/-- Where no faults are planted, a wipe that is confirmed finishes as one whose confirmation is
waived. The listing before it leaves behind the same committed tables, and no faults either. -/
theorem confirmed_finishes_as_waived {c : Connection} {policy : WipePolicy} {w : World}
    (required : policy.requireConfirmation = true) (unplanted : w.server.faults = [])
    (gate : w.server.catalog.tables policy.schema ≠ [] → Guard.Repeats policy.schema t.line?) :
    FinishAlike t (Announces policy.schema c.database (w.server.catalog.tables policy.schema))
      (confirmAndWipe c policy false w t) (confirmAndWipe c policy true w t) := by
  have waived : confirmAndWipe c policy true w t = wipe c policy.schema w t := by
    simp [confirmAndWipe]
  rw [waived, wipe_eq]
  cases approved : approve c (some policy.schema) with
  | error stop =>
    have listed : (Wipe.list c (some policy.schema) none w).1 = .error stop := by
      rw [list_refused approved]
    rw [unlisted_wipe required listed, list_refused approved, wipe_refused approved]
    exact ⟨rfl, rfl, ⟨"", "", .inl rfl, by simp, by simp [reported, Terminal.print]⟩, rfl, rfl⟩
  | ok name =>
    cases approved_schema approved
    -- The confirmed wipe starts where the listing stopped, the waived one from the world itself.
    have listed := faultless_listing approved none unplanted
    obtain ⟨other, same, -, ran⟩ := listing_found listed
    rw [approved] at same
    cases same
    have kept := listing_keeps_catalog c (some policy.schema) none w
    obtain ⟨reports, commits⟩ := faultless_wipe approved none unplanted
    obtain ⟨reports', commits'⟩ := faultless_wipe approved none (ran.faultless unplanted).2
    rw [kept] at reports' commits'
    rw [ran.cascades] at commits'
    rw [passed_wipe required listed gate, wipe_eq, World.changed_id, reports, reports']
    refine ⟨rfl, commits'.trans commits.symm, ⟨_, reported c.database _,
      .inr (shown_announces ..), ?_, rfl⟩,
      prompted_errors _ _ _ _, rfl⟩
    simp only [Terminal.print, prompted_output]

/-- Where no faults are planted, a run that is confirmed ends as one that waives the
confirmation. -/
theorem confirmed_run_ends_as_waived {waived : Named Given} {others : List String}
    (asking : Asking args given p settings) (waiving : Waiving others given waived)
    (unplanted : p.world.server.faults = [])
    (gate : p.world.server.catalog.tables settings.reset.schema ≠ [] →
      Guard.Repeats settings.reset.schema t.line?) :
    EndAlike p t (Announces settings.reset.schema settings.connection.database
      (p.world.server.catalog.tables settings.reset.schema)) (run args p t) (run others p t) := by
  have wiping : Wiping others waived p settings :=
    ⟨waiving.reads, (load_congr p.files p.environ waiving.alike).trans asking.loads⟩
  have yes := Option.isSome_iff_ne_none.mpr waiving.waives
  rcases wiping_run p settings t with ⟨r, world, output, errors, runs⟩ | reached
  · rw [runs args given id asking.toWiping, runs others waived id wiping]
    obtain ⟨message, errors⟩ := errors
    exact ⟨rfl, rfl, ⟨"", "", .inl rfl, by simp [output], by simp [output]⟩,
      ⟨message, errors, errors⟩⟩
  · obtain ⟨c, asked, setup, database, undisturbed, runs⟩ := reached
    obtain ⟨finish, catalog, ⟨more, message, seen, output, output'⟩, errors, errors'⟩ :=
      confirmed_finishes_as_waived (c := c) asking.required unplanted
        (undisturbed.line?_eq ▸ gate)
    rw [runs args given id asking.toWiping, runs others waived id wiping, asking.unwaived, yes,
      Option.isSome_none]
    refine ⟨?_, catalog, ⟨more, message, database ▸ seen, ?_, ?_⟩,
      ⟨(confirmAndWipe c settings.reset true p.world asked).1.ending.2, ?_, ?_⟩⟩
    · simp only [concluded, finish]
    · simp only [concluded, Terminal.complain, output, undisturbed.output]
    · simp only [concluded, Terminal.complain, output', undisturbed.output]
    · simp only [concluded, Terminal.complain, errors, undisturbed.errors, finish]
    · simp only [concluded, Terminal.complain, errors', undisturbed.errors]

/-- A run that has to be confirmed drops tables only behind an answer that repeats the schema, and
they are those that the operator saw. Any other answer to them ends it with the listing. Where no
faults are planted, a confirmed run ends as with the confirmation waived. -/
theorem asking_run_is_gated (asking : Asking args given p settings) (t : Terminal) :
    (∃ exchanges, (run args p t).2.1.world.server.record = p.world.server.record ++ exchanges ∧
      Gated settings p t exchanges (run args p t)) ∧
    Waiving (args ++ ["--yes"]) given (given.put "--yes" .on) ∧
    (p.world.server.faults = [] →
      (p.world.server.catalog.tables settings.reset.schema ≠ [] →
        Guard.Repeats settings.reset.schema t.line?) →
      ∀ others waived, Waiving others given waived →
        EndAlike p t (Announces settings.reset.schema settings.connection.database
          (p.world.server.catalog.tables settings.reset.schema)) (run args p t) (run others p t)) :=
  ⟨passage_gated (asking_run_passes asking t id), waiving_append asking.reads,
    fun unplanted gate _ _ waiving => confirmed_run_ends_as_waived asking waiving unplanted gate⟩

/-- The operator repeats the schema: the one table is dropped that was seen, and the run ends as with
the confirmation waived. -/
theorem confirmed_run_drops_users :
    let server : Server := { catalog := [("public", ["users"])] }
    let p : Session := { environ := { entries := [("PGPASSWORD", "secret")] }, world := { server } }
    let t : Terminal := { input := ['p', 'u', 'b', 'l', 'i', 'c', '\n'] }
    let settings : Settings := { connection := { password := "secret" } }
    Asking ["reset-schema"] [] p settings ∧
      DropsConfirmed "public" "test_db" ["users"] t (run ["reset-schema"] p t).2.2.output
        (run ["reset-schema"] p t).2.1.world.server.record ∧
      EndAlike p t (Announces "public" "test_db" ["users"]) (run ["reset-schema"] p t)
        (run ["reset-schema", "--yes"] p t) := by
  intro server p t settings
  have asking : Asking ["reset-schema"] [] p settings :=
    { reads := rfl, loads := rfl, unwaived := rfl, required := rfl }
  obtain ⟨⟨exchanges, ran, gated⟩, waiving, alike⟩ := asking_run_is_gated asking t
  obtain rfl : (run ["reset-schema"] p t).2.1.world.server.record = exchanges := ran
  have dropped : droppedTables (run ["reset-schema"] p t).2.1.world.server.record ≠ [] := by
    decide +kernel
  have repeated : Guard.Repeats "public" t.line? := ⟨_, rfl, by decide⟩
  exact ⟨asking, gated.drops dropped, alike rfl (fun _ => repeated) _ _ waiving⟩

end SchemaWipe.Command
