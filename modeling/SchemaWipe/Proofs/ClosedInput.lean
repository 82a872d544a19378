import SchemaWipe.Proofs.ExitCode
import SchemaWipe.Proofs.PasswordSource

/-! What becomes of a run whose input is over. A command that has all that it needs but the operator
returns a code, whatever the operator types, except in one case: nobody catches that the input is
over at the question for a password. In no case is anything dropped without an answer. -/
namespace SchemaWipe.Command
open CommandLine Wipe Database

/-- A command that nothing but the operator can keep from its work: its settings can be read, their
level is a standard one and their schema is plain, and the server raises no errors. -/
structure Ready (args : List String) (command : String) (given : Named Given) (p : Session)
    (settings : Settings) : Prop where
  reads : operatorMenu.read args = .run command given
  loads : load p.files p.environ given = .ok settings
  standard : StandardLevel settings.observability.logLevel
  named : Guard.Plain settings.reset.schema
  unplanted : p.world.server.faults = []

/-- The input is over at the question for a password. -/
structure Locked (settings : Settings) (t : Terminal) : Prop where
  blank : settings.connection.password = ""
  ended : t.passwords = []

/-- The input is over before an answer that a run needs. -/
inductive Unanswered (command : String) (given : Named Given) (p : Session) (settings : Settings)
    (t : Terminal) : Prop where
  | password (locked : Locked settings t)
  | confirmation (asks : Asks command given settings.reset)
      (held : p.world.server.catalog.tables settings.reset.schema ≠ []) (ended : t.input = [])

variable {args : List String} {command : String} {given : Named Given} {p : Session} {t : Terminal}
  {c : Connection} {policy : WipePolicy} {schema : Option String} {w after : World}
  {settings : Settings} {operations : List Operation} {stop : Stop}

/-- Without errors of the server a listing can only be refused. -/
theorem faultless_list_refuses (unplanted : w.server.faults = [])
    (ran : Wipe.list c schema none w = (.error stop, after)) : stop.Refuses := by
  rcases list_error ran with ⟨unapproved, -⟩ | ⟨name, approved, -⟩
  · exact refuses_of_unapproved unapproved
  · have found := faultless_listing approved none unplanted
    rw [ran] at found
    cases found

/-- Without errors of the server a wipe can only be refused. -/
theorem faultless_wipe_refuses (unplanted : w.server.faults = [])
    (ran : Wipe.wipe c schema none w = (.error stop, after)) : stop.Refuses := by
  rcases wipe_error ran with ⟨unapproved, -⟩ | ⟨name, approved, -⟩
  · exact refuses_of_unapproved unapproved
  · have completed := (faultless_wipe approved none unplanted).1
    rw [ran] at completed
    cases completed

/-- What is refused ends a run with a code. -/
theorem conclude_refuses (refuses : stop.Refuses) : (conclude stop).1 = .returned refusedCode :=
  conclude_returned_iff.mpr (.inl ⟨refuses, rfl⟩)

/-- Without errors of the server the work of a command returns a code. -/
theorem Works.returns {r : Finish × World × Terminal}
    (works : Works command given c policy w t operations r) (unplanted : w.server.faults = []) :
    ∃ code, r.1.ending.1 = .returned code := by
  cases works with
  | @listed outcome after lists ran =>
    cases outcome with
    | ok tables => exact ⟨0, rfl⟩
    | error stop => exact ⟨_, conclude_refuses (faultless_list_refuses unplanted ran)⟩
  | @waived outcome after wipes waives ran =>
    cases outcome with
    | ok report => exact ⟨0, rfl⟩
    | error stop => exact ⟨_, conclude_refuses (faultless_wipe_refuses unplanted ran)⟩
  | unlisted asks ran => exact ⟨_, conclude_refuses (faultless_list_refuses unplanted ran)⟩
  | unconfirmed asks ran held other => exact ⟨abortedCode, rfl⟩
  | @confirmed tables outcome middle after asks listed gate ran =>
    obtain ⟨name, approved, -, made⟩ := listing_found (congrArg Prod.fst listed)
    rw [listed] at made
    have remaining := (made.faultless unplanted).2
    cases outcome with
    | ok report => exact ⟨0, rfl⟩
    | error stop => exact ⟨_, conclude_refuses (faultless_wipe_refuses remaining ran)⟩

/-- As long as nobody confirms it, the wipe of tables is not done, and none is dropped. -/
theorem Works.unanswered {r : Finish × World × Terminal}
    (works : Works command given c policy w t operations r) (asks : Asks command given policy)
    (held : w.server.catalog.tables policy.schema ≠ []) (ended : t.line? = none) :
    r.1 ≠ .done ∧ r.2.1.server.catalog = w.server.catalog := by
  cases works with
  | listed lists ran => exact absurd asks.wipes lists
  | waived wipes waives ran => exact absurd asks waives
  | unlisted _ ran => exact ⟨nofun, listed_keeps_catalog ran⟩
  | unconfirmed _ ran _ other => exact ⟨nofun, listed_keeps_catalog ran⟩
  | confirmed _ listed gate ran =>
    -- The tables that were listed are those that are held, so the gate needs an answer.
    obtain ⟨name, approved, rfl, -⟩ := listing_found (congrArg Prod.fst listed)
    cases approved_schema approved
    obtain ⟨answer, answered, -⟩ := gate held
    rw [ended] at answered
    cases answered

/-- A code of zero tells that the work was done. -/
theorem Finish.returned_zero {finish : Finish} (returns : finish.ending.1 = .returned 0) :
    finish = .done := by
  rcases Finish.returned_iff.mp returns with
    ⟨done, -⟩ | ⟨refusal, -, aborted⟩ | ⟨stop, -, ⟨-, refused⟩ | ⟨f, -, failed⟩⟩
  · exact done
  · cases aborted
  · cases refused
  · revert failed
    cases f.category <;> exact nofun

/-- What a run of a command that is ready comes to, by what the operator typed. -/
structure Answers (command : String) (given : Named Given) (p : Session) (settings : Settings)
    (t : Terminal) (r : Ending × Session × Terminal) : Prop where
  returns_iff : (∃ code, r.1 = .returned code) ↔ ¬ Locked settings t
  /-- Nobody catches that the input is over there. -/
  locked : Locked settings t → r.1 = .stopped (.breakdown .endOfInput)
  unanswered : Unanswered command given p settings t →
    r.1 ≠ .returned 0 ∧ r.2.1.world.server.catalog = p.world.server.catalog

/-- Every way of a command that is ready answers to what the operator typed. -/
theorem Way.answers {r : Ending × Session × Terminal} (way : Way command given p t operations r)
    (ready : Ready args command given p settings) : Answers command given p settings t r := by
  obtain ⟨setup, configures⟩ := configure_standard ready.standard p.setup
  cases way with
  | unread loads => cases ready.loads.symm.trans loads
  | unlogged loads configured =>
    cases ready.loads.symm.trans loads
    cases configures.symm.trans configured
  | refused loads configured unnamed =>
    cases ready.loads.symm.trans loads
    have accepted : Guard.identifier "schema" (some settings.reset.schema) =
        .ok settings.reset.schema := Guard.identifier_eq_ok_iff.mpr ⟨rfl, ready.named⟩
    cases accepted.symm.trans unnamed
  | locked loads configured named typed =>
    cases ready.loads.symm.trans loads
    have unlocks := withPassword_unlocks settings.connection t
    rw [typed] at unlocks
    cases unlocks with
    | closed blank ended =>
      have locked : Locked settings t := ⟨blank, ended⟩
      exact ⟨iff_of_false (by rintro ⟨code, ⟨⟩⟩) (not_not_intro locked), fun _ => rfl,
        fun _ => ⟨nofun, rfl⟩⟩
  | @worked _ setup c asked _ r loads configured named typed works =>
    cases ready.loads.symm.trans loads
    have unlocks := withPassword_unlocks settings.connection t
    have undisturbed := withPassword_undisturbed settings.connection t
    rw [typed] at unlocks undisturbed
    have unlocked : ¬ Locked settings t := by
      rintro ⟨blank, ended⟩
      cases unlocks with
      | held filled => exact filled blank
      | typed _ answers => cases ended.symm.trans answers
    refine ⟨iff_of_true (works.returns ready.unplanted) unlocked,
      fun locked => absurd locked unlocked, ?_⟩
    intro unanswered
    cases unanswered with
    | password locked => exact absurd locked unlocked
    | confirmation asks held ended =>
      have silent : asked.line? = none := by
        rw [undisturbed.line?_eq, Terminal.line?, ended]
        rfl
      obtain ⟨undone, kept⟩ := works.unanswered asks held silent
      exact ⟨mt Finish.returned_zero undone, kept⟩

/-- A command that is ready returns a code whatever the operator types, unless the input is over at
the question for a password: that ends it by an error that nobody catches. Wherever the input is
over before an answer that the run needs, it does not succeed, and nothing that is committed has
changed. -/
theorem ready_run_answers (ready : Ready args command given p settings) (t : Terminal) :
    Answers command given p settings t (run args p t) := by
  obtain ⟨operations, way⟩ := run_goes ready.reads p t
  exact way.answers ready

/-- A server with one table. -/
def oneTable : Server :=
  { catalog := [("public", ["users"])] }

/-- A closed input at the confirmation is an answer like any other, and aborts the wipe. -/
theorem closed_input_aborts_confirmation :
    let p : Session :=
      { environ := { entries := [("PGPASSWORD", "secret")] }, world := { server := oneTable } }
    let settings : Settings := { connection := { password := "secret" } }
    Ready ["reset-schema"] wipeCommand [] p settings ∧ Unanswered wipeCommand [] p settings {} ∧
      Answers wipeCommand [] p settings {} (run ["reset-schema"] p {}) ∧
      (run ["reset-schema"] p {}).1 = .returned 1 := by
  intro p settings
  have standard : StandardLevel "info" := rfl
  have named : Guard.Plain "public" := by
    rw [← Guard.isIdentifier_iff]
    decide
  have ready : Ready ["reset-schema"] wipeCommand [] p settings := ⟨rfl, rfl, standard, named, rfl⟩
  exact ⟨ready, .confirmation ⟨rfl, rfl, rfl⟩ (by decide) rfl, ready_run_answers ready {}, rfl⟩

/-- A closed input at the question for a password ends a command by an error that nobody catches.
-/
theorem closed_input_escapes_password :
    Ready ["reset-schema", "--yes"] wipeCommand [("--yes", .on)]
        { world := { server := oneTable } } {} ∧
      ¬ ∃ code, (run ["reset-schema", "--yes"] { world := { server := oneTable } }
        { input := "public\n".toList }).1 = .returned code := by
  have named : Guard.Plain "public" := by
    rw [← Guard.isIdentifier_iff]
    decide
  refine ⟨⟨rfl, rfl, rfl, named, rfl⟩, ?_⟩
  have ends : (run ["reset-schema", "--yes"] { world := { server := oneTable } }
      { input := "public\n".toList }).1 = .stopped (.breakdown .endOfInput) := rfl
  rw [ends]
  rintro ⟨code, ⟨⟩⟩

end SchemaWipe.Command
