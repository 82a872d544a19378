import SchemaWipe.Proofs.Names
import SchemaWipe.Log

/-! Setting the log up, again and again in one process. The first name decides: it sets the level
for good, and every later one is passed over. That never fails and leaves the level that was asked
for, except where the first name stands for something other than a level; then the log writes its
records, but at the level that it had before. -/
namespace SchemaWipe.Log

/-- A name is that of a level, in any case. -/
def Names (name : String) (number : Nat) : Prop :=
  (Text.upper name, number) ∈ levels

/-- The number that a name asks for: that of the level it names, or that of INFO if it names none.
-/
inductive Asks (name : String) : Nat → Prop where
  | level {number : Nat} (names : Names name number) : Asks name number
  | info (nameless : ∀ number, ¬ Names name number) : Asks name Level.info.number

/-- A name stands for something other than a level. -/
def Misnamed (name : String) : Prop :=
  Text.upper name ∈ misnomers.map Prod.fst

namespace Setup

/-- The results of setting a log up for one name after the other, each with the setup behind it. -/
def configureAll (setup : Setup) : List String → List (Except Breakdown Unit × Setup)
  | [] => []
  | name :: rest => setup.configure name :: (setup.configure name).2.configureAll rest

/-- The results in a process that starts at a level and without a handler. -/
def afresh (level : Nat) (names : List String) : List (Except Breakdown Unit × Setup) :=
  (⟨level, false⟩ : Setup).configureAll names

/-- A result of setting a log up as a name asks: nothing fails, there is exactly one handler, and
the level is the one asked for. -/
structure AsAsked (name : String) (result : Except Breakdown Unit × Setup) : Prop where
  passed : result.1 = .ok ()
  handler : result.2.handlers = [format]
  level : Asks name result.2.level

variable {setup : Setup} {name : String} {cause : Breakdown} {rest : List String}

/-- A log that writes its records is left as it is. -/
theorem configure_writing (writing : setup.writing = true) (name : String) :
    setup.configure name = (.ok (), setup) :=
  if_pos writing

theorem configure_misnamed (idle : setup.writing = false)
    (misnomer : misnomers.get? (Text.upper name) = some cause) :
    setup.configure name = (.error cause, { setup with writing := true }) := by
  simp [configure, idle, misnomer]

theorem configure_named (idle : setup.writing = false)
    (apt : misnomers.get? (Text.upper name) = none) :
    setup.configure name = (.ok (), ⟨(levels.get? (Text.upper name)).getD 20, true⟩) := by
  simp [configure, idle, apt]

/-- Once the log writes its records, nothing fails and nothing changes. -/
theorem configureAll_writing (writing : setup.writing = true) (names : List String) :
    setup.configureAll names = names.map fun _ => (.ok (), setup) := by
  induction names with
  | nil => rfl
  | cons name rest ih =>
    rw [configureAll, configure_writing writing, ih, List.map_cons]

theorem configureAll_misnamed (idle : setup.writing = false)
    (misnomer : misnomers.get? (Text.upper name) = some cause) :
    setup.configureAll (name :: rest) =
      (.error cause, { setup with writing := true }) ::
        rest.map fun _ => (.ok (), { setup with writing := true }) := by
  rw [configureAll, configure_misnamed idle misnomer, configureAll_writing rfl]

theorem configureAll_named (idle : setup.writing = false)
    (apt : misnomers.get? (Text.upper name) = none) :
    setup.configureAll (name :: rest) =
      (name :: rest).map fun _ => (.ok (), ⟨(levels.get? (Text.upper name)).getD 20, true⟩) := by
  rw [configureAll, configure_named idle apt, configureAll_writing rfl, List.map_cons]

end Setup

variable {name : String} {number : Nat} {setup : Setup}

theorem asks_getD (name : String) : Asks name ((levels.get? (Text.upper name)).getD 20) := by
  have unique : (levels.map Prod.fst).Nodup := by decide
  cases found : levels.get? (Text.upper name) with
  | some number => exact .level ((Named.get?_eq_some_iff unique).mp found)
  | none =>
    refine .info fun number names => ?_
    rw [Names, ← Named.get?_eq_some_iff unique, found] at names
    cases names

theorem misnamed_iff : Misnamed name ↔ ∃ cause, misnomers.get? (Text.upper name) = some cause := by
  have unique : (misnomers.map Prod.fst).Nodup := by decide
  simp only [Named.get?_eq_some_iff unique, Misnamed, List.mem_map, Prod.exists, exists_and_right,
    exists_eq_right]

/-- In a process that starts without a handler, setting the log up for names one after the other
goes each time as the first of them asks exactly if that one stands for nothing other than a level.
If it does, the first time fails and leaves the level as it was, and all later times change nothing
about that. In either case there is exactly one handler from the first time on. -/
theorem log_is_set_up_as_first_asks_iff (level : Nat) (first : String) (rest : List String) :
    ((∀ result ∈ Setup.afresh level (first :: rest), Setup.AsAsked first result) ↔
        ¬ Misnamed first) ∧
      (¬ Misnamed first → ∃ number, Asks first number ∧ Setup.afresh level (first :: rest) =
        (first :: rest).map fun _ => (.ok (), ⟨number, true⟩)) ∧
      (Misnamed first → ∃ cause, misnomers.get? (Text.upper first) = some cause ∧
        Setup.afresh level (first :: rest) =
          (.error cause, ⟨level, true⟩) :: rest.map fun _ => (.ok (), ⟨level, true⟩)) := by
  have apt (named : ¬ Misnamed first) : ∃ number, Asks first number ∧
      Setup.afresh level (first :: rest) =
        (first :: rest).map fun _ => (.ok (), ⟨number, true⟩) := by
    have found : misnomers.get? (Text.upper first) = none := by
      simpa [misnamed_iff, Option.eq_none_iff_forall_ne_some] using named
    exact ⟨_, asks_getD first, Setup.configureAll_named rfl found⟩
  have inapt (misnamed : Misnamed first) : ∃ cause, misnomers.get? (Text.upper first) = some cause ∧
      Setup.afresh level (first :: rest) =
        (.error cause, ⟨level, true⟩) :: rest.map fun _ => (.ok (), ⟨level, true⟩) := by
    obtain ⟨cause, found⟩ := misnamed_iff.mp misnamed
    exact ⟨cause, found, Setup.configureAll_misnamed rfl found⟩
  refine ⟨⟨?_, ?_⟩, apt, inapt⟩
  · intro all misnamed
    obtain ⟨cause, -, same⟩ := inapt misnamed
    rw [same] at all
    cases (all _ List.mem_cons_self).passed
  · intro named result member
    obtain ⟨number, asks, same⟩ := apt named
    rw [same, List.mem_map] at member
    obtain ⟨-, -, rfl⟩ := member
    exact ⟨rfl, rfl, asks⟩

/-- The name of a format is refused as a level, and the level asked for afterwards is never set. -/
theorem name_of_format_is_refused :
    Setup.afresh 30 ["basic_format", "info"] =
        [(.error (.logLevel basicFormat), ⟨30, true⟩), (.ok (), ⟨30, true⟩)] ∧
      ¬ ∀ result ∈ Setup.afresh 30 ["basic_format", "info"],
        Setup.AsAsked "basic_format" result := by
  have same : Setup.afresh 30 ["basic_format", "info"] =
      [(.error (.logLevel basicFormat), ⟨30, true⟩), (.ok (), ⟨30, true⟩)] := rfl
  refine ⟨same, fun all => ?_⟩
  rw [same] at all
  cases (all _ List.mem_cons_self).passed

end SchemaWipe.Log
