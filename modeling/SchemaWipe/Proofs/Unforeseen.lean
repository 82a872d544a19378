import SchemaWipe.Proofs.Precedence
import SchemaWipe.Proofs.Substitution
import SchemaWipe.Proofs.Unwritable

/-! When reading settings ends in neither settings nor a fault that names what is wrong. That takes
a file whose reader breaks down, one with a collection inside itself, or a value that the conversion
for its field cannot deal with; and nothing that is met earlier must be a fault. -/
namespace SchemaWipe.Settings

namespace Check

/-- A check breaks down over the values of fields. To require a field never does. -/
def BrokenBy (value : Field → Value) : Check → Prop
  | convert x => x.BrokenBy (value x)
  | require => False

theorem breaks_iff {value : Field → Value} (check : Check) :
    (∃ cause, check.failure? value = some (.breakdown cause)) ↔ check.BrokenBy value := by
  cases check with
  | convert x => exact x.breaks_iff
  | require =>
    refine iff_of_false ?_ id
    rintro ⟨cause, failed⟩
    rw [failure?] at failed
    split at failed
    · split at failed <;> cases failed
    · cases failed

end Check

/-- The first of several checks that fails is one that breaks down. -/
theorem breaksDown_toSettings_iff {s : Sections} : BreaksDown s.toSettings ↔
    ∃ before check after, Check.all = before ++ check :: after ∧
      (∀ earlier ∈ before, earlier.failure? s.value = none) ∧ check.BrokenBy s.value := by
  rw [breaksDown_iff_failure?, Sections.failure?_toSettings]
  simp only [List.findSome?_eq_some_iff]
  constructor
  · rintro ⟨cause, before, check, after, order, failed, passed⟩
    exact ⟨before, check, after, order, passed, check.breaks_iff.mp ⟨cause, failed⟩⟩
  · rintro ⟨before, check, after, order, passed, broken⟩
    obtain ⟨cause, failed⟩ := check.breaks_iff.mpr broken
    exact ⟨cause, before, check, after, order, failed, passed⟩

/-- Resolving entries breaks down at a loop before which every hole can be filled. -/
theorem breaksDown_resolveEntries_iff {env : Variables} {entries : List (Value × Value)} :
    BreaksDown (resolveEntries env entries) ↔ ∃ before after,
      holesOfEntries entries = before ++ .loop :: after ∧ ∀ hole ∈ before, hole.Filled env := by
  rw [breaksDown_iff_failure?, failure?_resolveEntries]
  simp only [List.findSome?_eq_some_iff, Hole.failure?_eq_none_iff]
  constructor
  · rintro ⟨cause, before, hole, after, order, failed, filled⟩
    obtain rfl := Hole.failure?_eq_breakdown_iff.mp ⟨cause, failed⟩
    exact ⟨before, after, order, filled⟩
  · rintro ⟨before, after, order, filled⟩
    exact ⟨.endless, before, .loop, after, order, rfl, filled⟩

/-- The reader of a file breaks down: its text is neither a document nor malformed. -/
def Unreadable (files : Files) (file : String) : Prop :=
  ∃ content text cause, files.content? (Path.ofText file) = some content ∧
    Text.decodeFile? content = some text ∧ Yaml.load text.toList = .error (.breakdown cause)

/-- A file says a mapping in which a loop is met, and no variable before it is missing. -/
def Endless (files : Files) (file : String) (env : Variables) : Prop :=
  ∃ entries before after, stored? files file = some (.mapping entries) ∧
    holesOfEntries entries = before ++ .loop :: after ∧ ∀ hole ∈ before, hole.Filled env

/-- Of the values that documents have, only mappings are resolved. -/
theorem breaksDown_topMapping_iff {env : Variables} {value : Value} :
    BreaksDown ((topMapping value).mapError .fault >>= resolveEntries env) ↔
      ∃ entries, value = .mapping entries ∧ BreaksDown (resolveEntries env entries) := by
  have others (apart : ∀ entries, value ≠ .mapping entries) :
      ¬ BreaksDown ((topMapping value).mapError .fault >>= resolveEntries env) := by
    unfold topMapping
    split
    · exact not_breaksDown_ok []
    · split
      · exact absurd rfl (apart _)
      · exact not_breaksDown_fault _
  cases value with
  | mapping entries =>
    rw [topMapping_mapping]
    constructor
    · intro broken
      exact ⟨entries, rfl, broken⟩
    · rintro ⟨_, ⟨⟩, broken⟩
      exact broken
  | _ =>
    refine iff_of_false (others ?_) ?_
    · rintro _ ⟨⟩
    · rintro ⟨_, ⟨⟩, _⟩

theorem breaksDown_readDocument_iff {path : Path} {content : ByteArray} {env : Variables} :
    BreaksDown (readDocument path content env) ↔ ∃ text, Text.decodeFile? content = some text ∧
      ((∃ cause, Yaml.load text.toList = .error (.breakdown cause)) ∨
        ∃ entries, Yaml.load text.toList = .ok (.mapping entries) ∧
          BreaksDown (resolveEntries env entries)) := by
  unfold readDocument
  cases Text.decodeFile? content with
  | none => exact iff_of_false (not_breaksDown_fault _) nofun
  | some text =>
    simp only [pure_bind, Option.some.injEq, exists_eq_left']
    cases Yaml.load text.toList with
    | error cause =>
      cases cause <;>
        simp [BreaksDown, bind, Except.bind, throw, throwThe, MonadExceptOf.throw]
    | ok value =>
      simpa using breaksDown_topMapping_iff

theorem breaksDown_document_iff {files : Files} {path : Option String} {env : Variables} :
    BreaksDown (document files path env) ↔
      ∃ file, path = some file ∧ (Unreadable files file ∨ Endless files file env) := by
  cases path with
  | none => exact iff_of_false (not_breaksDown_ok _) nofun
  | some file =>
    unfold document
    simp only [Option.some.injEq, exists_eq_left']
    cases held : files.content? (Path.ofText file) with
    | none =>
      refine iff_of_false (not_breaksDown_fault _) ?_
      rintro (⟨content, text, cause, found, -⟩ | ⟨entries, before, after, stored, -⟩)
      · rw [held] at found
        cases found
      · obtain ⟨content, text, found, -⟩ := stored?_eq_some_iff.mp stored
        rw [held] at found
        cases found
    | some content =>
      rw [breaksDown_readDocument_iff]
      constructor
      · rintro ⟨text, decoded, ⟨cause, broken⟩ | ⟨entries, loaded, endless⟩⟩
        · exact .inl ⟨content, text, cause, held, decoded, broken⟩
        · obtain ⟨before, after, order, filled⟩ := breaksDown_resolveEntries_iff.mp endless
          exact .inr ⟨entries, before, after,
            stored?_eq_some_iff.mpr ⟨content, text, held, decoded, loaded⟩, order, filled⟩
      · rintro (⟨found, text, cause, held', decoded, broken⟩ |
          ⟨entries, before, after, stored, order, filled⟩)
        · rw [held] at held'
          cases held'
          exact ⟨text, decoded, .inl ⟨cause, broken⟩⟩
        · obtain ⟨found, text, held', decoded, loaded⟩ := stored?_eq_some_iff.mp stored
          rw [held] at held'
          cases held'
          exact ⟨text, decoded, .inr ⟨entries, loaded,
            breaksDown_resolveEntries_iff.mpr ⟨before, after, order, filled⟩⟩⟩

/-- To find sections in a document never breaks down. -/
theorem not_breaksDown_ofDocument (document : List (Value × Value)) :
    ¬ BreaksDown (Sections.ofDocument document) := by
  have taken (place : String) : ¬ BreaksDown (section? document place) := by
    unfold section?
    split
    · exact not_breaksDown_ok []
    · exact not_breaksDown_ok []
    · exact not_breaksDown_ok _
    · exact not_breaksDown_fault _
  unfold Sections.ofDocument
  simp [breaksDown_bind_iff, taken, pure, Except.pure, not_breaksDown_ok]

/-- What nothing in the settings foresees. -/
inductive Unforeseen (files : Files) (path : Option String) (env : Variables)
    (options : Named Value) : Prop where
  /-- The reader of the file breaks down. -/
  | unreadable {file : String} (named : path = some file) (unreadable : Unreadable files file)
  /-- The file says a collection that contains itself. -/
  | endless {file : String} (named : path = some file) (endless : Endless files file env)
  /-- The first check that fails is one that breaks down over the effective values. -/
  | unconverted {s : Sections} {before after : List Check} {check : Check}
      (read : sections files path env = .ok s) (order : Check.all = before ++ check :: after)
      (passed : ∀ earlier ∈ before, earlier.failure? (Field.effective s env options) = none)
      (broken : check.BrokenBy (Field.effective s env options))

variable {files : Files} {path : Option String} {env : Variables} {options : Named Value}

theorem breaksDown_sections_iff : BreaksDown (sections files path env) ↔
    ∃ file, path = some file ∧ (Unreadable files file ∨ Endless files file env) := by
  rw [sections, breaksDown_bind_iff, breaksDown_document_iff, or_iff_left]
  rintro ⟨document, -, broken⟩
  exact not_breaksDown_ofDocument document broken

theorem breaksDown_load_iff :
    BreaksDown (load files path env options) ↔ Unforeseen files path env options := by
  rw [load_eq, breaksDown_bind_iff, breaksDown_sections_iff]
  simp only [breaksDown_toSettings_iff, Sections.value_applied]
  constructor
  · rintro (⟨file, named, unreadable | endless⟩ |
      ⟨s, read, before, check, after, order, passed, broken⟩)
    · exact .unreadable named unreadable
    · exact .endless named endless
    · exact .unconverted read order passed broken
  · rintro (⟨named, unreadable⟩ | ⟨named, endless⟩ | ⟨read, order, passed, broken⟩)
    · exact .inl ⟨_, named, .inl unreadable⟩
    · exact .inl ⟨_, named, .inr endless⟩
    · exact .inr ⟨_, read, _, _, _, order, passed, broken⟩

/-- Bad settings are refused with a fault that names what is wrong, and good ones are read, in all
but the cases that nothing foresees. -/
theorem settings_or_fault_iff (files : Files) (path : Option String) (env : Variables)
    (options : Named Value) :
    ((∃ settings, load files path env options = .ok settings) ∨
      ∃ fault, load files path env options = .error (.fault fault)) ↔
    ¬ Unforeseen files path env options := by
  rw [← breaksDown_load_iff]
  rcases load files path env options with (fault | cause) | settings <;> simp [BreaksDown]

/-- A file whose port is infinite. -/
def infinitePort : Files :=
  ({} : Files).write "config.yml" "connection:\n  port: .inf\n".toUTF8

/-- An infinite port is neither taken nor refused as one that is no number. -/
theorem infinite_port_is_no_fault :
    load infinitePort (some "config.yml") [] [] = .error (.breakdown .infiniteInteger) ∧
      ¬ ((∃ settings, load infinitePort (some "config.yml") [] [] = .ok settings) ∨
        ∃ fault, load infinitePort (some "config.yml") [] [] = .error (.fault fault)) := by
  have broken : load infinitePort (some "config.yml") [] [] =
      .error (.breakdown .infiniteInteger) :=
    eq_error_iff.mpr (by decide +kernel)
  rw [broken]
  exact ⟨rfl, by rintro (⟨_, ⟨⟩⟩ | ⟨_, ⟨⟩⟩)⟩

end SchemaWipe.Settings
