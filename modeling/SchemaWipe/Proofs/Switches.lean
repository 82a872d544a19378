import SchemaWipe.Proofs.Precedence
import SchemaWipe.Proofs.Substitution

/-! The safety switches fail closed. Each is what the file says under its key, or else what is safe;
variables and options have no say in it, but for variables that the file refers to. A value that
means neither on nor off is always refused. -/
namespace SchemaWipe

/-- A value means on or off: a truth value, or a word for one in any case. -/
inductive Value.Means : Bool → Value → Prop where
  | bool (b : Bool) : Means b (.bool b)
  | on {s : String} (word : Text.lower s ∈ ["true", "yes", "1", "on"]) : Means true (.text s)
  | off {s : String} (word : Text.lower s ∈ ["false", "no", "0", "off"]) : Means false (.text s)

namespace Settings

/-- The value that a document holds under a key of a section. -/
def held? (document : List (Value × Value)) (place key : String) : Option Value :=
  match Value.find? place document with
  | some (.mapping entries) => Value.find? key entries
  | _ => none

/-- The switches of settings are as a document sets them: both are safe unless it says otherwise,
and it holds nothing under their keys that means neither on nor off. -/
structure SwitchedBy (document : List (Value × Value)) (settings : Settings) : Prop where
  remote : settings.server.allowRemoteReset = true ↔
    ∃ value, held? document "server" "allow_remote_reset" = some value ∧ value.Means true
  confirmation : settings.reset.requireConfirmation = false ↔
    ∃ value, held? document "reset" "require_confirmation" = some value ∧ value.Means false
  remote_meant : ∀ value, held? document "server" "allow_remote_reset" = some value →
    ∃ b, value.Means b
  confirmation_meant : ∀ value, held? document "reset" "require_confirmation" = some value →
    ∃ b, value.Means b

theorem switch?_eq_some_iff {value : Value} {b : Bool} :
    switch? value = some b ↔ value.Means b := by
  constructor
  · intro known
    unfold switch? at known
    split at known
    · cases known
      exact .bool b
    · split at known
      · rename_i word
        cases known
        exact .on (List.contains_iff_mem.mp word)
      · split at known
        · rename_i word
          cases known
          exact .off (List.contains_iff_mem.mp word)
        · cases known
    · cases known
  · rintro (_ | word | @⟨s, word⟩)
    · rfl
    · exact if_pos (List.contains_iff_mem.mpr word)
    · have apart : ∀ word ∈ offWords, ¬ onWords.contains word = true := by decide
      exact (if_neg (apart _ word)).trans (if_pos (List.contains_iff_mem.mpr word))

/-- No value means both on and off. -/
theorem means_unique {value : Value} {b c : Bool} (meant : value.Means b) (meant' : value.Means c) :
    b = c := by
  rw [← switch?_eq_some_iff] at meant meant'
  exact Option.some.inj (meant.symm.trans meant')

/-- A switch takes exactly the values that mean on or off. -/
theorem switch_eq_ok_iff {field : String} {value : Value} {b : Bool} :
    switch field value = .ok b ↔ value.Means b := by
  rw [← switch?_eq_some_iff, switch]
  cases switch? value with
  | some known => simp
  | none =>
    constructor
    · intro told
      obtain ⟨_, -, told⟩ := ok_of_bind told
      cases told
    · rintro ⟨⟩

variable {files : Files} {path : Option String} {env : Variables} {options : Named Value}
  {document entries : List (Value × Value)} {s : Sections} {settings : Settings}

/-- What a section holds under a key is what the document holds there. -/
theorem find?_of_section? (key : String) {place : String}
    (taken : section? document place = .ok entries) :
    Value.find? key entries = held? document place key := by
  unfold section? at taken
  unfold held?
  split at taken
  · rename_i absent
    cases taken
    rw [absent]
    rfl
  · rename_i empty
    cases taken
    rw [empty]
    rfl
  · rename_i held
    cases taken
    rw [held]
  · cases taken

theorem Sections.ofDocument_eq_ok (read : Sections.ofDocument document = .ok s) :
    (section? document "reset" = .ok s.reset) ∧ section? document "server" = .ok s.server := by
  obtain ⟨connection, -, read⟩ := ok_of_bind read
  obtain ⟨reset, reset_taken, read⟩ := ok_of_bind read
  obtain ⟨server, server_taken, read⟩ := ok_of_bind read
  obtain ⟨observability, -, read⟩ := ok_of_bind read
  cases read
  exact ⟨reset_taken, server_taken⟩

namespace Field

theorem ofOptions?_eq_none {x : Field} (barred : x.name ∉ optionNames) :
    x.ofOptions? options = none := by
  have none_given (option : String × Value) : x.optionValue? option = none :=
    if_neg fun both => barred both.2
  have nothing : options.filterMap x.optionValue? = [] :=
    List.filterMap_eq_nil_iff.mpr fun option _ => none_given option
  rw [ofOptions?, nothing, List.getLast?_nil]

/-- Neither options nor variables decide a field that takes none. -/
theorem effective_of_barred {x : Field} (barred : x.name ∉ optionNames)
    (unnamed : x.variableName? = none) :
    x.effective s env options = (x.ofSections? s).getD x.usual := by
  rw [effective, ofOptions?_eq_none barred, ofVariables?, unnamed]
  rfl

end Field

/-- A switch is turned from its usual position exactly by a value that means so, and every value
that is held for it means its position. -/
theorem turned_iff {place key : String} {usual b : Bool}
    (taken : section? document place = .ok entries)
    (made : switch key ((Value.find? key entries).getD (.bool usual)) = .ok b) :
    (b = !usual ↔ ∃ value, held? document place key = some value ∧ value.Means !usual) ∧
      ∀ value, held? document place key = some value → ∃ b, value.Means b := by
  rw [find?_of_section? key taken, switch_eq_ok_iff] at made
  cases held : held? document place key with
  | none =>
    rw [held] at made
    cases made
    simp
  | some value =>
    rw [held] at made
    refine ⟨⟨?_, ?_⟩, ?_⟩
    · rintro rfl
      exact ⟨value, rfl, made⟩
    · rintro ⟨_, ⟨⟩, turned⟩
      exact means_unique made turned
    · rintro _ ⟨⟩
      exact ⟨b, made⟩

/-- Settings that are read are switched by the document of their file. -/
theorem switchedBy_of_load (loaded : load files path env options = .ok settings) :
    ∃ document, Settings.document files path env = .ok document ∧ SwitchedBy document settings := by
  obtain ⟨s, read, made⟩ := load_eq_ok_iff.mp loaded
  obtain ⟨document, resolved, read⟩ := ok_of_bind read
  obtain ⟨reset, server⟩ := Sections.ofDocument_eq_ok read
  have confirmation := made.requireConfirmation
  have remote := made.allowRemoteReset
  rw [Field.effective_of_barred (by decide) rfl] at confirmation remote
  obtain ⟨confirmation, confirmation_meant⟩ := turned_iff reset confirmation
  obtain ⟨remote, remote_meant⟩ := turned_iff server remote
  exact ⟨document, resolved, remote, confirmation, remote_meant, confirmation_meant⟩

/-- The switches of a document have one position each. -/
theorem SwitchedBy.unique {settings' : Settings} (switched : SwitchedBy document settings)
    (switched' : SwitchedBy document settings') :
    settings'.server.allowRemoteReset = settings.server.allowRemoteReset ∧
      settings'.reset.requireConfirmation = settings.reset.requireConfirmation := by
  have remote := switched'.remote.trans switched.remote.symm
  have confirmation := switched'.confirmation.trans switched.confirmation.symm
  exact ⟨Bool.eq_iff_iff.mpr remote, Bool.eq_iff_iff.mpr (by simpa using not_congr confirmation)⟩

/-- The safety switches fail closed. Whenever settings are read, remote resets are allowed exactly
if the file says so, and confirmation is waived exactly if it says so; and the file holds nothing
for either switch that means neither on nor off. Options of any name and variables that the file
does not refer to turn neither switch, and without a file both are safe. -/
theorem switches_fail_closed (files : Files) (path : Option String) (env : Variables)
    (options : Named Value) :
    (∀ settings, load files path env options = .ok settings →
      ∃ document, Settings.document files path env = .ok document ∧
        SwitchedBy document settings) ∧
    (∀ env' options' settings settings',
      (∀ file value, path = some file → stored? files file = some value →
        ∀ name, value.Refers name → env'.get? name = env.get? name) →
      load files path env options = .ok settings →
      load files path env' options' = .ok settings' →
      settings'.server.allowRemoteReset = settings.server.allowRemoteReset ∧
        settings'.reset.requireConfirmation = settings.reset.requireConfirmation) ∧
    ∀ settings, load files none env options = .ok settings →
      settings.server.allowRemoteReset = false ∧ settings.reset.requireConfirmation = true := by
  refine ⟨fun settings => switchedBy_of_load, ?_, ?_⟩
  · intro env' options' settings settings' agree loaded loaded'
    obtain ⟨document, resolved, switched⟩ := switchedBy_of_load loaded
    obtain ⟨document', resolved', switched'⟩ := switchedBy_of_load loaded'
    rw [document_congr agree, resolved] at resolved'
    cases resolved'
    exact switched.unique switched'
  · intro settings loaded
    obtain ⟨_, ⟨⟩, switched⟩ := switchedBy_of_load loaded
    constructor
    · rw [Bool.eq_false_iff]
      intro allowed
      obtain ⟨_, ⟨⟩, _⟩ := switched.remote.mp allowed
    · rw [← Bool.not_eq_false]
      intro waived
      obtain ⟨_, ⟨⟩, _⟩ := switched.confirmation.mp waived

/-- A file that leaves it to a variable whether remote resets are allowed. -/
def leftToVariable : Files :=
  ({} : Files).write "c.yml" "server: \x7b'allow_remote_reset': '$\x7bR\x7d'\x7d".toUTF8

/-- A variable that the file refers to turns a switch. One that is named like the switch does not,
and neither does an option. -/
theorem referred_variable_turns_switch :
    ∃ settings settings',
      load leftToVariable (some "c.yml") [("R", "Yes")] [] = .ok settings ∧
      load leftToVariable (some "c.yml") [("R", "Yes"), ("ALLOW_REMOTE_RESET", "no")]
        [("allow_remote_reset", .bool false)] = .ok settings' ∧
      settings.server.allowRemoteReset = true ∧
      settings'.server.allowRemoteReset = settings.server.allowRemoteReset := by
  have allowed : load leftToVariable (some "c.yml") [("R", "Yes")] [] =
      .ok { server := { allowRemoteReset := true } } :=
    ok_of_toOption (by decide +kernel)
  have allowed' : load leftToVariable (some "c.yml") [("R", "Yes"), ("ALLOW_REMOTE_RESET", "no")]
      [("allow_remote_reset", .bool false)] = .ok { server := { allowRemoteReset := true } } :=
    ok_of_toOption (by decide +kernel)
  have referred : (stored? leftToVariable "c.yml").map holes = some [.reference "R"] := by
    decide +kernel
  refine ⟨_, _, allowed, allowed', rfl, ?_⟩
  obtain ⟨-, unturned, -⟩ := switches_fail_closed leftToVariable (some "c.yml") [("R", "Yes")] []
  refine (unturned _ _ _ _ ?_ allowed allowed').1
  -- The only variable that the file refers to is the first one.
  rintro _ value ⟨⟩ held name refers
  rw [held, Option.map_some, Option.some.injEq] at referred
  rw [← mem_holes_iff, referred] at refers
  obtain rfl := Hole.reference.inj (List.mem_singleton.mp refers)
  rfl

end Settings
end SchemaWipe
