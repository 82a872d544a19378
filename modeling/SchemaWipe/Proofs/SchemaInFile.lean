import SchemaWipe.Proofs.WordValue
import SchemaWipe.Proofs.Replacement
import SchemaWipe.Proofs.Switches

/-! The schema that a file names is the one that settings have. The name stands in the file as a
plain word, so what matters is what the word stands for and what text that is turned into. -/
namespace SchemaWipe.Settings
open Yaml (Word)

variable {files : Files} {path name place key : String} {env : Variables} {value : Value}
  {entries results : List (Value × Value)}

theorem word_of_plain (plain : Guard.Plain name) : Word name.toList where
  start := by
    obtain ⟨c, rest, spelled, start⟩ := plain.start
    exact ⟨c, rest, spelled, Guard.startsIdentifier_iff.mpr start⟩
  chars c member := Guard.continuesIdentifier_iff.mpr (plain.chars c member)

/-- A word that is no truth value in other letters stands for a text: for the empty one if it is a
word for nothing, and else for itself. -/
theorem scalarValue_word (word : Word name.toList)
    (meant : name ∈ Yaml.switchWords → name = "True" ∨ name = "False") :
    ∃ value, Yaml.scalarValue (Yaml.Tag.ofPlain name.toList) name = .ok value ∧
      (Yaml.Tag.ofPlain name.toList).isScalar = true ∧
      asText value = .ok (if name ∈ Yaml.nullWords then "" else name) ∧
      ∀ env, resolve env value = .ok value := by
  rw [Yaml.ofPlain_word word]
  by_cases nothing : name ∈ Yaml.nullWords
  · rw [if_pos nothing, if_pos nothing]
    exact ⟨.null, rfl, rfl, rfl, fun _ => rfl⟩
  rw [if_neg nothing, if_neg nothing]
  by_cases switch : name ∈ Yaml.switchWords
  · rw [if_pos switch]
    rcases meant switch with rfl | rfl
    · exact ⟨.bool true, rfl, rfl, rfl, fun _ => rfl⟩
    · exact ⟨.bool false, rfl, rfl, rfl, fun _ => rfl⟩
  · rw [if_neg switch]
    refine ⟨.text name, rfl, rfl, rfl, fun env => ?_⟩
    have unmentioned (other : List Char) : name.toList ≠ mention other := by
      obtain ⟨c, rest, spelled, start⟩ := word.start
      rw [spelled]
      rintro ⟨⟩
      cases start
    rw [resolve, resolveText_other unmentioned]
    rfl

/-- What stands under a name is resolved where it stands. -/
theorem ReplacedEntries.find? (replaced : ReplacedEntries env entries results)
    (held : Value.find? name entries = some value) :
    ∃ result, Replaced env value result ∧ Value.find? name results = some result := by
  induction entries generalizing results with
  | nil => cases held
  | cons entry rest ih =>
    obtain ⟨key, first⟩ := entry
    cases replaced with
    | cons here others =>
      unfold Value.find? at held ⊢
      cases key with
      | text s =>
        by_cases same : s = name
        · simp only [same, ↓reduceIte, Option.some.injEq] at held ⊢
          subst held
          exact ⟨_, here, rfl⟩
        · simp only [same, ↓reduceIte] at held ⊢
          exact ih others held
      | _ => exact ih others held

theorem held?_of_replaced (replaced : ReplacedEntries env entries results)
    (held : held? entries place key = some value) :
    ∃ result, Replaced env value result ∧ held? results place key = some result := by
  unfold held? at held ⊢
  split at held
  · rename_i inner found
    obtain ⟨part, resolved, found'⟩ := replaced.find? found
    cases resolved with
    | plain plain => cases plain
    | mapping each =>
      rw [found']
      exact each.find? held
  · cases held

/-- The document of a file is what it says, with the references resolved. -/
theorem document_of_stored (stored : stored? files path = some value)
    (top : topMapping value = .ok entries) :
    document files (some path) env = resolveEntries env entries := by
  rw [document_eq_of_stored stored, top]
  rfl

/-- Without variables and options, the schema is what the document of the file holds for it. -/
theorem schema_of_held {said : Value} {settings : Settings} {schema : String}
    (stored : stored? files path = some said) (top : topMapping said = .ok entries)
    (held : held? entries "reset" "schema" = some value)
    (unresolved : resolve [] value = .ok value) (shown : asText value = .ok schema)
    (loaded : load files (some path) [] [] = .ok settings) : settings.reset.schema = schema := by
  obtain ⟨s, read, made⟩ := load_eq_ok_iff.mp loaded
  obtain ⟨results, resolved, read⟩ := ok_of_bind read
  rw [document_of_stored stored top, resolveEntries_eq_ok_iff] at resolved
  obtain ⟨result, replaced, held⟩ := held?_of_replaced resolved held
  obtain rfl : value = result := by
    rw [← resolve_eq_ok_iff, unresolved] at replaced
    exact Except.ok.inj replaced
  have found := find?_of_section? "schema" (Sections.ofDocument_eq_ok read).1
  rw [held] at found
  have made_schema : asText ((Value.find? "schema" s.reset).getD (.text "public")) =
      .ok settings.reset.schema := made.schema
  rw [found, Option.getD_some, shown] at made_schema
  exact (Except.ok.inj made_schema).symm

/-- A file that says nothing but the schema is read as usual settings with that schema. -/
theorem load_of_single {schema : String}
    (stored : stored? files path =
      some (.mapping [(.text "reset", .mapping [(.text "schema", value)])]))
    (unresolved : resolve [] value = .ok value) (shown : asText value = .ok schema) :
    load files (some path) [] [] = .ok { reset := { schema } } := by
  have resolved : document files (some path) [] =
      .ok [(.text "reset", .mapping [(.text "schema", value)])] := by
    simp [document_of_stored stored rfl, resolveEntries, resolve, unresolved, bind, Except.bind,
      pure, Except.pure]
  refine load_eq_ok_iff.mpr ⟨⟨[], [(.text "schema", value)], [], []⟩, ?_, ?_⟩
  · rw [sections, resolved]
    rfl
  · exact {
      connection := ⟨rfl, rfl, rfl, rfl, rfl, rfl, by simp⟩
      schema := shown
      requireConfirmation := rfl
      allowRemoteReset := rfl
      logLevel := ⟨"info", rfl, rfl⟩ }

/-- The schema named in a file is the schema that is targeted. A name that passes the check is read
as it stands from a file whose only section has it as its only entry, however the lines are spaced;
and whatever else a file says, if the plain name stands for the schema and settings are read, they
have it. This leaves out the words for truth values, unless they are spelled as those are shown. The
words for nothing are read as the empty name, which does not pass the check. -/
theorem schema_in_file_is_targeted (files : Files) (path : String) {field name : String}
    (accepted : Guard.identifier field (some name) = .ok name)
    (meant : name ∈ Yaml.switchWords → name = "True" ∨ name = "False") :
    (∀ (layout : Yaml.Layout) content text, files.content? (Path.ofText path) = some content →
      Text.decodeFile? content = some text →
      text.toList = layout.text "reset".toList "schema".toList name.toList →
      load files (some path) [] [] =
        .ok { reset := { schema := if name ∈ Yaml.nullWords then "" else name } }) ∧
    (∀ said entries value settings, stored? files path = some said →
      topMapping said = .ok entries → held? entries "reset" "schema" = some value →
      Yaml.scalarValue (Yaml.Tag.ofPlain name.toList) name = .ok value →
      load files (some path) [] [] = .ok settings →
      settings.reset.schema = if name ∈ Yaml.nullWords then "" else name) ∧
    Guard.identifier field (some "") = .error (.identifier field) := by
  have word := word_of_plain (Guard.identifier_eq_ok_iff.mp accepted).2
  obtain ⟨value, stands, scalar, shown, unresolved⟩ := scalarValue_word word meant
  refine ⟨?_, ?_, rfl⟩
  · intro layout content text held decoded spelled
    have read := Yaml.load_single scalar (layout.ofText_text word) stands
    rw [← spelled] at read
    exact load_of_single (stored?_eq_some_iff.mpr ⟨content, text, held, decoded, read⟩)
      (unresolved []) shown
  · intro said entries value' settings stored top held stands' loaded
    rw [stands] at stands'
    cases stands'
    exact schema_of_held stored top held (unresolved []) shown loaded

/-- A file that names a schema and says nothing else. -/
def naming (name : String) : Files :=
  ({} : Files).write "c.yml" ("reset:\n  schema: " ++ name ++ "\n").toUTF8

/-- A file that names a schema in braces and says where the database is. -/
def placed : Files :=
  ({} : Files).write "c.yml"
    "connection:\n  host: db # moved\nreset: \x7bschema: app_live\x7d\n".toUTF8

/-- A name in letters and an underscore is read as it stands, alone and beside other settings. -/
theorem usual_name_is_targeted :
    load (naming "app_live") (some "c.yml") [] [] = .ok { reset := { schema := "app_live" } } ∧
    ∃ settings, load placed (some "c.yml") [] [] = .ok settings ∧
      settings.connection.host = "db" ∧ settings.reset.schema = "app_live" := by
  have accepted : Guard.identifier "schema" (some "app_live") = .ok "app_live" :=
    ok_of_toOption (by decide)
  have meant : "app_live" ∈ Yaml.switchWords → "app_live" = "True" ∨ "app_live" = "False" := by
    decide
  constructor
  · obtain ⟨alone, -, -⟩ := schema_in_file_is_targeted (naming "app_live") "c.yml" accepted meant
    exact alone ⟨[], by decide, 1, 0, ['\n'], by decide⟩ "reset:\n  schema: app_live\n".toUTF8
      "reset:\n  schema: app_live\n" (by decide +kernel) (by decide +kernel) (by decide +kernel)
  · have loaded : load placed (some "c.yml") [] [] =
        .ok { connection := { host := "db" }, reset := { schema := "app_live" } } :=
      ok_of_toOption (by decide +kernel)
    have seen : (((stored? placed "c.yml").bind fun said => (topMapping said).toOption).bind
        (held? · "reset" "schema")).any (·.sameKey (.text "app_live")) = true := by decide +kernel
    simp only [Option.any_eq_true, Option.bind_eq_some_iff] at seen
    obtain ⟨value, ⟨entries, ⟨said, stored, top⟩, held⟩, same⟩ := seen
    obtain rfl := Value.sameKey_text_iff.mp same
    obtain ⟨-, beside, -⟩ := schema_in_file_is_targeted placed "c.yml" accepted meant
    exact ⟨_, loaded, rfl, beside said entries _ _ stored (ok_of_toOption top) held rfl loaded⟩

/-- Two words that pass the check as names stand for something else: one for nothing, which is read
as the empty name, and one for a truth value, which is spelled in another way. -/
theorem some_words_are_no_names :
    (Guard.identifier "schema" (some "null") = .ok "null" ∧
      load (naming "null") (some "c.yml") [] [] = .ok { reset := { schema := "" } }) ∧
    Guard.identifier "schema" (some "on") = .ok "on" ∧
      load (naming "on") (some "c.yml") [] [] = .ok { reset := { schema := "True" } } :=
  ⟨⟨ok_of_toOption (by decide), ok_of_toOption (by decide +kernel)⟩,
    ok_of_toOption (by decide), ok_of_toOption (by decide +kernel)⟩

end SchemaWipe.Settings
