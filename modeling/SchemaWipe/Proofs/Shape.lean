import SchemaWipe.Proofs.Unforeseen

/-! The shape of a file of settings. It says a mapping or nothing at all, and so does each of its
sections. A section of another shape is always refused. So is a document of another shape, unless it
is blank: then its file is passed over as though there were none. -/
namespace SchemaWipe

namespace Value

/-- A value that is neither null nor a mapping. -/
structure Unmapped (value : Value) : Prop where
  something : value ≠ .null
  apart : ∀ entries, value ≠ .mapping entries

/-- A value that says nothing, though it is neither null nor a mapping: false, a zero, or an empty
text, list or set. -/
inductive Overlooked : Value → Prop where
  | no : Overlooked (.bool false)
  | whole : Overlooked (.int 0)
  | zero (negative : Bool) (exponent : Int) : Overlooked (.float (.finite negative 0 exponent))
  | text : Overlooked (.text "")
  | octets : Overlooked (.octets [])
  | list : Overlooked (.list [])
  | set : Overlooked (.set [])

variable {value : Value}

/-- A value is null, or a mapping, or neither. -/
theorem null_or_mapping_or_unmapped (value : Value) :
    value = .null ∨ (∃ entries, value = .mapping entries) ∨ value.Unmapped := by
  by_cases nothing : value = .null
  · exact .inl nothing
  · by_cases mapped : ∃ entries, value = .mapping entries
    · exact .inr (.inl mapped)
    · exact .inr (.inr ⟨nothing, not_exists.mp mapped⟩)

theorem not_unmapped_null : ¬ Unmapped .null :=
  fun unmapped => unmapped.something rfl

theorem not_unmapped_mapping (entries : List (Value × Value)) : ¬ Unmapped (.mapping entries) :=
  fun unmapped => unmapped.apart entries rfl

/-- Whether a value is null or a mapping. -/
def isMapped : Value → Bool
  | .null | .mapping _ => true
  | _ => false

theorem unmapped_iff : value.Unmapped ↔ value.isMapped = false := by
  unfold isMapped
  split
  · exact iff_of_false not_unmapped_null (by decide)
  · exact iff_of_false (not_unmapped_mapping _) (by decide)
  · rename_i something apart
    exact iff_of_true ⟨something, apart⟩ rfl

theorem Overlooked.unmapped (overlooked : value.Overlooked) : value.Unmapped := by
  constructor
  · rintro rfl
    cases overlooked
  · rintro entries rfl
    cases overlooked

theorem Overlooked.blank (overlooked : value.Overlooked) : value.isBlank = true := by
  cases overlooked <;> rfl

/-- The values that say nothing are null, the empty mapping and those that are overlooked. -/
theorem Unmapped.isBlank_iff (unmapped : value.Unmapped) :
    value.isBlank = true ↔ value.Overlooked := by
  refine ⟨fun blank => ?_, Overlooked.blank⟩
  cases value with
  | null => exact absurd unmapped not_unmapped_null
  | mapping entries => exact absurd unmapped (not_unmapped_mapping entries)
  | bool b =>
    cases b with
    | false => exact .no
    | true => cases blank
  | int i =>
    by_cases zero : i = 0
    · exact zero ▸ .whole
    · simp [isBlank, zero] at blank
  | float x =>
    match x with
    | .finite negative 0 exponent => exact .zero negative exponent
    | .finite _ (_ + 1) _ | .nan | .infinite _ => cases blank
  | text s =>
    obtain rfl := String.isEmpty_iff.mp blank
    exact .text
  | octets bytes =>
    cases bytes with
    | nil => exact .octets
    | cons byte rest => cases blank
  | list items =>
    cases items with
    | nil => exact .list
    | cons item rest => cases blank
  | set members =>
    cases members with
    | nil => exact .set
    | cons member rest => cases blank
  | _ => cases blank

end Value

namespace Settings

/-- The names of the sections, in the order in which they are looked for. -/
def sectionNames : List String := ["connection", "reset", "server", "observability"]

/-- A document holds something else than a mapping or null at a place. -/
def IllFormed (document : List (Value × Value)) (place : String) : Prop :=
  ∃ value, Value.find? place document = some value ∧ value.Unmapped

/-- What a file says has the wrong shape: it is neither null nor a mapping, or with its references
resolved it has a section that is neither. -/
inductive Misshapen (env : Variables) : Value → Prop where
  | document {value : Value} (unmapped : value.Unmapped) : Misshapen env value
  | part {entries resolved : List (Value × Value)} {place : String}
      (resolves : resolveEntries env entries = .ok resolved) (named : place ∈ sectionNames)
      (ill : IllFormed resolved place) : Misshapen env (.mapping entries)

/-- What is wrong with the shape of what a file says. Of several sections it is the first that is
named. -/
inductive ShapeFault (env : Variables) : Value → Fault → Prop where
  | document {value : Value} (unmapped : value.Unmapped) : ShapeFault env value .notMapping
  | part {entries resolved : List (Value × Value)} {before after : List String} {place : String}
      (resolves : resolveEntries env entries = .ok resolved)
      (order : sectionNames = before ++ place :: after)
      (passed : ∀ earlier ∈ before, ¬ IllFormed resolved earlier)
      (ill : IllFormed resolved place) :
      ShapeFault env (.mapping entries) (.sectionNotMapping place)

variable {files : Files} {path place : String} {env : Variables} {options : Named Value}
  {value : Value} {document entries : List (Value × Value)} {fault : Fault}

theorem topMapping_overlooked (overlooked : value.Overlooked) : topMapping value = .ok [] :=
  if_pos overlooked.blank

theorem topMapping_unmapped (unmapped : value.Unmapped) (seen : ¬ value.Overlooked) :
    topMapping value = .error .notMapping := by
  unfold topMapping
  rw [if_neg (mt unmapped.isBlank_iff.mp seen)]
  split
  · exact absurd rfl (unmapped.apart _)
  · rfl

theorem section?_unmapped (found : Value.find? place document = some value)
    (unmapped : value.Unmapped) : section? document place =
      .error (.fault (.sectionNotMapping place)) := by
  unfold section?
  rw [found]
  split
  · rename_i absent
    cases absent
  · rename_i nothing
    exact absurd (Option.some.inj nothing) unmapped.something
  · rename_i mapped
    exact absurd (Option.some.inj mapped) (unmapped.apart _)
  · rfl

/-- A section is refused exactly if it is neither null nor a mapping. -/
theorem failure?_section?_eq_some_iff {e : Error} : failure? (section? document place) = some e ↔
    IllFormed document place ∧ e = .fault (.sectionNotMapping place) := by
  unfold IllFormed
  cases found : Value.find? place document with
  | none => simp [section?, found, failure?]
  | some value =>
    rcases value.null_or_mapping_or_unmapped with rfl | ⟨entries, rfl⟩ | unmapped
    · simp [section?, found, failure?, Value.not_unmapped_null]
    · simp [section?, found, failure?, Value.not_unmapped_mapping]
    · rw [section?_unmapped found unmapped]
      simp [failure?, unmapped, eq_comm]

/-- The first section that is refused decides the error of a document. -/
theorem failure?_ofDocument (document : List (Value × Value)) :
    failure? (Sections.ofDocument document) =
      sectionNames.findSome? fun place => failure? (section? document place) := by
  unfold Sections.ofDocument sectionNames
  simp only [List.findSome?]
  rcases section? document "connection" with e | connection
  · rfl
  rcases section? document "reset" with e | reset
  · rfl
  rcases section? document "server" with e | server
  · rfl
  rcases section? document "observability" with e | observability <;> rfl

/-- A document is refused for the first section that is ill-formed. -/
theorem ofDocument_eq_error_iff {e : Error} : Sections.ofDocument document = .error e ↔
    ∃ before place after, sectionNames = before ++ place :: after ∧
      (∀ earlier ∈ before, ¬ IllFormed document earlier) ∧ IllFormed document place ∧
      e = .fault (.sectionNotMapping place) := by
  rw [eq_error_iff, failure?_ofDocument, List.findSome?_eq_some_iff]
  have passes (earlier : String) :
      failure? (section? document earlier) = none ↔ ¬ IllFormed document earlier := by
    simp [Option.eq_none_iff_forall_ne_some, failure?_section?_eq_some_iff]
  simp only [failure?_section?_eq_some_iff, passes]
  constructor
  · rintro ⟨before, place, after, order, ⟨ill, told⟩, passed⟩
    exact ⟨before, place, after, order, passed, ill, told⟩
  · rintro ⟨before, place, after, order, passed, ill, told⟩
    exact ⟨before, place, after, order, ⟨ill, told⟩, passed⟩

/-- Whatever section is ill-formed, one of them is the first. -/
theorem Misshapen.exists_shapeFault (misshapen : Misshapen env value) :
    ∃ fault, ShapeFault env value fault := by
  cases misshapen with
  | document unmapped => exact ⟨_, .document unmapped⟩
  | @part entries resolved place resolves named ill =>
    have failed := failure?_section?_eq_some_iff.mpr ⟨ill, rfl⟩
    obtain ⟨e, refused⟩ : ∃ e, failure? (Sections.ofDocument resolved) = some e := by
      rw [failure?_ofDocument, ← Option.isSome_iff_exists, List.findSome?_isSome_iff]
      exact ⟨place, named, by rw [failed]; rfl⟩
    obtain ⟨before, first, after, order, passed, first_ill, -⟩ :=
      ofDocument_eq_error_iff.mp (eq_error_iff.mpr refused)
    exact ⟨_, .part resolves order passed first_ill⟩

/-- A file that says something overlooked is read as no file at all. -/
theorem load_of_overlooked (stored : stored? files path = some value)
    (overlooked : value.Overlooked) (env : Variables) (options : Named Value) :
    load files (some path) env options = load files none env options := by
  rw [load, document_eq_of_stored stored, topMapping_overlooked overlooked]
  rfl

/-- A file whose shape is wrong is refused with what is wrong, unless it is overlooked. -/
theorem load_of_shapeFault (stored : stored? files path = some value)
    (wrong : ShapeFault env value fault) (seen : ¬ value.Overlooked) (options : Named Value) :
    load files (some path) env options = .error (.fault fault) := by
  have read : sections files (some path) env = .error (.fault fault) := by
    rw [sections, document_eq_of_stored stored]
    cases wrong with
    | document unmapped =>
      rw [topMapping_unmapped unmapped seen]
      rfl
    | part resolves order passed ill =>
      rw [topMapping_mapping]
      refine (congrArg (· >>= Sections.ofDocument) resolves).trans ?_
      exact ofDocument_eq_error_iff.mpr ⟨_, _, _, order, passed, ill, rfl⟩
  rw [load_eq, read]
  rfl

/-- The shape of a file is checked, whatever the variables and options are, exactly if what it says
is not overlooked. If it is not, a file of the wrong shape is refused with what is wrong: that it
says no mapping, or which section is the first that is none. If it is, the file is passed over, and
all is as though there were none. A file that cannot be judged, since its reader breaks down, is not
passed over either. -/
theorem shape_is_checked_iff (files : Files) (path : String) :
    (∀ value, stored? files path = some value →
      ((∀ env options, Misshapen env value →
          ∃ fault, load files (some path) env options = .error (.fault fault)) ↔
        ¬ value.Overlooked) ∧
      (¬ value.Overlooked → ∀ env options fault, ShapeFault env value fault →
        load files (some path) env options = .error (.fault fault)) ∧
      (value.Overlooked → ∀ env options,
        load files (some path) env options = load files none env options)) ∧
    (Unreadable files path →
      ∀ env options, BreaksDown (load files (some path) env options)) := by
  constructor
  · intro value stored
    refine ⟨⟨?_, ?_⟩, ?_, load_of_overlooked stored⟩
    · intro checked overlooked
      obtain ⟨fault, refused⟩ := checked [] [] (.document overlooked.unmapped)
      rw [load_of_overlooked stored overlooked] at refused
      -- Without a file, variables and options there are the usual settings.
      have usual : load files none [] [] = .ok {} := rfl
      rw [usual] at refused
      cases refused
    · intro seen env options misshapen
      obtain ⟨fault, wrong⟩ := misshapen.exists_shapeFault
      exact ⟨fault, load_of_shapeFault stored wrong seen options⟩
    · intro seen env options fault wrong
      exact load_of_shapeFault stored wrong seen options
  · intro unreadable env options
    exact breaksDown_load_iff.mpr (.unreadable rfl unreadable)

example : load (({} : Files).write "c.yml" "server: ''\n".toUTF8) (some "c.yml") [] [] =
    .error (.fault (.sectionNotMapping "server")) :=
  eq_error_iff.mpr (by decide +kernel)

/-- A file that says a list of names. -/
def listOfNames : Files :=
  ({} : Files).write "c.yml" "- connection\n- server\n".toUTF8

/-- A list of names is no mapping, and its file is refused as none. -/
theorem list_of_names_is_refused :
    ∃ value, stored? listOfNames "c.yml" = some value ∧ Misshapen [("PGHOST", "db")] value ∧
      load listOfNames (some "c.yml") [("PGHOST", "db")] [("schema", .text "live")] =
        .error (.fault .notMapping) := by
  have seen : (stored? listOfNames "c.yml").any (fun value => !value.isMapped && !value.isBlank) =
      true := by decide +kernel
  simp only [Option.any_eq_true, Bool.and_eq_true, Bool.not_eq_true'] at seen
  obtain ⟨value, stored, unmapped, filled⟩ := seen
  rw [← Value.unmapped_iff] at unmapped
  have kept : ¬ value.Overlooked := by
    rw [← unmapped.isBlank_iff, filled]
    decide
  obtain ⟨-, refused, -⟩ := (shape_is_checked_iff listOfNames "c.yml").1 value stored
  exact ⟨value, stored, .document unmapped, refused kept _ _ _ (.document unmapped)⟩

/-- A file that says an empty list. -/
def emptyList : Files :=
  ({} : Files).write "c.yml" "[]\n".toUTF8

/-- An empty list is no mapping either, and yet its file is read as the usual settings. -/
theorem empty_list_is_passed_over :
    ∃ value, stored? emptyList "c.yml" = some value ∧ Misshapen [] value ∧
      load emptyList (some "c.yml") [] [] = .ok {} ∧
      ¬ ∃ fault, load emptyList (some "c.yml") [] [] = .error (.fault fault) := by
  have seen : (stored? emptyList "c.yml").any (!Value.isMapped ·) = true := by decide +kernel
  simp only [Option.any_eq_true, Bool.not_eq_true'] at seen
  obtain ⟨value, stored, unmapped⟩ := seen
  have read : load emptyList (some "c.yml") [] [] = .ok {} := ok_of_toOption (by decide +kernel)
  refine ⟨value, stored, .document (Value.unmapped_iff.mpr unmapped), read, ?_⟩
  rintro ⟨fault, refused⟩
  rw [read] at refused
  cases refused

end Settings
end SchemaWipe
