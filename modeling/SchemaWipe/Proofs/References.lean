import SchemaWipe.Settings.Load

/-! What the settings read of the variables. Of a document they read the variables that it refers
to, and nothing else: variables that agree on those resolve it to the same, or report the same one
as missing. Names that are put into entries are found again, and leave every other name alone. -/
namespace SchemaWipe

/-- Two computations go on alike if they do so behind every result of what comes first. -/
theorem bind_congr_ok {ε α β : Type} {x : Except ε α} {next next' : α → Except ε β}
    (same : ∀ a, x = .ok a → next' a = next a) : x >>= next' = x >>= next := by
  cases x with
  | error e => rfl
  | ok a => exact same a rfl

/-- Steps that succeed together succeed one by one. -/
theorem ok_of_bind {ε α β : Type} {x : Except ε α} {next : α → Except ε β} {b : β}
    (ran : x >>= next = .ok b) : ∃ a, x = .ok a ∧ next a = .ok b := by
  cases x with
  | error e => cases ran
  | ok a => exact ⟨a, rfl, ran⟩

theorem ok_of_toOption {ε α : Type} {x : Except ε α} {a : α} (done : x.toOption = some a) :
    x = .ok a := by
  cases x <;> cases done
  rfl

namespace Value

/-- A value refers to a variable: in a text, or in an item of a list or a value of a mapping at any
depth. -/
inductive Refers (name : String) : Value → Prop where
  | text {s : String} (named : Settings.reference? s.toList = some name.toList) :
      Refers name (.text s)
  | item {items : List Value} {item : Value} (member : item ∈ items) (refers : Refers name item) :
      Refers name (.list items)
  | entry {entries : List (Value × Value)} {key value : Value} (member : (key, value) ∈ entries)
      (refers : Refers name value) : Refers name (.mapping entries)

variable {name other : String} {value : Value} {entries : List (Value × Value)}

/-- A key is the same as a name exactly if it is the text of it. -/
theorem sameKey_text_iff {key : Value} : key.sameKey (.text name) = true ↔ key = .text name := by
  cases key <;> simp [sameKey]

theorem find?_put_self (name : String) (value : Value) (entries : List (Value × Value)) :
    find? name (put name value entries) = some value := by
  induction entries with
  | nil => simp [put, insert, find?]
  | cons entry rest ih =>
    obtain ⟨key, found⟩ := entry
    unfold put at ih ⊢
    by_cases same : key.sameKey (.text name) = true
    · obtain rfl := sameKey_text_iff.mp same
      simp [insert, same, find?]
    · have differs : key ≠ .text name := mt sameKey_text_iff.mpr same
      rw [insert, if_neg same]
      cases key with
      | text s =>
        have other : s ≠ name := fun equal => differs (congrArg Value.text equal)
        rw [find?, if_neg other, ih]
      | _ => exact ih

theorem find?_put_of_ne (differ : other ≠ name) (value : Value) (entries : List (Value × Value)) :
    find? other (put name value entries) = find? other entries := by
  induction entries with
  | nil => simp [put, insert, find?, Ne.symm differ]
  | cons entry rest ih =>
    obtain ⟨key, found⟩ := entry
    unfold put at ih ⊢
    by_cases same : key.sameKey (.text name) = true
    · obtain rfl := sameKey_text_iff.mp same
      simp [insert, same, find?, Ne.symm differ]
    · rw [insert, if_neg same]
      cases key with
      | text s => rw [find?, find?, ih]
      | _ => exact ih

end Value

namespace Settings

variable {env env' : Variables}

theorem resolveText_congr {s : String}
    (agree : ∀ name, reference? s.toList = some name.toList → env'.get? name = env.get? name) :
    resolveText env' s = resolveText env s := by
  unfold resolveText
  cases referred : reference? s.toList with
  | none => rfl
  | some name =>
    have same := agree (String.ofList name) (by rw [referred, String.toList_ofList])
    simp only [same]

mutual

/-- What a value is resolved to depends only on the variables it refers to. -/
theorem resolve_congr (value : Value)
    (agree : ∀ name, value.Refers name → env'.get? name = env.get? name) :
    resolve env' value = resolve env value := by
  cases value with
  | text s => rw [resolve, resolve, resolveText_congr fun name named => agree name (.text named)]
  | list items =>
    rw [resolve, resolve, resolveItems_congr items fun name item member refers =>
      agree name (.item member refers)]
  | mapping entries =>
    rw [resolve, resolve, resolveEntries_congr entries fun name key value member refers =>
      agree name (.entry member refers)]
  | _ => rfl

theorem resolveItems_congr (items : List Value)
    (agree : ∀ name, ∀ item ∈ items, item.Refers name → env'.get? name = env.get? name) :
    resolveItems env' items = resolveItems env items := by
  cases items with
  | nil => rfl
  | cons item rest =>
    rw [resolveItems, resolveItems,
      resolve_congr item fun name => agree name item List.mem_cons_self,
      resolveItems_congr rest fun name item member =>
        agree name item (List.mem_cons_of_mem _ member)]

theorem resolveEntries_congr (entries : List (Value × Value))
    (agree : ∀ name key value, (key, value) ∈ entries → value.Refers name →
      env'.get? name = env.get? name) :
    resolveEntries env' entries = resolveEntries env entries := by
  cases entries with
  | nil => rfl
  | cons entry rest =>
    obtain ⟨key, value⟩ := entry
    rw [resolveEntries, resolveEntries,
      resolve_congr value fun name => agree name key value List.mem_cons_self,
      resolveEntries_congr rest fun name key value member =>
        agree name key value (List.mem_cons_of_mem _ member)]

end

/-- The value that the file at a path says, if it can be read. -/
def stored? (files : Files) (path : String) : Option Value := do
  let content ← files.content? (Path.ofText path)
  let text ← Text.decodeFile? content
  (Yaml.load text.toList).toOption

theorem stored?_eq_some_iff {files : Files} {path : String} {value : Value} :
    stored? files path = some value ↔ ∃ content text,
      files.content? (Path.ofText path) = some content ∧ Text.decodeFile? content = some text ∧
        Yaml.load text.toList = .ok value := by
  have read (text : String) : (Yaml.load text.toList).toOption = some value ↔
      Yaml.load text.toList = .ok value := by
    cases Yaml.load text.toList <;> simp [Except.toOption]
  simp [stored?, Option.bind_eq_some_iff, read]

/-- The document of a file that says a value is the mapping of that value, with the references in it
resolved. -/
theorem document_eq_of_stored {files : Files} {path : String} {value : Value}
    (stored : stored? files path = some value) : document files (some path) env =
      (topMapping value).mapError .fault >>= resolveEntries env := by
  obtain ⟨content, text, held, decoded, loaded⟩ := stored?_eq_some_iff.mp stored
  simp [document, held, readDocument, decoded, loaded, bind, Except.bind, pure, Except.pure]

theorem topMapping_mapping (entries : List (Value × Value)) :
    topMapping (.mapping entries) = .ok entries := by
  cases entries <;> rfl

/-- What an entry of a document refers to, the value of the document refers to. -/
theorem refers_of_topMapping {value key inner : Value} {entries : List (Value × Value)}
    {name : String} (top : topMapping value = .ok entries) (member : (key, inner) ∈ entries)
    (refers : inner.Refers name) : value.Refers name := by
  unfold topMapping at top
  split at top
  · cases top
    cases member
  · split at top <;> cases top
    exact .entry member refers

theorem readDocument_congr {path : Path} {content : ByteArray}
    (agree : ∀ text value, Text.decodeFile? content = some text →
      Yaml.load text.toList = .ok value → ∀ name, value.Refers name →
        env'.get? name = env.get? name) :
    readDocument path content env' = readDocument path content env := by
  -- The variables come in only behind the steps that read the file.
  unfold readDocument
  cases decoded : Text.decodeFile? content with
  | none => rfl
  | some text =>
    simp only [pure_bind]
    cases loaded : Yaml.load text.toList with
    | error cause => cases cause <;> rfl
    | ok value =>
      refine bind_congr_ok fun entries top => ?_
      cases found : topMapping value with
      | error fault =>
        rw [found] at top
        cases top
      | ok known =>
        rw [found] at top
        cases top
        rw [resolveEntries_congr entries fun name key inner member refers =>
          agree text value decoded loaded name (refers_of_topMapping found member refers)]

/-- What a document says depends only on the variables that its file refers to. -/
theorem document_congr {files : Files} {path : Option String}
    (agree : ∀ file value, path = some file → stored? files file = some value →
      ∀ name, value.Refers name → env'.get? name = env.get? name) :
    document files path env' = document files path env := by
  cases path with
  | none => rfl
  | some file =>
    unfold document
    dsimp only
    cases held : files.content? (Path.ofText file) with
    | none => rfl
    | some content =>
      exact readDocument_congr fun text value decoded loaded =>
        agree file value rfl (stored?_eq_some_iff.mpr ⟨content, text, held, decoded, loaded⟩)

/-- An option that is not null is put into the section of its name. -/
theorem Sections.applyOption_of_ne {value : Value} (apart : value ≠ .null) (name : String)
    (s : Sections) : s.applyOption (name, value) =
      if name = "schema" then { s with reset := Value.put "schema" value s.reset }
      else if name = "log_level" then
        { s with observability := Value.put "log_level" value s.observability }
      else { s with connection := Value.put name value s.connection } := by
  cases value <;> first | rfl | exact absurd rfl apart

end Settings
end SchemaWipe
