import SchemaWipe.Proofs.Substitution

/-! What resolving makes of a value. The result is told by a relation of its own, which replaces each
reference once and leaves everything else as it is; whether there is a result, and which error there
is instead, is told by the places in the value that refer to variables. -/
namespace SchemaWipe

/-- A value in which no references are looked for: it is no text, no list and no mapping. -/
def Value.isPlain : Value → Bool
  | .text _ | .list _ | .mapping _ | .enclosing => false
  | _ => true

namespace Settings

/-- The text that refers to a variable: its name in braces behind a dollar sign. -/
def mention (name : List Char) : List Char :=
  '$' :: '{' :: (name ++ ['}'])

mutual

/-- One value is another in which each reference gave way to the value of its variable. -/
inductive Replaced (env : Variables) : Value → Value → Prop where
  /-- What is put in is not looked at again. -/
  | reference {s name text : String} (refers : s.toList = mention name.toList)
      (set : env.get? name = some text) : Replaced env (.text s) (.text text)
  /-- Any other text stays, also one that holds a reference among other characters. -/
  | text {s : String} (other : ∀ name, s.toList ≠ mention name) : Replaced env (.text s) (.text s)
  | list {items results : List Value} (each : ReplacedItems env items results) :
      Replaced env (.list items) (.list results)
  | mapping {entries results : List (Value × Value)} (each : ReplacedEntries env entries results) :
      Replaced env (.mapping entries) (.mapping results)
  | plain {value : Value} (plain : value.isPlain = true) : Replaced env value value

/-- Values one by one, as many and in the same order. -/
inductive ReplacedItems (env : Variables) : List Value → List Value → Prop where
  | nil : ReplacedItems env [] []
  | cons {item result : Value} {items results : List Value} (first : Replaced env item result)
      (rest : ReplacedItems env items results) :
      ReplacedItems env (item :: items) (result :: results)

/-- Entries one by one. Their keys stay. -/
inductive ReplacedEntries (env : Variables) :
    List (Value × Value) → List (Value × Value) → Prop where
  | nil : ReplacedEntries env [] []
  | cons {key value result : Value} {entries results : List (Value × Value)}
      (first : Replaced env value result) (rest : ReplacedEntries env entries results) :
      ReplacedEntries env ((key, value) :: entries) ((key, result) :: results)

end

variable {env : Variables}

/-- What is done with a result is done exactly where there is one. -/
theorem map_eq_ok_iff {ε α β : Type} {x : Except ε α} {f : α → β} {b : β} :
    (x >>= fun a => pure (f a)) = .ok b ↔ ∃ a, x = .ok a ∧ f a = b := by
  cases x with
  | error e => exact iff_of_false nofun nofun
  | ok a =>
    constructor
    · intro done
      exact ⟨a, rfl, Except.ok.inj done⟩
    · rintro ⟨_, ⟨⟩, rfl⟩
      rfl

/-- Two computations have results together exactly where each of them has one. -/
theorem both_eq_ok_iff {ε α β γ : Type} {x : Except ε α} {y : Except ε β} {f : α → β → γ} {c : γ} :
    (do
      let a ← x
      let b ← y
      pure (f a b)) = .ok c ↔ ∃ a, x = .ok a ∧ ∃ b, y = .ok b ∧ f a b = c := by
  cases x with
  | error e => exact iff_of_false nofun nofun
  | ok a =>
    refine map_eq_ok_iff.trans ⟨fun done => ⟨a, rfl, done⟩, ?_⟩
    rintro ⟨_, ⟨⟩, done⟩
    exact done

theorem reference?_eq_some_iff {cs name : List Char} :
    reference? cs = some name ↔ cs = mention name := by
  unfold mention
  constructor
  · intro refers
    unfold reference? at refers
    split at refers
    · split at refers
      · rename_i rest closed
        cases refers
        obtain ⟨inner, rfl⟩ := List.getLast?_eq_some_iff.mp closed
        rw [List.dropLast_concat]
      · cases refers
    · cases refers
  · rintro rfl
    simp [reference?]

theorem reference?_eq_none_iff {cs : List Char} :
    reference? cs = none ↔ ∀ name, cs ≠ mention name := by
  simp only [Option.eq_none_iff_forall_ne_some, ne_eq, reference?_eq_some_iff]

theorem resolveText_reference {s name : String} (refers : s.toList = mention name.toList) :
    resolveText env s = match env.get? name with
      | some text => .ok text
      | none => .error (.fault (.variableMissing name)) := by
  cases found : env.get? name <;>
    simp only [resolveText, reference?_eq_some_iff.mpr refers, String.ofList_toList, found]

theorem resolveText_other {s : String} (other : ∀ name, s.toList ≠ mention name) :
    resolveText env s = .ok s := by
  simp only [resolveText, reference?_eq_none_iff.mpr other]

theorem resolve_text_eq_ok_iff {s : String} {result : Value} :
    resolve env (.text s) = .ok result ↔ Replaced env (.text s) result := by
  rw [resolve, map_eq_ok_iff]
  constructor
  · rintro ⟨text, resolved, rfl⟩
    by_cases mentions : ∃ name, s.toList = mention name
    · obtain ⟨name, refers⟩ := mentions
      rw [← String.toList_ofList (l := name)] at refers
      rw [resolveText_reference refers] at resolved
      split at resolved
      · rename_i found
        cases resolved
        exact .reference refers found
      · cases resolved
    · have other := not_exists.mp mentions
      rw [resolveText_other other] at resolved
      cases resolved
      exact .text other
  · intro replaced
    cases replaced with
    | reference refers set => exact ⟨_, by rw [resolveText_reference refers, set], rfl⟩
    | text other => exact ⟨s, resolveText_other other, rfl⟩
    | plain plain => cases plain

mutual

/-- A value is resolved to exactly what it is when its references are replaced. -/
theorem resolve_eq_ok_iff (value : Value) {result : Value} :
    resolve env value = .ok result ↔ Replaced env value result := by
  cases value with
  | text s => exact resolve_text_eq_ok_iff
  | list items =>
    rw [resolve, map_eq_ok_iff]
    constructor
    · rintro ⟨results, each, rfl⟩
      exact .list ((resolveItems_eq_ok_iff items).mp each)
    · intro replaced
      cases replaced with
      | list each => exact ⟨_, (resolveItems_eq_ok_iff items).mpr each, rfl⟩
      | plain plain => cases plain
  | mapping entries =>
    rw [resolve, map_eq_ok_iff]
    constructor
    · rintro ⟨results, each, rfl⟩
      exact .mapping ((resolveEntries_eq_ok_iff entries).mp each)
    · intro replaced
      cases replaced with
      | mapping each => exact ⟨_, (resolveEntries_eq_ok_iff entries).mpr each, rfl⟩
      | plain plain => cases plain
  | enclosing =>
    refine iff_of_false nofun fun replaced => ?_
    cases replaced with
    | plain plain => cases plain
  | _ =>
    constructor
    · intro resolved
      cases resolved
      exact .plain rfl
    · intro replaced
      cases replaced
      rfl

theorem resolveItems_eq_ok_iff (items : List Value) {results : List Value} :
    resolveItems env items = .ok results ↔ ReplacedItems env items results := by
  cases items with
  | nil =>
    constructor
    · intro resolved
      cases resolved
      exact .nil
    · intro replaced
      cases replaced
      rfl
  | cons item rest =>
    rw [resolveItems, both_eq_ok_iff]
    constructor
    · rintro ⟨result, first, results, others, rfl⟩
      exact .cons ((resolve_eq_ok_iff item).mp first) ((resolveItems_eq_ok_iff rest).mp others)
    · rintro (_ | ⟨first, others⟩)
      exact ⟨_, (resolve_eq_ok_iff item).mpr first, _, (resolveItems_eq_ok_iff rest).mpr others,
        rfl⟩

theorem resolveEntries_eq_ok_iff (entries : List (Value × Value))
    {results : List (Value × Value)} :
    resolveEntries env entries = .ok results ↔ ReplacedEntries env entries results := by
  cases entries with
  | nil =>
    constructor
    · intro resolved
      cases resolved
      exact .nil
    · intro replaced
      cases replaced
      rfl
  | cons entry rest =>
    obtain ⟨key, value⟩ := entry
    rw [resolveEntries, both_eq_ok_iff]
    constructor
    · rintro ⟨result, first, results, others, rfl⟩
      exact .cons ((resolve_eq_ok_iff value).mp first) ((resolveEntries_eq_ok_iff rest).mp others)
    · rintro (_ | ⟨first, others⟩)
      exact ⟨_, (resolve_eq_ok_iff value).mpr first, _, (resolveEntries_eq_ok_iff rest).mpr others,
        rfl⟩

end

/-- A value is resolved exactly if every hole in it can be filled. -/
theorem resolves_iff_filled (value : Value) :
    (∃ result, resolve env value = .ok result) ↔ ∀ hole ∈ holes value, hole.Filled env := by
  have failing : failure? (resolve env value) = _ := failure?_resolve value
  constructor
  · rintro ⟨result, resolved⟩ hole member
    rw [resolved] at failing
    exact Hole.failure?_eq_none_iff.mp (List.findSome?_eq_none_iff.mp failing.symm hole member)
  · intro filled
    cases resolved : resolve env value with
    | ok result => exact ⟨result, rfl⟩
    | error e =>
      rw [resolved, List.findSome?_eq_none_iff.mpr fun hole member =>
        Hole.failure?_eq_none_iff.mpr (filled hole member)] at failing
      cases failing

/-- Every hole can be filled exactly if every variable that is referred to is set, and no collection
contains itself. -/
theorem filled_iff (value : Value) :
    (∀ hole ∈ holes value, hole.Filled env) ↔
      (∀ name, value.Refers name → ∃ text, env.get? name = some text) ∧
        .loop ∉ holes value := by
  constructor
  · intro filled
    refine ⟨fun name refers => filled _ ((mem_holes_iff value).mpr refers), ?_⟩
    exact fun loops => filled _ loops
  · rintro ⟨set, ends⟩ hole member
    cases hole with
    | reference name => exact set name ((mem_holes_iff value).mp member)
    | loop => exact absurd member ends

/-- The error of a value that cannot be resolved is that of the first hole that cannot be filled. -/
theorem resolve_eq_error_iff (value : Value) {e : Error} :
    resolve env value = .error e ↔ ∃ before hole after, holes value = before ++ hole :: after ∧
      (∀ earlier ∈ before, earlier.Filled env) ∧ hole.failure? env = some e := by
  rw [eq_error_iff, failure?_resolve, List.findSome?_eq_some_iff]
  simp only [Hole.failure?_eq_none_iff]
  constructor
  · rintro ⟨before, hole, after, split, fails, filled⟩
    exact ⟨before, hole, after, split, filled, fails⟩
  · rintro ⟨before, hole, after, split, filled, fails⟩
    exact ⟨before, hole, after, split, fails, filled⟩

/-- A reference is what cannot be filled because its variable is not set. -/
theorem failure?_eq_missing_iff {hole : Hole} {name : String} :
    hole.failure? env = some (.fault (.variableMissing name)) ↔
      hole = .reference name ∧ env.get? name = none := by
  cases hole with
  | loop => simp [Hole.failure?]
  | reference other =>
    cases found : env.get? other with
    | some text =>
      refine iff_of_false (by simp [Hole.failure?, found]) ?_
      rintro ⟨⟨⟩, unset⟩
      rw [found] at unset
      cases unset
    | none =>
      simp only [Hole.failure?, found, Option.some.injEq, Error.fault.injEq,
        Fault.variableMissing.injEq, Hole.reference.injEq]
      constructor
      · rintro rfl
        exact ⟨rfl, found⟩
      · exact And.left

/-- References are resolved exactly. A text is a reference if it is a name in braces behind a dollar
sign. A value of lists and mappings nested to any depth is resolved if and only if every variable
that it refers to is set, and then to itself with each reference replaced once; else the first
reference to a variable that is not set, depth first, is named by the fault. Only a collection that
contains itself fails in another way. Variables that agree on what is referred to come to the same.
-/
theorem references_are_resolved_exactly (env : Variables) (value : Value) :
    (∀ cs name, reference? cs = some name ↔ cs = mention name) ∧
      ((∃ result, resolve env value = .ok result) ↔
        (∀ name, value.Refers name → ∃ text, env.get? name = some text) ∧
          .loop ∉ holes value) ∧
      (∀ result, resolve env value = .ok result ↔ Replaced env value result) ∧
      (∀ name, resolve env value = .error (.fault (.variableMissing name)) ↔
        ∃ before after, holes value = before ++ .reference name :: after ∧
          (∀ earlier ∈ before, earlier.Filled env) ∧ env.get? name = none) ∧
      (∀ e, resolve env value = .error e → .loop ∉ holes value →
        ∃ name, e = .fault (.variableMissing name)) ∧
      ∀ env' : Variables, (∀ name, value.Refers name → env'.get? name = env.get? name) →
        resolve env' value = resolve env value := by
  refine ⟨fun _ _ => reference?_eq_some_iff, (resolves_iff_filled value).trans (filled_iff value),
    fun _ => resolve_eq_ok_iff value, ?_, ?_, fun _ => resolve_congr value⟩
  · intro name
    rw [resolve_eq_error_iff]
    simp only [failure?_eq_missing_iff]
    constructor
    · rintro ⟨before, _, after, split, filled, rfl, unset⟩
      exact ⟨before, after, split, filled, unset⟩
    · rintro ⟨before, after, split, filled, unset⟩
      exact ⟨before, _, after, split, filled, rfl, unset⟩
  · intro e failed ends
    obtain ⟨before, hole, after, split, -, fails⟩ := (resolve_eq_error_iff value).mp failed
    cases hole with
    | loop =>
      rw [split] at ends
      exact absurd (List.mem_append_right before List.mem_cons_self) ends
    | reference name =>
      cases found : env.get? name with
      | some text => simp [Hole.failure?, found] at fails
      | none =>
        simp only [Hole.failure?, found, Option.some.injEq] at fails
        exact ⟨name, fails.symm⟩

end Settings
end SchemaWipe
