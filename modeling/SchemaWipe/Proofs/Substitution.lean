import SchemaWipe.Proofs.Fields

/-! How references are resolved. A value has holes: texts that refer to variables, and places where
a collection is met again inside itself. They are filled one after the other, depth first, and the
first one that cannot be filled decides the error. -/
namespace SchemaWipe.Settings

/-- A place in a value that cannot be taken as it is. -/
inductive Hole where
  | reference (name : String)
  /-- A collection is met again inside itself. -/
  | loop
  deriving DecidableEq

namespace Hole

/-- A hole can be filled: its variable is set. A loop has no filling. -/
def Filled (env : Variables) : Hole → Prop
  | reference name => ∃ value, env.get? name = some value
  | loop => False

/-- Why a hole cannot be filled. -/
def failure? (env : Variables) : Hole → Option Error
  | reference name =>
    match env.get? name with
    | some _ => none
    | none => some (.fault (.variableMissing name))
  | loop => some (.breakdown .endless)

variable {env : Variables} {hole : Hole}

theorem failure?_eq_none_iff : hole.failure? env = none ↔ hole.Filled env := by
  cases hole with
  | reference name => cases found : env.get? name <;> simp [failure?, Filled, found]
  | loop => simp [failure?, Filled]

/-- The only hole that makes resolving break down is a loop. -/
theorem failure?_eq_breakdown_iff :
    (∃ cause, hole.failure? env = some (.breakdown cause)) ↔ hole = .loop := by
  cases hole with
  | reference name => cases found : env.get? name <;> simp [failure?, found]
  | loop => simp [failure?]

end Hole

mutual

/-- The holes of a value, depth first. Keys of mappings have none. -/
def holes : Value → List Hole
  | .text s =>
    match reference? s.toList with
    | some name => [.reference (String.ofList name)]
    | none => []
  | .list items => holesOfItems items
  | .mapping entries => holesOfEntries entries
  | .enclosing => [.loop]
  | _ => []

/-- The holes of values one after the other. -/
def holesOfItems : List Value → List Hole
  | [] => []
  | item :: items => holes item ++ holesOfItems items

/-- The holes of the values of entries one after the other. -/
def holesOfEntries : List (Value × Value) → List Hole
  | [] => []
  | (_, value) :: rest => holes value ++ holesOfEntries rest

end

variable {name : String} {env : Variables}

mutual

/-- The variables that a value refers to are those that its holes name. -/
theorem mem_holes_iff (value : Value) : .reference name ∈ holes value ↔ value.Refers name := by
  cases value with
  | text s =>
    constructor
    · intro member
      unfold holes at member
      cases referred : reference? s.toList with
      | none => simp [referred] at member
      | some found =>
        refine .text ?_
        simp only [referred, List.mem_singleton, Hole.reference.injEq] at member
        rw [referred, member, String.toList_ofList]
    · rintro ⟨named⟩
      simp [holes, named]
  | list items =>
    rw [holes, mem_holesOfItems_iff items]
    constructor
    · rintro ⟨item, among, refers⟩
      exact .item among refers
    · rintro (_ | ⟨among, refers⟩)
      exact ⟨_, among, refers⟩
  | mapping entries =>
    rw [holes, mem_holesOfEntries_iff entries]
    constructor
    · rintro ⟨⟨key, value⟩, among, refers⟩
      exact .entry among refers
    · rintro (_ | _ | ⟨among, refers⟩)
      exact ⟨_, among, refers⟩
  | _ => exact iff_of_false (by simp [holes]) nofun

theorem mem_holesOfItems_iff (items : List Value) :
    .reference name ∈ holesOfItems items ↔ ∃ item ∈ items, item.Refers name := by
  cases items with
  | nil => simp [holesOfItems]
  | cons item rest =>
    simp [holesOfItems, mem_holes_iff item, mem_holesOfItems_iff rest]

theorem mem_holesOfEntries_iff (entries : List (Value × Value)) :
    .reference name ∈ holesOfEntries entries ↔ ∃ entry ∈ entries, entry.2.Refers name := by
  cases entries with
  | nil => simp [holesOfEntries]
  | cons entry rest =>
    obtain ⟨key, value⟩ := entry
    rw [holesOfEntries, List.mem_append, mem_holes_iff value, mem_holesOfEntries_iff rest]
    simp

end

/-- What is done with results does not decide how computations fail. -/
theorem failure?_map {ε α β : Type} (x : Except ε α) (f : α → β) :
    failure? (x >>= fun a => pure (f a)) = failure? x := by
  cases x <;> rfl

/-- Of two computations the first that fails decides. -/
theorem failure?_both {ε α β γ : Type} (x : Except ε α) (y : Except ε β) (f : α → β → γ) :
    failure? (do
      let a ← x
      let b ← y
      pure (f a b)) = (failure? x).or (failure? y) := by
  cases x with
  | error e => rfl
  | ok a => cases y <;> rfl

theorem failure?_resolveText (s : String) :
    failure? (resolveText env s) = (holes (.text s)).findSome? (Hole.failure? env) := by
  unfold resolveText holes
  cases reference? s.toList with
  | none => rfl
  | some name =>
    cases found : env.get? (String.ofList name) <;> simp [failure?, Hole.failure?, found]

mutual

/-- Where a value cannot be resolved, the first hole that cannot be filled says why. -/
theorem failure?_resolve (value : Value) :
    failure? (resolve env value) = (holes value).findSome? (Hole.failure? env) := by
  cases value with
  | text s => rw [resolve, failure?_map, failure?_resolveText]
  | list items => rw [resolve, failure?_map, failure?_resolveItems items, holes]
  | mapping entries => rw [resolve, failure?_map, failure?_resolveEntries entries, holes]
  | _ => rfl

theorem failure?_resolveItems (items : List Value) :
    failure? (resolveItems env items) = (holesOfItems items).findSome? (Hole.failure? env) := by
  cases items with
  | nil => rfl
  | cons item rest =>
    rw [resolveItems, failure?_both, failure?_resolve item, failure?_resolveItems rest,
      holesOfItems, List.findSome?_append]

theorem failure?_resolveEntries (entries : List (Value × Value)) :
    failure? (resolveEntries env entries) =
      (holesOfEntries entries).findSome? (Hole.failure? env) := by
  cases entries with
  | nil => rfl
  | cons entry rest =>
    obtain ⟨key, value⟩ := entry
    rw [resolveEntries, failure?_both, failure?_resolve value, failure?_resolveEntries rest,
      holesOfEntries, List.findSome?_append]

end

end SchemaWipe.Settings
