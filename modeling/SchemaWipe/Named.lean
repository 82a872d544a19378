/-! Things by name, in the order in which their names first came. -/
namespace SchemaWipe

/-- Things by name; a name counts where it is met first. -/
abbrev Named (α : Type) := List (String × α)

namespace Named

variable {α : Type}

/-- The thing with a name. -/
def get? (name : String) : Named α → Option α
  | [] => none
  | (key, x) :: rest => if key = name then some x else get? name rest

/-- Gives a name a new thing. A name that was there keeps its place. -/
def put (name : String) (x : α) : Named α → Named α
  | [] => [(name, x)]
  | (key, y) :: rest => if key = name then (key, x) :: rest else (key, y) :: put name x rest

/-- Removes a name. -/
def remove (name : String) (entries : Named α) : Named α :=
  entries.filter fun (key, _) => key != name

/-- Adds the things of a second collection, which win over those of the first. -/
def override (first second : Named α) : Named α :=
  second.foldl (fun all (name, x) => put name x all) first

theorem get?_put_self (name : String) (x : α) (entries : Named α) :
    get? name (put name x entries) = some x := by
  induction entries with
  | nil => simp [put, get?]
  | cons entry rest ih =>
    obtain ⟨key, y⟩ := entry
    by_cases same : key = name <;> simp [put, get?, same, ih]

theorem get?_put_of_ne {name other : String} (differ : other ≠ name) (x : α)
    (entries : Named α) : get? other (put name x entries) = get? other entries := by
  induction entries with
  | nil => simp [put, get?, Ne.symm differ]
  | cons entry rest ih =>
    obtain ⟨key, y⟩ := entry
    by_cases same : key = name
    · simp [put, get?, same, Ne.symm differ]
    · simp [put, get?, same, ih]

/-- Putting adds the name, if it was not there. -/
theorem mem_names_put {name other : String} {x : α} {entries : Named α} :
    other ∈ (put name x entries).map Prod.fst ↔ other = name ∨ other ∈ entries.map Prod.fst := by
  induction entries with
  | nil => simp [put]
  | cons entry rest ih =>
    obtain ⟨key, y⟩ := entry
    by_cases same : key = name
    · simp [put, same]
    · rw [put, if_neg same, List.map_cons, List.mem_cons, ih, List.map_cons, List.mem_cons]
      exact or_left_comm

theorem nodup_put {name : String} {x : α} {entries : Named α}
    (unique : (entries.map Prod.fst).Nodup) :
    ((put name x entries).map Prod.fst).Nodup := by
  induction entries with
  | nil => simp [put]
  | cons entry rest ih =>
    obtain ⟨key, y⟩ := entry
    rw [List.map_cons, List.nodup_cons] at unique
    by_cases same : key = name
    · subst same
      simpa [put] using unique
    · rw [put, if_neg same, List.map_cons, List.nodup_cons, mem_names_put, not_or]
      exact ⟨⟨same, unique.1⟩, ih unique.2⟩

/-- What overrides a collection that has each name once has each name once. -/
theorem nodup_override {first : Named α} (unique : (first.map Prod.fst).Nodup) (second : Named α) :
    ((first.override second).map Prod.fst).Nodup := by
  induction second generalizing first with
  | nil => exact unique
  | cons entry rest ih => exact ih (nodup_put unique)

/-- Things put one after another have different names. -/
theorem nodup_override_nil (entries : Named α) : ((override [] entries).map Prod.fst).Nodup := by
  have unique : (([] : Named α).map Prod.fst).Nodup := List.nodup_nil
  exact nodup_override unique entries

end Named
end SchemaWipe
