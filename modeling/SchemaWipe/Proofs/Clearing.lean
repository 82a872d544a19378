import SchemaWipe.Proofs.Emptying

/-! Clearing several schemas of a catalog at once: all their tables go, and whatever goes with them.
One wipe clears one schema, and clearing some schemas and then others is clearing them all. So what
wipes leave behind depends only on which schemas they were about, not on their order or number. -/
namespace SchemaWipe.Database.Catalog

/-- What is left of an entry when some schemas are cleared. -/
def left (catalog : Catalog) (cascades : Named (List String)) (schemas : List String)
    (schema : String) (tables : List String) : List String :=
  if schema ∈ schemas then tables.filter (!(gone cascades (catalog.tables schema)).contains ·)
  else tables

/-- The catalog with some schemas cleared. -/
def cleared (catalog : Catalog) (cascades : Named (List String)) (schemas : List String) :
    Catalog :=
  catalog.map fun (schema, tables) => (schema, left catalog cascades schemas schema tables)

variable {catalog : Catalog} {cascades : Named (List String)} {schema : String}
  {schemas others : List String}

theorem without_eq_cleared (catalog : Catalog) (cascades : Named (List String)) (schema : String) :
    catalog.without schema (gone cascades (catalog.tables schema)) =
      catalog.cleared cascades [schema] := by
  unfold without cleared left
  apply List.map_congr_left
  rintro ⟨name, tables⟩ member
  by_cases same : name = schema <;> simp [same]

/-- Which schemas are cleared counts, not their order or how often they are named. -/
theorem cleared_congr (same : ∀ schema, schema ∈ schemas ↔ schema ∈ others) :
    catalog.cleared cascades schemas = catalog.cleared cascades others := by
  simp only [cleared, left, same]

theorem cleared_nil : catalog.cleared cascades [] = catalog := by
  simp [cleared, left]

/-- A change of entries that keeps their names is a change of the tables of each schema. -/
theorem get?_map_entries (change : String → List String → List String) (catalog : Catalog)
    (schema : String) :
    Named.get? schema (catalog.map fun (name, tables) => (name, change name tables)) =
      (catalog.get? schema).map (change schema) := by
  induction catalog with
  | nil => rfl
  | cons entry rest ih =>
    obtain ⟨name, tables⟩ := entry
    by_cases found : name = schema
    · simp [Named.get?, found]
    · simpa [Named.get?, found] using ih

/-- Nothing is left of the tables that a cleared schema holds. -/
theorem left_tables (cleared : schema ∈ schemas) :
    left catalog cascades schemas schema (catalog.tables schema) = [] := by
  rw [left, if_pos cleared]
  apply List.filter_eq_nil_iff.mpr
  intro table member
  have swept : table ∈ gone cascades (catalog.tables schema) := mem_gone member
  simp [swept]

/-- Every schema that is not cleared holds what it held. -/
theorem get?_cleared_of_not_mem (kept : schema ∉ schemas) :
    (catalog.cleared cascades schemas).get? schema = catalog.get? schema := by
  rw [cleared, get?_map_entries]
  have same : left catalog cascades schemas schema = id := by
    funext tables
    exact if_neg kept
  rw [same, Option.map_id, id]

theorem tables_cleared : (catalog.cleared cascades schemas).tables schema =
    if schema ∈ schemas then [] else catalog.tables schema := by
  by_cases listed : schema ∈ schemas
  · rw [if_pos listed, tables, cleared, get?_map_entries]
    have none_left : left catalog cascades schemas schema (catalog.tables schema) = [] :=
      left_tables listed
    rw [tables] at none_left
    cases held : catalog.get? schema with
    | none => rfl
    | some tables => simpa [held] using none_left
  · rw [if_neg listed, tables, get?_cleared_of_not_mem listed, tables]

theorem emptied_cleared : Emptied schemas catalog (catalog.cleared cascades schemas) where
  names := by simp [cleared, Function.comp_def]
  empty := by
    intro schema listed
    rw [tables_cleared, if_pos listed]
  others := fun schema => get?_cleared_of_not_mem

/-- Clearing some schemas and then others is clearing them all: a schema that was cleared before has
no table left that anything could go with. -/
theorem cleared_cleared : (catalog.cleared cascades schemas).cleared cascades others =
    catalog.cleared cascades (schemas ++ others) := by
  have second (schema : String) (tables : List String) :
      left (catalog.cleared cascades schemas) cascades others schema
        (left catalog cascades schemas schema tables) =
      left catalog cascades (schemas ++ others) schema tables := by
    simp only [left, tables_cleared, List.mem_append]
    by_cases before : schema ∈ schemas
    · by_cases again : schema ∈ others <;> simp [before, again, gone]
    · by_cases behind : schema ∈ others <;> simp [before, behind]
  refine List.map_map.trans (List.map_congr_left ?_)
  rintro ⟨schema, tables⟩ member
  exact congrArg (Prod.mk schema) (second schema tables)

end SchemaWipe.Database.Catalog
