import SchemaWipe.Proofs.Course

/-! What the drops of a wipe do to the tables. After each of them the working copy is the committed
catalog without the tables dropped so far and those that went with them; so nothing is left at the
end, whatever goes along with a table, and a table that is already gone does no harm. -/
namespace SchemaWipe.Database

/-- One catalog is another with some schemas emptied: it has the same schemas in the same order, no
table is left in those, and every other one holds what it held. -/
structure Emptied (schemas : List String) (before after : Catalog) : Prop where
  names : after.map Prod.fst = before.map Prod.fst
  empty : ∀ schema ∈ schemas, after.tables schema = []
  others : ∀ schema, schema ∉ schemas → after.get? schema = before.get? schema

/-- The tables that are gone after some were dropped. -/
def gone (cascades : Named (List String)) (tables : List String) : List String :=
  tables.flatMap fun table => table :: (cascades.get? table).getD []

namespace Catalog

theorem without_nil (catalog : Catalog) (schema : String) : catalog.without schema [] = catalog := by
  induction catalog with
  | nil => rfl
  | cons entry rest ih =>
    unfold without at ih ⊢
    rw [List.map_cons, ih]
    simp

/-- Dropping some tables and then others is dropping them all. -/
theorem without_without (catalog : Catalog) (schema : String) (first second : List String) :
    (catalog.without schema first).without schema second =
      catalog.without schema (first ++ second) := by
  unfold without
  rw [List.map_map]
  apply List.map_congr_left
  intro entry member
  by_cases same : entry.1 = schema
  · simp only [Function.comp, same, ↓reduceIte, List.filter_filter]
    congr 2
    funext table
    simp [Bool.and_comm]
  · simp only [Function.comp, same, ↓reduceIte]

theorem names_without (catalog : Catalog) (schema : String) (tables : List String) :
    (catalog.without schema tables).map Prod.fst = catalog.map Prod.fst := by
  unfold without
  rw [List.map_map]
  apply List.map_congr_left
  intro entry member
  by_cases same : entry.1 = schema <;> simp [same]

/-- What is left of a schema is what was not dropped. -/
theorem get?_without_self (catalog : Catalog) (schema : String) (tables : List String) :
    (catalog.without schema tables).get? schema =
      (catalog.get? schema).map (·.filter (!tables.contains ·)) := by
  induction catalog with
  | nil => rfl
  | cons entry rest ih =>
    obtain ⟨name, held⟩ := entry
    unfold without at ih ⊢
    by_cases same : name = schema
    · simp [Named.get?, same]
    · simpa [Named.get?, same] using ih

/-- Dropping tables of one schema leaves every other one as it was. -/
theorem get?_without_of_ne {schema other : String} (differ : other ≠ schema) (catalog : Catalog)
    (tables : List String) : (catalog.without schema tables).get? other = catalog.get? other := by
  induction catalog with
  | nil => rfl
  | cons entry rest ih =>
    obtain ⟨name, held⟩ := entry
    unfold without at ih ⊢
    by_cases found : name = other
    · subst found
      simp [Named.get?, differ]
    · by_cases same : name = schema
      · subst same
        simpa [Named.get?, found] using ih
      · simpa [Named.get?, same, found] using ih

/-- A schema that loses every table it holds is emptied, also when more than those are dropped. -/
theorem emptied_without {catalog : Catalog} {schema : String} {tables : List String}
    (all : ∀ table ∈ catalog.tables schema, table ∈ tables) :
    Emptied [schema] catalog (catalog.without schema tables) where
  names := names_without catalog schema tables
  empty := by
    intro name member
    obtain rfl := List.mem_singleton.mp member
    unfold Catalog.tables at all ⊢
    rw [get?_without_self]
    cases held : catalog.get? name with
    | none => rfl
    | some found =>
      rw [held] at all
      have none_left : ∀ table ∈ found, ¬ (!tables.contains table) = true := by
        intro table member
        simp [all table member]
      exact List.filter_eq_nil_iff.mpr none_left
  others := by
    intro other absent
    exact get?_without_of_ne (fun same => absent (List.mem_singleton.mpr same)) catalog tables

end Catalog

theorem mem_gone {cascades : Named (List String)} {tables : List String} {table : String}
    (dropped : table ∈ tables) : table ∈ gone cascades tables :=
  List.mem_flatMap.mpr ⟨table, dropped, List.mem_cons_self⟩

/-- The working copy after some tables were dropped. The faults and the record change on the way,
so the induction is over servers that differ in them. -/
theorem Run.view_after_drops {s t : Server} {schema : String} {tables : List String}
    (ran : Run s ((tables.map (Call.drop schema)).map Call.passed) t) :
    t.view = s.view.without schema (gone s.cascades tables) := by
  induction tables generalizing s with
  | nil =>
    cases ran
    exact (Catalog.without_nil _ schema).symm
  | cons table rest ih =>
    have later := ih ran.after_passed
    rw [later]
    exact Catalog.without_without _ schema _ _

end SchemaWipe.Database

namespace SchemaWipe.Wipe
open Database

/-- A wipe that completes commits the catalog without the tables of the schema and those that went
with them. -/
theorem completed_catalog {s t : Server} {target : Connection} {schema : String}
    {closing : Option Error}
    (ran : Run s ((Course.completed closing).exchanges target
      (plan schema (s.catalog.tables schema))) t) :
    t.catalog = s.catalog.without schema (gone s.cascades (s.catalog.tables schema)) := by
  have shape : (Course.completed closing).exchanges target
      (plan schema (s.catalog.tables schema)) =
      [(Call.connect target).passed] ++ ([.cursor, .relax, .list schema, .fetch].map Call.passed ++
        (((s.catalog.tables schema).map (Call.drop schema)).map Call.passed ++
          ([.restore, .cursorClose, .commit].map Call.passed ++ [⟨.close, closing⟩]))) := by
    simp [Course.exchanges, plan]
  rw [shape] at ran
  obtain ⟨connected, connecting, ran⟩ := ran.split
  obtain ⟨opened, opening, ran⟩ := ran.split
  obtain ⟨dropped, dropping, ran⟩ := ran.split
  obtain ⟨committed, committing, closing⟩ := ran.split
  obtain ⟨fresh, same⟩ := connected_fresh connecting
  have left := dropping.view_after_drops
  rw [(opened_on_committed fresh opening).2, same] at left
  have kept := closing.catalog_uncommitted (by simp [Call.passed])
  have view : committed.catalog = dropped.view := by
    have last := committing.after_passed.after_passed
    cases last.after_passed
    rfl
  rw [kept, view, left, (connecting.append opening).cascades]

/-- Where no faults are planted, an approved wipe reports the tables of the schema and commits the
catalog without them. -/
theorem faultless_wipe {connection : Connection} {schema : Option String} {name : String}
    (approved : approve connection schema = .ok name) (request : Option String) {w : World}
    (unplanted : w.server.faults = []) :
    (wipe connection schema request w).1 = .ok ⟨name, w.server.catalog.tables name⟩ ∧
      (wipe connection schema request w).2.server.catalog =
        w.server.catalog.without name
          (gone w.server.cascades (w.server.catalog.tables name)) := by
  obtain ⟨course, follows, ran, ends⟩ := approved_wipe_takes_course approved request w
  have passes := (ran.faultless unplanted).1
  cases course with
  | unreachable e => cases passes _ (List.mem_singleton_self _)
  | broken passed failed e rollback closing =>
    cases passes _ (Course.raised_on_broken_iff.mpr (.inl ⟨rfl, rfl⟩))
  | completed closing =>
    cases closing with
    | some e => cases passes _ (Course.raised_on_completed_iff.mpr ⟨rfl, rfl⟩)
    | none => exact ⟨ends, completed_catalog ran⟩

end SchemaWipe.Wipe
