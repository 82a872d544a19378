import SchemaWipe.Named

/-! Things by name after others are put to them. What is put last under a name is found there, and
putting a collection whose names are all different is the same however the puts are grouped. -/
namespace SchemaWipe.Named

variable {α : Type} {name other : String} {x y : α} {entries first second third : Named α}

theorem get?_eq_none (absent : name ∉ entries.map Prod.fst) : entries.get? name = none := by
  induction entries with
  | nil => rfl
  | cons entry rest ih =>
    rw [List.map_cons, List.mem_cons, not_or] at absent
    rw [get?, if_neg (Ne.symm absent.1), ih absent.2]

/-- Where all names are different, a thing is found under a name exactly if it is there. -/
theorem get?_eq_some_iff (unique : (entries.map Prod.fst).Nodup) :
    entries.get? name = some x ↔ (name, x) ∈ entries := by
  induction entries with
  | nil => simp [get?]
  | cons entry rest ih =>
    obtain ⟨key, y⟩ := entry
    rw [List.map_cons, List.nodup_cons] at unique
    by_cases same : key = name
    · subst same
      have absent : (key, x) ∉ rest := fun member =>
        unique.1 (List.mem_map.mpr ⟨(key, x), member, rfl⟩)
      rw [get?, if_pos rfl, List.mem_cons]
      simp [absent, eq_comm]
    · rw [get?, if_neg same, ih unique.2, List.mem_cons]
      simp [Ne.symm same]

theorem override_nil (first : Named α) : first.override [] = first := rfl

theorem override_cons (first second : Named α) (name : String) (x : α) :
    first.override ((name, x) :: second) = (put name x first).override second := rfl

theorem override_append (first second third : Named α) :
    first.override (second ++ third) = (first.override second).override third :=
  List.foldl_append

theorem mem_names_override : name ∈ (first.override second).map Prod.fst ↔
    name ∈ first.map Prod.fst ∨ name ∈ second.map Prod.fst := by
  induction second generalizing first with
  | nil => simp [override_nil]
  | cons entry rest ih =>
    obtain ⟨key, y⟩ := entry
    rw [override_cons, ih, mem_names_put, List.map_cons, List.mem_cons, or_comm (a := name = key),
      or_assoc]

/-- What is put under a name hides what was put there before. -/
theorem put_put_self (name : String) (x y : α) (entries : Named α) :
    put name x (put name y entries) = put name x entries := by
  induction entries with
  | nil => simp [put]
  | cons entry rest ih =>
    obtain ⟨key, z⟩ := entry
    by_cases same : key = name <;> simp [put, same, ih]

/-- A name that is there keeps its place, so what is put there may be put later. -/
theorem put_put_comm (apart : other ≠ name) (present : name ∈ entries.map Prod.fst) :
    put name x (put other y entries) = put other y (put name x entries) := by
  induction entries with
  | nil => cases present
  | cons entry rest ih =>
    obtain ⟨key, z⟩ := entry
    rw [List.map_cons, List.mem_cons] at present
    by_cases here : key = name
    · subst here
      simp [put, Ne.symm apart]
    · have later := ih (present.resolve_left (Ne.symm here))
      by_cases there : key = other <;> simp [put, here, there, apart, later]

/-- A put under a name that is there, and that nothing put behind it has, may be made at the end. -/
theorem put_override_comm (present : name ∈ first.map Prod.fst)
    (absent : name ∉ second.map Prod.fst) :
    put name x (first.override second) = (put name x first).override second := by
  induction second generalizing first with
  | nil => rfl
  | cons entry rest ih =>
    obtain ⟨key, y⟩ := entry
    rw [List.map_cons, List.mem_cons, not_or] at absent
    rw [override_cons, override_cons, ih (mem_names_put.mpr (.inr present)) absent.2,
      put_put_comm (Ne.symm absent.1) present]

/-- Putting under a name and then overriding is overriding and then putting. -/
theorem override_put (unique : (second.map Prod.fst).Nodup) :
    first.override (put name x second) = put name x (first.override second) := by
  induction second generalizing first with
  | nil => rfl
  | cons entry rest ih =>
    obtain ⟨key, y⟩ := entry
    rw [List.map_cons, List.nodup_cons] at unique
    by_cases same : key = name
    · subst same
      have present : key ∈ (put key y first).map Prod.fst := mem_names_put.mpr (.inl rfl)
      rw [put, if_pos rfl, override_cons, override_cons, put_override_comm present unique.1,
        put_put_self]
    · rw [put, if_neg same, override_cons, override_cons, ih unique.2]

/-- Overriding by a collection that was itself overridden is overriding twice. -/
theorem override_override (unique : (second.map Prod.fst).Nodup) :
    first.override (second.override third) = (first.override second).override third := by
  induction third generalizing second with
  | nil => rfl
  | cons entry rest ih =>
    obtain ⟨key, y⟩ := entry
    rw [override_cons, ih (nodup_put unique), override_put unique, override_cons]

/-- Things put one after another may be put in two parts, the second over the first. -/
theorem override_nil_append (first second : Named α) :
    override [] (first ++ second) = (override [] first).override (override [] second) := by
  have unique : (([] : Named α).map Prod.fst).Nodup := List.nodup_nil
  rw [override_append, override_override unique, override_nil]

/-- What overrides other things is found first, where it has each name once. -/
theorem get?_override (first : Named α) (unique : (second.map Prod.fst).Nodup) (name : String) :
    (first.override second).get? name = (second.get? name).or (first.get? name) := by
  induction second generalizing first with
  | nil => rfl
  | cons entry rest ih =>
    obtain ⟨key, x⟩ := entry
    rw [List.map_cons, List.nodup_cons] at unique
    rw [override_cons, ih (put key x first) unique.2, get?]
    by_cases same : key = name
    · subst same
      rw [get?_eq_none unique.1, get?_put_self, if_pos rfl]
      rfl
    · rw [get?_put_of_ne (Ne.symm same), if_neg same]

/-- Where things are put one after another, the last one with a name is found. -/
theorem get?_override_nil (name : String) (entries : Named α) :
    (override [] entries).get? name = get? name entries.reverse := by
  unfold override
  rw [List.foldl_eq_foldr_reverse]
  induction entries.reverse with
  | nil => rfl
  | cons entry rest ih =>
    obtain ⟨key, x⟩ := entry
    by_cases same : key = name
    · subst same
      rw [List.foldr_cons, get?_put_self, get?, if_pos rfl]
    · rw [List.foldr_cons, get?_put_of_ne (Ne.symm same), ih, get?, if_neg same]

end SchemaWipe.Named
