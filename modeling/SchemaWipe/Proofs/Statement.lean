import SchemaWipe.Sql

/-! The statement that drops a table, read back. Names are told apart from what stands around them
by the rule of SQL: a quotation mark ends a name unless it is doubled. Reading by that rule accepts
exactly what quoting writes, so no name reaches beyond its own end, whatever characters it has. -/
namespace SchemaWipe.Sql

/-- Reads a name up to the quotation mark that ends it. The text behind that is left over. -/
def readQuoted : List Char → Option (List Char × List Char)
  | [] => none
  | '"' :: '"' :: rest => (readQuoted rest).map fun (name, behind) => ('"' :: name, behind)
  | '"' :: behind => some ([], behind)
  | c :: rest => (readQuoted rest).map fun (name, behind) => (c :: name, behind)

/-- Reads a name in quotation marks. -/
def readName : List Char → Option (List Char × List Char)
  | '"' :: rest => readQuoted rest
  | _ => none

variable {name behind text : List Char}

theorem readQuoted_quoteChar (c : Char) (rest : List Char) :
    readQuoted (quoteChar c ++ rest) =
      (readQuoted rest).map fun (name, behind) => (c :: name, behind) := by
  by_cases mark : c = '"'
  · subst mark
    rfl
  · rw [quoteChar, if_neg mark, List.singleton_append, readQuoted]
    · exact fun _ same => absurd same mark
    · exact mark

/-- What is written for the characters of a name is read as the name, as long as its closing mark
does not look like the first half of a doubled one. -/
theorem readQuoted_written (name : List Char) (closed : behind.head? ≠ some '"') :
    readQuoted (name.flatMap quoteChar ++ '"' :: behind) = some (name, behind) := by
  induction name with
  | nil =>
    cases behind with
    | nil => rfl
    | cons c rest =>
      rw [List.flatMap_nil, List.nil_append, readQuoted]
      intro _ doubled
      exact closed (congrArg List.head? doubled)
  | cons c rest ih =>
    rw [List.flatMap_cons, List.append_assoc, readQuoted_quoteChar, ih]
    rfl

/-- What is read as a name was written for it. -/
theorem written_of_readQuoted (read : readQuoted text = some (name, behind)) :
    text = name.flatMap quoteChar ++ '"' :: behind ∧ behind.head? ≠ some '"' := by
  fun_induction readQuoted text generalizing name with
  | case1 => cases read
  | case2 rest ih =>
    obtain ⟨⟨inner, left⟩, found, same⟩ := Option.map_eq_some_iff.mp read
    cases same
    obtain ⟨rfl, closed⟩ := ih found
    exact ⟨rfl, closed⟩
  | case3 rest single =>
    cases read
    refine ⟨rfl, ?_⟩
    intro doubled
    obtain ⟨rest, rfl⟩ := List.head?_eq_some_iff.mp doubled
    exact single rest rfl
  | case4 c rest _ unmarked ih =>
    obtain ⟨⟨inner, left⟩, found, same⟩ := Option.map_eq_some_iff.mp read
    cases same
    obtain ⟨rfl, closed⟩ := ih found
    refine ⟨?_, closed⟩
    rw [List.flatMap_cons, quoteChar, if_neg unmarked]
    rfl

/-- Reading a name accepts exactly what quoting writes. -/
theorem readName_eq_some_iff :
    readName text = some (name, behind) ↔
      text = quoteName name ++ behind ∧ behind.head? ≠ some '"' := by
  have shape : quoteName name ++ behind = '"' :: (name.flatMap quoteChar ++ '"' :: behind) := by
    simp [quoteName]
  rw [shape]
  constructor
  · intro read
    unfold readName at read
    split at read
    · obtain ⟨rfl, closed⟩ := written_of_readQuoted read
      exact ⟨rfl, closed⟩
    · cases read
  · rintro ⟨rfl, closed⟩
    exact readQuoted_written name closed

theorem toList_dropTable (schema table : String) :
    (dropTable schema table).toList =
      dropStart ++ (quoteName schema.toList ++ '.' :: (quoteName table.toList ++ dropEnd)) := by
  simp only [dropTable, String.toList_ofList, List.append_assoc, List.cons_append]

theorem readName_schema (schema table : List Char) :
    readName (quoteName schema ++ '.' :: (quoteName table ++ dropEnd)) =
      some (schema, '.' :: (quoteName table ++ dropEnd)) :=
  readName_eq_some_iff.mpr ⟨rfl, by simp⟩

theorem readName_table (table : List Char) :
    readName (quoteName table ++ dropEnd) = some (table, dropEnd) := by
  have start : dropEnd.head? = some ' ' := rfl
  exact readName_eq_some_iff.mpr ⟨rfl, by simp [start]⟩

/-- Other names never give the same statement. -/
theorem dropTable_inj {schema table schema' table' : String}
    (same : dropTable schema' table' = dropTable schema table) :
    schema' = schema ∧ table' = table := by
  have texts := congrArg String.toList same
  rw [toList_dropTable, toList_dropTable, List.append_cancel_left_eq] at texts
  -- What is read of two equal texts is equal, the name as well as what is left over.
  have schemas := readName_schema schema'.toList table'.toList
  rw [texts, readName_schema] at schemas
  obtain ⟨schema_eq, behind⟩ := Prod.mk.inj (Option.some.inj schemas)
  have tables := readName_table table'.toList
  rw [← (List.cons.inj behind).2, readName_table] at tables
  obtain ⟨table_eq, -⟩ := Prod.mk.inj (Option.some.inj tables)
  exact ⟨String.toList_inj.mp schema_eq.symm, String.toList_inj.mp table_eq.symm⟩

/-- The text of a statement that drops a table is made of fixed words and two names in quotation
marks with a dot between them. Each name is read back as it was, and exactly what was written for it
is used up; so other names never give the same text. -/
theorem dropTable_reads_back (schema table : String) :
    ∃ first second,
      (dropTable schema table).toList = "DROP TABLE IF EXISTS ".toList ++
        (first ++ '.' :: (second ++ " CASCADE".toList)) ∧
      first = quoteName schema.toList ∧ second = quoteName table.toList ∧
      readName (first ++ '.' :: (second ++ " CASCADE".toList)) =
        some (schema.toList, '.' :: (second ++ " CASCADE".toList)) ∧
      readName (second ++ " CASCADE".toList) = some (table.toList, " CASCADE".toList) ∧
      ∀ schema' table', dropTable schema' table' = dropTable schema table →
        schema' = schema ∧ table' = table :=
  ⟨quoteName schema.toList, quoteName table.toList, toList_dropTable schema table, rfl, rfl,
    readName_schema schema.toList table.toList, readName_table table.toList,
    fun _ _ => dropTable_inj⟩

end SchemaWipe.Sql
