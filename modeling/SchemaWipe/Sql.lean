/-! The SQL that is sent to the database. A name is quoted with its quotation marks doubled, so it
cannot end before its own end. -/
namespace SchemaWipe.Sql

/-- One character of a quoted name. -/
def quoteChar (c : Char) : List Char :=
  if c = '"' then ['"', '"'] else [c]

/-- A name in quotation marks. -/
def quoteName (name : List Char) : List Char :=
  '"' :: name.flatMap quoteChar ++ ['"']

/-- What a statement that drops a table begins with. -/
def dropStart : List Char := "DROP TABLE IF EXISTS ".toList

/-- What a statement that drops a table ends with: what depends on the table goes too. -/
def dropEnd : List Char := " CASCADE".toList

/-- Drops a table of a schema, if it is there: production `drop_table_statement`. -/
def dropTable (schema table : String) : String :=
  String.ofList (dropStart ++ quoteName schema.toList ++ '.' :: quoteName table.toList ++ dropEnd)

/-- Lists the tables of a schema, which is bound as a parameter: production `LIST_TABLES_SQL`. -/
def listTables : String :=
  "SELECT tablename FROM pg_catalog.pg_tables WHERE schemaname = %s ORDER BY tablename"

/-- Suspends triggers and foreign keys: production `RELAX_ENFORCEMENT_SQL`. -/
def relax : String := "SET session_replication_role = replica"

/-- Puts triggers and foreign keys back into force: production `RESTORE_ENFORCEMENT_SQL`. -/
def restore : String := "SET session_replication_role = DEFAULT"

end SchemaWipe.Sql
