/-
# TableLake.Mount.LakeSchema — a database of a store as a schema of tables

A table registered here is made in the store with the fields of the given table,
and its rows are committed as one snapshot.  If the rows are refused the table is
dropped again: registering leaves either the whole table behind or nothing.
-/
import TableLake.Mount.HostCatalog
import TableLake.Namespace

namespace TableLake

set_option autoImplicit false

namespace LakeSchema

/-- Use the store; its refusals are passed on. -/
def ask {α : Type} (operation : InStore CatalogError α) : InStore EngineError α :=
  operation.adapt .catalog

/-! ## Schemas -/

def schemaNames : InStore EngineError (List String) := Store.listDatabases

def hasSchema (schema : String) : InStore EngineError Bool := Store.databaseExists schema

/-- Make the database unless it is there. -/
def registerSchema (schema : String) : InStore EngineError Unit :=
  ask (Store.createDatabase schema true)

/-- Drop the database if it is there. -/
def deregisterSchema (schema : String) (cascade : Bool) : InStore EngineError Unit := do
  if ← hasSchema schema then (Namespace.drop [schema] cascade).adapt .space

/-! ## Tables -/

/-- The names of the tables; none where they cannot be listed. -/
def tableNames (schema : String) : InStore EngineError (List String) :=
  tryCatch (ask (Store.listTables schema)) fun _ => return []

def tableExists (schema name : String) : InStore EngineError Bool :=
  Store.tableExists ⟨schema, name⟩

/-- The table with a name, if there is one. -/
def table? (schema name : String) : InStore EngineError (Option Table) :=
  tryCatch (some <$> ask (Store.getTable ⟨schema, name⟩)) fun
    | .catalog (.noTable _) => return none
    | e => throw e

/-- Make an empty table. -/
def create (id : TableId) (schema : Schema) : InStore EngineError Unit :=
  (Store.createTable id schema false).adapt fun
    | .tableExists _ => .space (.tableExists ⟨[id.database], id.object⟩)
    | e => .space (.catalog e)

/-- Commit the rows of a table, if it has some. -/
def fill (id : TableId) (batches : List Batch) : InStore EngineError Unit := do
  if batches.any fun b => 0 < b.rows then
    let _ ← ask (Store.write id batches)

/-- Take a table back whose rows were refused. -/
def takeBack (id : TableId) (refusal : EngineError) : InStore EngineError Unit := do
  ask (Store.dropTable id true)
  throw refusal

/-- Make a table with the fields and the rows of a table in memory. -/
def register (schema name : String) (t : HostTable) : InStore EngineError Unit := do
  unless t.inMemory do throw (.notOffered (.memoryTablesOnly schema))
  let made ← ofExcept ((tableSchema t.fields [] ∅).mapError .space)
  create ⟨schema, name⟩ made
  tryCatch (fill ⟨schema, name⟩ t.batches) (takeBack ⟨schema, name⟩)

/-- Drop a table; the answer is the table that was there. -/
def deregister (schema name : String) : InStore EngineError (Option Table) := do
  match ← table? schema name with
  | none => return none
  | some t =>
      ask (Store.dropTable ⟨schema, name⟩ false)
      return some t

end LakeSchema

end TableLake
