/-
# TableLake.Namespace — a store as hosts see it

A host sees the databases of a store as namespaces of one part and speaks of
tables below them.  Its operations do the work of the store and say in the host's
words what the store says of databases and tables.
-/
import TableLake.Namespace.TableChange
import TableLake.Store

namespace TableLake

open TableLake.Text

set_option autoImplicit false

namespace Namespace

/-- Use the store; `words` puts its refusals into the words of the host. -/
def ask {α : Type} (words : CatalogError → NamespaceError) (operation : InStore CatalogError α) :
    InStore NamespaceError α :=
  operation.adapt words

/-- The database of a namespace of one part. -/
def database : Namespace → Except NamespaceError String
  | [name] => .ok name
  | space => .error (.invalidNamespace space)

/-- The table in the database of a namespace of one part. -/
def tableId (r : TableRef) : Except NamespaceError TableId :=
  match r.space with
  | [database] => .ok ⟨database, r.name⟩
  | _ => .error (.noTable r)

/-! ## Opening a store -/

/-- The database that a store has from the start. -/
def defaultDatabase (options : Options) : String :=
  (options.get? defaultDatabaseKey).getD defaultDatabaseName

/-- Make the default database unless it is there; the answer is its name. -/
def openStore : InStore NamespaceError String := do
  let database := defaultDatabase (← Store.options)
  ask .catalog (Store.createDatabase database true)
  return database

/-! ## Namespaces -/

def list {ε : Type} : InStore ε (List Namespace) :=
  return (← Store.listDatabases).map fun database => [database]

/-- The namespaces below one: all below the empty one, none below a database. -/
def children (space : Namespace) : InStore NamespaceError (List Namespace) :=
  match space with
  | [] => list
  | [database] => do
      if ← Store.databaseExists database then return [] else throw (.noNamespace space)
  | _ => throw (.noNamespace space)

/-- A namespace that exists has no further properties. -/
def require (space : Namespace) : InStore NamespaceError Unit := do
  let name ← ofExcept (database space)
  unless ← Store.databaseExists name do throw (.noNamespace space)

def create (space : Namespace) : InStore NamespaceError Unit := do
  let name ← ofExcept (database space)
  ask (words space) (Store.createDatabase name false)
where
  words (space : Namespace) : CatalogError → NamespaceError
    | .databaseExists _ => .namespaceExists space
    | e => .catalog e

def drop (space : Namespace) (cascade : Bool) : InStore NamespaceError Unit := do
  let name ← ofExcept (database space)
  ask (words space) (Store.dropDatabase name false cascade)
where
  words (space : Namespace) : CatalogError → NamespaceError
    | .noDatabase _ => .noNamespace space
    | .databaseNotEmpty _ => .namespaceNotEmpty space
    | e => .catalog e

/-- The properties of a namespace cannot be changed. -/
def alter (_space : Namespace) (_properties : Options) : InStore NamespaceError Unit :=
  throw .alterNamespace

def listTables (space : Namespace) : InStore NamespaceError (List TableRef) := do
  let name ← ofExcept (database space)
  let tables ← ask (words space) (Store.listTables name)
  return tables.map fun table => ⟨space, table⟩
where
  words (space : Namespace) : CatalogError → NamespaceError
    | .noDatabase _ => .noNamespace space
    | e => .catalog e

/-! ## Tables -/

/-- What the store says of a table that is not there. -/
def tableWords (r : TableRef) : CatalogError → NamespaceError
  | .noTable _ => .noTable r
  | e => .catalog e

def loadTable (r : TableRef) : InStore NamespaceError Table := do
  let id ← ofExcept (tableId r)
  ask (tableWords r) (Store.getTable id)

/-- The settings that select a version. -/
def versionSettings : Version → Options
  | .snapshot id => OrderedMap.ofList [(scanSnapshotKey, decimal id)]
  | .tag name => OrderedMap.ofList [(scanTagKey, name)]

/-- A table at a snapshot or a tag. -/
def loadTableAtVersion (r : TableRef) (version : String) : InStore NamespaceError Table := do
  let t ← loadTable r
  let version ← ofExcept ((Version.read version).mapError .catalog)
  return t.copy (versionSettings version)

/-- A table at a time in microseconds, whole milliseconds towards zero. -/
def loadTableAtTime (r : TableRef) (micros : Int) : InStore NamespaceError Table := do
  let t ← loadTable r
  return t.copy (OrderedMap.ofList [(scanTimeKey, signedDecimal (micros.tdiv 1000))])

def tableExists {ε : Type} (r : TableRef) : InStore ε Bool :=
  match tableId r with
  | .ok id => Store.tableExists id
  | .error _ => return false

def createTable (r : TableRef) (fields : List Field) (partitionKeys : List String)
    (properties : Options) : InStore NamespaceError Table := do
  let id ← ofExcept (tableId r)
  let schema ← ofExcept (tableSchema fields partitionKeys properties)
  ask (words r) (Store.createTable id schema false)
  loadTable r
where
  words (r : TableRef) : CatalogError → NamespaceError
    | .tableExists _ => .tableExists r
    | .noDatabase _ => .noNamespace r.space
    | e => .catalog e

/-- Drop a table; the answer says whether there was one. -/
def dropTable (r : TableRef) : InStore NamespaceError Bool :=
  match tableId r with
  | .error _ => return false
  | .ok id =>
      tryCatch (do ask .catalog (Store.dropTable id false); return true) fun
        | .catalog (.noTable _) => return false
        | e => throw e

def renameTable (source target : TableRef) : InStore NamespaceError Unit := do
  let sourceId ← ofExcept (tableId source)
  let targetId ← ofExcept (tableId target)
  ask (words source target) (Store.renameTable sourceId targetId false)
where
  words (source target : TableRef) : CatalogError → NamespaceError
    | .noTable _ => .noTable source
    | .tableExists _ => .tableExists target
    | e => .catalog e

def alterTable (r : TableRef) (changes : List TableChange) : InStore NamespaceError Table := do
  let id ← ofExcept (tableId r)
  let changes ← ofExcept (changes.mapM TableChange.toSchemaChange)
  ask (tableWords r) (Store.alterTable id changes false)
  loadTable r

end Namespace

end TableLake
