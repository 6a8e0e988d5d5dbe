/-
# TableLake.Store — a catalog in use

A store is a catalog together with the reading of the clock that the next commit
is dated by.  Its operations run in `InStore`: they see the store before them and
leave one behind, also when they fail.

A store may stand behind a gate.  The gate refuses the operations it is told to
refuse, dates the snapshots of the tables it hands out by their numbers, a second
apart, and keeps a log of the compactions asked for, refused ones included.
Behind a gate a table exists if it can be handed out.
-/
import TableLake.Catalog

namespace TableLake

set_option autoImplicit false

/-- The operations a gate can refuse. -/
inductive StoreAction where
  | createDatabase
  | dropDatabase
  | listTables
  | getTable
  | createTable
  | dropTable
  | renameTable
  | alterTable
  | write
  | compact
  | rollbackTo
deriving DecidableEq, Repr

namespace StoreAction

def name : StoreAction → String
  | .createDatabase => "create_database"
  | .dropDatabase => "drop_database"
  | .listTables => "list_tables"
  | .getTable => "get_table"
  | .createTable => "create_table"
  | .dropTable => "drop_table"
  | .renameTable => "rename_table"
  | .alterTable => "alter_table"
  | .write => "write"
  | .compact => "compact"
  | .rollbackTo => "rollback_to"

def all : List StoreAction :=
  [.createDatabase, .dropDatabase, .listTables, .getTable, .createTable, .dropTable,
    .renameTable, .alterTable, .write, .compact, .rollbackTo]

/-- The operation with a name. -/
def ofName? (name : String) : Option StoreAction :=
  all.find? fun action => action.name == name

end StoreAction

/-- What a gate refuses, and the compactions asked for so far. -/
structure Gate where
  refused : List StoreAction
  requests : List CompactRequest
deriving DecidableEq

structure Store where
  catalog : Catalog
  now : Int
  gate : Option Gate
deriving DecidableEq

/-- Operations on a store that can fail. -/
abbrev InStore (ε : Type) := ExceptT ε (StateM Store)

namespace Store

/-- A store without a gate. -/
def new (catalog : Catalog) (now : Int) : Store := ⟨catalog, now, none⟩

/-- Whether the gate, if there is one, refuses an operation. -/
def refuses (s : Store) (action : StoreAction) : Bool :=
  match s.gate with
  | some gate => action ∈ gate.refused
  | none => false

/-- A snapshot as it is seen through a gate. -/
def redated (s : Snapshot) : Snapshot := { s with millis := 1000 * s.id }

/-- A table as it is handed out. -/
def shown (s : Store) (t : Table) : Table :=
  match s.gate with
  | some _ => { t with snapshots := t.snapshots.map redated }
  | none => t

/-- The store with one more compaction in the log of its gate. -/
def logged (s : Store) (request : CompactRequest) : Store :=
  { s with gate := s.gate.map fun g => { g with requests := g.requests ++ [request] } }

/-- Pass the gate. -/
def enter (action : StoreAction) : InStore CatalogError Unit := do
  if (← get).refuses action then throw (.unsupported action.name)

/-- Ask the catalog. -/
def ask {α : Type} (question : Catalog → Except CatalogError α) : InStore CatalogError α := do
  ofExcept (question (← get).catalog)

/-- Replace the catalog by what an operation gives. -/
def update (operation : Catalog → Except CatalogError Catalog) : InStore CatalogError Unit := do
  let c ← ask operation
  modify fun s => { s with catalog := c }

/-- Make a commit at the reading of the clock. -/
def commit {α : Type} (operation : Catalog → Int → Except CatalogError (Catalog × α)) :
    InStore CatalogError α := do
  let now := (← get).now
  let (c, a) ← ask (operation · now)
  modify fun s => { s with catalog := c }
  return a

/-! ## The operations -/

def warehouse {ε : Type} : InStore ε String := return (← get).catalog.warehouse

def options {ε : Type} : InStore ε Options := return (← get).catalog.options

def listDatabases {ε : Type} : InStore ε (List String) := return (← get).catalog.listDatabases

def databaseExists {ε : Type} (database : String) : InStore ε Bool :=
  return (← get).catalog.databaseExists database

def createDatabase (database : String) (ignoreIfExists : Bool) : InStore CatalogError Unit := do
  enter .createDatabase
  update (·.createDatabase database ignoreIfExists)

def dropDatabase (database : String) (ignoreIfMissing cascade : Bool) :
    InStore CatalogError Unit := do
  enter .dropDatabase
  update (·.dropDatabase database ignoreIfMissing cascade)

def listTables (database : String) : InStore CatalogError (List String) := do
  enter .listTables
  ask (·.listTables database)

def getTable (id : TableId) : InStore CatalogError Table := do
  enter .getTable
  let t ← ask (·.getTable id)
  return (← get).shown t

/-- A table exists if it can be handed out. -/
def tableExists {ε : Type} (id : TableId) : InStore ε Bool := do
  let s ← get
  return s.catalog.tableExists id && !s.refuses .getTable

def createTable (id : TableId) (schema : Schema) (ignoreIfExists : Bool) :
    InStore CatalogError Unit := do
  enter .createTable
  update (·.createTable id schema ignoreIfExists)

def dropTable (id : TableId) (ignoreIfMissing : Bool) : InStore CatalogError Unit := do
  enter .dropTable
  update (·.dropTable id ignoreIfMissing)

def renameTable (source target : TableId) (ignoreIfMissing : Bool) :
    InStore CatalogError Unit := do
  enter .renameTable
  update (·.renameTable source target ignoreIfMissing)

def alterTable (id : TableId) (changes : List SchemaChange) (ignoreIfMissing : Bool) :
    InStore CatalogError Unit := do
  enter .alterTable
  update (·.alterTable id changes ignoreIfMissing)

/-- Append batches; their columns go by position. -/
def write (id : TableId) (batches : List Batch) : InStore CatalogError Snapshot := do
  enter .write
  commit fun c now => c.write id batches now

/-- Compact a table; the request is logged before anything can fail. -/
def compact (id : TableId) (request : CompactRequest) :
    InStore CatalogError (Option Snapshot) := do
  modify (·.logged request)
  enter .compact
  commit fun c now => c.compact id request now

def rollbackTo (id : TableId) (version : Version) : InStore CatalogError Unit := do
  enter .rollbackTo
  update (·.rollbackTo id version)

/-- Tags are set in the catalog itself; no gate stands before them. -/
def createTag (id : TableId) (tag : String) (snapshot : Option Nat) :
    InStore CatalogError Unit :=
  update (·.createTag id tag snapshot)

end Store

end TableLake
