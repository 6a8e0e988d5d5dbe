/-
# TableLake.Catalog — databases, their tables and the history of each table

Databases and the tables in them are kept in the order they came into being.  A
table has a schema, snapshots numbered from one without a gap, and tags that point
at snapshots.  Every operation takes a catalog and gives the catalog afterwards,
or says why it refuses.

A commit takes a reading of the clock.  Commit times never go backwards, even if
the clock does: a commit is dated by the later of the reading and the commit
before it.  A snapshot holds all rows, so a write repeats the batches of the last
snapshot before its own, and a compaction commits the batches that are there.
-/
import TableLake.Schema.Change
import TableLake.Table
import TableLake.Compaction

namespace TableLake

open TableLake.Text

set_option autoImplicit false

/-- A table as the catalog keeps it. -/
structure TableEntry where
  schema : Schema
  snapshots : List Snapshot
  tags : OrderedMap String Nat
deriving DecidableEq

namespace TableEntry

/-- A table without data. -/
def new (schema : Schema) : TableEntry := ⟨schema, [], ∅⟩

/-- The number of the next snapshot. -/
def nextId (t : TableEntry) : Nat :=
  match t.snapshots.getLast? with
  | some s => s.id + 1
  | none => 1

/-- The time of a commit at a reading of the clock. -/
def commitTime (t : TableEntry) (now : Int) : Int :=
  match t.snapshots.getLast? with
  | some s => max s.millis now
  | none => now

def nextSnapshot (t : TableEntry) (kind : CommitKind) (now : Int) (batches : List Batch) :
    Snapshot :=
  { id := t.nextId, schemaId := t.schema.id, kind, millis := t.commitTime now, batches }

/-- The table with one more snapshot. -/
def commit (t : TableEntry) (s : Snapshot) : TableEntry :=
  { t with snapshots := t.snapshots ++ [s] }

/-- The batches of the last snapshot. -/
def latestBatches (t : TableEntry) : List Batch :=
  match t.snapshots.getLast? with
  | some s => s.batches
  | none => []

def hasSnapshot (t : TableEntry) (id : Nat) : Bool :=
  t.snapshots.any fun s => s.id == id

/-- The table as it is handed out under a name. -/
def view (t : TableEntry) (id : TableId) : Table :=
  { id, schema := t.schema, snapshots := t.snapshots, tags := t.tags, dynamic := ∅ }

/-- Append rows; the columns of a batch go by position, under whatever names, and
have to fit the schema. -/
def write (t : TableEntry) (batches : List Batch) (now : Int) :
    Except CatalogError (TableEntry × Snapshot) := do
  let written ← batches.mapM fun b =>
    (Batch.make t.schema.fields b.columns).mapError CatalogError.data
  let s := t.nextSnapshot .append now (t.latestBatches ++ written)
  return (t.commit s, s)

/-- The first key of a partition by which the table is not partitioned. -/
def foreignKey (t : TableEntry) (partition : Partition) : Option String :=
  partition.keys.find? fun key => key ∉ t.schema.partitionKeys

/-- The keys of the partitions and the columns of the order belong to the table. -/
def admitRequest (t : TableEntry) (id : TableId) (request : CompactRequest) :
    Except CatalogError Unit := do
  match request.partitions.findSome? t.foreignKey with
  | some key => .error (.invalidOption key (key ++ " is not a partition key of " ++ id.text))
  | none => pure ()
  match request.order with
  | none => pure ()
  | some order =>
      match order.columns.find? fun column => (t.schema.field? column).isNone with
      | some column => .error (.noColumn id column)
      | none => pure ()

/-- Commit the batches that are there once more; a table without data stays. -/
def compact (t : TableEntry) (id : TableId) (request : CompactRequest) (now : Int) :
    Except CatalogError (TableEntry × Option Snapshot) := do
  t.admitRequest id request
  match t.snapshots.getLast? with
  | none => return (t, none)
  | some latest =>
      let s := t.nextSnapshot .compact now latest.batches
      return (t.commit s, some s)

/-- The number of the snapshot a version means. -/
def versionId (t : TableEntry) (id : TableId) : Version → Except CatalogError Nat
  | .snapshot n => .ok n
  | .tag name =>
      match t.tags.get? name with
      | some n => .ok n
      | none => .error (.noTag id name)

/-- Drop every snapshot after a version, and the tags that point at one. -/
def rollback (t : TableEntry) (id : TableId) (version : Version) :
    Except CatalogError TableEntry := do
  let n ← t.versionId id version
  if t.hasSnapshot n then
    return { t with
      snapshots := t.snapshots.filter fun s => s.id ≤ n
      tags := t.tags.filter fun _ m => m ≤ n }
  else .error (.noSnapshot id n)

/-- The snapshot to tag: the one that is named, else the last. -/
def tagTarget (t : TableEntry) (id : TableId) : Option Nat → Except CatalogError Nat
  | some n => if t.hasSnapshot n then .ok n else .error (.noSnapshot id n)
  | none =>
      match t.snapshots.getLast? with
      | some s => .ok s.id
      | none => .error (.noSnapshot id 0)

def createTag (t : TableEntry) (id : TableId) (tag : String) (snapshot : Option Nat) :
    Except CatalogError TableEntry := do
  if t.tags.contains tag then .error (.tagExists id tag)
  else
    let n ← t.tagTarget id snapshot
    return { t with tags := t.tags.insert tag n }

end TableEntry

/-- The tables of a database. -/
abbrev Database := OrderedMap String TableEntry

structure Catalog where
  warehouse : String
  options : Options
  databases : OrderedMap String Database
deriving DecidableEq

namespace Catalog

/-- A catalog without databases. -/
def new (warehouse : String) (options : Options) : Catalog := ⟨warehouse, options, ∅⟩

/-! ## Looking up -/

def listDatabases (c : Catalog) : List String := c.databases.keys

def databaseExists (c : Catalog) (database : String) : Bool := c.databases.contains database

def database (c : Catalog) (name : String) : Except CatalogError Database :=
  match c.databases.get? name with
  | some db => .ok db
  | none => .error (.noDatabase name)

def listTables (c : Catalog) (database : String) : Except CatalogError (List String) :=
  OrderedMap.keys <$> c.database database

/-- The entry of a table; none if its database or the table does not exist. -/
def entry? (c : Catalog) (id : TableId) : Option TableEntry :=
  (c.databases.get? id.database).bind fun db => db.get? id.object

def entry (c : Catalog) (id : TableId) : Except CatalogError TableEntry :=
  match c.entry? id with
  | some t => .ok t
  | none => .error (.noTable id)

def getTable (c : Catalog) (id : TableId) : Except CatalogError Table :=
  (·.view id) <$> c.entry id

def tableExists (c : Catalog) (id : TableId) : Bool := (c.entry? id).isSome

/-! ## Replacing parts -/

def setDatabase (c : Catalog) (name : String) (db : Database) : Catalog :=
  { c with databases := c.databases.insert name db }

/-- The catalog with an entry in a database that exists. -/
def setEntry (c : Catalog) (id : TableId) (t : TableEntry) : Catalog :=
  match c.databases.get? id.database with
  | some db => c.setDatabase id.database (db.insert id.object t)
  | none => c

def eraseEntry (c : Catalog) (id : TableId) : Catalog :=
  match c.databases.get? id.database with
  | some db => c.setDatabase id.database (db.erase id.object)
  | none => c

/-- Change one table. -/
def modifyEntry (c : Catalog) (id : TableId)
    (change : TableEntry → Except CatalogError TableEntry) : Except CatalogError Catalog := do
  return c.setEntry id (← change (← c.entry id))

/-! ## Databases -/

def createDatabase (c : Catalog) (name : String) (ignoreIfExists : Bool) :
    Except CatalogError Catalog :=
  if c.databaseExists name then
    if ignoreIfExists then .ok c else .error (.databaseExists name)
  else .ok (c.setDatabase name ∅)

def dropDatabase (c : Catalog) (name : String) (ignoreIfMissing cascade : Bool) :
    Except CatalogError Catalog :=
  match c.databases.get? name with
  | none => if ignoreIfMissing then .ok c else .error (.noDatabase name)
  | some db =>
      if db.isEmpty || cascade then .ok { c with databases := c.databases.erase name }
      else .error (.databaseNotEmpty name)

/-! ## Tables -/

def createTable (c : Catalog) (id : TableId) (schema : Schema) (ignoreIfExists : Bool) :
    Except CatalogError Catalog := do
  let db ← c.database id.database
  if db.contains id.object then
    if ignoreIfExists then return c else .error (.tableExists id)
  else return c.setDatabase id.database (db.insert id.object (.new schema))

def dropTable (c : Catalog) (id : TableId) (ignoreIfMissing : Bool) :
    Except CatalogError Catalog :=
  if c.tableExists id then .ok (c.eraseEntry id)
  else if ignoreIfMissing then .ok c
  else .error (.noTable id)

/-- Move a table to a name that is free, in a database that exists. -/
def renameTable (c : Catalog) (source target : TableId) (ignoreIfMissing : Bool) :
    Except CatalogError Catalog :=
  match c.entry? source with
  | none => if ignoreIfMissing then .ok c else .error (.noTable source)
  | some t => do
      let db ← c.database target.database
      if db.contains target.object then .error (.tableExists target)
      else return (c.eraseEntry source).setEntry target t

/-- Evolve the schema of a table. -/
def alterTable (c : Catalog) (id : TableId) (changes : List SchemaChange)
    (ignoreIfMissing : Bool) : Except CatalogError Catalog :=
  if ignoreIfMissing && !c.tableExists id then .ok c
  else
    c.modifyEntry id fun t => do
      return { t with schema := ← t.schema.applyChanges id changes }

def write (c : Catalog) (id : TableId) (batches : List Batch) (now : Int) :
    Except CatalogError (Catalog × Snapshot) := do
  let (t, s) ← (← c.entry id).write batches now
  return (c.setEntry id t, s)

def compact (c : Catalog) (id : TableId) (request : CompactRequest) (now : Int) :
    Except CatalogError (Catalog × Option Snapshot) := do
  let (t, s) ← (← c.entry id).compact id request now
  return (c.setEntry id t, s)

def rollbackTo (c : Catalog) (id : TableId) (version : Version) : Except CatalogError Catalog :=
  c.modifyEntry id fun t => t.rollback id version

def createTag (c : Catalog) (id : TableId) (tag : String) (snapshot : Option Nat) :
    Except CatalogError Catalog :=
  c.modifyEntry id fun t => t.createTag id tag snapshot

end Catalog

end TableLake
