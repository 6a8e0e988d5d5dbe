/-
# TableLake.Session — catalogs under names, and the names that go without saying

A session knows mounted catalogs by their names and has a default catalog and a
default schema in it.  The stores of the catalogs belong to a loader, so that others
who use the loader see what the session does.
-/
import TableLake.Loader
import TableLake.Mount
import TableLake.Sql.Parser
import TableLake.Sql.RowSet

namespace TableLake

open TableLake.Sql

set_option autoImplicit false

structure SessionSettings where
  defaultCatalog : String
  defaultSchema : String
  dialect : String
deriving DecidableEq, Repr

/-- The names used where none are given. -/
def SessionSettings.standard : SessionSettings := ⟨"datafusion", "public", "generic"⟩

/-- A catalog in its place: its store is one of the loader's. -/
structure Mount where
  lake : Option StoreRef
  host : Option HostCatalog
deriving DecidableEq

/-- A store beside the catalog of a host: it is made on the host's kind of catalog and
warehouse, whatever the settings say of these. -/
def Mount.besideHost (options : Options) (warehouse metastore : String) (host : HostCatalog) :
    InLoader NamespaceError Mount := do
  let options := (options.insert warehouseKey warehouse).insert metastoreKey metastore
  let ref ← (Loader.create ⟨options⟩).adapt .catalog
  let _ ← Loader.within ref Namespace.openStore
  return ⟨some ref, some host⟩

structure Session where
  settings : SessionSettings
  mounts : OrderedMap String Mount
  loader : Loader
deriving DecidableEq

/-- Operations of a session that can fail. -/
abbrev InSession := ExceptT EngineError (StateM Session)

namespace Session

/-- A session whose default catalog is one in memory with an empty default schema. -/
def new (settings : SessionSettings) (loader : Loader) : Session where
  settings := settings
  mounts :=
    let host := HostCatalog.registerSchema ∅ settings.defaultSchema
    OrderedMap.ofList [(settings.defaultCatalog, ⟨none, some host⟩)]
  loader := loader

/-- Use the loader. -/
def inLoader {ε α : Type} (words : ε → EngineError) (operation : InLoader ε α) : InSession α := do
  let (result, l) := operation.run (← get).loader
  modify fun s => { s with loader := l }
  ofExcept (result.mapError words)

/-- Mount a catalog under a name, in the place of any other. -/
def mount (name : String) (m : Mount) : InSession Unit :=
  modify fun s => { s with mounts := s.mounts.insert name m }

/-- Mount a store of the loader; its default database is made if it is missing. -/
def mountLake (name : String) (ref : StoreRef) : InSession Unit := do
  let _ ← inLoader .space (Loader.within ref Namespace.openStore)
  mount name ⟨some ref, none⟩

def mount? (name : String) : InSession (Option Mount) := return (← get).mounts.get? name

/-- Work on a mounted catalog. -/
def onMount {α : Type} (name : String) (m : Mount) (operation : InMount α) : InSession α := do
  let s ← get
  let (result, after) := operation.run ⟨m.lake.map s.loader.storeAt, m.host⟩
  if let some host := after.host then mount name ⟨m.lake, some host⟩
  match m.lake, after.lake with
  | some ref, some store =>
      modify fun s => { s with loader := { s.loader with stores := s.loader.stores.set ref store } }
  | _, _ => pure ()
  ofExcept result

/-! ## Names -/

/-- The failure for a name of more parts than a table can have. -/
def manyParts (name : ObjectName) : EngineError :=
  .plan (.nameParts (String.intercalate "." (name.map Ident.written)) name.length)

/-- The place that a written name means. -/
def place (name : ObjectName) : InSession TablePlace := do
  let settings := (← get).settings
  match name.map Ident.normalized with
  | [table] => return ⟨settings.defaultCatalog, settings.defaultSchema, table⟩
  | [schema, table] => return ⟨settings.defaultCatalog, schema, table⟩
  | [catalog, schema, table] => return ⟨catalog, schema, table⟩
  | _ => throw (manyParts name)

/-- The name as messages show it. -/
def shownName (name : ObjectName) : String :=
  String.intercalate "." (name.map Ident.normalized)

/-- The mounted catalog and the side of a schema, or what is missing. -/
def schemaOf (p : TablePlace) : InSession (Mount × Mounted.Side) := do
  match ← mount? p.catalog with
  | none => throw (.plan (.unresolvedCatalog p.catalog))
  | some m =>
      match ← onMount p.catalog m (Mounted.side? p.schema) with
      | none => throw (.plan (.unresolvedSchema p.schema))
      | some side => return (m, side)

/-- The table at a place; none where catalog, schema or table are missing. -/
def table? (p : TablePlace) : InSession (Option TableHandle) := do
  match ← mount? p.catalog with
  | none => return none
  | some m =>
      match ← onMount p.catalog m (Mounted.side? p.schema) with
      | none => return none
      | some side => onMount p.catalog m (Mounted.table? side p.schema p.table)

/-- The table at a place, which has to be there. -/
def table (p : TablePlace) : InSession TableHandle := do
  match ← table? p with
  | some t => return t
  | none => throw (.plan (.noTable p))

def registerTable (p : TablePlace) (t : HostTable) : InSession Unit := do
  let (m, side) ← schemaOf p
  onMount p.catalog m (Mounted.registerTable side p.schema p.table t)

def deregisterTable (p : TablePlace) : InSession (Option TableHandle) := do
  let (m, side) ← schemaOf p
  onMount p.catalog m (Mounted.deregisterTable side p.schema p.table)

end Session

end TableLake
