/-
# TableLake.Mount — a catalog in its place in a session

What is mounted has a store, a catalog of a host, or both.  With both, the schemas
are those of either side; a schema that both sides have shows the tables of both,
a table of the store before one of the host with the same name.  New tables of such
a schema go to the host, new schemas to both sides.
-/
import TableLake.Mount.Insert
import TableLake.Procedure.Binding

namespace TableLake

set_option autoImplicit false

structure Mounted where
  lake : Option Store
  host : Option HostCatalog
deriving DecidableEq

/-- Operations on what is mounted that can fail. -/
abbrev InMount := ExceptT EngineError (StateM Mounted)

/-- A table of either side. -/
inductive TableHandle where
  | lake (table : Table)
  | host (table : HostTable)
deriving DecidableEq

namespace TableHandle

def fields : TableHandle → List Field
  | .lake t => t.schema.fields
  | .host t => t.fields

/-- The rows of the table. -/
def read : TableHandle → Except EngineError (List Batch)
  | .lake t => t.read.mapError .catalog
  | .host t => .ok t.batches

/-- The cells of a row at some places. -/
def pick (row : List Cell) (indices : List Nat) : List Cell :=
  indices.map fun i => (row[i]?).join

/-- The rows of the table, all columns or those at some places. -/
def scan (t : TableHandle) (projection : Option (List Nat)) :
    Except EngineError (List (List Cell)) := do
  let rows := (← t.read).flatMap Batch.rowList
  match projection with
  | none => return rows
  | some indices =>
      match indices.find? fun i => t.fields.length ≤ i with
      | some i => .error (.data (.noColumnAt i t.fields.length))
      | none => return rows.map fun row => pick row indices

def admitInsert (t : TableHandle) (mode : InsertMode) (fields : List Field) :
    Except EngineError Unit :=
  match t with
  | .lake t => t.admitInsert mode fields
  | .host t => t.admitInsert mode fields

/-- How the end of an insert is shown. -/
def describeInsert (t : TableHandle) : String :=
  match t with
  | .lake t => "DataSinkExec: sink=LakeSink(" ++ t.id.text ++ ")\n"
  | .host _ => "DataSinkExec: sink=MemoryTable (partitions=1)\n"

end TableHandle

namespace Mounted

/-- Work on the store, if there is one. -/
def onLake {α : Type} (absent : α) (operation : InStore EngineError α) : InMount α := do
  match (← get).lake with
  | none => return absent
  | some s =>
      let (result, s') := operation.run s
      modify fun m => { m with lake := some s' }
      ofExcept result

/-- Ask the host, if there is one. -/
def onHost {α : Type} (absent : α) (question : HostCatalog → α) : InMount α :=
  return ((← get).host.map question).getD absent

/-- Change the catalog of the host, if there is one. -/
def changeHost (change : HostCatalog → Except EngineError HostCatalog) : InMount Unit := do
  match (← get).host with
  | none => return ()
  | some h =>
      let h' ← ofExcept (change h)
      modify fun m => { m with host := some h' }

/-! ## Schemas -/

/-- The side or sides that have a schema. -/
inductive Side where
  | lake
  | host
  | both
deriving DecidableEq, Repr

def side? (schema : String) : InMount (Option Side) := do
  let lake ← onLake false (LakeSchema.hasSchema schema)
  let host ← onHost false fun h => h.contains schema
  return match lake, host with
    | true, true => some .both
    | true, false => some .lake
    | false, true => some .host
    | false, false => none

def hasSchema (schema : String) : InMount Bool := return (← side? schema).isSome

def schemaNames : InMount (List String) := do
  let lake ← onLake [] LakeSchema.schemaNames
  let host ← onHost [] OrderedMap.keys
  return firstOccurrences (lake ++ host)

/-- Make a schema; the answer says whether there was one of that name. -/
def registerSchema (schema : String) : InMount Bool := do
  let previous ← hasSchema schema
  onLake () (LakeSchema.registerSchema schema)
  changeHost fun h => .ok (h.registerSchema schema)
  return previous

/-- Drop a schema, first from the store and then from the host; the answer says
whether there was one. -/
def deregisterSchema (schema : String) (cascade : Bool) : InMount Bool := do
  let previous ← hasSchema schema
  onLake () (LakeSchema.deregisterSchema schema cascade)
  changeHost fun h => h.deregisterSchema schema cascade
  return previous

/-! ## Tables of a schema -/

def lakeTable? (schema name : String) : InMount (Option TableHandle) := do
  return (← onLake none (LakeSchema.table? schema name)).map .lake

def hostTable? (schema name : String) : InMount (Option TableHandle) :=
  onHost none fun h => (h.table? schema name).map .host

def table? (side : Side) (schema name : String) : InMount (Option TableHandle) := do
  match side with
  | .lake => lakeTable? schema name
  | .host => hostTable? schema name
  | .both =>
      match ← lakeTable? schema name with
      | some t => return some t
      | none => hostTable? schema name

def lakeNames (schema : String) : InMount (List String) :=
  onLake [] (LakeSchema.tableNames schema)

def hostNames (schema : String) : InMount (List String) :=
  onHost [] fun h => ((h.get? schema).map OrderedMap.keys).getD []

def tableNames (side : Side) (schema : String) : InMount (List String) := do
  match side with
  | .lake => lakeNames schema
  | .host => hostNames schema
  | .both => return firstOccurrences ((← lakeNames schema) ++ (← hostNames schema))

def lakeHas (schema name : String) : InMount Bool :=
  onLake false (LakeSchema.tableExists schema name)

def hostHas (schema name : String) : InMount Bool :=
  onHost false fun h => (h.table? schema name).isSome

def tableExists (side : Side) (schema name : String) : InMount Bool := do
  match side with
  | .lake => lakeHas schema name
  | .host => hostHas schema name
  | .both => if ← lakeHas schema name then return true else hostHas schema name

/-- Make a table, on the host where both sides have the schema. -/
def registerTable (side : Side) (schema name : String) (t : HostTable) : InMount Unit :=
  match side with
  | .lake => onLake () (LakeSchema.register schema name t)
  | .host | .both => changeHost fun h => h.registerTable schema name t

def deregisterHost (schema name : String) : InMount (Option TableHandle) := do
  let previous ← hostTable? schema name
  changeHost fun h => .ok (h.deregisterTable schema name)
  return previous

def deregisterLake (schema name : String) : InMount (Option TableHandle) := do
  return (← onLake none (LakeSchema.deregister schema name)).map .lake

/-- Drop a table; the answer is the table that was there. -/
def deregisterTable (side : Side) (schema name : String) : InMount (Option TableHandle) := do
  match side with
  | .lake => deregisterLake schema name
  | .host => deregisterHost schema name
  | .both =>
      if ← lakeHas schema name then deregisterLake schema name
      else deregisterHost schema name

/-- Append rows that were admitted; the answer is their number. -/
def append (schema name : String) (t : TableHandle) (source : RowSource) : InMount Nat := do
  match t with
  | .lake t => onLake 0 (LakeSchema.append t source)
  | .host t =>
      ofExcept (source.check t.fields)
      changeHost fun h => .ok (h.append schema name source.batches)
      return source.rows

end Mounted

end TableLake
