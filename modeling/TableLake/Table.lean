/-
# TableLake.Table — a table as it is handed out

A view of a table: its schema, snapshots and tags at one moment, and settings of
the view that lie over those of the schema.  The settings say which snapshot is
read: one by number, else one by tag, else the last one at a time, else the last.
`Table.readBy` shows the batches of that snapshot through the current columns, each column
that has another type by a casting; `Table.read` is for plain values.
-/
import TableLake.Schema
import TableLake.Snapshot
import TableLake.Version

namespace TableLake

open TableLake.Text

set_option autoImplicit false

structure Table where
  id : TableId
  schema : Schema
  snapshots : List Snapshot
  tags : OrderedMap String Nat
  dynamic : Options
deriving DecidableEq

namespace Table

def latest? (t : Table) : Option Snapshot := t.snapshots.getLast?

/-- The snapshot with a number. -/
def snapshot (t : Table) (id : Nat) : Except CatalogError Snapshot :=
  match t.snapshots.find? fun s => s.id == id with
  | some s => .ok s
  | none => .error (.noSnapshot t.id id)

/-- The snapshot a tag points at. -/
def tagged (t : Table) (tag : String) : Except CatalogError Snapshot :=
  match t.tags.get? tag with
  | some id => t.snapshot id
  | none => .error (.noTag t.id tag)

/-- The snapshot a version means. -/
def atVersion (t : Table) : Version → Except CatalogError Snapshot
  | .snapshot id => t.snapshot id
  | .tag name => t.tagged name

/-- The last snapshot committed at or before a time. -/
def atTime (t : Table) (millis : Int) : Except CatalogError Snapshot :=
  match t.snapshots.reverse.find? fun s => s.millis ≤ millis with
  | some s => .ok s
  | none => .error (.noSnapshotBefore t.id millis)

/-- The settings of the schema under those of the view. -/
def options (t : Table) : Options := t.schema.options.overlay t.dynamic

/-- The view with further settings. -/
def copy (t : Table) (settings : Options) : Table :=
  { t with dynamic := t.dynamic.overlay settings }

/-- Read the number under a key. -/
def readOption {α : Type} (key : String) (number : Except IntegerFault α) :
    Except CatalogError α :=
  match number with
  | .ok n => .ok n
  | .error fault => .error (.invalidOption key fault.message)

/-- The snapshot the settings select; none if the table has no snapshot and the
settings name none. -/
def scanSnapshot (t : Table) : Except CatalogError (Option Snapshot) :=
  match t.options.get? scanSnapshotKey with
  | some id => do
      let id ← readOption scanSnapshotKey (readUnsigned maxUnsigned64 id)
      some <$> t.snapshot id
  | none =>
      match t.options.get? scanTagKey with
      | some tag => some <$> t.tagged tag
      | none =>
          match t.options.get? scanTimeKey with
          | some millis => do
              let millis ← readOption scanTimeKey (readSigned 64 millis)
              some <$> t.atTime millis
          | none => .ok t.latest?

/-- The batch under the current columns. -/
def align (k : Casting) (t : Table) (b : Batch) : Except CatalogError Batch :=
  (b.align k t.schema.fields).mapError .data

/-- The batches of the selected snapshot under the current columns. -/
def readBy (k : Casting) (t : Table) : Except CatalogError (List Batch) := do
  match ← t.scanSnapshot with
  | none => return []
  | some s => s.batches.mapM (t.align k)

/-- The table as it is read where columns hold plain values only. -/
def read (t : Table) : Except CatalogError (List Batch) := t.readBy .plain

end Table

end TableLake
