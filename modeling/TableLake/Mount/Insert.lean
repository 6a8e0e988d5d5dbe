/-
# TableLake.Mount.Insert — rows on their way into a table

Rows fit a table if their fields have the names and types of its columns, in order.
Rows with a missing value under a mandatory column are refused, and where there are
no rows nothing is committed.
-/
import TableLake.Mount.LakeSchema

namespace TableLake

set_option autoImplicit false

/-- Rows under fields of their own. -/
structure RowSource where
  fields : List Field
  batches : List Batch
deriving DecidableEq

/-- The names and types of fields, in order. -/
def signature (fields : List Field) : List (String × ColumnType) :=
  fields.map fun f => (f.name, f.type)

/-- Whether a rows' field may miss values that the table's column must have. -/
def risky (target source : Field) : Bool := !target.nullable && source.nullable

/-- The first mandatory column under which a batch misses a value. -/
def missingAt (target source : List Field) (b : Batch) : Option Nat :=
  ((target.zip source).zip b.columns).findIdx? fun p =>
    risky p.1.1 p.1.2 && p.2.hasMissing

/-- The number of rows. -/
def RowSource.rows (source : RowSource) : Nat := Batch.totalRows source.batches

/-- Every mandatory column has its values. -/
def RowSource.check (source : RowSource) (target : List Field) : Except EngineError Unit :=
  match source.batches.findSome? (missingAt target source.fields) with
  | some i => .error (.execution (.missingRequired i))
  | none => .ok ()

/-- Whether rows can go into a table of the lake. -/
def Table.admitInsert (t : Table) (mode : InsertMode) (fields : List Field) :
    Except EngineError Unit :=
  if mode ≠ .append then .error (.notOffered (.lakeInsert mode))
  else if signature t.schema.fields = signature fields then .ok ()
  else .error (.plan (.insertMismatch t.id))

/-- Whether rows can go into a table of a host. -/
def HostTable.admitInsert (t : HostTable) (mode : InsertMode) (fields : List Field) :
    Except EngineError Unit :=
  if signature t.fields ≠ signature fields then .error (.plan .hostInsertMismatch)
  else if mode ≠ .append then .error (.notOffered (.hostInsert mode))
  else .ok ()

/-- Commit rows that were admitted against a view of the table; the answer is their
number. -/
def LakeSchema.append (t : Table) (source : RowSource) : InStore EngineError Nat := do
  ofExcept (source.check t.schema.fields)
  if source.rows = 0 then return 0
  let _ ← ask (Store.write t.id source.batches)
  return source.rows

end TableLake
