/-
# TableLake.Schema.Change — how the schema of a table evolves

A change touches one setting or one column.  `Schema.applyChange` makes one change
or says why it cannot be made; `Schema.applyChanges` makes a list of changes one
after the other and numbers the result one higher.  A list of changes is made as a
whole or not at all: the schema it starts from is a value of its own.
-/
import TableLake.Schema
import TableLake.Text.Quoted

namespace TableLake

open TableLake.Text

set_option autoImplicit false

/-- Where a column goes. -/
inductive Place where
  | first
  | after (column : String)
deriving DecidableEq, Repr

inductive SchemaChange where
  | setOption (key value : String)
  | removeOption (key : String)
  | addColumn (field : Field) (place : Option Place)
  | renameColumn (column newName : String)
  | dropColumn (column : String)
  | updateType (column : String) (type : ColumnType)
  | updateNullability (path : List String) (nullable : Bool)
  | updateComment (path : List String) (comment : Option String)
  | moveColumn (column : String) (place : Place)
deriving DecidableEq, Repr

namespace Schema

/-! ## Columns by name -/

/-- The place of the first column with a name. -/
def position (table : TableId) (fields : List Field) (column : String) :
    Except CatalogError Nat :=
  match fields.findIdx? fun f => f.name == column with
  | some i => .ok i
  | none => .error (.noColumn table column)

/-- No column has the name yet. -/
def requireFresh (table : TableId) (fields : List Field) (column : String) :
    Except CatalogError Unit :=
  if fields.any fun f => f.name == column then .error (.columnExists table column) else .ok ()

/-- The place to insert a column. -/
def target (table : TableId) (fields : List Field) : Place → Except CatalogError Nat
  | .first => .ok 0
  | .after column => do return (← position table fields column) + 1

/-- A path of one part names a column; longer ones and the empty one name none. -/
def topLevel : List String → Except CatalogError String
  | [column] => .ok column
  | path => .error (.unsupported ("Nested field " ++ quotedList path ++ " cannot be altered"))

/-- The columns with one of them changed. -/
def modifyColumn (s : Schema) (table : TableId) (column : String) (change : Field → Field) :
    Except CatalogError Schema := do
  let i ← position table s.fields column
  return { s with fields := s.fields.modify i change }

/-! ## Single changes -/

def addColumn (s : Schema) (table : TableId) (field : Field) (place : Option Place) :
    Except CatalogError Schema := do
  requireFresh table s.fields field.name
  match place with
  | none => return { s with fields := s.fields ++ [field] }
  | some place =>
      let i ← target table s.fields place
      return { s with fields := s.fields.insertIdx i field }

def renameColumn (s : Schema) (table : TableId) (column newName : String) :
    Except CatalogError Schema := do
  let i ← position table s.fields column
  requireFresh table s.fields newName
  if column ∈ s.partitionKeys then
    .error (.unsupported ("Cannot rename partition column " ++ column))
  else
    return { s with
      fields := s.fields.modify i fun f => { f with name := newName }
      primaryKeys := s.primaryKeys.map fun key => if key = column then newName else key }

def dropColumn (s : Schema) (table : TableId) (column : String) : Except CatalogError Schema := do
  let i ← position table s.fields column
  if column ∈ s.partitionKeys ∨ column ∈ s.primaryKeys then
    .error (.unsupported ("Cannot drop partition key or primary key column " ++ column))
  else if s.fields.length = 1 then
    .error (.unsupported "Cannot drop all fields in table")
  else return { s with fields := s.fields.eraseIdx i }

def updateNullability (s : Schema) (table : TableId) (path : List String) (nullable : Bool) :
    Except CatalogError Schema := do
  let column ← topLevel path
  let i ← position table s.fields column
  if nullable ∧ column ∈ s.primaryKeys then
    .error (.unsupported ("Cannot change nullability of primary key column " ++ column))
  else return { s with fields := s.fields.modify i fun f => { f with nullable } }

def updateComment (s : Schema) (table : TableId) (path : List String) (comment : Option String) :
    Except CatalogError Schema := do
  let column ← topLevel path
  s.modifyColumn table column fun f => { f with comment }

def moveColumn (s : Schema) (table : TableId) (column : String) (place : Place) :
    Except CatalogError Schema := do
  let i ← position table s.fields column
  match s.fields[i]? with
  | none => return s
  | some field =>
      let others := s.fields.eraseIdx i
      let j ← target table others place
      return { s with fields := others.insertIdx j field }

/-- Make one change; the number of the schema stays. -/
def applyChange (s : Schema) (table : TableId) : SchemaChange → Except CatalogError Schema
  | .setOption key value => .ok { s with options := s.options.insert key value }
  | .removeOption key => .ok { s with options := s.options.erase key }
  | .addColumn field place => s.addColumn table field place
  | .renameColumn column newName => s.renameColumn table column newName
  | .dropColumn column => s.dropColumn table column
  | .updateType column type => s.modifyColumn table column fun f => { f with type }
  | .updateNullability path nullable => s.updateNullability table path nullable
  | .updateComment path comment => s.updateComment table path comment
  | .moveColumn column place => s.moveColumn table column place

/-! ## Lists of changes -/

/-- Make the changes from the first to the last. -/
def evolve (s : Schema) (table : TableId) (changes : List SchemaChange) :
    Except CatalogError Schema :=
  changes.foldlM (fun s change => s.applyChange table change) s

/-- The evolved schema, numbered one higher. -/
def applyChanges (s : Schema) (table : TableId) (changes : List SchemaChange) :
    Except CatalogError Schema := do
  let evolved ← s.evolve table changes
  return { evolved with id := s.id + 1 }

/-- The changes of two lists are those of the first, then those of the second. -/
theorem evolve_append (s : Schema) (table : TableId) (first second : List SchemaChange) :
    s.evolve table (first ++ second) = (do (← s.evolve table first).evolve table second) := by
  simp [evolve, List.foldlM_append]

end Schema

end TableLake
