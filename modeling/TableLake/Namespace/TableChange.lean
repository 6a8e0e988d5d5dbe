/-
# TableLake.Namespace.TableChange — changes of a table as a host asks for them

A host names a column by a path of parts; only paths of one part name a column of
a table.  Properties become settings of the table, except the primary key, which
is settled when the table is made: `tableSchema` reads it from the property
`primary-key`, columns with commas between, and keeps the property `comment` both
as a setting and as the comment of the table.
-/
import TableLake.Namespace.Error
import TableLake.Schema.Change

namespace TableLake

open TableLake.Text

set_option autoImplicit false

def primaryKeyProperty : String := "primary-key"

def commentProperty : String := "comment"

inductive TableChange where
  | setProperty (property value : String)
  | removeProperty (property : String)
  | addColumn (path : List String) (type : ColumnType) (nullable : Bool)
      (comment : Option String) (place : Option Place)
  | renameColumn (path : List String) (newName : String)
  | deleteColumn (path : List String)
  | updateType (path : List String) (type : ColumnType)
  | updateNullability (path : List String) (nullable : Bool)
  | updateComment (path : List String) (comment : Option String)
  | updatePosition (path : List String) (place : Place)
deriving DecidableEq, Repr

namespace TableChange

/-- The column of a path of one part. -/
def topLevel : List String → Except NamespaceError String
  | [column] => .ok column
  | path => .error (.nestedColumn path)

/-- The primary key is not a property to change. -/
def admitProperty (property : String) : Except NamespaceError Unit :=
  if property = primaryKeyProperty then .error .primaryKeyChange else .ok ()

/-- The change of the schema that is asked for. -/
def toSchemaChange : TableChange → Except NamespaceError SchemaChange
  | .setProperty property value => do
      admitProperty property
      return .setOption property value
  | .removeProperty property => do
      admitProperty property
      return .removeOption property
  | .addColumn path type nullable comment place => do
      return .addColumn ⟨← topLevel path, type, nullable, comment⟩ place
  | .renameColumn path newName => do return .renameColumn (← topLevel path) newName
  | .deleteColumn path => do return .dropColumn (← topLevel path)
  | .updateType path type => do return .updateType (← topLevel path) type
  | .updateNullability path nullable => .ok (.updateNullability path nullable)
  | .updateComment path comment => .ok (.updateComment path comment)
  | .updatePosition path place =>
      match path with
      | column :: _ => .ok (.moveColumn column place)
      | [] => .error .noColumnToMove

end TableChange

/-- The columns in the property of the primary key. -/
def primaryKeysOf (properties : Options) : List String :=
  match properties.get? primaryKeyProperty with
  | some keys => solidParts ',' keys
  | none => []

/-- The schema of a new table. -/
def tableSchema (fields : List Field) (partitionKeys : List String) (properties : Options) :
    Except NamespaceError Schema :=
  let draft : SchemaDraft :=
    { fields, partitionKeys
      primaryKeys := primaryKeysOf properties
      options := properties.erase primaryKeyProperty
      comment := properties.get? commentProperty }
  draft.build.mapError .catalog

end TableLake
