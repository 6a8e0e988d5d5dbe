/-
# TableLake.Schema — the columns of a table and what is known about them

Besides its columns a schema has partition keys, primary keys, settings and a
comment.  `SchemaDraft.build` refuses a key that names no column and makes the
columns of the primary key mandatory.  Numbers of schemas count from zero.
-/
import TableLake.Options
import TableLake.Batch

namespace TableLake

set_option autoImplicit false

structure Schema where
  id : Nat
  fields : List Field
  partitionKeys : List String
  primaryKeys : List String
  options : Options
  comment : Option String
deriving DecidableEq

/-- What a schema is built from. -/
structure SchemaDraft where
  fields : List Field := []
  partitionKeys : List String := []
  primaryKeys : List String := []
  options : Options := ∅
  comment : Option String := none

namespace Schema

/-- The first column with a name. -/
def field? (s : Schema) (name : String) : Option Field :=
  s.fields.find? fun f => f.name == name

def fieldComment? (s : Schema) (name : String) : Option String :=
  (s.field? name).bind Field.comment

/-- The names of the columns in order. -/
def fieldNames (s : Schema) : List String :=
  s.fields.map Field.name

end Schema

namespace SchemaDraft

/-- The first key that names no column. -/
def undefinedKey (d : SchemaDraft) : Option String :=
  (d.partitionKeys ++ d.primaryKeys).find? fun key => !d.fields.any fun f => f.name == key

/-- A column of the primary key holds a value in every row. -/
def settleKey (primaryKeys : List String) (f : Field) : Field :=
  if f.name ∈ primaryKeys then { f with nullable := false } else f

/-- The first schema of a table. -/
def build (d : SchemaDraft) : Except CatalogError Schema :=
  match d.undefinedKey with
  | some key => .error (.invalidOption key "key column is not defined in the table schema")
  | none =>
      .ok
        { id := 0
          fields := d.fields.map (settleKey d.primaryKeys)
          partitionKeys := d.partitionKeys
          primaryKeys := d.primaryKeys
          options := d.options
          comment := d.comment.filter fun c => !c.isEmpty }

end SchemaDraft

end TableLake
