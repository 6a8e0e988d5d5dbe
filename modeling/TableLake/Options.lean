/-
# TableLake.Options — settings as keys with values

Settings are written `key=value`, several with commas between.  White space around
a part does not count, a blank part is skipped, and a value may hold further equal
signs.  A key that is given twice takes its last value.
-/
import TableLake.OrderedMap
import TableLake.Error
import TableLake.Text.Blank

namespace TableLake

open TableLake.Text

set_option autoImplicit false

abbrev Options := OrderedMap String String

/-! ## Known keys -/

/-- Where the tables of a catalog live. -/
def warehouseKey : String := "warehouse"

/-- Which kind of catalog is used. -/
def metastoreKey : String := "metastore"

def defaultDatabaseKey : String := "default-database"

/-- Read the snapshot with this number. -/
def scanSnapshotKey : String := "scan.snapshot-id"

/-- Read the snapshot with this tag. -/
def scanTagKey : String := "scan.tag-name"

/-- Read the last snapshot committed at or before this time. -/
def scanTimeKey : String := "scan.timestamp-millis"

def defaultDatabaseName : String := "default"

def defaultMetastore : String := "memory"

/-! ## Written settings -/

/-- Read `key=value`; the key is not blank. -/
def readKeyValue (pair : String) : Except CatalogError (String × String) :=
  match splitOnce '=' pair with
  | some (key, value) =>
      if blank key then .error (.invalidOption pair "expected key=value")
      else .ok (trim key, trim value)
  | none => .error (.invalidOption pair "expected key=value")

/-- The parts between the separators, without white space around them and without
those that are blank. -/
def solidParts (sep : Char) (s : String) : List String :=
  ((split sep s).map trim).filter fun part => !part.isEmpty

/-- Read settings with commas between. -/
def readKeyValues (s : String) : Except CatalogError Options := do
  let pairs ← (solidParts ',' s).mapM readKeyValue
  return OrderedMap.ofList pairs

end TableLake
