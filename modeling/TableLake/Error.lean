/-
# TableLake.Error — why a catalog refuses an operation

One constructor a cause; `CatalogError.message` is its wording.
-/
import TableLake.TableId
import TableLake.Column.Fault

namespace TableLake

open TableLake.Text

set_option autoImplicit false

inductive CatalogError where
  | databaseExists (database : String)
  | noDatabase (database : String)
  | databaseNotEmpty (database : String)
  | tableExists (table : TableId)
  | noTable (table : TableId)
  | columnExists (table : TableId) (column : String)
  | noColumn (table : TableId) (column : String)
  | invalidName (message : String)
  | noSnapshot (table : TableId) (snapshot : Nat)
  | noTag (table : TableId) (tag : String)
  | tagExists (table : TableId) (tag : String)
  | noSnapshotBefore (table : TableId) (millis : Int)
  | invalidOption (key message : String)
  | missingOption (key : String)
  | unknownMetastore (metastore : String)
  | unsupported (operation : String)
  | data (fault : DataFault)
deriving DecidableEq, Repr

namespace CatalogError

def message : CatalogError → String
  | .databaseExists database => "Database " ++ database ++ " already exists."
  | .noDatabase database => "Database " ++ database ++ " does not exist."
  | .databaseNotEmpty database => "Database " ++ database ++ " is not empty."
  | .tableExists table => "Table " ++ table.text ++ " already exists."
  | .noTable table => "Table " ++ table.text ++ " does not exist."
  | .columnExists table column =>
      "Column " ++ column ++ " already exists in table " ++ table.text ++ "."
  | .noColumn table column =>
      "Column " ++ column ++ " does not exist in table " ++ table.text ++ "."
  | .invalidName message => "Invalid identifier: " ++ message
  | .noSnapshot table snapshot =>
      "Snapshot " ++ decimal snapshot ++ " does not exist in table " ++ table.text ++ "."
  | .noTag table tag => "Tag " ++ tag ++ " does not exist in table " ++ table.text ++ "."
  | .tagExists table tag => "Tag " ++ tag ++ " already exists in table " ++ table.text ++ "."
  | .noSnapshotBefore table millis =>
      "No snapshot of table " ++ table.text ++ " was committed at or before " ++
        signedDecimal millis ++ " ms."
  | .invalidOption key message => "Invalid option " ++ key ++ ": " ++ message
  | .missingOption key => "Missing required option: " ++ key
  | .unknownMetastore metastore => "No catalog factory registered for metastore " ++ metastore
  | .unsupported operation => "Unsupported operation: " ++ operation
  | .data fault => "Arrow error: " ++ fault.message

end CatalogError

/-- Read a written table name, or say why it is none. -/
def TableId.read (s : String) : Except CatalogError TableId :=
  match TableId.ofText? s with
  | some id => .ok id
  | none =>
      .error (.invalidName ("Cannot get splits from '" ++ s ++ "' to get database and object"))

end TableLake
