/-
# TableLake.Engine.Error — why a statement or a request of a session fails

A failure is one of planning or of execution, something that is not offered, a
refusal of a catalog, or a fault of the text or the data.  `EngineError.report` is
the text a user reads.
-/
import TableLake.Namespace.Error
import TableLake.Procedure.Error
import TableLake.Sql.Expr

namespace TableLake

open TableLake.Text

set_option autoImplicit false

/-- Where a table is looked up: catalog, schema and name. -/
structure TablePlace where
  catalog : String
  schema : String
  table : String
deriving DecidableEq, Repr

def TablePlace.text (p : TablePlace) : String :=
  p.catalog ++ "." ++ p.schema ++ "." ++ p.table

/-- A statement that makes no sense where it is given. -/
inductive PlanFault where
  | notConstant (parameter : String) (expr : Sql.Expr)
  | noProcedureName
  | noCatalog (name : String)
  | unresolvedCatalog (name : String)
  | unresolvedSchema (name : String)
  | noTable (place : TablePlace)
  | unsupportedDialect (name : String)
  | unknownDialect (name : String)
  | noStatements
  | insertMismatch (table : TableId)
  | hostInsertMismatch
  | columnCount
  | unequalRows (got row expected : Nat)
  | unequalTypes (row column : Nat) (first second : ColumnType)
  | notCompared (left : ColumnType) (op : Sql.BinaryOp) (right : ColumnType)
  | notLogical (left : ColumnType) (op : Sql.BinaryOp) (right : ColumnType)
  | notJoined (left : ColumnType) (op : Sql.BinaryOp) (right : ColumnType)
  | notArithmetic (left : ColumnType) (op : Sql.BinaryOp) (right : ColumnType)
  | notTruth (type : ColumnType)
  | noSign
  | unsigned
  | nameParts (name : String) (parts : Nat)
  | repeatedTitle (first : String) (i : Nat) (second : String) (j : Nat)
  | columnsMismatch (given answered : Nat)
  | notConverted (source target : ColumnType)
  | nothingToSelect
  | notCounted (column : String)
  | noCondition (expr : Sql.Expr) (type : ColumnType)
  | noPosition
  | positionTooHigh (position columns : Nat)
  | unreadPosition (fault : Text.IntegerFault)
deriving DecidableEq, Repr

/-- An operator between the types of its operands. -/
def typedText (left : ColumnType) (op : Sql.BinaryOp) (right : ColumnType) : String :=
  left.name ++ " " ++ op.symbol ++ " " ++ right.name

/-- A column of an answer with its place. -/
def placedTitle (title : String) (i : Nat) : String :=
  "\"" ++ title ++ "\" at position " ++ decimal i

/-- The dialects a session can be set to. -/
def dialectTitles : List String :=
  ["Generic", "MySQL", "PostgreSQL", "Hive", "SQLite", "Snowflake", "Redshift", "MsSQL",
    "ClickHouse", "BigQuery", "Ansi"]

def PlanFault.message : PlanFault → String
  | .notConstant parameter expr =>
      "Argument " ++ parameter ++ " must be a constant expression, got " ++ expr.text
  | .noProcedureName => "CALL requires a procedure name"
  | .noCatalog name => "Catalog " ++ name ++ " not found"
  | .unresolvedCatalog name => "failed to resolve catalog: " ++ name
  | .unresolvedSchema name => "failed to resolve schema: " ++ name
  | .noTable place => "table '" ++ place.text ++ "' not found"
  | .unsupportedDialect name => "Unsupported SQL dialect: " ++ name
  | .unknownDialect name =>
      "Unsupported SQL dialect: " ++ name ++ ". Available dialects: " ++
        String.intercalate ", " dialectTitles ++ "."
  | .noStatements => "No SQL statements were provided in the query string"
  | .insertMismatch table => "Inserted data does not match the schema of " ++ table.text
  | .hostInsertMismatch => "Inserting query must have the same schema with the table."
  | .columnCount => "Column count doesn't match insert query!"
  | .unequalRows got row expected =>
      "Inconsistent data length across values list: got " ++ decimal got ++ " values in row " ++
        decimal row ++ " but expected " ++ decimal expected
  | .unequalTypes row column first second =>
      "Inconsistent data type across values list at row " ++ decimal row ++ " column " ++
        decimal column ++ ". Was " ++ first.name ++ " but found " ++ second.name
  | .notCompared left op right =>
      "Cannot infer common argument type for comparison operation " ++ typedText left op right
  | .notLogical left op right =>
      "Cannot infer common argument type for logical boolean operation " ++
        typedText left op right
  | .notJoined left op right =>
      "Cannot infer common string type for string concat operation " ++ typedText left op right
  | .notArithmetic left op right =>
      "Cannot coerce arithmetic expression " ++ typedText left op right ++ " to valid types"
  | .notTruth type =>
      "Cannot infer common argument type for comparison operation " ++ type.name ++
        " IS DISTINCT FROM Boolean"
  | .noSign => "Negation only supports numeric, interval and timestamp types"
  | .unsigned => "Unary operator '+' only supports numeric, interval and timestamp types"
  | .nameParts name parts =>
      "Unsupported compound identifier '" ++ name ++ "'. Expected 1, 2 or 3 parts, got " ++
        decimal parts
  | .repeatedTitle first i second j =>
      "Projections require unique expression names but the expression " ++
        placedTitle first i ++ " and " ++ placedTitle second j ++
        " have the same name. Consider aliasing (\"AS\") one of them."
  | .columnsMismatch given answered =>
      "Mismatch: " ++ decimal given ++ " columns specified, but result has " ++
        decimal answered ++ " columns"
  | .notConverted source target =>
      "Cannot automatically convert " ++ source.name ++ " to " ++ target.name
  | .nothingToSelect => "SELECT * with no tables specified is not valid"
  | .notCounted column =>
      "Projection references non-aggregate values: Expression " ++ column ++
        " could not be resolved from available columns: count(*)"
  | .noCondition expr type =>
      "Cannot create filter with non-boolean predicate '" ++ expr.text ++ "' returning " ++
        type.name
  | .noPosition => "Order by index starts at 1 for column indexes"
  | .positionTooHigh position columns =>
      "Order by column out of bounds, specified: " ++ decimal position ++ ", max: " ++
        decimal columns
  | .unreadPosition fault => fault.message

/-- A request that meets a state in which it cannot be carried out. -/
inductive ExecutionFault where
  | tableExists (table : String)
  | hostTableExists (table : String)
  | noTable (table : String)
  | schemaExists (schema : String)
  | noSchema (schema : String)
  | missingCatalog (catalog : String)
  | missingDefaultCatalog (catalog : String)
  | schemaInUse (schema : String) (tables : List String)
  | missingRequired (index : Nat)
  | replaceUnlessExists
  | schemaName (name : String)
  | valueMismatch (got expected : ColumnType)
deriving DecidableEq, Repr

def ExecutionFault.message : ExecutionFault → String
  | .tableExists table => "Table '" ++ table ++ "' already exists"
  | .hostTableExists table => "The table " ++ table ++ " already exists"
  | .noTable table => "Table '" ++ table ++ "' doesn't exist."
  | .schemaExists schema => "Schema '" ++ schema ++ "' already exists"
  | .noSchema schema => "Schema '" ++ schema ++ "' doesn't exist."
  | .missingCatalog catalog => "Missing catalog '" ++ catalog ++ "'"
  | .missingDefaultCatalog catalog => "Missing default catalog '" ++ catalog ++ "'"
  | .schemaInUse schema tables =>
      "Cannot drop schema " ++ schema ++ " because other tables depend on it: " ++
        String.intercalate ", " tables
  | .missingRequired index =>
      "Invalid batch column at '" ++ decimal index ++
        "' has null but schema specifies non-nullable"
  | .replaceUnlessExists => "'IF NOT EXISTS' cannot coexist with 'REPLACE'"
  | .schemaName name => "Unable to parse catalog from " ++ name
  | .valueMismatch got expected =>
      "type mistmatch and can't cast to got " ++ got.name ++ " and " ++ expected.name

/-- What an insert does with the rows that are there. -/
inductive InsertMode where
  | append
  | overwrite
  | replace
deriving DecidableEq, Repr

def InsertMode.name : InsertMode → String
  | .append => "Insert Into"
  | .overwrite => "Insert Overwrite"
  | .replace => "Replace Into"

/-- What is understood but not offered. -/
inductive Limit where
  | severalStatements
  | subqueryArgument
  | argumentForm (text : String)
  | memoryTablesOnly (database : String)
  | lakeInsert (mode : InsertMode)
  | hostInsert (mode : InsertMode)
  | cast (source target : ColumnType)
  | statementForm
deriving DecidableEq, Repr

def Limit.message : Limit → String
  | .severalStatements => "The context currently only supports a single SQL statement"
  | .subqueryArgument => "Subqueries are not supported as CALL arguments"
  | .argumentForm text => "Unsupported CALL argument: " ++ text
  | .memoryTablesOnly database =>
      "Only in-memory tables can be registered into lake database " ++ database
  | .lakeInsert mode => mode.name ++ " is not supported for lake tables"
  | .hostInsert mode => mode.name ++ " not implemented for MemoryTable yet"
  | .cast source target =>
      "Unsupported CAST from " ++ source.name ++ " to " ++ target.name
  | .statementForm => "Unsupported SQL statement"

inductive EngineError where
  | plan (fault : PlanFault)
  | execution (fault : ExecutionFault)
  | notOffered (limit : Limit)
  | procedure (error : ProcedureError)
  | space (error : NamespaceError)
  | catalog (error : CatalogError)
  | malformed
  | column (fault : Sql.ColumnFault)
  | data (fault : DataFault)
deriving DecidableEq, Repr

namespace EngineError

/-- The kinds of failures a user tells apart. -/
inductive Category where
  | planning (message : String)
  | execution (message : String)
  | notOffered (message : String)
  | refused (error : CatalogError)
  | malformed
  | unclear (message : String)
  | unfit (message : String)
deriving DecidableEq, Repr

/-- A procedure that cannot be called is a fault of planning; once it runs, a
refusal of its catalog is one of execution. -/
def procedureCategory : ProcedureError → Category
  | .catalog e => .execution e.message
  | .noTypedNull type => .notOffered (ProcedureError.noTypedNull type).message
  | e => .planning e.message

def spaceCategory (e : NamespaceError) : Category :=
  match e with
  | .catalog error => .refused error
  | e => if e.isUnsupported then .notOffered e.message else .planning e.message

def category : EngineError → Category
  | .plan fault => .planning fault.message
  | .execution fault => .execution fault.message
  | .notOffered limit => .notOffered limit.message
  | .procedure e => procedureCategory e
  | .space e => spaceCategory e
  | .catalog e => .refused e
  | .malformed => .malformed
  | .column fault => .unclear fault.message
  | .data fault => .unfit fault.message

/-- The text of a failure. -/
def report (e : EngineError) : String :=
  match e.category with
  | .planning message => "Error during planning: " ++ message
  | .execution message => "Execution error: " ++ message
  | .notOffered message => "This feature is not implemented: " ++ message
  | .refused error => "External error: " ++ error.message
  | .malformed => "SQL error: the text is no statement"
  | .unclear message => "Schema error: " ++ message
  | .unfit message => "Arrow error: " ++ message

/-- What lies behind a failure. -/
def cause? (e : EngineError) : Option String :=
  match e.category with
  | .refused error => some error.message
  | .unclear message | .unfit message => some message
  | _ => none

end EngineError

end TableLake
