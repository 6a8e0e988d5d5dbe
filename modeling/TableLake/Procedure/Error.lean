/-
# TableLake.Procedure.Error — why a procedure or an action is refused

Faults of a signature, of the arguments of a call, of a name, and of the catalog
the call works on.
-/
import TableLake.Error
import TableLake.Text.Quoted

namespace TableLake

open TableLake.Text

set_option autoImplicit false

inductive ProcedureError where
  | duplicateParameters (names : List String)
  | requiredAfterOptional (optional required : String)
  | mixedStyles
  | duplicateArguments (names : List String)
  | unknownArguments (names : List String)
  | tooManyArguments (expected actual : Nat)
  | missingRequired (names : List String)
  | noProcedure (name : String)
  | noProcedures (name : String)
  | noAction (name : String)
  | missingActionArgument (key : String)
  | invalidArgument (name message : String)
  | noTypedNull (type : ColumnType)
  | catalog (error : CatalogError)
deriving DecidableEq, Repr

namespace ProcedureError

def message : ProcedureError → String
  | .duplicateParameters names =>
      "Parameter names " ++ quotedList names ++ " are duplicated in the procedure definition"
  | .requiredAfterOptional optional required =>
      "Optional parameter " ++ optional ++
        " must be declared after all required parameters, but required parameter " ++
        required ++ " follows it"
  | .mixedStyles => "Named and positional arguments cannot be mixed"
  | .duplicateArguments names => "Duplicate procedure argument(s): " ++ quotedList names
  | .unknownArguments names => "Unknown argument(s): " ++ quotedList names
  | .tooManyArguments expected actual =>
      "Too many arguments for procedure: expected at most " ++ decimal expected ++ ", got " ++
        decimal actual
  | .missingRequired names => "Missing required parameter(s): " ++ quotedList names
  | .noProcedure name => "Procedure " ++ name ++ " not found"
  | .noProcedures name => "Catalog " ++ name ++ " is not a ProcedureCatalog"
  | .noAction name => "Action " ++ name ++ " not found"
  | .missingActionArgument key =>
      "Argument '" ++ key ++ "' is required. Run '<action> --help' for help."
  | .invalidArgument name message => "Invalid value for argument " ++ name ++ ": " ++ message
  | .noTypedNull type => "Can't create a null scalar from data_type \"" ++ type.name ++ "\""
  | .catalog error => error.message

end ProcedureError

/-- A catalog's answer to a procedure. -/
def fromCatalog {α : Type} : Except CatalogError α → Except ProcedureError α
  | .ok a => .ok a
  | .error e => .error (.catalog e)

end TableLake
