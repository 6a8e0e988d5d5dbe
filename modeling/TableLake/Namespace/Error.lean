/-
# TableLake.Namespace.Error — why an operation on namespaces is refused

A namespace is a list of parts, a table a name below one.  What the catalog says of
databases and tables is said here of namespaces and of tables as they were asked
for; any other refusal of the catalog is passed on.
-/
import TableLake.Error
import TableLake.Text.Quoted

namespace TableLake

open TableLake.Text

set_option autoImplicit false

/-- A list of parts. -/
abbrev Namespace := List String

/-- A namespace as messages show it: its parts between brackets. -/
def showNamespace (parts : Namespace) : String :=
  "[" ++ String.intercalate ", " parts ++ "]"

/-- A table as it is asked for: a name below a namespace. -/
structure TableRef where
  space : Namespace
  name : String
deriving DecidableEq, Repr

def TableRef.text (r : TableRef) : String :=
  String.intercalate "." (r.space ++ [r.name])

inductive NamespaceError where
  | invalidNamespace (space : Namespace)
  | noNamespace (space : Namespace)
  | namespaceExists (space : Namespace)
  | noTable (table : TableRef)
  | tableExists (table : TableRef)
  | namespaceNotEmpty (space : Namespace)
  | alterNamespace
  | nestedColumn (path : List String)
  | noColumnToMove
  | primaryKeyChange
  | catalog (error : CatalogError)
deriving DecidableEq, Repr

namespace NamespaceError

def message : NamespaceError → String
  | .invalidNamespace space => "Namespace " ++ showNamespace space ++ " is not valid"
  | .noNamespace space => "Namespace " ++ showNamespace space ++ " does not exist"
  | .namespaceExists space => "Namespace " ++ showNamespace space ++ " already exists"
  | .noTable table => "Table " ++ table.text ++ " does not exist"
  | .tableExists table => "Table " ++ table.text ++ " already exists"
  | .namespaceNotEmpty space => "Namespace " ++ showNamespace space ++ " is not empty"
  | .alterNamespace => "Alter namespace is not supported yet."
  | .nestedColumn path => "Alter nested column is not supported: " ++ quotedList path
  | .noColumnToMove => "Column position change without a column"
  | .primaryKeyChange => "Alter primary key is not supported"
  | .catalog error => error.message

/-- The operations that are refused because nobody offers them. -/
def isUnsupported : NamespaceError → Bool
  | .namespaceNotEmpty _ | .alterNamespace | .nestedColumn _ | .noColumnToMove
  | .primaryKeyChange => true
  | _ => false

end NamespaceError

end TableLake
