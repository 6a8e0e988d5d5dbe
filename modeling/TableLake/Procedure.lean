/-
# TableLake.Procedure — the procedures a catalog offers

There are two: `compact` and `rollback_to`.  A procedure is found by its name in
letters of any case, in a namespace of one part.  Called with its values it works
on the catalog once and reports what it did.
-/
import TableLake.Procedure.Arguments
import TableLake.Compaction.Written
import TableLake.Store

namespace TableLake

open TableLake.Text

set_option autoImplicit false

/-- The name of a procedure below a namespace. -/
structure ProcedureId where
  space : List String
  name : String
deriving DecidableEq, Repr

def ProcedureId.text (id : ProcedureId) : String :=
  String.intercalate "." (id.space ++ [id.name])

inductive Procedure where
  | compact
  | rollbackTo
deriving DecidableEq, Repr

namespace Procedure

def name : Procedure → String
  | .compact => "compact"
  | .rollbackTo => "rollback_to"

def description : Procedure → String
  | .compact => "Compacts the data files of a table or of some of its partitions."
  | .rollbackTo => "Rolls a table back to a specific snapshot id or tag."

/-- A parameter that holds a text. -/
def textParameter (required : Bool) (name description : String) : Parameter :=
  ⟨name, .utf8, required, some description⟩

def parameters : Procedure → List Parameter
  | .compact =>
      [textParameter true "table" "Table to compact, as database.table",
        textParameter false "partitions"
          "';' separated partition specs such as 'dt=1,hh=0', or ALL",
        textParameter false "order_strategy" "Sort strategy: order, zorder or hilbert",
        textParameter false "order_by" "Comma separated columns to sort by",
        textParameter false "options" "Comma separated key=value table options for the job"]
  | .rollbackTo =>
      [textParameter true "table" "Table to roll back, as database.table",
        textParameter true "version" "Snapshot id (digits only) or tag name"]

/-- All procedures, by name. -/
def all : List Procedure := [.compact, .rollbackTo]

def names : List String := all.map name

def ofName? (s : String) : Option Procedure :=
  all.find? fun p => sameLetters p.name s

/-- The procedure an identifier means. -/
def load (id : ProcedureId) : Except ProcedureError Procedure :=
  match id.space, ofName? id.name with
  | [_], some p => .ok p
  | _, _ => .error (.noProcedure id.text)

/-! ## Calls -/

/-- Use the store. -/
def inCatalog {α : Type} (operation : InStore CatalogError α) : InStore ProcedureError α :=
  operation.adapt .catalog

def callCompact (args : BoundArguments) : InStore ProcedureError (List String) := do
  let id ← ofExcept do fromCatalog (TableId.read (← args.requiredText "table"))
  let request ← ofExcept do
    readCompactRequest (← args.textOrEmpty "partitions") (← args.textOrEmpty "order_strategy")
      (← args.textOrEmpty "order_by") (← args.textOrEmpty "options")
  match ← inCatalog (Store.compact id request) with
  | some s => return [request.jobName ++ ": snapshot " ++ decimal s.id]
  | none => return [request.jobName ++ ": nothing to compact"]

def callRollback (args : BoundArguments) : InStore ProcedureError (List String) := do
  let id ← ofExcept do fromCatalog (TableId.read (← args.requiredText "table"))
  let version ← ofExcept do fromCatalog (Version.read (trim (← args.requiredText "version")))
  inCatalog (Store.rollbackTo id version)
  return ["Rolled back " ++ id.text ++ " to " ++ version.text]

/-- Run a procedure; it answers with one message a row. -/
def call : Procedure → BoundArguments → InStore ProcedureError (List String)
  | .compact => callCompact
  | .rollbackTo => callRollback

/-! ## Documentation -/

/-- What is said of a parameter without a description. -/
def describe (p : Parameter) : String := p.description.getD "No description available"

end Procedure

end TableLake
