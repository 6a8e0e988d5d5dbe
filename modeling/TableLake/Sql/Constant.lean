/-
# TableLake.Sql.Constant — the value of an argument

An argument is folded to a constant and cast to the type of its parameter; a value
that does not fit is refused.
-/
import TableLake.Sql.Fold
import TableLake.Engine.Error
import TableLake.Batch

namespace TableLake.Sql

set_option autoImplicit false

/-- The value of an expression for a parameter. -/
def constant (parameter : String) (e : Expr) (type : ColumnType) :
    Except EngineError Scalar := do
  match ← fold e with
  | .literal s => (s.cast type).mapError .data
  | e => .error (.plan (.notConstant parameter e))

/-- The column of messages. -/
def resultField : Field := ⟨"result", .utf8, false, none⟩

/-- One row a message. -/
def resultBatch (messages : List String) : Except EngineError Batch :=
  (Batch.make [resultField] [⟨.utf8, messages.map fun m => some (.text m)⟩]).mapError .data

end TableLake.Sql
