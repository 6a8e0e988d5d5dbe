/-
# TableLake.Call — `CALL` statements and the values of their arguments

The written name has parts: with three or more the first is the catalog, else the
catalog is the default one; the last is the procedure, and what is between them its
namespace.  Written parts are in small letters.

The arguments are bound before any value is worked out: `bindCall` binds markers
that stand for the places of the arguments, and only then plans and folds the value
that each parameter got, in declared order.  What is wrong with the arguments is
found first.
-/
import TableLake.Procedure
import TableLake.Procedure.Binding
import TableLake.Sql.Constant
import TableLake.Sql.Plan
import TableLake.Sql.Parser

namespace TableLake

open TableLake.Text TableLake.Sql

set_option autoImplicit false

/-- A call: an argument may have a name before its value. -/
structure Call where
  catalog : String
  procedure : ProcedureId
  arguments : List (Option String × Term)
deriving DecidableEq, Repr

namespace Call

/-- Catalog and procedure of a name of several parts. -/
def splitName (parts : List String) (defaultCatalog : String) :
    Except EngineError (String × ProcedureId) :=
  let parts := parts.map lower
  match parts.getLast? with
  | none => .error (.plan .noProcedureName)
  | some name =>
      match parts.dropLast with
      | catalog :: part :: more => .ok (catalog, ⟨part :: more, name⟩)
      | space => .ok (defaultCatalog, ⟨space, name⟩)

/-- The name and the value of an argument in one of the offered forms. -/
def argument : WrittenArgument → Except EngineError (Option String × Term)
  | .unnamed (.term t) => .ok (none, t)
  | .named name _ (.term t) => .ok (some name.text, t)
  | a => .error (.notOffered (.argumentForm a.written))

def argumentList : WrittenArguments → Except EngineError (List (Option String × Term))
  | .none => .ok []
  | .list arguments => arguments.mapM argument
  | .query => .error (.notOffered .subqueryArgument)

/-- The call that is written. -/
def ofWritten (name : ObjectName) (arguments : WrittenArguments) (defaultCatalog : String) :
    Except EngineError Call := do
  let (catalog, procedure) ← splitName (name.map Ident.text) defaultCatalog
  return { catalog, procedure, arguments := ← argumentList arguments }

/-! ## Binding -/

/-- The literal that stands for the argument at a place. -/
def marker (i : Nat) : Expr := .literal (.ofUInt64 i)

/-- The place that a literal stands for. -/
def markedPlace? : Expr → Option Nat
  | .literal ⟨.integer .uint64, some (.integer (.ofNat i))⟩ => some i
  | _ => none

section

variable {ρ : Type}

/-- The arguments with markers for their values, counted from `i`. -/
def markers (i : Nat) : List (Option String × ρ) → List (Argument Expr)
  | [] => []
  | (none, _) :: rest => .positional (marker i) :: markers (i + 1) rest
  | (some name, _) :: rest => .named name (marker i) :: markers (i + 1) rest

/-- The value that a bound marker stands for; other expressions stand for
themselves. -/
def planBound (plan : ρ → Except EngineError Expr) (arguments : List (Option String × ρ))
    (bound : Expr) : Except EngineError Expr :=
  match markedPlace? bound with
  | some i =>
      match arguments[i]? with
      | some (_, value) => plan value
      | none => .ok bound
  | none => .ok bound

/-- The values of the parameters, in declared order. -/
def bindCall (plan : ρ → Except EngineError Expr) (parameters : List Parameter)
    (arguments : List (Option String × ρ)) : Except EngineError (List Scalar) := do
  let bound ← (resolveArguments Expr.typedNull parameters (markers 0 arguments)).mapError .procedure
  (parameters.zip bound).mapM fun (parameter, e) => do
    constant parameter.name (← planBound plan arguments e) parameter.type

end

/-- The expression of a value: it is written out and read once more by itself. -/
def planValue (d : Dialect) (t : Term) : Except EngineError Expr :=
  match readExpression d t.written with
  | some t => t.toExpr .empty
  | none => .error .malformed

/-- The values that a procedure is called with. -/
def bind (d : Dialect) (c : Call) (p : Procedure) : Except EngineError BoundArguments := do
  return ⟨p.parameters, ← bindCall (planValue d) p.parameters c.arguments⟩

end Call

end TableLake
