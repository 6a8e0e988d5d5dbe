/-
# TableLake.Procedure.Arguments — the values a procedure is called with

One value a parameter, looked up by the parameter's name in letters of any case.
-/
import TableLake.Procedure.Signature
import TableLake.Column.Value

namespace TableLake

open TableLake.Text

set_option autoImplicit false

structure BoundArguments where
  parameters : List Parameter
  values : List Scalar
deriving DecidableEq, Repr

namespace BoundArguments

def value? (args : BoundArguments) (name : String) : Option Scalar :=
  (args.parameters.findIdx? fun p => sameLetters p.name name).bind fun i => args.values[i]?

/-- The text under a name; a value that is missing or not declared is none. -/
def text (args : BoundArguments) (name : String) : Except ProcedureError (Option String) :=
  match args.value? name with
  | none => .ok none
  | some s =>
      match s.text? with
      | some t => .ok t
      | none =>
          if s.cell.isNone then .ok none
          else .error (.invalidArgument name ("expected a string, got " ++ s.type.name))

/-- The text under a name, or the empty text. -/
def textOrEmpty (args : BoundArguments) (name : String) : Except ProcedureError String :=
  (·.getD "") <$> args.text name

/-- The text under a name, which is there and not blank. -/
def requiredText (args : BoundArguments) (name : String) : Except ProcedureError String := do
  match ← args.text name with
  | some t =>
      if blank t then .error (.invalidArgument name "must not be null or empty") else return t
  | none => .error (.invalidArgument name "must not be null or empty")

end BoundArguments

end TableLake
