/-
# TableLake.Procedure.Signature — the parameters a procedure declares

A signature is sound if no name occurs twice and no required parameter stands
after an optional one.  `checkSignature` compares neighbours only: where the kinds
change back from optional to required, two neighbours do.
-/
import TableLake.Procedure.Error
import TableLake.Text.Blank

namespace TableLake

open TableLake.Text

set_option autoImplicit false

structure Parameter where
  name : String
  type : ColumnType
  required : Bool
  description : Option String
deriving DecidableEq, Repr

/-- The parameter under its name in small letters. -/
def Parameter.normalized (p : Parameter) : Parameter := { p with name := lower p.name }

def normalizeParameters (ps : List Parameter) : List Parameter := ps.map Parameter.normalized

/-- The names that come a second time, at that place; `before` are those passed. -/
def secondOccurrences (before : List String) : List String → List String
  | [] => []
  | n :: ns =>
      if before.count n = 1 then n :: secondOccurrences (n :: before) ns
      else secondOccurrences (n :: before) ns

/-- The first required parameter right after an optional one, with that one. -/
def firstInversion : List Parameter → Option (Parameter × Parameter)
  | p :: q :: ps => if !p.required && q.required then some (p, q) else firstInversion (q :: ps)
  | _ => none

/-- Names are distinct and required parameters come first. -/
def checkSignature (ps : List Parameter) : Except ProcedureError Unit :=
  match secondOccurrences [] (ps.map Parameter.name) with
  | name :: names => .error (.duplicateParameters (name :: names))
  | [] =>
      match firstInversion ps with
      | some (p, q) => .error (.requiredAfterOptional p.name q.name)
      | none => .ok ()

end TableLake
