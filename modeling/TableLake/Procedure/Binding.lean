/-
# TableLake.Procedure.Binding — the arguments of a call meet the parameters

Arguments are given by position or by name, not both.  Binding goes through the
names in either case: `pairs` attaches a name to every argument, `bindArguments`
looks the parameters up among them and fills what is left out with the missing value
of its type.  All names at fault are reported together.

`bindArguments` asks nothing of the signature.  If a name is declared twice, the last
parameter of that name gets the last value given for it and the others none.
-/
import TableLake.Procedure.Signature
import TableLake.OrderedMap

namespace TableLake

open TableLake.Text

set_option autoImplicit false

/-- An argument of a call. -/
inductive Argument (α : Type) where
  | positional (value : α)
  | named (name : String) (value : α)
deriving DecidableEq, Repr

namespace Argument

variable {α : Type}

def isNamed : Argument α → Bool
  | .positional _ => false
  | .named _ _ => true

def name? : Argument α → Option String
  | .positional _ => none
  | .named name _ => some name

def value : Argument α → α
  | .positional v => v
  | .named _ v => v

/-- The argument under its name in small letters. -/
def normalized : Argument α → Argument α
  | .positional v => .positional v
  | .named name v => .named (lower name) v

/-- The name and the value of a named argument. -/
def pair? : Argument α → Option (String × α)
  | .positional _ => none
  | .named name v => some (name, v)

end Argument

section

variable {α : Type}

def normalizeArguments (as : List (Argument α)) : List (Argument α) :=
  as.map Argument.normalized

/-- The first occurrences of the names, in order. -/
def firstOccurrences : List String → List String
  | [] => []
  | n :: ns => n :: (firstOccurrences ns).filter (· ≠ n)

/-- The names that are given more than once. -/
def repeatedNames (names : List String) : List String :=
  (firstOccurrences names).filter fun n => 1 < names.count n

/-- The names that no parameter has. -/
def undeclaredNames (ps : List Parameter) (names : List String) : List String :=
  (firstOccurrences names).filter fun n => !ps.any fun p => p.name == n

/-- The arguments with their names: given, or of the parameters in order. -/
def pairs (ps : List Parameter) (as : List (Argument α)) :
    Except ProcedureError (List (String × α)) :=
  if as.any Argument.isNamed then
    if as.all Argument.isNamed then
      let names := as.filterMap Argument.name?
      match repeatedNames names, undeclaredNames ps names with
      | name :: more, _ => .error (.duplicateArguments (name :: more))
      | [], name :: more => .error (.unknownArguments (name :: more))
      | [], [] => .ok (as.filterMap Argument.pair?)
    else .error .mixedStyles
  else if ps.length < as.length then .error (.tooManyArguments ps.length as.length)
  else .ok ((ps.map Parameter.name).zip (as.map Argument.value))

/-- The required parameters without a value. -/
def unbound (ps : List Parameter) (bound : OrderedMap String α) : List String :=
  (ps.filter fun p => p.required && !bound.contains p.name).map Parameter.name

/-- The value bound to a parameter, if no later one has its name. -/
def boundValue (bound : OrderedMap String α) (p : Parameter) (later : List Parameter) : Option α :=
  if later.any fun q => q.name == p.name then none else bound.get? p.name

/-- One value a parameter, in declared order; `fill` makes the missing value of a
type. -/
def fillIn (fill : ColumnType → Option α) (bound : OrderedMap String α) :
    List Parameter → Except ProcedureError (List α)
  | [] => .ok []
  | p :: ps => do
      let v ←
        match boundValue bound p ps with
        | some v => .ok v
        | none =>
            match fill p.type with
            | some v => .ok v
            | none => .error (.noTypedNull p.type)
      return v :: (← fillIn fill bound ps)

/-- Bind the arguments of a call. -/
def bindArguments (fill : ColumnType → Option α) (ps : List Parameter) (as : List (Argument α)) :
    Except ProcedureError (List α) := do
  let bound := OrderedMap.ofList (← pairs ps as)
  match unbound ps bound with
  | name :: more => .error (.missingRequired (name :: more))
  | [] => fillIn fill bound ps

/-- Check the signature and bind the arguments, both under small letters. -/
def resolveArguments (fill : ColumnType → Option α) (ps : List Parameter)
    (as : List (Argument α)) : Except ProcedureError (List α) := do
  let ps := normalizeParameters ps
  checkSignature ps
  bindArguments fill ps (normalizeArguments as)

end

end TableLake
