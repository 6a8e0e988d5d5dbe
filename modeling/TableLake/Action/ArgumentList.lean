/-
# TableLake.Action.ArgumentList — arguments given as keys and values

A list of words is read from the left.  A word in the place of a key starts with
one or two hyphens; the word after it is its value, unless it looks like a key
itself: it starts with two hyphens, or with one and is neither a lone hyphen nor a
number.  A key may come several times and may come without a value.
-/
import TableLake.Procedure.Error
import TableLake.OrderedMap
import TableLake.Options
import TableLake.Text.Numeral

namespace TableLake

open TableLake.Text

set_option autoImplicit false

/-- Whether a word in the place of a value is a key instead. -/
def looksLikeKey (word : String) : Bool :=
  match word.toList with
  | '-' :: '-' :: _ => true
  | '-' :: _ :: _ => !isNumeral word
  | _ => false

/-- The key in a word: what follows one hyphen or two. -/
def readKey (word : String) : Except ProcedureError String :=
  let key :=
    match word.toList with
    | '-' :: '-' :: rest => rest
    | '-' :: rest => rest
    | _ => []
  if key.isEmpty then .error (.invalidArgument word "expected a key starting with '-' or '--'")
  else .ok (String.ofList key)

/-- Keys with the value that follows each, if one does. -/
def readGroups : List String → Except ProcedureError (List (String × Option String))
  | [] => .ok []
  | [word] => do return [(← readKey word, none)]
  | word :: next :: rest => do
      let key ← readKey word
      if looksLikeKey next then return (key, none) :: (← readGroups (next :: rest))
      else return (key, some next) :: (← readGroups rest)

/-- The values given for each key, in order. -/
structure ArgumentList where
  values : OrderedMap String (List String)
deriving DecidableEq, Repr

namespace ArgumentList

/-- One more group: its value goes behind the others of its key. -/
def addGroup (values : OrderedMap String (List String)) (group : String × Option String) :
    OrderedMap String (List String) :=
  values.insert group.1 ((values.get? group.1).getD [] ++ group.2.toList)

def ofGroups (groups : List (String × Option String)) : ArgumentList :=
  ⟨groups.foldl addGroup ∅⟩

def read (words : List String) : Except ProcedureError ArgumentList :=
  ofGroups <$> readGroups words

def has (args : ArgumentList) (key : String) : Bool := args.values.contains key

/-- All values of a key. -/
def getAll (args : ArgumentList) (key : String) : List String :=
  (args.values.get? key).getD []

/-- The value of a key that is given at most once. -/
def get (args : ArgumentList) (key : String) : Except ProcedureError (Option String) :=
  match args.getAll key with
  | [] => .ok none
  | [value] => .ok (some value)
  | _ =>
      .error (.invalidArgument key "expected a single value but the key was given more than once")

/-- The value of a key, which is there and not blank. -/
def required (args : ArgumentList) (key : String) : Except ProcedureError String := do
  match ← args.get key with
  | some value => if blank value then .error (.missingActionArgument key) else return value
  | none => .error (.missingActionArgument key)

/-- The settings given for a key; later ones win. -/
def settings (args : ArgumentList) (key : String) : Except ProcedureError Options := do
  let pairs ← (args.getAll key).mapM fun pair => fromCatalog (readKeyValue pair)
  return OrderedMap.ofList pairs

end ArgumentList

end TableLake
