/-
# TableLake.Sql.Query — rows chosen, put in order and computed

A query keeps the rows of a table for which its condition is true, puts them in
order and computes its columns from each; counting gives one row for all of them.
What is wrong with the query is found before the table is read.

Missing values come last in ascending and first in descending order, unless it is
said otherwise.  The columns of an answer have different names, as far as they are not
those of different tables.
-/
import TableLake.Mount
import TableLake.Sql.Evaluate
import TableLake.Sql.Plan
import TableLake.Sql.RowSet

namespace TableLake.Sql

open TableLake.Text

set_option autoImplicit false

/-- What a column of the answer is computed from. -/
inductive Output where
  | value (e : Expr)
  | countAll
deriving DecidableEq, Repr

namespace Output

/-- The text of an output in messages. -/
def text : Output → String
  | .value e => e.text
  | .countAll => "count(*)"

/-- The name of an output that is given none. -/
def title : Output → String
  | .value e => e.title
  | .countAll => "count(*)"

def isCount : Output → Bool
  | .countAll => true
  | .value _ => false

end Output

/-! ## What is chosen -/

/-- A column of the answer as it is chosen: an output and a name for it. -/
structure Choice where
  output : Output
  label : Option String
deriving DecidableEq, Repr

namespace Choice

/-- An output under a name; a column keeps to itself where it is called what it is called. -/
def named (output : Output) (label : Option Ident) : Choice :=
  match output, label.map Ident.normalized with
  | .value (.column c), some name => ⟨output, if c.name = name then none else some name⟩
  | _, label => ⟨output, label⟩

def title (c : Choice) : String := c.label.getD c.output.title

def text (c : Choice) : String :=
  match c.label with
  | some label => c.output.text ++ " AS " ++ label
  | none => c.output.text

/-- The field of the answer. -/
def field (s : Source) (c : Choice) : Except EngineError Field :=
  match c.output with
  | .countAll => .ok ⟨c.title, .int64, false, none⟩
  | .value (.column name) =>
      match s.scope name with
      | some f => .ok { f with name := c.label.getD f.name }
      | none => .error (.column (.unknown name s.known))
  | .value e => do return ⟨c.title, ← e.type s.scope, ← e.nullable s.scope, none⟩

end Choice

/-- An item of a query: all columns, or one. -/
inductive Item where
  | all
  | one (c : Choice)
deriving DecidableEq, Repr

namespace Item

def title : Item → String
  | .all => "*"
  | .one c => c.title

def text : Item → String
  | .all => "*"
  | .one c => c.text

/-- The columns that an item stands for. -/
def choices (s : Source) : Item → List Choice
  | .all => s.fields.map fun f => ⟨.value (.column (s.column f.name)), none⟩
  | .one c => [c]

end Item

/-- The item that is written. -/
def planItem (s : Source) (tableless : Bool) : SelectItem → Except EngineError Item
  | .all => if tableless then .error (.plan .nothingToSelect) else .ok .all
  | .term .countAll label => .ok (.one (.named .countAll label))
  | .term t label => do return .one (.named (.value (← t.toExpr s)) label)

/-- The first two places of a list with the same item. -/
def repeatedPlaces {α : Type} [BEq α] (items : List α) : Option (Nat × Nat) :=
  let places := items.mapIdx fun j item => (items.idxOf item, j)
  places.find? fun p => p.1 < p.2

/-- Titles are given once. -/
def checkTitles (items : List (String × String)) : Except EngineError Unit :=
  match repeatedPlaces (items.map Prod.fst) with
  | none => .ok ()
  | some (i, j) =>
      let text (k : Nat) := ((items[k]?).map Prod.snd).getD ""
      .error (.plan (.repeatedTitle (text i) i (text j) j))

/-- The table whose column an output is, if it is one under its own name. -/
def outputTable (o : Field × Output) : Option (List String) :=
  match o.2 with
  | .value (.column c) => if c.name = o.1.name then some c.table else none
  | _ => none

/-- The first thing that leaves open which column is meant: two columns that are called the
same, or a column of a table that is called like one of no table. -/
def columnFault? (columns : List (Option (List String) × String)) : Option ColumnFault :=
  let named (c : Option (List String) × String) : ColumnName := ⟨c.1.getD [], c.2⟩
  match repeatedPlaces columns with
  | some (_, j) => (columns[j]?).map fun c => .repeated (named c)
  | none =>
      let clashing := columns.filter fun c =>
        c.1.isSome && columns.any fun d => d.1.isNone && c.2 == d.2
      let inOrder := (clashing.map named).mergeSort fun a b => a.order b != .gt
      inOrder.head?.map .ambiguous

/-- The columns of the answer under their fields. -/
def planItems (s : Source) (items : List Item) : Except EngineError (List (Field × Output)) := do
  checkTitles (items.map fun i => (i.title, i.text))
  let choices := items.flatMap (Item.choices s)
  let fields ← choices.mapM (Choice.field s)
  let outputs := fields.zip (choices.map Choice.output)
  match columnFault? (outputs.map fun o => (outputTable o, o.1.name)) with
  | some fault => throw (.column fault)
  | none => return outputs

/-- The columns in an expression. -/
def Expr.columns : Expr → List ColumnName
  | .literal _ => []
  | .column c | .oneOf _ c _ => [c]
  | .binary _ left right => left.columns ++ right.columns
  | .not operand | .negative operand | .isNull operand | .isNotNull operand => operand.columns

/-- Where rows are counted, nothing is said of a single one. -/
def checkCounted (outputs : List Output) : Except EngineError Unit :=
  if outputs.any Output.isCount then
    match (outputs.flatMap fun
      | .value e => e.columns
      | .countAll => []).head? with
    | some c => .error (.plan (.notCounted c.text))
    | none => .ok ()
  else .ok ()

/-! ## Order -/

/-- A key to put rows in order by. -/
structure SortKey where
  e : Expr
  descending : Bool
  nullsFirst : Bool
deriving DecidableEq, Repr

/-- The output at a place that is given by its number, counted from one. -/
def outputAt (outputs : List (Field × Output)) (digits : String) : Except EngineError Output :=
  match readUnsigned maxUnsigned64 (plainDigits digits) with
  | .error fault => .error (.plan (.unreadPosition fault))
  | .ok 0 => .error (.plan .noPosition)
  | .ok (i + 1) =>
      match outputs[i]? with
      | some o => .ok o.2
      | none => .error (.plan (.positionTooHigh (i + 1) outputs.length))

/-- A column that is not known among those of the answer either. -/
def unknownInOrder (outputs : List (Field × Output)) : EngineError → EngineError
  | .column (.unknown c known) =>
      let named (o : Field × Output) : ColumnName := ⟨(outputTable o).getD [], o.1.name⟩
      .column (.unknown c (outputs.map named ++ known))
  | e => e

/-- The expression that an item of the order means: a column of the answer by its place or
its name, else one over the columns of the table.  A count is the same in every row. -/
def planOrder (s : Source) (outputs : List (Field × Output)) (item : OrderItem) :
    Except EngineError SortKey := do
  let e ←
    match item.term with
    | .name [i] =>
        match outputs.find? fun o => o.1.name == i.normalized with
        | some (_, .value e) => .ok e
        | some (_, .countAll) => .ok (.literal (.missing .int64))
        | none => (item.term.toExpr s).mapError (unknownInOrder outputs)
    | .number digits =>
        match ← outputAt outputs digits with
        | .value e => .ok e
        | .countAll => .ok (.literal (.missing .int64))
    | t => (t.toExpr s).mapError (unknownInOrder outputs)
  return ⟨e, item.descending, item.nullsFirst.getD item.descending⟩

/-- The order of two values under a key. -/
def SortKey.compare (k : SortKey) : Cell → Cell → Ordering
  | none, none => .eq
  | none, some _ => if k.nullsFirst then .lt else .gt
  | some _, none => if k.nullsFirst then .gt else .lt
  | some a, some b =>
      let order := (orderOf a b).getD .eq
      if k.descending then order.swap else order

/-- The order of two lists of values under as many keys. -/
def compareKeys : List SortKey → List Cell → List Cell → Ordering
  | k :: ks, a :: as, b :: bs => (k.compare a b).then (compareKeys ks as bs)
  | _, _, _ => .eq

/-! ## Running -/

structure SelectPlan where
  source : Source
  outputs : List (Field × Output)
  condition : Option Expr
  order : List SortKey
deriving DecidableEq

/-- A condition is a truth value, as far as its type is known. -/
def planCondition (s : Source) (t : Term) : Except EngineError Expr := do
  let e ← t.toExpr s
  match e.type s.scope with
  | .ok type => if isTruth type then return e else throw (.plan (.noCondition e type))
  | .error _ => return e

/-- What is wrong with operands, in the condition before the outputs and in the order last. -/
def checkTypes (s : Source) (condition : Option Expr) (outputs : List Output)
    (order : List SortKey) : Except EngineError Unit := do
  let values := outputs.filterMap fun
    | .value e => some e
    | .countAll => none
  let all := condition.toList ++ values ++ order.map SortKey.e
  all.forM (Expr.checkOperands s.scope)
  all.forM (Expr.checkSigns s.scope)

/-- Look up all names of a query and see to its types. -/
def Select.plan (s : Select) (source : Source) : Except EngineError SelectPlan := do
  if let some fault := columnFault? (source.fields.map fun f => (some source.table, f.name)) then
    throw (.column fault)
  let condition ← s.condition.mapM (planCondition source)
  let items ← s.items.mapM (planItem source s.source.isNone)
  let outputs ← planItems source items
  let order ← s.order.mapM (planOrder source outputs)
  checkCounted (outputs.map Prod.snd)
  checkTypes source condition (outputs.map Prod.snd) order
  return { source, outputs, condition, order }

namespace SelectPlan

/-- The values of the columns in a row. -/
def columns (p : SelectPlan) (row : List Cell) (c : ColumnName) : Option Scalar :=
  ((p.source.fields.zip row).find? fun q => q.1.name == c.name).map fun q => ⟨q.1.type, q.2⟩

/-- Whether the condition is true of a row. -/
def admits (p : SelectPlan) (row : List Cell) : Except EngineError Bool := do
  match p.condition with
  | none => return true
  | some e => return (← evaluate (p.columns row) e).cell == some (.boolean true)

/-- A row with the values of its keys. -/
def keyed (p : SelectPlan) (row : List Cell) : Except EngineError (List Cell × List Cell) := do
  let keys ← p.order.mapM fun k => do return (← evaluate (p.columns row) k.e).cell
  return (keys, row)

/-- The rows in order. -/
def sorted (p : SelectPlan) (rows : List (List Cell)) : Except EngineError (List (List Cell)) := do
  if p.order.isEmpty then return rows
  let keyed ← rows.mapM p.keyed
  return (keyed.mergeSort fun a b => compareKeys p.order a.1 b.1 != .gt).map Prod.snd

/-- The cell of a column of the answer in a row; `count` is the number of rows. -/
def cell (p : SelectPlan) (count : Nat) (row : List Cell) : Output → Except EngineError Cell
  | .countAll => .ok (some (.integer count))
  | .value e => do return (← evaluate (p.columns row) e).cell

/-- The answer over the rows of a table. -/
def run (p : SelectPlan) (rows : List (List Cell)) : Except EngineError RowSet := do
  let kept ← rows.filterM p.admits
  let ordered ← p.sorted kept
  let bases := if p.outputs.any fun o => o.2.isCount then [[]] else ordered
  let answers ← bases.mapM fun row => p.outputs.mapM fun o => p.cell kept.length row o.2
  return ⟨p.outputs.map Prod.fst, answers⟩

end SelectPlan

/-- The table that a query reads, under the name that its columns have. -/
structure NamedTable where
  name : List String
  table : TableHandle
deriving DecidableEq

/-- What the names of a query are looked up in. -/
def sourceOf : Option NamedTable → Source
  | none => .empty
  | some t => ⟨t.name, t.table.fields⟩

/-- The rows a query starts from: those of a table, or one row without columns. -/
def sourceRows : Option NamedTable → Except EngineError (List (List Cell))
  | none => .ok [[]]
  | some t => t.table.scan none

/-- Answer a query over a table. -/
def Select.run (s : Select) (table : Option NamedTable) : Except EngineError RowSet := do
  let plan ← s.plan (sourceOf table)
  plan.run (← sourceRows table)

/-! ## Values -/

/-- The constants of rows that are written out; all rows are equally long. -/
def planValues (rows : List (List Term)) : Except EngineError (List (List Expr)) := do
  let planned ← rows.mapM fun row => row.mapM fun t => t.toExpr .empty
  let width := (planned.head?.map List.length).getD 0
  match planned.findIdx? fun row => row.length ≠ width with
  | some i =>
      .error (.plan (.unequalRows ((planned[i]?.map List.length).getD 0) i width))
  | none => return planned

/-- The value of a constant as one of a type. -/
def valueAs (type : ColumnType) (e : Expr) : Except EngineError Cell := do
  let s ← evaluate (fun _ => none) e
  if s.type = .null then return none
  return (← (s.cast type).mapError .data).cell

/-- The type of all constants at a place, those that are missing apart; `i` is the row of
the first of them. -/
def commonType (column i : Nat) (type : ColumnType) :
    List ColumnType → Except EngineError ColumnType
  | [] => .ok type
  | t :: more =>
      if t = .null then commonType column (i + 1) type more
      else if type = .null then commonType column (i + 1) t more
      else
        match compared? type t with
        | some both => commonType column (i + 1) both more
        | none => .error (.plan (.unequalTypes i column type t))

/-- The rows of constants that stand alone, with columns of one type each. -/
def valuesRows (rows : List (List Term)) : Except EngineError RowSet := do
  let planned ← planValues rows
  let width := (planned.head?.map List.length).getD 0
  let types ← (List.range width).mapM fun j => do
    commonType j 0 .null (← planned.mapM fun row =>
      ((row[j]?).map (Expr.type .empty)).getD (.ok .null))
  let cells ← planned.mapM fun row => (types.zip row).mapM fun (t, e) => valueAs t e
  return ⟨types.mapIdx fun j t => ⟨"column" ++ decimal (j + 1), t, true, none⟩, cells⟩

/-- Whether the constants can be values of a type; the types of columns come first. -/
def checkValues (targets : List Field) (rows : List (List Expr)) : Except EngineError Unit :=
  (targets.mapIdx fun j f => (j, f)).forM fun (j, f) => rows.forM fun row =>
    match row[j]? with
    | none => .ok ()
    | some e => do
        let t ← e.type .empty
        if t = f.type || castable t f.type then return ()
        else throw (.execution (.valueMismatch t f.type))

end TableLake.Sql
