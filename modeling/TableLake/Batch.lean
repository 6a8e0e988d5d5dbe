/-
# TableLake.Batch — columns under their fields

A batch has one column a field, of the field's type, all of the same number of
rows, and no missing value where the field forbids it.  `Batch.make` is the only
way to one: it refuses data that breaks one of these rules and names the first
broken one, in the order count, no column at all, missing values, lengths, types.
-/
import TableLake.Column.Cast

namespace TableLake

set_option autoImplicit false

/-- The name and type of a column, whether values may be missing, and what it is
for. -/
structure Field where
  name : String
  type : ColumnType
  nullable : Bool
  comment : Option String
deriving DecidableEq, Repr

/-- Rows of cells under fields. -/
structure Batch where
  fields : List Field
  columns : List Column
  rows : Nat
  typed : columns.map Column.type = fields.map Field.type
  full : ∀ c ∈ columns, c.length = rows
  present : ∀ p ∈ fields.zip columns, p.1.nullable = false → p.2.nullCount = 0
deriving DecidableEq

namespace Batch

@[ext]
theorem ext {a b : Batch} (fields : a.fields = b.fields) (columns : a.columns = b.columns)
    (rows : a.rows = b.rows) : a = b := by
  cases a; cases b; cases fields; cases columns; cases rows; rfl

/-- The first field that forbids missing values over a column that has some. -/
def missingRequired (fields : List Field) (columns : List Column) : Option Field :=
  ((fields.zip columns).find? fun p => !p.1.nullable && decide (0 < p.2.nullCount)).map Prod.fst

/-- The first place where a column has not its field's type. -/
def firstMismatch (index : Nat) : List Field → List Column → Option DataFault
  | f :: fields, c :: columns =>
      if c.type = f.type then firstMismatch (index + 1) fields columns
      else some (.typeMismatch f.type c.type index)
  | _, _ => none

theorem types_of_firstMismatch : ∀ {index : Nat} {fields : List Field} {columns : List Column},
    columns.length = fields.length → firstMismatch index fields columns = none →
      columns.map Column.type = fields.map Field.type
  | _, [], [], _, _ => rfl
  | _, [], _ :: _, same, _ => by simp at same
  | _, _ :: _, [], same, _ => by simp at same
  | index, f :: fields, c :: columns, same, none_found => by
      by_cases here : c.type = f.type
      · simp only [firstMismatch, here, if_true] at none_found
        have tail := types_of_firstMismatch (by simpa using same) none_found
        simp [here, tail]
      · simp [firstMismatch, here] at none_found

theorem present_of_missingRequired {fields : List Field} {columns : List Column}
    (none_found : missingRequired fields columns = none) :
    ∀ p ∈ fields.zip columns, p.1.nullable = false → p.2.nullCount = 0 := by
  intro p inside required
  unfold missingRequired at none_found
  rw [Option.map_eq_none_iff, List.find?_eq_none] at none_found
  have := none_found p inside
  simp only [required, Bool.not_false, Bool.true_and, decide_eq_true_eq] at this
  omega

/-- Put columns under fields, or name the first rule they break. -/
def make (fields : List Field) (columns : List Column) : Except DataFault Batch :=
  if count : columns.length = fields.length then
    match columns.head? with
    | none => .error .noColumns
    | some first =>
        match required : missingRequired fields columns with
        | some field => .error (.missingRequired field.name)
        | none =>
            if lengths : ∀ c ∈ columns, c.length = first.length then
              match types : firstMismatch 0 fields columns with
              | some fault => .error fault
              | none =>
                  .ok
                    { fields, columns, rows := first.length
                      typed := types_of_firstMismatch count types
                      full := lengths
                      present := present_of_missingRequired required }
            else .error .unequalLengths
  else .error (.columnCount columns.length fields.length)

/-- The batch without columns and without rows. -/
def empty : Batch where
  fields := []
  columns := []
  rows := 0
  typed := rfl
  full := by simp
  present := by simp

instance : Inhabited Batch := ⟨empty⟩

/-- The first column with a name. -/
def column? (b : Batch) (name : String) : Option Column :=
  ((b.fields.zip b.columns).find? fun p => p.1.name == name).map Prod.snd

/-- The cells of one row. -/
def row (b : Batch) (i : Nat) : List Cell :=
  b.columns.map fun c => (c.cells[i]?).join

/-- The rows from the first to the last. -/
def rowList (b : Batch) : List (List Cell) :=
  (List.range b.rows).map b.row

/-- The rows of several batches. -/
def totalRows (batches : List Batch) : Nat :=
  (batches.map rows).foldr (· + ·) 0

/-! ## Reading a batch through other fields -/

/-- The column a field reads from a batch: the one of its name, cast to its type,
or missing values where the batch has none of that name. -/
def columnFor (k : Casting) (b : Batch) (f : Field) : Except DataFault Column :=
  match b.column? f.name with
  | some c => k.cast c f.type
  | none => .ok (.missing f.type b.rows)

/-- The batch as seen through other fields; through its own it is unchanged. -/
def align (k : Casting) (fields : List Field) (b : Batch) : Except DataFault Batch :=
  if b.fields = fields then .ok b
  else do make fields (← fields.mapM (b.columnFor k))

/-- A batch that is made has the fields and columns it is made of. -/
theorem eq_of_make {fields : List Field} {columns : List Column} {b : Batch}
    (made : make fields columns = .ok b) : b.fields = fields ∧ b.columns = columns := by
  unfold make at made
  split at made
  · split at made
    · cases made
    · split at made
      · cases made
      · split at made
        · split at made
          · cases made
          · cases made; exact ⟨rfl, rfl⟩
        · cases made
  · cases made

end Batch

end TableLake
