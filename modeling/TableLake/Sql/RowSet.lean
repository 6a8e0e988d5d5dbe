/-
# TableLake.Sql.RowSet — the rows that a statement answers with

Rows under fields, row by row; `RowSet.batch` gives the same cells column by column.
-/
import TableLake.Batch
import TableLake.Engine.Error

namespace TableLake.Sql

set_option autoImplicit false

structure RowSet where
  fields : List Field
  rows : List (List Cell)
deriving DecidableEq

namespace RowSet

/-- No columns and no rows. -/
def empty : RowSet := ⟨[], []⟩

/-- The cells at one place of every row. -/
def cellsAt (s : RowSet) (i : Nat) : List Cell := s.rows.map fun row => (row[i]?).join

/-- The columns, each under its field. -/
def columns (s : RowSet) : List Column :=
  s.fields.mapIdx fun i f => ⟨f.type, s.cellsAt i⟩

/-- The same cells as a batch. -/
def batch (s : RowSet) : Except EngineError Batch :=
  (Batch.make s.fields s.columns).mapError .data

/-- The rows of a batch. -/
def ofBatch (b : Batch) : RowSet := ⟨b.fields, b.rowList⟩

/-- The answer to an insert: how many rows went in. -/
def ofCount (n : Nat) : RowSet :=
  ⟨[⟨"count", .uint64, false, none⟩], [[some (.integer n)]]⟩

end RowSet

end TableLake.Sql
