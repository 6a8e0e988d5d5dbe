/-
# TableLake.Snapshot — one state of a table's data

A snapshot holds all rows the table had when it was committed; it never changes.
-/
import TableLake.Batch

namespace TableLake

set_option autoImplicit false

/-- What a commit did: added rows, laid the same rows out anew, or put other rows in
their place. -/
inductive CommitKind where
  | append
  | compact
  | overwrite
deriving DecidableEq, Repr

def CommitKind.name : CommitKind → String
  | .append => "APPEND"
  | .compact => "COMPACT"
  | .overwrite => "OVERWRITE"

def CommitKind.ofName? : String → Option CommitKind
  | "APPEND" => some .append
  | "COMPACT" => some .compact
  | "OVERWRITE" => some .overwrite
  | _ => none

/-- The data of a table, the number of the schema they were committed under, and
the time of the commit in milliseconds. -/
structure Snapshot where
  id : Nat
  schemaId : Nat
  kind : CommitKind
  millis : Int
  batches : List Batch
deriving DecidableEq

/-- The number of rows. -/
def Snapshot.records (s : Snapshot) : Nat :=
  Batch.totalRows s.batches

end TableLake
