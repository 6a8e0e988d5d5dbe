/-
# TableLake.Compaction.Written — compaction requests as texts

Partitions are written `key=value,key=value` with semicolons between; a blank text
and the word `ALL` stand for the whole table.  A sort order is a strategy and
columns with commas between, both or neither.  Settings are `key=value` with commas
between.  White space around every part does not count.
-/
import TableLake.Compaction
import TableLake.Procedure.Error

namespace TableLake

open TableLake.Text

set_option autoImplicit false

/-- Read one partition; unlike settings it has no blank parts. -/
def readPartition (s : String) : Except ProcedureError Partition := do
  let pairs ← (split ',' s).mapM fun pair => fromCatalog (readKeyValue (trim pair))
  return OrderedMap.ofList pairs

/-- Read partitions, blank texts skipped. -/
def readPartitions (specs : List String) : Except ProcedureError (List Partition) :=
  ((specs.map trim).filter fun s => !s.isEmpty).mapM readPartition

/-- Read a sort order; a strategy comes with columns and columns with a strategy. -/
def readSortOrder (strategy columns : String) : Except ProcedureError (Option SortOrder) :=
  match blank strategy, blank columns with
  | true, true => .ok none
  | false, false => do
      let strategy ← fromCatalog (OrderStrategy.read strategy)
      return some ⟨strategy, solidParts ',' columns⟩
  | _, _ =>
      .error (.invalidArgument "order_strategy"
        "You must specify 'order strategy' and 'order by columns' both.")

/-- Read the partitions of a request. -/
def readPartitionChoice (s : String) : Except ProcedureError (List Partition) :=
  if blank s || trim s == "ALL" then .ok [] else readPartitions (split ';' s)

/-- Read a request from its four texts. -/
def readCompactRequest (partitions strategy columns options : String) :
    Except ProcedureError CompactRequest := do
  let tableOptions ← fromCatalog (readKeyValues options)
  let order ← readSortOrder strategy columns
  let partitions ← readPartitionChoice partitions
  return { partitions, order, tableOptions }

end TableLake
