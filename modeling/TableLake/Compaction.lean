/-
# TableLake.Compaction — what a compaction is asked to do

A request names the partitions to compact, or none for the whole table, the order
to bring the rows into, if any, and settings for the job.
-/
import TableLake.Options

namespace TableLake

open TableLake.Text

set_option autoImplicit false

/-- Values of partition keys, in the order they were given. -/
abbrev Partition := OrderedMap String String

/-- How rows are brought into order by several columns. -/
inductive OrderStrategy where
  | order
  | zorder
  | hilbert
deriving DecidableEq, Repr

namespace OrderStrategy

def name : OrderStrategy → String
  | .order => "order"
  | .zorder => "zorder"
  | .hilbert => "hilbert"

/-- Read a strategy: letters of any case, white space around. -/
def read (s : String) : Except CatalogError OrderStrategy :=
  let word := lower (trim s)
  if word = OrderStrategy.order.name then .ok .order
  else if word = OrderStrategy.zorder.name then .ok .zorder
  else if word = OrderStrategy.hilbert.name then .ok .hilbert
  else
    .error (.invalidOption "order-strategy"
      ("unknown sort strategy '" ++ word ++ "', expected one of order, zorder, hilbert"))

end OrderStrategy

/-- A strategy and the columns it sorts by. -/
structure SortOrder where
  strategy : OrderStrategy
  columns : List String
deriving DecidableEq, Repr

structure CompactRequest where
  partitions : List Partition
  order : Option SortOrder
  tableOptions : Options
deriving DecidableEq, Repr

/-- How the job is called in reports. -/
def CompactRequest.jobName (r : CompactRequest) : String :=
  if r.order.isSome then "Sort Compact Job" else "Compact Job"

end TableLake
