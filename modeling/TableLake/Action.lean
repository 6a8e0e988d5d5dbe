/-
# TableLake.Action — the work done from a list of arguments

An action is one of the procedures with its arguments given as keys and values.
It finds the catalog through a loader, by the warehouse and the further settings
that it is given.
-/
import TableLake.Action.ArgumentList
import TableLake.Compaction.Written
import TableLake.Loader

namespace TableLake

open TableLake.Text

set_option autoImplicit false

/-- Where the table of an action lives. -/
structure TablePath where
  warehouse : String
  table : TableId
deriving DecidableEq, Repr

/-- The context of the warehouse, over settings for the catalog. -/
def TablePath.context (path : TablePath) (settings : Options) : Context :=
  ⟨settings.insert warehouseKey path.warehouse⟩

/-- Read the place of the table. -/
def TablePath.read (args : ArgumentList) : Except ProcedureError TablePath := do
  let warehouse ← args.required "warehouse"
  let database ← args.required "database"
  let table ← args.required "table"
  return ⟨warehouse, database, table⟩

inductive Action where
  | compact (path : TablePath) (request : CompactRequest) (catalogSettings : Options)
  | rollbackTo (path : TablePath) (version : String) (catalogSettings : Options)
deriving DecidableEq, Repr

inductive ActionKind where
  | compact
  | rollbackTo
deriving DecidableEq, Repr

namespace ActionKind

def name : ActionKind → String
  | .compact => "compact"
  | .rollbackTo => "rollback-to"

/-- All kinds, by name. -/
def all : List ActionKind := [.compact, .rollbackTo]

def names : List String := all.map name

def ofName? (s : String) : Option ActionKind := all.find? fun k => k.name == s

def helpLines : ActionKind → List String
  | .compact =>
      ["Action \"compact\" runs a dedicated job for compacting specified table.",
        "",
        "Syntax:",
        "  compact --warehouse <warehouse-path> --database <database-name> " ++
          "--table <table-name> [--partition <partition-name>] " ++
          "[--order-strategy <order-strategy>] [--order-by <order-columns>] " ++
          "[--table-conf <key>=<value>] [--catalog-conf <key>=<value>]",
        "",
        "Partition name syntax:",
        "  key1=value1,key2=value2,...",
        "",
        "Order strategies: order, zorder, hilbert. --order-strategy and --order-by",
        "must be given together; --order-by takes comma separated column names.",
        "",
        "Examples:",
        "  compact --warehouse memory://warehouse --database test_db --table test_table",
        "  compact --warehouse memory://warehouse --database test_db --table test_table " ++
          "--partition dt=20221126,hh=08 --partition dt=20221127,hh=09",
        "  compact --warehouse memory://warehouse --database test_db --table test_table " ++
          "--order-strategy zorder --order-by a,b",
        ""]
  | .rollbackTo =>
      ["Action \"rollback-to\" roll back a table to a specific snapshot ID or tag.",
        "",
        "Syntax:",
        "  rollback-to --warehouse <warehouse-path> --database <database-name> " ++
          "--table <table-name> --version <version-string> " ++
          "[--catalog-conf <key>=<value> [--catalog-conf <key>=<value> ...]]",
        "  'version-string' can be a long value representing a snapshot ID or a tag name.",
        ""]

def help (k : ActionKind) : String := String.intercalate "\n" k.helpLines

end ActionKind

namespace Action

def readCompact (args : ArgumentList) : Except ProcedureError Action := do
  let path ← TablePath.read args
  let partitions ← readPartitions (args.getAll "partition")
  let strategy ← args.get "order-strategy"
  let order ← readSortOrder (strategy.getD "") ((← args.get "order-by").getD "")
  let tableOptions ← args.settings "table-conf"
  let catalogSettings ← args.settings "catalog-conf"
  return .compact path { partitions, order, tableOptions } catalogSettings

def readRollback (args : ArgumentList) : Except ProcedureError Action := do
  let path ← TablePath.read args
  let version ← args.required "version"
  return .rollbackTo path version (← args.settings "catalog-conf")

/-- The action that the arguments ask for; none if they ask for help. -/
def read (kind : ActionKind) (args : ArgumentList) : Except ProcedureError (Option Action) :=
  if args.has "help" then .ok none
  else
    match kind with
    | .compact => some <$> readCompact args
    | .rollbackTo => some <$> readRollback args

/-- Do the work. -/
def run : Action → InLoader CatalogError Unit
  | .compact path request settings => do
      let ref ← Loader.load (path.context settings)
      let _ ← Loader.within ref (Store.compact path.table request)
  | .rollbackTo path version settings => do
      let ref ← Loader.load (path.context settings)
      let version ← ofExcept (Version.read (trim version))
      Loader.within ref (Store.rollbackTo path.table version)

/-- Find the action with a name, read its arguments and do the work; the answer is
the text of the help where only that is asked for. -/
def perform (name : String) (words : List String) : InLoader ProcedureError (Option String) := do
  match ActionKind.ofName? name with
  | none => throw (.noAction name)
  | some kind =>
      let args ← ofExcept (ArgumentList.read words)
      match ← ofExcept (read kind args) with
      | none => return some kind.help
      | some action =>
          ExceptT.adapt ProcedureError.catalog action.run
          return none

end Action

end TableLake
