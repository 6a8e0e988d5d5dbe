/-
# TableLake.CommandLine.Settings — what the environment says

Six variables of the environment set up the program; each has a value it takes where
it is not set.
-/
import TableLake.Loader
import TableLake.Session
import TableLake.Text.Integer

namespace TableLake

open TableLake.Text

set_option autoImplicit false

/-- The variables of an environment. -/
abbrev Environment := String → Option String

structure Settings where
  catalogName : String
  warehouse : String
  metastore : String
  defaultDatabase : String
  systemNamespace : String
  batchSize : Nat
deriving DecidableEq, Repr

namespace Settings

/-- The names of the variables. -/
def variableNames : List String :=
  ["LAKEPORT_CATALOG_NAME", "LAKEPORT_WAREHOUSE", "LAKEPORT_METASTORE",
    "LAKEPORT_DEFAULT_DATABASE", "LAKEPORT_SYSTEM_NAMESPACE", "LAKEPORT_BATCH_SIZE"]

/-- Read the environment; none if the size of batches is not a number. -/
def read (env : Environment) : Option Settings :=
  match readUnsigned maxUnsigned64 ((env "LAKEPORT_BATCH_SIZE").getD "8192") with
  | .error _ => none
  | .ok batchSize =>
      some
        { catalogName := (env "LAKEPORT_CATALOG_NAME").getD "lakeport"
          warehouse := (env "LAKEPORT_WAREHOUSE").getD "memory://warehouse"
          metastore := (env "LAKEPORT_METASTORE").getD defaultMetastore
          defaultDatabase := (env "LAKEPORT_DEFAULT_DATABASE").getD defaultDatabaseName
          systemNamespace := (env "LAKEPORT_SYSTEM_NAMESPACE").getD "sys"
          batchSize }

/-- What the catalog is made from. -/
def context (s : Settings) : Context :=
  ⟨OrderedMap.ofList [(warehouseKey, s.warehouse), (metastoreKey, s.metastore),
    (defaultDatabaseKey, s.defaultDatabase)]⟩

/-- The names that go without saying. -/
def session (s : Settings) : SessionSettings :=
  ⟨s.catalogName, s.defaultDatabase, SessionSettings.standard.dialect⟩

end Settings

end TableLake
