/-
# TableLake.Mount.HostCatalog — a catalog that a host keeps in memory

Schemas with tables in them, in the order they came into being.  A schema that is
registered takes the place of one that is there; a table does not.  A schema that
holds tables is dropped only together with them.
-/
import TableLake.Batch
import TableLake.OrderedMap
import TableLake.Engine.Error

namespace TableLake

set_option autoImplicit false

/-- A table of a host: its fields and its rows.  Some tables only look like tables:
their rows are not in memory. -/
structure HostTable where
  fields : List Field
  batches : List Batch
  inMemory : Bool
deriving DecidableEq

abbrev HostSchema := OrderedMap String HostTable

abbrev HostCatalog := OrderedMap String HostSchema

namespace HostCatalog

/-- A table of a schema. -/
def table? (h : HostCatalog) (schema table : String) : Option HostTable :=
  (h.get? schema).bind fun s => s.get? table

/-- An empty schema in the place of any other of that name. -/
def registerSchema (h : HostCatalog) (schema : String) : HostCatalog := h.insert schema ∅

def deregisterSchema (h : HostCatalog) (schema : String) (cascade : Bool) :
    Except EngineError HostCatalog :=
  match h.get? schema with
  | none => .ok h
  | some tables =>
      if tables.isEmpty || cascade then .ok (h.erase schema)
      else .error (.execution (.schemaInUse schema tables.keys))

def registerTable (h : HostCatalog) (schema table : String) (t : HostTable) :
    Except EngineError HostCatalog :=
  match h.get? schema with
  | none => .error (.plan (.unresolvedSchema schema))
  | some tables =>
      if tables.contains table then .error (.execution (.hostTableExists table))
      else .ok (h.insert schema (tables.insert table t))

def deregisterTable (h : HostCatalog) (schema table : String) : HostCatalog :=
  match h.get? schema with
  | none => h
  | some tables => h.insert schema (tables.erase table)

/-- The catalog with further rows in a table that is there. -/
def append (h : HostCatalog) (schema table : String) (batches : List Batch) : HostCatalog :=
  match h.get? schema with
  | none => h
  | some tables =>
      match tables.get? table with
      | none => h
      | some t => h.insert schema (tables.insert table { t with batches := t.batches ++ batches })

end HostCatalog

end TableLake
