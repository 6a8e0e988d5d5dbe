/-
# TableLake.Loader — one store for each warehouse

A context says in its settings which kind of catalog is wanted and where its tables
live.  The loader keeps the stores it has made and knows them by kind and
warehouse: two users of one warehouse meet in one store.  A store can be registered
for a warehouse and then takes the place of any other.
-/
import TableLake.Store

namespace TableLake

set_option autoImplicit false

/-- What a catalog is made from. -/
structure Context where
  options : Options
deriving DecidableEq, Repr

namespace Context

/-- Where the tables live; a blank-free place has to be named. -/
def warehouse (c : Context) : Except CatalogError String :=
  match c.options.get? warehouseKey with
  | some w => if w.isEmpty then .error (.missingOption warehouseKey) else .ok w
  | none => .error (.missingOption warehouseKey)

def metastore (c : Context) : String :=
  (c.options.get? metastoreKey).getD defaultMetastore

/-- The kind of catalog and its warehouse. -/
def key (c : Context) : Except CatalogError (String × String) := do
  return (c.metastore, ← c.warehouse)

end Context

/-- The kinds of catalogs that can be made. -/
def knownMetastores : List String := [defaultMetastore]

/-- The kind of catalog with a name. -/
def findMetastore (name : String) : Option String :=
  knownMetastores.find? fun m => m == name

/-- Make an empty catalog. -/
def Context.newCatalog (c : Context) : Except CatalogError Catalog := do
  match findMetastore c.metastore with
  | none => .error (.unknownMetastore c.metastore)
  | some _ => return Catalog.new (← c.warehouse) c.options

/-- The place of a store among those of a loader. -/
abbrev StoreRef := Nat

/-- The stores, the place of the one in use for each key, and the clock. -/
structure Loader where
  stores : List Store
  loaded : OrderedMap (String × String) StoreRef
  now : Int
deriving DecidableEq

/-- Operations on the stores of a loader that can fail. -/
abbrev InLoader (ε : Type) := ExceptT ε (StateM Loader)

namespace Loader

/-- A loader without stores. -/
def new (now : Int) : Loader := ⟨[], ∅, now⟩

/-- Keep a further store. -/
def add {ε : Type} (s : Store) : InLoader ε StoreRef := do
  let ref := (← get).stores.length
  modify fun l => { l with stores := l.stores ++ [s] }
  return ref

/-- Make a store for a context, known to nobody else. -/
def create (c : Context) : InLoader CatalogError StoreRef := do
  let catalog ← ofExcept c.newCatalog
  add (.new catalog (← get).now)

/-- Use a store for the warehouse of a context from now on. -/
def register (c : Context) (ref : StoreRef) : InLoader CatalogError Unit := do
  let key ← ofExcept c.key
  modify fun l => { l with loaded := l.loaded.insert key ref }

/-- The store of a context's warehouse; it is made when first asked for. -/
def load (c : Context) : InLoader CatalogError StoreRef := do
  let key ← ofExcept c.key
  match (← get).loaded.get? key with
  | some ref => return ref
  | none =>
      let ref ← create c
      modify fun l => { l with loaded := l.loaded.insert key ref }
      return ref

/-- The store at a place; an empty one where there is none. -/
def storeAt (l : Loader) (ref : StoreRef) : Store :=
  (l.stores[ref]?).getD (.new (.new "" ∅) l.now)

/-- Work on one of the stores. -/
def within {ε α : Type} (ref : StoreRef) (operation : InStore ε α) : InLoader ε α := do
  let (result, s) := operation.run ((← get).storeAt ref)
  modify fun l => { l with stores := l.stores.set ref s }
  ofExcept result

end Loader

end TableLake
