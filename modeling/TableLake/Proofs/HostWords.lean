/-
# TableLake.Proofs.HostWords — what a host is told of namespaces and tables

What the catalog is asked for by a host is refused in the words of the catalog, and the host is told
in its own.  One lemma a request says exactly when it is refused and what the host is told
(`HostRequest.renameTable_error_iff` and its like).

`Catalog.Amiss` lists what can be wrong with the place of a request, each fault with the word of
the host for it.  What a host is told of places is one of these words, and a request with a fault
is refused with one, with one exception: where a table that is there is to get a name in a database
that is not (`Homeless`), the host is told in the words of the catalog (`host_words`).  Making a
table in that database says it in the words of the host.
-/
import TableLake.Proofs.CatalogFault
import TableLake.Proofs.HostRun

namespace TableLake

open TableLake.Outcome

set_option autoImplicit false

/-! ## Names -/

namespace Namespace

variable {space : Namespace} {r : TableRef} {e : NamespaceError} {name : String}

/-- The namespace has the form of a database. -/
def Single (space : Namespace) : Prop := ∃ name, space = [name]

theorem database_ok_iff : database space = .ok name ↔ space = [name] := by
  unfold database
  split <;> simp_all

theorem database_error_iff :
    database space = .error e ↔ ¬space.Single ∧ e = .invalidNamespace space := by
  unfold database Single
  split <;> simp_all [eq_comm (a := e)]

theorem tableId_error_iff : tableId r = .error e ↔ ¬r.space.Single ∧ e = .noTable r := by
  unfold tableId Single
  split <;> simp_all [eq_comm (a := e)]

theorem space_of_tableId {id : TableId} (named : tableId r = .ok id) :
    r.space = [id.database] := by
  unfold tableId at named
  split at named <;> cases named
  assumption

theorem single_iff : r.space.Single ↔ ∃ id, tableId r = .ok id := by
  cases named : tableId r with
  | ok id => exact iff_of_true ⟨_, space_of_tableId named⟩ ⟨id, rfl⟩
  | error e => exact iff_of_false (tableId_error_iff.mp named).1 (by rintro ⟨_, ⟨⟩⟩)

/-- No change of columns is refused in words that the host has others for. -/
theorem tableWords_of_applyChanges {s : Schema} {table : TableId} {changes : List SchemaChange}
    {e : CatalogError} (refused : s.applyChanges table changes = .error e) :
    tableWords r e = .catalog e := by
  have other := Schema.not_aboutPlace_of_applyChanges refused
  unfold tableWords
  split
  · exact absurd trivial other
  · rfl

end Namespace

namespace Catalog

/-- The namespace is a database that is there. -/
def Houses (c : Catalog) (space : Namespace) : Prop :=
  ∃ name, space = [name] ∧ c.databaseExists name = true

/-- The namespace has the form of a database that is not there. -/
def Lacks (c : Catalog) (space : Namespace) : Prop :=
  ∃ name, space = [name] ∧ c.databaseExists name = false

/-- The table that is spoken of is there. -/
def HasTable (c : Catalog) (r : TableRef) : Prop :=
  ∃ id, Namespace.tableId r = .ok id ∧ c.tableExists id = true

variable {c : Catalog} {r : TableRef} {id : TableId}

theorem exists_of_alterTable {c' : Catalog} {changes : List SchemaChange}
    (done : c.alterTable id changes false = .ok c') : ∃ t, c'.entry? id = some t := by
  rcases entry?_alterTable done with ⟨⟨⟩, -, -⟩ | ⟨t, schema, -, -, there⟩
  exact ⟨_, there⟩

theorem single_of_hasTable (there : c.HasTable r) : r.space.Single := by
  obtain ⟨id, named, -⟩ := there
  exact Namespace.single_iff.mpr ⟨id, named⟩

theorem single_of_lacks {space : Namespace} (missing : c.Lacks space) : space.Single :=
  missing.imp fun _ => And.left

theorem hasTable_iff (named : Namespace.tableId r = .ok id) :
    c.HasTable r ↔ c.tableExists id = true := by
  simp [HasTable, named]

theorem lacks_iff (named : Namespace.tableId r = .ok id) :
    c.Lacks r.space ↔ c.databaseExists id.database = false := by
  simp [Lacks, Namespace.space_of_tableId named]

end Catalog

/-! ## Requests -/

/-- What a host asks of a store that depends on which databases and tables there are. -/
inductive HostRequest : Type → Type where
  | createNamespace (space : Namespace) : HostRequest Unit
  | dropNamespace (space : Namespace) (cascade : Bool) : HostRequest Unit
  | listTables (space : Namespace) : HostRequest (List TableRef)
  | loadTable (r : TableRef) : HostRequest Table
  | createTable (r : TableRef) (fields : List Field) (partitionKeys : List String)
      (properties : Options) : HostRequest Table
  | renameTable (source target : TableRef) : HostRequest Unit
  | alterTable (r : TableRef) (changes : List TableChange) : HostRequest Table

variable {ε α β : Type} {c : Catalog} {now : Int} {e : NamespaceError}

namespace HostRequest

def run : HostRequest α → InStore NamespaceError α
  | .createNamespace space => Namespace.create space
  | .dropNamespace space cascade => Namespace.drop space cascade
  | .listTables space => Namespace.listTables space
  | .loadTable r => Namespace.loadTable r
  | .createTable r fields partitionKeys properties =>
      Namespace.createTable r fields partitionKeys properties
  | .renameTable source target => Namespace.renameTable source target
  | .alterTable r changes => Namespace.alterTable r changes

/-- What a store without a gate answers. -/
def answer (request : HostRequest α) (c : Catalog) (now : Int) : Except NamespaceError α :=
  (request.run.outcome (.new c now)).1

/-! ### Chains -/

theorem error_of_ofExcept {result : Except ε β} {next : β → InStore ε α} {e : ε} {s : Store} :
    (InStore.outcome (ofExcept result >>= next) s).1 = .error e ↔
      result = .error e ∨ ∃ b, result = .ok b ∧ ((next b).outcome s).1 = .error e := by
  rw [outcome_bind, outcome_ofExcept]
  cases result <;> simp

theorem error_of_update {words : CatalogError → NamespaceError} {action : StoreAction}
    {operation : Catalog → Except CatalogError Catalog} :
    (InStore.outcome (Namespace.ask words (do Store.enter action; Store.update operation))
        (.new c now)).1 = .error e ↔
      ∃ e', operation c = .error e' ∧ e = words e' := by
  unfold Namespace.ask
  rw [outcome_adapt, outcome_enter_update]
  cases operation c <;> simp [Except.mapError, eq_comm (a := e)]

/-- What is handed out behind an operation that leaves it there is handed out for sure. -/
theorem error_of_update_load {words : CatalogError → NamespaceError} {action : StoreAction}
    {operation : Catalog → Except CatalogError Catalog} {r : TableRef} {id : TableId}
    (named : Namespace.tableId r = .ok id)
    (left : ∀ c', operation c = .ok c' → ∃ t, c'.entry? id = some t) :
    (InStore.outcome (do
        Namespace.ask words (do Store.enter action; Store.update operation)
        Namespace.loadTable r) (.new c now)).1 = .error e ↔
      ∃ e', operation c = .error e' ∧ e = words e' := by
  unfold Namespace.ask
  rw [outcome_bind, outcome_adapt, outcome_enter_update]
  cases made : operation c with
  | error e' => simp [Except.mapError, eq_comm (a := e)]
  | ok c' =>
      obtain ⟨t, found⟩ := left c' made
      simp [Except.mapError, Namespace.outcome_loadTable named found]

/-! ### Refusals -/

theorem createNamespace_error_iff {space : Namespace} :
    (createNamespace space).answer c now = .error e ↔
      ¬space.Single ∧ e = .invalidNamespace space ∨
        c.Houses space ∧ e = .namespaceExists space := by
  unfold answer run Namespace.create Store.createDatabase Catalog.Houses
  simp only [error_of_ofExcept, Namespace.database_error_iff, Namespace.database_ok_iff,
    error_of_update, Catalog.createDatabase_error_iff]
  refine or_congr Iff.rfl ?_
  constructor
  · rintro ⟨name, rfl, _, ⟨there, rfl⟩, rfl⟩
    exact ⟨⟨name, rfl, there⟩, rfl⟩
  · rintro ⟨⟨name, rfl, there⟩, rfl⟩
    exact ⟨name, rfl, _, ⟨there, rfl⟩, rfl⟩

theorem dropNamespace_error_iff {space : Namespace} {cascade : Bool} :
    (dropNamespace space cascade).answer c now = .error e ↔
      ¬space.Single ∧ e = .invalidNamespace space ∨
        c.Lacks space ∧ e = .noNamespace space ∨
        (∃ name db, space = [name] ∧ c.databases.get? name = some db ∧ db.isEmpty = false) ∧
          cascade = false ∧ e = .namespaceNotEmpty space := by
  unfold answer run Namespace.drop Store.dropDatabase Catalog.Lacks
  simp only [error_of_ofExcept, Namespace.database_error_iff, Namespace.database_ok_iff,
    error_of_update, Catalog.dropDatabase_error_iff]
  refine or_congr Iff.rfl ?_
  constructor
  · rintro ⟨name, rfl, _, ⟨missing, rfl⟩ | ⟨rfl, ⟨db, found, filled⟩, rfl⟩, rfl⟩
    · exact .inl ⟨⟨name, rfl, missing⟩, rfl⟩
    · exact .inr ⟨⟨name, db, rfl, found, filled⟩, rfl, rfl⟩
  · rintro (⟨⟨name, rfl, missing⟩, rfl⟩ | ⟨⟨name, db, rfl, found, filled⟩, rfl, rfl⟩)
    · exact ⟨name, rfl, _, .inl ⟨missing, rfl⟩, rfl⟩
    · exact ⟨name, rfl, _, .inr ⟨rfl, ⟨db, found, filled⟩, rfl⟩, rfl⟩

theorem listTables_error_iff {space : Namespace} :
    (listTables space).answer c now = .error e ↔
      ¬space.Single ∧ e = .invalidNamespace space ∨ c.Lacks space ∧ e = .noNamespace space := by
  have asked (name : String) : (Store.listTables name).outcome (.new c now) =
      (c.listTables name, .new c now) := by
    unfold Store.listTables
    rw [outcome_enter_bind, outcome_ask, Store.catalog_new]
  unfold answer run Namespace.listTables Namespace.ask Catalog.Lacks
  simp only [error_of_ofExcept, Namespace.database_error_iff, Namespace.database_ok_iff,
    bind_pure_comp, outcome_map, outcome_adapt, asked]
  refine or_congr Iff.rfl ?_
  constructor
  · rintro ⟨name, rfl, refused⟩
    cases listed : c.listTables name with
    | ok tables => simp [listed, Except.mapError, Functor.map, Except.map] at refused
    | error e' =>
        obtain ⟨missing, rfl⟩ := Catalog.listTables_error_iff.mp listed
        rw [listed] at refused
        cases refused
        exact ⟨⟨name, rfl, missing⟩, rfl⟩
  · rintro ⟨⟨name, rfl, missing⟩, rfl⟩
    refine ⟨name, rfl, ?_⟩
    rw [Catalog.listTables_error_iff.mpr ⟨missing, rfl⟩]
    rfl

theorem loadTable_error_iff {r : TableRef} :
    (loadTable r).answer c now = .error e ↔ ¬c.HasTable r ∧ e = .noTable r := by
  cases named : Namespace.tableId r with
  | error e' =>
      obtain ⟨nameless, rfl⟩ := Namespace.tableId_error_iff.mp named
      have missing : ¬c.HasTable r := by simp [Catalog.HasTable, named]
      unfold answer run Namespace.loadTable
      rw [error_of_ofExcept, named]
      simp [missing, eq_comm (a := e)]
  | ok id =>
      rw [Catalog.hasTable_iff named, Catalog.tableExists]
      cases found : c.entry? id with
      | some t =>
          unfold answer run
          rw [Namespace.outcome_loadTable named found]
          simp
      | none =>
          have refused : c.getTable id = .error (.noTable id) :=
            Catalog.getTable_error_iff.mpr ⟨Catalog.tableExists_eq_false_iff.mpr found, rfl⟩
          show ((Namespace.loadTable r).outcome _).1 = _ ↔ _
          unfold Namespace.loadTable Namespace.ask Store.getTable
          rw [outcome_bind, outcome_ofExcept, named]
          simp only
          rw [outcome_adapt, outcome_enter_bind, outcome_bind, outcome_ask, Store.catalog_new,
            refused]
          simp [Except.mapError, Namespace.tableWords, eq_comm (a := e)]

theorem createTable_error_iff {r : TableRef} {fields : List Field} {partitionKeys : List String}
    {properties : Options} :
    (createTable r fields partitionKeys properties).answer c now = .error e ↔
      ¬r.space.Single ∧ e = .noTable r ∨
        r.space.Single ∧
          (tableSchema fields partitionKeys properties = .error e ∨
            (∃ schema, tableSchema fields partitionKeys properties = .ok schema) ∧
              (c.Lacks r.space ∧ e = .noNamespace r.space ∨
                c.HasTable r ∧ e = .tableExists r)) := by
  have made {id : TableId} (named : Namespace.tableId r = .ok id) (schema : Schema) :
      (InStore.outcome (do
          Namespace.ask (Namespace.createTable.words r) (Store.createTable id schema false)
          Namespace.loadTable r) (.new c now)).1 = .error e ↔
        c.Lacks r.space ∧ e = .noNamespace r.space ∨ c.HasTable r ∧ e = .tableExists r := by
    unfold Store.createTable
    rw [error_of_update_load named fun c' made => ⟨_, Catalog.entry?_createTable made⟩,
      Catalog.hasTable_iff named, Catalog.lacks_iff named]
    simp only [Catalog.createTable_error_iff, or_and_right, exists_or, and_assoc]
    simp [Namespace.createTable.words]
  unfold answer run Namespace.createTable
  simp only [error_of_ofExcept, Namespace.tableId_error_iff, Namespace.single_iff]
  refine or_congr Iff.rfl ?_
  constructor
  · rintro ⟨id, named, refused | ⟨schema, settled, refused⟩⟩
    · exact ⟨⟨id, named⟩, .inl refused⟩
    · exact ⟨⟨id, named⟩, .inr ⟨⟨schema, settled⟩, (made named schema).mp refused⟩⟩
  · rintro ⟨⟨id, named⟩, refused | ⟨⟨schema, settled⟩, amiss⟩⟩
    · exact ⟨id, named, .inl refused⟩
    · exact ⟨id, named, .inr ⟨schema, settled, (made named schema).mpr amiss⟩⟩

theorem renameTable_error_iff {source target : TableRef} :
    (renameTable source target).answer c now = .error e ↔
      ¬source.space.Single ∧ e = .noTable source ∨
        source.space.Single ∧
          (¬target.space.Single ∧ e = .noTable target ∨
            target.space.Single ∧
              (¬c.HasTable source ∧ e = .noTable source ∨
                c.HasTable source ∧
                  ((∃ name, target.space = [name] ∧ c.databaseExists name = false ∧
                      e = .catalog (.noDatabase name)) ∨
                    c.HasTable target ∧ e = .tableExists target))) := by
  have moved {sourceId targetId : TableId} (named : Namespace.tableId source = .ok sourceId)
      (goes : Namespace.tableId target = .ok targetId) :
      (InStore.outcome (Namespace.ask (Namespace.renameTable.words source target)
          (Store.renameTable sourceId targetId false)) (.new c now)).1 = .error e ↔
        ¬c.HasTable source ∧ e = .noTable source ∨
          c.HasTable source ∧
            ((∃ name, target.space = [name] ∧ c.databaseExists name = false ∧
                e = .catalog (.noDatabase name)) ∨
              c.HasTable target ∧ e = .tableExists target) := by
    unfold Store.renameTable
    rw [error_of_update, Catalog.hasTable_iff named, Catalog.hasTable_iff goes,
      Namespace.space_of_tableId goes]
    simp only [Catalog.renameTable_error_iff, or_and_right, and_or_left, exists_or, and_assoc]
    simp [Namespace.renameTable.words]
  unfold answer run Namespace.renameTable
  simp only [error_of_ofExcept, Namespace.tableId_error_iff, Namespace.single_iff]
  refine or_congr Iff.rfl ?_
  constructor
  · rintro ⟨sourceId, named, nameless | ⟨targetId, goes, refused⟩⟩
    · exact ⟨⟨sourceId, named⟩, .inl nameless⟩
    · exact ⟨⟨sourceId, named⟩, .inr ⟨⟨targetId, goes⟩, (moved named goes).mp refused⟩⟩
  · rintro ⟨⟨sourceId, named⟩, nameless | ⟨⟨targetId, goes⟩, amiss⟩⟩
    · exact ⟨sourceId, named, .inl nameless⟩
    · exact ⟨sourceId, named, .inr ⟨targetId, goes, (moved named goes).mpr amiss⟩⟩

theorem alterTable_error_iff {r : TableRef} {changes : List TableChange} :
    (alterTable r changes).answer c now = .error e ↔
      ¬r.space.Single ∧ e = .noTable r ∨
        r.space.Single ∧
          (changes.mapM TableChange.toSchemaChange = .error e ∨
            ∃ made, changes.mapM TableChange.toSchemaChange = .ok made ∧
              (¬c.HasTable r ∧ e = .noTable r ∨
                ∃ id t e', Namespace.tableId r = .ok id ∧ c.entry? id = some t ∧
                  t.schema.applyChanges id made = .error e' ∧ e = .catalog e')) := by
  have altered {id : TableId} (named : Namespace.tableId r = .ok id) (made : List SchemaChange) :
      (InStore.outcome (do
          Namespace.ask (Namespace.tableWords r) (Store.alterTable id made false)
          Namespace.loadTable r) (.new c now)).1 = .error e ↔
        ¬c.HasTable r ∧ e = .noTable r ∨
          ∃ id t e', Namespace.tableId r = .ok id ∧ c.entry? id = some t ∧
            t.schema.applyChanges id made = .error e' ∧ e = .catalog e' := by
    unfold Store.alterTable
    rw [error_of_update_load named fun _ => Catalog.exists_of_alterTable,
      Catalog.hasTable_iff named]
    constructor
    · rintro ⟨e', refused, rfl⟩
      rcases Catalog.alterTable_error_iff.mp refused with ⟨missing, rfl⟩ | ⟨t, found, refused⟩
      · exact .inl ⟨by simp [missing], rfl⟩
      · exact .inr ⟨id, t, e', named, found, refused, Namespace.tableWords_of_applyChanges refused⟩
    · rintro (⟨missing, rfl⟩ | ⟨id', t, e', named', found, refused, rfl⟩)
      · exact ⟨_, Catalog.alterTable_error_iff.mpr (.inl ⟨by simpa using missing, rfl⟩), rfl⟩
      · rw [named] at named'
        cases named'
        exact ⟨e', Catalog.alterTable_error_iff.mpr (.inr ⟨t, found, refused⟩),
          (Namespace.tableWords_of_applyChanges refused).symm⟩
  unfold answer run Namespace.alterTable
  simp only [error_of_ofExcept, Namespace.tableId_error_iff, Namespace.single_iff]
  refine or_congr Iff.rfl ?_
  constructor
  · rintro ⟨id, named, refused | ⟨made, meant, refused⟩⟩
    · exact ⟨⟨id, named⟩, .inl refused⟩
    · exact ⟨⟨id, named⟩, .inr ⟨made, meant, (altered named made).mp refused⟩⟩
  · rintro ⟨⟨id, named⟩, refused | ⟨made, meant, amiss⟩⟩
    · exact ⟨id, named, .inl refused⟩
    · exact ⟨id, named, .inr ⟨made, meant, (altered named made).mpr amiss⟩⟩

end HostRequest

/-! ## Places -/

/-- What is wrong with the place of a request, and the word that the host has for it. -/
def Catalog.Amiss (c : Catalog) : HostRequest α → NamespaceError → Prop
  | .createNamespace space, e => c.Houses space ∧ e = .namespaceExists space
  | .dropNamespace space _, e => c.Lacks space ∧ e = .noNamespace space
  | .listTables space, e => c.Lacks space ∧ e = .noNamespace space
  | .loadTable r, e => ¬c.HasTable r ∧ e = .noTable r
  | .createTable r _ _ _, e =>
      ¬r.space.Single ∧ e = .noTable r ∨ c.Lacks r.space ∧ e = .noNamespace r.space ∨
        c.HasTable r ∧ e = .tableExists r
  | .renameTable source target, e =>
      ¬c.HasTable source ∧ e = .noTable source ∨ ¬target.space.Single ∧ e = .noTable target ∨
        c.Lacks target.space ∧ e = .noNamespace target.space ∨
        c.HasTable target ∧ e = .tableExists target
  | .alterTable r _, e => ¬c.HasTable r ∧ e = .noTable r

/-- A table that is there is to get a name in a database that is not. -/
def Catalog.Homeless (c : Catalog) : HostRequest α → String → Prop
  | .renameTable source target, name =>
      c.HasTable source ∧ target.space = [name] ∧ c.databaseExists name = false
  | _, _ => False

namespace HostRequest

/-- What the request says besides its place means something. -/
def Meant : HostRequest α → Prop
  | .createTable _ fields partitionKeys properties =>
      ∃ schema, tableSchema fields partitionKeys properties = .ok schema
  | .alterTable _ changes => ∃ made, changes.mapM TableChange.toSchemaChange = .ok made
  | _ => True

/-- What the host is told of places is what is wrong, in its own words. -/
def InHostWords (request : HostRequest α) (c : Catalog) (now : Int) : Prop :=
  ∀ e, request.answer c now = .error e → e.AboutPlace → c.Amiss request e

variable {request : HostRequest α} {name : String}

theorem answer_of_homeless (homeless : c.Homeless request name) (now : Int) :
    request.answer c now = .error (.catalog (.noDatabase name)) := by
  cases request with
  | renameTable source target =>
      obtain ⟨there, space, missing⟩ := homeless
      exact renameTable_error_iff.mpr (.inr ⟨Catalog.single_of_hasTable there,
        .inr ⟨⟨name, space⟩, .inr ⟨there, .inl ⟨name, space, missing, rfl⟩⟩⟩⟩)
  | _ => exact homeless.elim

/-- No word of the catalog is one that the host has for a place. -/
theorem not_amiss_catalog {e : CatalogError} : ¬c.Amiss request (.catalog e) := by
  cases request <;> simp [Catalog.Amiss]

/-- What is told of a place is what is wrong with it, unless the table has no database to go to. -/
theorem amiss_of_aboutPlace (refused : request.answer c now = .error e) (about : e.AboutPlace) :
    c.Amiss request e ∨ ∃ name, c.Homeless request name := by
  cases request with
  | createNamespace space =>
      rcases createNamespace_error_iff.mp refused with ⟨-, rfl⟩ | amiss
      · exact about.elim
      · exact .inl amiss
  | dropNamespace space cascade =>
      rcases dropNamespace_error_iff.mp refused with ⟨-, rfl⟩ | amiss | ⟨-, -, rfl⟩
      · exact about.elim
      · exact .inl amiss
      · exact about.elim
  | listTables space =>
      rcases listTables_error_iff.mp refused with ⟨-, rfl⟩ | amiss
      · exact about.elim
      · exact .inl amiss
  | loadTable r => exact .inl (loadTable_error_iff.mp refused)
  | createTable r fields partitionKeys properties =>
      rcases createTable_error_iff.mp refused with nameless | ⟨-, barred | ⟨-, amiss⟩⟩
      · exact .inl (.inl nameless)
      · exact absurd about (not_aboutPlace_of_tableSchema barred)
      · exact .inl (.inr amiss)
  | renameTable source target =>
      rcases renameTable_error_iff.mp refused with ⟨nameless, rfl⟩ | ⟨-, nameless | ⟨-,
        missing | ⟨there, ⟨name, space, missing, -⟩ | taken⟩⟩⟩
      · exact .inl (.inl ⟨mt Catalog.single_of_hasTable nameless, rfl⟩)
      · exact .inl (.inr (.inl nameless))
      · exact .inl (.inl missing)
      · exact .inr ⟨name, there, space, missing⟩
      · exact .inl (.inr (.inr (.inr taken)))
  | alterTable r changes =>
      rcases alterTable_error_iff.mp refused with ⟨nameless, rfl⟩ | ⟨-, barred | ⟨made, -,
        missing | ⟨id, t, e', -, -, barred, rfl⟩⟩⟩
      · exact .inl ⟨mt Catalog.single_of_hasTable nameless, rfl⟩
      · obtain ⟨change, -, barred⟩ := exists_of_mapM_error barred
        exact absurd about (TableChange.not_aboutPlace_of_toSchemaChange barred)
      · exact .inl missing
      · exact absurd about (Schema.not_aboutPlace_of_applyChanges barred)

/-- A request whose place is at fault is refused for its place.  Names are read before tables are
looked for, so where there are several faults it may be another one. -/
theorem refused_of_amiss (meant : request.Meant) (amiss : c.Amiss request e) (now : Int) :
    ∃ e', request.answer c now = .error e' ∧ e'.AboutPlace := by
  cases request with
  | createNamespace space =>
      obtain ⟨there, rfl⟩ := amiss
      exact ⟨_, createNamespace_error_iff.mpr (.inr ⟨there, rfl⟩), trivial⟩
  | dropNamespace space cascade =>
      obtain ⟨missing, rfl⟩ := amiss
      exact ⟨_, dropNamespace_error_iff.mpr (.inr (.inl ⟨missing, rfl⟩)), trivial⟩
  | listTables space =>
      obtain ⟨missing, rfl⟩ := amiss
      exact ⟨_, listTables_error_iff.mpr (.inr ⟨missing, rfl⟩), trivial⟩
  | loadTable r =>
      obtain ⟨missing, rfl⟩ := amiss
      exact ⟨_, loadTable_error_iff.mpr ⟨missing, rfl⟩, trivial⟩
  | createTable r fields partitionKeys properties =>
      rcases amiss with ⟨nameless, rfl⟩ | ⟨missing, rfl⟩ | ⟨there, rfl⟩
      · exact ⟨_, createTable_error_iff.mpr (.inl ⟨nameless, rfl⟩), trivial⟩
      · exact ⟨_, createTable_error_iff.mpr (.inr ⟨Catalog.single_of_lacks missing,
          .inr ⟨meant, .inl ⟨missing, rfl⟩⟩⟩), trivial⟩
      · exact ⟨_, createTable_error_iff.mpr (.inr ⟨Catalog.single_of_hasTable there,
          .inr ⟨meant, .inr ⟨there, rfl⟩⟩⟩), trivial⟩
  | renameTable source target =>
      by_cases named : source.space.Single
      · by_cases goes : target.space.Single
        · by_cases there : c.HasTable source
          · rcases amiss with
              ⟨missing, -⟩ | ⟨nameless, -⟩ | ⟨⟨name, space, missing⟩, -⟩ | ⟨taken, rfl⟩
            · exact absurd there missing
            · exact absurd goes nameless
            · have homeless : c.Homeless (renameTable source target) name := ⟨there, space, missing⟩
              exact ⟨_, answer_of_homeless homeless now, trivial⟩
            · exact ⟨_, renameTable_error_iff.mpr
                (.inr ⟨named, .inr ⟨goes, .inr ⟨there, .inr ⟨taken, rfl⟩⟩⟩⟩), trivial⟩
          · exact ⟨_, renameTable_error_iff.mpr
              (.inr ⟨named, .inr ⟨goes, .inl ⟨there, rfl⟩⟩⟩), trivial⟩
        · exact ⟨_, renameTable_error_iff.mpr (.inr ⟨named, .inl ⟨goes, rfl⟩⟩), trivial⟩
      · exact ⟨_, renameTable_error_iff.mpr (.inl ⟨named, rfl⟩), trivial⟩
  | alterTable r changes =>
      obtain ⟨missing, rfl⟩ := amiss
      obtain ⟨made, meant⟩ := meant
      by_cases named : r.space.Single
      · exact ⟨_, alterTable_error_iff.mpr
          (.inr ⟨named, .inr ⟨made, meant, .inl ⟨missing, rfl⟩⟩⟩), trivial⟩
      · exact ⟨_, alterTable_error_iff.mpr (.inl ⟨named, rfl⟩), trivial⟩

/-- **A host is told of places in its own words, and only what is so**, except that a table has
no database to go to.  Then it is told so in the words of the catalog.  And every request with a
place that is at fault is refused for its place, if what it says besides means something. -/
theorem host_words (request : HostRequest α) (c : Catalog) (now : Int) :
    (request.InHostWords c now ↔ ¬∃ name, c.Homeless request name) ∧
    (∀ name, c.Homeless request name →
      request.answer c now = .error (.catalog (.noDatabase name))) ∧
    (request.Meant → (∃ e, c.Amiss request e) →
      ∃ e, request.answer c now = .error e ∧ e.AboutPlace) := by
  refine ⟨⟨?_, ?_⟩, fun name homeless => answer_of_homeless homeless now, ?_⟩
  · rintro words ⟨name, homeless⟩
    exact not_amiss_catalog (words _ (answer_of_homeless homeless now) trivial)
  · intro housed e refused about
    exact (amiss_of_aboutPlace refused about).resolve_right housed
  · rintro meant ⟨e, amiss⟩
    exact refused_of_amiss meant amiss now

/-- A lake with boats is asked for a table in a dock that is not there, to give the boats the name
of the ships that are, and to send them to the dock. -/
theorem host_words_boats :
    let boats : TableRef := ⟨["lake"], "boats"⟩
    let ships : TableRef := ⟨["lake"], "ships"⟩
    let c := CatalogOp.afterAll (.new "sea" ∅) [(.createDatabase "lake" false, 0),
      (.createTable ⟨"lake", "boats"⟩ ⟨0, [], [], [], ∅, none⟩ false, 1),
      (.createTable ⟨"lake", "ships"⟩ ⟨0, [], [], [], ∅, none⟩ false, 2)]
    let make := createTable ⟨["dock"], "boats"⟩ [] [] ∅
    let rename := renameTable boats ships
    let send := renameTable boats ⟨["dock"], "boats"⟩
    make.InHostWords c 3 ∧ (∃ e, make.answer c 3 = .error e ∧ e.AboutPlace) ∧
      rename.InHostWords c 3 ∧ (∃ e, rename.answer c 3 = .error e ∧ e.AboutPlace) ∧
      send.answer c 3 = .error (.catalog (.noDatabase "dock")) := by
  intro boats ships c make rename send
  have makeHoused : ¬∃ name, c.Homeless make name := fun ⟨_, homeless⟩ => homeless
  have renameHoused : ¬∃ name, c.Homeless rename name := by
    rintro ⟨name, there, ⟨⟩, missing⟩
    exact absurd missing (by decide +kernel)
  have missing : c.databaseExists "dock" = false := by decide +kernel
  have there : c.HasTable boats := ⟨⟨"lake", "boats"⟩, rfl, by decide +kernel⟩
  have taken : c.HasTable ships := ⟨⟨"lake", "ships"⟩, rfl, by decide +kernel⟩
  obtain ⟨makeWords, -, makeRefused⟩ := host_words make c 3
  obtain ⟨renameWords, -, renameRefused⟩ := host_words rename c 3
  obtain ⟨-, sent, -⟩ := host_words send c 3
  exact ⟨makeWords.mpr makeHoused,
    makeRefused ⟨_, rfl⟩ ⟨_, .inr (.inl ⟨⟨"dock", rfl, missing⟩, rfl⟩)⟩,
    renameWords.mpr renameHoused, renameRefused trivial ⟨_, .inr (.inr (.inr ⟨taken, rfl⟩))⟩,
    sent "dock" ⟨there, rfl, missing⟩⟩

/-- The boats of a lake are to go to a dock that is not there.  That is said in the words of the
catalog, where making a table in the dock is refused in the words of the host. -/
theorem dock_missing_unworded :
    let boats : TableRef := ⟨["lake"], "boats"⟩
    let docked : TableRef := ⟨["dock"], "boats"⟩
    let c := CatalogOp.afterAll (.new "sea" ∅) [(.createDatabase "lake" false, 0),
      (.createTable ⟨"lake", "boats"⟩ ⟨0, [], [], [], ∅, none⟩ false, 1)]
    Reachable c ∧
      (renameTable boats docked).answer c 2 = .error (.catalog (.noDatabase "dock")) ∧
      ¬(renameTable boats docked).InHostWords c 2 ∧
      (createTable docked [] [] ∅).answer c 2 = .error (.noNamespace ["dock"]) := by
  intro boats docked c
  have missing : c.databaseExists "dock" = false := by decide +kernel
  have there : c.HasTable boats := ⟨⟨"lake", "boats"⟩, rfl, by decide +kernel⟩
  have homeless : c.Homeless (renameTable boats docked) "dock" := ⟨there, rfl, missing⟩
  have refused := answer_of_homeless homeless 2
  refine ⟨(Reachable.new "sea" ∅).afterAll _, refused, ?_, ?_⟩
  · exact fun words => not_amiss_catalog (words _ refused trivial)
  · exact createTable_error_iff.mpr (.inr ⟨⟨"dock", rfl⟩,
      .inr ⟨⟨_, rfl⟩, .inl ⟨⟨"dock", rfl, missing⟩, rfl⟩⟩⟩)

end HostRequest

end TableLake
