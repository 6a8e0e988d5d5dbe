/-
# TableLake.Proofs.CatalogFault — what a refused operation says of databases and tables

An operation of a catalog is refused because a database or a table is missing, because its name is
taken, or for a reason of its own.  One lemma an operation says exactly when and in which words
(`renameTable_error_iff` and its like).  Of the reasons of their own those that a host can run into
when it makes or alters a table speak of keys, properties and columns, never of a place
(`CatalogError.AboutPlace`).
-/
import TableLake.Namespace.TableChange
import TableLake.Proofs.CatalogEntry
import TableLake.Proofs.ColumnFault

namespace TableLake

open TableLake.Outcome

set_option autoImplicit false

/-! ## Refusals of a catalog -/

namespace Catalog

variable {c : Catalog} {id source target : TableId} {name : String} {e : CatalogError}

theorem createDatabase_error_iff : c.createDatabase name false = .error e ↔
    c.databaseExists name = true ∧ e = .databaseExists name := by
  unfold createDatabase
  cases c.databaseExists name <;> simp [eq_comm (a := e)]

theorem dropDatabase_error_iff {cascade : Bool} :
    c.dropDatabase name false cascade = .error e ↔
      c.databaseExists name = false ∧ e = .noDatabase name ∨
        cascade = false ∧ (∃ db, c.databases.get? name = some db ∧ db.isEmpty = false) ∧
          e = .databaseNotEmpty name := by
  rw [databaseExists_eq_false_iff, dropDatabase]
  cases c.databases.get? name with
  | none => simp [eq_comm (a := e)]
  | some db => cases cascade <;> cases hold : db.isEmpty <;> simp [hold, eq_comm (a := e)]

theorem database_error_iff :
    c.database name = .error e ↔ c.databaseExists name = false ∧ e = .noDatabase name := by
  rw [databaseExists_eq_false_iff, database]
  cases c.databases.get? name <;> simp [eq_comm (a := e)]

theorem listTables_error_iff :
    c.listTables name = .error e ↔ c.databaseExists name = false ∧ e = .noDatabase name := by
  rw [← database_error_iff, listTables]
  cases c.database name <;> simp [Functor.map, Except.map]

theorem entry_error_iff : c.entry id = .error e ↔ c.tableExists id = false ∧ e = .noTable id := by
  rw [tableExists_eq_false_iff, entry]
  cases c.entry? id <;> simp [eq_comm (a := e)]

theorem getTable_error_iff :
    c.getTable id = .error e ↔ c.tableExists id = false ∧ e = .noTable id := by
  rw [← entry_error_iff, getTable]
  cases c.entry id <;> simp [Functor.map, Except.map]

/-- A name is taken if it is found in a database that is there. -/
theorem taken_iff {make : Database → Catalog} {refusal : CatalogError} :
    (∃ db, c.database id.database = .ok db ∧
        (if db.contains id.object then .error refusal else pure (make db)) = Except.error e) ↔
      c.tableExists id = true ∧ e = refusal := by
  unfold database tableExists entry?
  cases c.databases.get? id.database with
  | none => simp
  | some db =>
      cases here : db.get? id.object <;>
        simp [OrderedMap.contains, here, eq_comm (a := e), pure, Except.pure]

theorem createTable_error_iff {schema : Schema} : c.createTable id schema false = .error e ↔
    c.databaseExists id.database = false ∧ e = .noDatabase id.database ∨
      c.tableExists id = true ∧ e = .tableExists id := by
  unfold createTable
  rw [bind_eq_error_iff, database_error_iff]
  exact or_congr Iff.rfl taken_iff

/-- The table is looked for first, then the database that it is to go to, then its new name. -/
theorem renameTable_error_iff : c.renameTable source target false = .error e ↔
    c.tableExists source = false ∧ e = .noTable source ∨
      c.tableExists source = true ∧
        (c.databaseExists target.database = false ∧ e = .noDatabase target.database ∨
          c.tableExists target = true ∧ e = .tableExists target) := by
  rw [renameTable, tableExists]
  cases c.entry? source with
  | none => simp [eq_comm (a := e)]
  | some t =>
      simp only [Option.isSome_some, Bool.true_eq_false, false_and, false_or, true_and,
        bind_eq_error_iff, database_error_iff]
      exact or_congr Iff.rfl taken_iff

theorem alterTable_error_iff {changes : List SchemaChange} :
    c.alterTable id changes false = .error e ↔
      c.tableExists id = false ∧ e = .noTable id ∨
        ∃ t, c.entry? id = some t ∧ t.schema.applyChanges id changes = .error e := by
  have evolved {t : TableEntry} :
      (do return { t with schema := ← t.schema.applyChanges id changes }) =
          (.error e : Except CatalogError TableEntry) ↔
        t.schema.applyChanges id changes = .error e := by
    cases t.schema.applyChanges id changes <;> simp [bind, Except.bind, pure, Except.pure]
  unfold alterTable modifyEntry
  simp only [Bool.false_and, Bool.false_eq_true, if_false, bind_eq_error_iff, entry_error_iff,
    entry_ok_iff, evolved]
  refine or_congr Iff.rfl (exists_congr fun t => and_congr_right fun _ => ?_)
  simp [pure, Except.pure]

end Catalog

/-! ## Reasons that are none of the place -/

/-- The error speaks of a database or a table that is missing or there. -/
def CatalogError.AboutPlace : CatalogError → Prop
  | .databaseExists _ | .noDatabase _ | .tableExists _ | .noTable _ => True
  | _ => False

/-- The error speaks of a database or a table that is missing or there, in the words of the host
or in those of the catalog. -/
def NamespaceError.AboutPlace : NamespaceError → Prop
  | .noNamespace _ | .namespaceExists _ | .noTable _ | .tableExists _ => True
  | .catalog e => e.AboutPlace
  | _ => False

/-- What is said of columns is said of nothing else. -/
theorem CatalogError.TrueOf.not_aboutPlace {table : TableId} {s : Schema} {e : CatalogError}
    (so : e.TrueOf table s) : ¬e.AboutPlace := by
  intro about
  cases e <;> first | exact about | exact so

theorem Schema.not_aboutPlace_of_applyChanges {s : Schema} {table : TableId}
    {changes : List SchemaChange} {e : CatalogError}
    (refused : s.applyChanges table changes = .error e) : ¬e.AboutPlace := by
  rcases bind_eq_error_iff.mp refused with refused | ⟨evolved, -, ⟨⟩⟩
  obtain ⟨made, change, rest, mid, -, -, refused⟩ := exists_of_evolve_error refused
  by_cases so : e.TrueOf table mid
  · exact so.not_aboutPlace
  · obtain ⟨column, rfl, single⟩ := not_not.mp (mt (true_iff_of_applyChange refused).mpr so)
    have denied : mid.moveColumn table column (.after column) = .error e := refused
    rw [(moveColumn_after_itself table single).2] at denied
    cases denied
    exact not_false

namespace TableChange

variable {e : NamespaceError}

theorem not_aboutPlace_of_topLevel {path : List String} (refused : topLevel path = .error e) :
    ¬e.AboutPlace := by
  unfold topLevel at refused
  split at refused <;> cases refused
  exact not_false

theorem not_aboutPlace_of_admitProperty {property : String}
    (refused : admitProperty property = .error e) : ¬e.AboutPlace := by
  unfold admitProperty at refused
  split at refused <;> cases refused
  exact not_false

/-- A change that means none of the catalog is refused for its property or its path. -/
theorem not_aboutPlace_of_toSchemaChange {change : TableChange}
    (refused : change.toSchemaChange = .error e) : ¬e.AboutPlace := by
  have named {β : Type} {path : List String} {made : String → β}
      (refused : (do return made (← topLevel path)) = .error e) : ¬e.AboutPlace := by
    rcases bind_eq_error_iff.mp refused with nested | ⟨column, -, ⟨⟩⟩
    exact not_aboutPlace_of_topLevel nested
  cases change with
  | setProperty property value =>
      rcases bind_eq_error_iff.mp refused with barred | ⟨_, -, ⟨⟩⟩
      exact not_aboutPlace_of_admitProperty barred
  | removeProperty property =>
      rcases bind_eq_error_iff.mp refused with barred | ⟨_, -, ⟨⟩⟩
      exact not_aboutPlace_of_admitProperty barred
  | addColumn path type nullable comment place => exact named refused
  | renameColumn path newName => exact named refused
  | deleteColumn path => exact named refused
  | updateType path type => exact named refused
  | updateNullability path nullable => cases refused
  | updateComment path comment => cases refused
  | updatePosition path place =>
      cases path with
      | nil =>
          cases refused
          exact not_false
      | cons column rest => cases refused

end TableChange

/-- A schema that is not admitted is refused for a key. -/
theorem not_aboutPlace_of_tableSchema {fields : List Field} {partitionKeys : List String}
    {properties : Options} {e : NamespaceError}
    (refused : tableSchema fields partitionKeys properties = .error e) : ¬e.AboutPlace := by
  simp only [tableSchema, SchemaDraft.build] at refused
  split at refused <;> cases refused
  exact not_false

end TableLake
