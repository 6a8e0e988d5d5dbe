/-
# TableLake.Proofs.KeyLedger — a primary key is what it was made, under the names of today

Whoever writes down, for each table that hosts make, the columns that its property for the
primary key names and every rename of a column since, knows the primary key: it is those columns
in that order, each under the name it has come to (`primary_keys_follow_renames`).  No host can
say anything else about it later.  The property is taken out of the settings when the table is
made, and refused among the changes of a table (`rename?_of_toSchemaChange`); of all changes only
a rename touches the key (`Schema.primaryKeys_of_applyChanges`).

The ledger is kept by what hosts ask for and whether they are refused; it does not look at the
catalog.  `KeyLedger.Tells` says that it is right about every table, and each accepted operation
keeps it so (`KeyLedger.Tells.host`).
-/
import TableLake.Proofs.RegisterAmid
import Mathlib.Logic.Function.Basic

namespace TableLake

open TableLake.Outcome

set_option autoImplicit false

/-! ## Renames -/

/-- The name that a column has come to by renames, the oldest first. -/
def renamedBy (renames : List (String × String)) (column : String) : String :=
  renames.foldl (fun name rename => if name = rename.1 then rename.2 else name) column

theorem renamedBy_append (first second : List (String × String)) (column : String) :
    renamedBy (first ++ second) column = renamedBy second (renamedBy first column) :=
  List.foldl_append

/-- The rename of a column that a change is, if it is one. -/
def SchemaChange.rename? : SchemaChange → Option (String × String)
  | .renameColumn column newName => some (column, newName)
  | _ => none

namespace Schema

variable {s s' : Schema} {change : SchemaChange}

/-- Only a rename touches the primary key. -/
theorem Step.primaryKeys_eq (step : s.Step change s') :
    s'.primaryKeys = s.primaryKeys.map (renamedBy change.rename?.toList) := by
  cases step with
  | renameColumn => rfl
  | _ => exact (List.map_id _).symm

theorem primaryKeys_of_applyChanges {table : TableId} {changes : List SchemaChange}
    (changed : s.applyChanges table changes = .ok s') :
    s'.primaryKeys = s.primaryKeys.map (renamedBy (changes.filterMap SchemaChange.rename?)) := by
  let names (made : List SchemaChange) := renamedBy (made.filterMap SchemaChange.rename?)
  let kept (made : List SchemaChange) (s' : Schema) :=
    s'.primaryKeys = s.primaryKeys.map (names made)
  have start : kept [] s := (List.map_id s.primaryKeys).symm
  have all : kept ([] ++ changes) s' := by
    refine applyChanges_induction ?_ (fun kept => kept) start changed
    intro made s₁ s₂ change before step
    have one : [change].filterMap SchemaChange.rename? = change.rename?.toList := by
      cases change <;> rfl
    have both : names (made ++ [change]) = renamedBy change.rename?.toList ∘ names made := by
      funext column
      show renamedBy ((made ++ [change]).filterMap SchemaChange.rename?) column = _
      rw [List.filterMap_append, one, renamedBy_append]
      rfl
    show s₂.primaryKeys = s.primaryKeys.map (names (made ++ [change]))
    rw [step.primaryKeys_eq, before, List.map_map, both]
  exact all

/-- Changes that do not set a key leave it out of the settings. -/
theorem options_of_applyChanges {table : TableId} {changes : List SchemaChange} {key : String}
    (others : ∀ change ∈ changes, ∀ value, change ≠ .setOption key value)
    (free : s.options.contains key = false)
    (changed : s.applyChanges table changes = .ok s') : s'.options.contains key = false := by
  have step {s s' : Schema} {change : SchemaChange} (other : ∀ value, change ≠ .setOption key value)
      (free : s.options.contains key = false) (step : s.Step change s') :
      s'.options.contains key = false := by
    cases step with
    | setOption key' value =>
        have differs : key' ≠ key := by
          rintro rfl
          exact other value rfl
        rw [OrderedMap.contains, OrderedMap.get?_insert, if_neg differs]
        exact free
    | removeOption key' =>
        rw [OrderedMap.contains, OrderedMap.get?_erase]
        split
        · rfl
        · exact free
    | _ => exact free
  exact keeps_of_allowed step (fun kept => kept) others free changed

end Schema

/-- The rename of a column that is asked for, if it is one. -/
def TableChange.rename? : TableChange → Option (String × String)
  | .renameColumn [column] newName => some (column, newName)
  | _ => none

/-- A host renames what it says, and does not set the property of the primary key. -/
theorem TableChange.rename?_of_toSchemaChange {change : TableChange} {made : SchemaChange}
    (asked : change.toSchemaChange = .ok made) :
    made.rename? = change.rename? ∧ ∀ value, made ≠ .setOption primaryKeyProperty value := by
  cases change with
  | setProperty property value =>
      simp only [toSchemaChange, admitProperty, bind_eq_ok_iff, pure_eq_ok_iff] at asked
      obtain ⟨⟨⟩, admitted, rfl⟩ := asked
      refine ⟨rfl, ?_⟩
      rintro _ ⟨⟩
      rw [if_pos rfl] at admitted
      cases admitted
  | renameColumn path newName =>
      simp only [toSchemaChange, bind_eq_ok_iff, pure_eq_ok_iff] at asked
      obtain ⟨column, single, rfl⟩ := asked
      refine ⟨?_, by rintro _ ⟨⟩⟩
      unfold topLevel at single
      split at single
      · cases single
        rfl
      · cases single
  | updatePosition path place =>
      simp only [toSchemaChange] at asked
      split at asked
      · cases asked
        exact ⟨rfl, by rintro _ ⟨⟩⟩
      · cases asked
  | updateNullability path nullable =>
      cases asked
      exact ⟨rfl, by rintro _ ⟨⟩⟩
  | updateComment path comment =>
      cases asked
      exact ⟨rfl, by rintro _ ⟨⟩⟩
  | _ =>
      simp only [toSchemaChange, bind_eq_ok_iff, pure_eq_ok_iff] at asked
      obtain ⟨-, -, rfl⟩ := asked
      exact ⟨rfl, by rintro _ ⟨⟩⟩

theorem TableChange.renames_of_mapM {changes : List TableChange} {made : List SchemaChange}
    (asked : changes.mapM TableChange.toSchemaChange = .ok made) :
    made.filterMap SchemaChange.rename? = changes.filterMap TableChange.rename? ∧
      ∀ change ∈ made, ∀ value, change ≠ .setOption primaryKeyProperty value := by
  have related := mapM_eq_ok_iff.mp asked
  clear asked
  induction related with
  | nil => exact ⟨rfl, by rintro _ ⟨⟩⟩
  | cons head _ ih =>
      obtain ⟨same, other⟩ := rename?_of_toSchemaChange head
      refine ⟨?_, List.forall_mem_cons.mpr ⟨other, ih.2⟩⟩
      rw [List.filterMap_cons, List.filterMap_cons, same, ih.1]

/-! ## The ledger -/

/-- What is written down about the primary key of a table. -/
structure KeyRecord where
  /-- The columns that the property named when the table was made. -/
  named : List String
  /-- The renames of columns that were accepted since, the oldest first. -/
  renames : List (String × String)
deriving DecidableEq

/-- The columns under the names they have come to. -/
def KeyRecord.keys (record : KeyRecord) : List String :=
  record.named.map (renamedBy record.renames)

/-- The record is right about a table. -/
structure KeyRecord.Describes (record : KeyRecord) (t : TableEntry) : Prop where
  keys : t.schema.primaryKeys = record.keys
  settled : t.schema.options.contains primaryKeyProperty = false

namespace KeyRecord.Describes

variable {record : KeyRecord} {t : TableEntry}

/-- A new table has the primary key of the property, and the property is not kept. -/
theorem new {schema : Schema} {fields : List Field} {partitionKeys : List String}
    {properties : Options} (settled : tableSchema fields partitionKeys properties = .ok schema) :
    Describes ⟨primaryKeysOf properties, []⟩ (.new schema) := by
  unfold tableSchema at settled
  obtain ⟨-, rfl⟩ := Schema.build_ok_iff.mp (mapError_eq_ok_iff.mp settled)
  exact ⟨(List.map_id _).symm, OrderedMap.contains_erase properties primaryKeyProperty⟩

theorem altered {schema : Schema} {id : TableId} {changes : List TableChange}
    {made : List SchemaChange} (describes : record.Describes t)
    (asked : changes.mapM TableChange.toSchemaChange = .ok made)
    (evolved : t.schema.applyChanges id made = .ok schema) :
    Describes { record with renames := record.renames ++ changes.filterMap TableChange.rename? }
      { t with schema } := by
  obtain ⟨same, others⟩ := TableChange.renames_of_mapM asked
  refine ⟨?_, Schema.options_of_applyChanges others describes.settled evolved⟩
  show schema.primaryKeys = record.named.map _
  rw [Schema.primaryKeys_of_applyChanges evolved, describes.keys, KeyRecord.keys, List.map_map,
    same]
  refine List.map_congr_left fun column _ => ?_
  rw [renamedBy_append]
  rfl

end KeyRecord.Describes

/-- The records by the names of the tables. -/
abbrev KeyLedger := TableId → Option KeyRecord

theorem Namespace.of_drop {space : Namespace} {cascade : Bool} {c : Catalog} {now : Int} {s : Store}
    (done : (drop space cascade).outcome (.new c now) = (.ok (), s)) :
    ∃ name c', database space = .ok name ∧ c.dropDatabase name false cascade = .ok c' ∧
      s = .new c' now := by
  simp only [drop, outcome_bind_ok_iff, outcome_ofExcept_ok_iff] at done
  obtain ⟨name, _, ⟨named, rfl⟩, asked⟩ := done
  obtain ⟨c', dropped, rfl⟩ := made_of_ask asked
  exact ⟨name, c', named, dropped, rfl⟩

/-- A table that is made and dropped again leaves the tables that there were. -/
theorem Catalog.entry?_taken_back {c c' : Catalog} {id : TableId} {schema : Schema}
    (created : c.createTable id schema false = .ok c') (other : TableId) :
    Catalog.entry? (c'.eraseEntry id) other = c.entry? other := by
  have effect : CatalogOp.Effect c 0 (.createTable id schema false) c' none :=
    CatalogOp.effect_createTable created
  rw [entry?_eraseEntry]
  split
  · rename_i same
    cases effect with
    | idle idle => cases idle.1
    | createTable inside free => exact same ▸ free.symm
    | step _ step => cases step
  · rename_i differs
    exact effect.entry?_of_spared differs

/-- The operation leaves the schemas of all tables alone. -/
def CatalogOp.OnRows : CatalogOp → Prop
  | .write _ _ | .compact _ _ | .rollbackTo _ _ | .createTag _ _ _ => True
  | _ => False

namespace KeyLedger

/-- The ledger without the tables of a database. -/
def without (ledger : KeyLedger) (database : String) : KeyLedger :=
  fun id => if database = id.database then none else ledger id

/-- What is written down when an operation of a host is accepted. -/
def after (ledger : KeyLedger) {ε α : Type} : HostOp ε α → KeyLedger
  | .createTable r _ _ properties =>
      match Namespace.tableId r with
      | .ok id => Function.update ledger id (some ⟨primaryKeysOf properties, []⟩)
      | .error _ => ledger
  | .alterTable r changes =>
      match Namespace.tableId r with
      | .ok id => Function.update ledger id ((ledger id).map fun record =>
          { record with renames := record.renames ++ changes.filterMap TableChange.rename? })
      | .error _ => ledger
  | .dropTable r =>
      match Namespace.tableId r with
      | .ok id => Function.update ledger id none
      | .error _ => ledger
  | .renameTable source target =>
      match Namespace.tableId source, Namespace.tableId target with
      | .ok source, .ok target =>
          Function.update (Function.update ledger source none) target (ledger source)
      | _, _ => ledger
  | .dropNamespace space _ =>
      match Namespace.database space with
      | .ok name => ledger.without name
      | .error _ => ledger
  | .deregisterSchema name _ => ledger.without name
  | .createNamespace _ | .registerSchema _ => ledger

/-- The ledger has a record of each table, and no others, and they are right. -/
def Tells (ledger : KeyLedger) (c : Catalog) : Prop :=
  ∀ id, Option.Rel KeyRecord.Describes (ledger id) (c.entry? id)

variable {ledger : KeyLedger} {c c' : Catalog} {now : Int} {id : TableId}

namespace Tells

theorem described {t : TableEntry} (tells : ledger.Tells c) (found : c.entry? id = some t) :
    ∃ record, ledger id = some record ∧ record.Describes t := by
  have told := tells id
  rw [found] at told
  cases written : ledger id with
  | none =>
      rw [written] at told
      cases told
  | some record =>
      rw [written] at told
      cases told with
      | some describes => exact ⟨record, rfl, describes⟩

theorem there {record : KeyRecord} (tells : ledger.Tells c) (written : ledger id = some record) :
    ∃ t, c.entry? id = some t := by
  have told := tells id
  rw [written] at told
  cases found : c.entry? id with
  | none =>
      rw [found] at told
      cases told
  | some t => exact ⟨t, rfl⟩

/-- One record is written for the table that an operation concerns. -/
theorem update {record : Option KeyRecord} (tells : ledger.Tells c)
    (others : ∀ other, other ≠ id → c'.entry? other = c.entry? other)
    (here : Option.Rel KeyRecord.Describes record (c'.entry? id)) :
    Tells (Function.update ledger id record) c' := by
  intro other
  by_cases same : other = id
  · subst same
    rw [Function.update_self]
    exact here
  · rw [Function.update_of_ne same, others other same]
    exact tells other

theorem without (tells : ledger.Tells c) (name : String) :
    Tells (ledger.without name) (c.without name) := by
  intro id
  rw [Catalog.without, Catalog.entry?_eraseDatabase, KeyLedger.without]
  split
  · exact .none
  · exact tells id

theorem erased (tells : ledger.Tells c) (id : TableId) :
    Tells (Function.update ledger id none) (c.eraseEntry id) := by
  refine tells.update (fun other differs => ?_) ?_
  · rw [Catalog.entry?_eraseEntry, if_neg differs.symm]
  · rw [Catalog.entry?_eraseEntry, if_pos rfl]
    exact .none

/-- A table that is moved takes its record along. -/
theorem moved {source target : TableId} {t : TableEntry} {db : Database} (tells : ledger.Tells c)
    (found : c.entry? source = some t) (inside : c.databases.get? target.database = some db) :
    Tells (Function.update (Function.update ledger source none) target (ledger source))
      ((c.eraseEntry source).setEntry target t) := by
  obtain ⟨db', inside⟩ := Catalog.exists_database_eraseEntry inside source
  refine (tells.erased source).update (fun other differs => ?_) ?_
  · rw [Catalog.entry?_setEntry inside, if_neg differs.symm]
  · rw [Catalog.entry?_setEntry inside, if_pos rfl, ← found]
    exact tells source

/-- A table that is made is described by the property that it is made with. -/
theorem made {schema : Schema} {fields : List Field} {partitionKeys : List String}
    {properties : Options} (tells : ledger.Tells c)
    (settled : tableSchema fields partitionKeys properties = .ok schema)
    (done : c.createTable id schema false = .ok c') :
    Tells (Function.update ledger id (some ⟨primaryKeysOf properties, []⟩)) c' := by
  have effect : CatalogOp.Effect c 0 (.createTable id schema false) c' none :=
    CatalogOp.effect_createTable done
  refine tells.update (fun other differs => effect.entry?_of_spared differs.symm) ?_
  rw [Catalog.entry?_createTable done]
  exact .some (.new settled)

theorem altered {changes : List TableChange} {made : List SchemaChange} (tells : ledger.Tells c)
    (asked : changes.mapM TableChange.toSchemaChange = .ok made)
    (done : c.alterTable id made false = .ok c') :
    Tells (Function.update ledger id ((ledger id).map fun record =>
      { record with renames := record.renames ++ changes.filterMap TableChange.rename? })) c' := by
  have effect : CatalogOp.Effect c 0 (.alterTable id made false) c' none :=
    CatalogOp.effect_alterTable done
  refine tells.update (fun other differs => effect.entry?_of_spared differs.symm) ?_
  rcases Catalog.entry?_alterTable done with ⟨⟨⟩, -, -⟩ | ⟨t, schema, found, evolved, left⟩
  obtain ⟨record, written, describes⟩ := tells.described found
  rw [left, written]
  exact .some (describes.altered asked evolved)

theorem renamed {source target : TableId} (tells : ledger.Tells c)
    (done : c.renameTable source target false = .ok c') :
    Tells (Function.update (Function.update ledger source none) target (ledger source)) c' := by
  have effect : CatalogOp.Effect c 0 (.renameTable source target false) c' none :=
    CatalogOp.effect_renameTable done
  cases effect with
  | idle idle => cases idle.1
  | renameTable found inside free => exact tells.moved found inside
  | step _ step => cases step

theorem congr (tells : ledger.Tells c) (same : ∀ id, c'.entry? id = c.entry? id) :
    ledger.Tells c' :=
  fun id => same id ▸ tells id

theorem made_database {name : String} {ignoreIfExists : Bool} (tells : ledger.Tells c)
    (done : c.createDatabase name ignoreIfExists = .ok c') : ledger.Tells c' := by
  have effect : CatalogOp.Effect c 0 (.createDatabase name ignoreIfExists) c' none :=
    CatalogOp.effect_createDatabase done
  exact tells.congr fun id => effect.entry?_of_spared fun none => none

/-- Whether there was a table or not, there is none afterwards. -/
theorem dropped {r : TableRef} (tells : ledger.Tells c) (named : Namespace.tableId r = .ok id)
    {answer : Bool} {s : Store}
    (done : (Namespace.dropTable r).outcome (.new c now) = (.ok answer, s)) :
    Tells (Function.update ledger id none) s.catalog := by
  have left := (HostOp.dropTable r).left_run c now
  simp only [HostOp.run, HostOp.amounts?, named, done] at left
  have gone : s = .new (c.eraseEntry id) now := by
    rw [← CatalogOp.after_dropTable c id false now]
    exact left
  rw [gone]
  exact tells.erased id

theorem dropped_database {name : String} {ignoreIfMissing cascade : Bool} (tells : ledger.Tells c)
    (done : c.dropDatabase name ignoreIfMissing cascade = .ok c') :
    Tells (ledger.without name) c' := by
  have effect : CatalogOp.Effect c 0 (.dropDatabase name ignoreIfMissing cascade) c' none :=
    CatalogOp.effect_dropDatabase done
  cases effect with
  | idle idle =>
      have missing := Catalog.databaseExists_eq_false_iff.mp idle.2
      have same := Catalog.without_of_missing missing
      exact same ▸ tells.without name
  | dropDatabase => exact tells.without name
  | step _ step => cases step

end Tells

/-- The ledger stays right when a host does what it is asked to. -/
theorem Tells.host {ε α : Type} {op : HostOp ε α} {answer : α} {s : Store}
    (tells : ledger.Tells c) (done : op.run.outcome (.new c now) = (.ok answer, s)) :
    Tells (ledger.after op) s.catalog := by
  cases op with
  | createNamespace space =>
      simp only [HostOp.run, Namespace.create, outcome_bind_ok_iff, outcome_ofExcept_ok_iff] at done
      obtain ⟨name, _, ⟨-, rfl⟩, asked⟩ := done
      obtain ⟨c', made, rfl⟩ := Namespace.made_of_ask asked
      exact tells.made_database made
  | registerSchema name =>
      obtain ⟨c', made, rfl⟩ := InStore.made_of_update (outcome_adapt_ok_iff.mp done)
      exact tells.made_database made
  | createTable r fields partitionKeys properties =>
      obtain ⟨id, schema, c', named, settled, made, rfl⟩ := Namespace.of_createTable done
      simp only [after, named]
      exact tells.made settled made
  | alterTable r changes =>
      obtain ⟨id, made, c', named, meant, altered, rfl⟩ := Namespace.of_alterTable done
      simp only [after, named]
      exact tells.altered meant altered
  | renameTable source target =>
      simp only [HostOp.run, Namespace.renameTable, outcome_bind_ok_iff, outcome_ofExcept_ok_iff]
        at done
      obtain ⟨sourceId, _, ⟨named, rfl⟩, targetId, _, ⟨named', rfl⟩, asked⟩ := done
      obtain ⟨c', moved, rfl⟩ := Namespace.made_of_ask asked
      simp only [after, named, named']
      exact tells.renamed moved
  | dropTable r =>
      simp only [after]
      cases named : Namespace.tableId r with
      | error e =>
          have unchanged : (Namespace.dropTable r).outcome (.new c now) = (.ok false, .new c now) :=
            Namespace.outcome_dropTable_missing fun id other => by rw [named] at other; cases other
          cases unchanged.symm.trans done
          exact tells
      | ok id => exact tells.dropped named done
  | dropNamespace space cascade =>
      obtain ⟨name, c', named, dropped, rfl⟩ := Namespace.of_drop done
      simp only [after, named]
      exact tells.dropped_database dropped
  | deregisterSchema name cascade =>
      simp only [HostOp.run, LakeSchema.outcome_deregisterSchema] at done
      split at done
      · obtain ⟨_, c', ⟨⟩, dropped, rfl⟩ := Namespace.of_drop (outcome_adapt_ok_iff.mp done)
        exact tells.dropped_database dropped
      · rename_i missing
        cases done
        have none := Catalog.databaseExists_eq_false_iff.mp (Bool.not_eq_true _ ▸ missing)
        have idle : c.dropDatabase name true cascade = .ok c := by
          rw [Catalog.dropDatabase, none]
          rfl
        exact tells.dropped_database idle

/-- Work on the rows of tables leaves the ledger right. -/
theorem Tells.rows {op : CatalogOp} (tells : ledger.Tells c) (rows : op.OnRows) (now : Int) :
    ledger.Tells (op.after c now) := by
  rcases op.after_cases c now with ⟨-, same⟩ | ⟨answer, -, effect⟩
  · rw [same]
    exact tells
  · generalize op.after c now = c' at effect
    cases effect with
    | idle => exact tells
    | @step _ id t t' answer found step =>
        obtain ⟨db, inside, -⟩ := Catalog.exists_database_of_entry? found
        have same : t'.schema = t.schema := by
          cases step with
          | alter => exact rows.elim
          | _ => rfl
        obtain ⟨record, written, describes⟩ := tells.described found
        intro other
        rw [Catalog.entry?_setEntry inside]
        split
        · rename_i here
          rw [← here, written]
          exact .some ⟨same ▸ describes.keys, same ▸ describes.settled⟩
        · exact tells other
    | _ => exact rows.elim

/-- A table that is registered has no primary key; one that is taken back leaves no record. -/
theorem Tells.register (tells : ledger.Tells c) (schema name : String) (t : HostTable) (now : Int) :
    Tells (if ((LakeSchema.register schema name t).outcome (.new c now)).1.isOk then
        Function.update ledger ⟨schema, name⟩ (some ⟨[], []⟩) else ledger)
      ((LakeSchema.register schema name t).outcome (.new c now)).2.catalog := by
  rcases LakeSchema.register_cases schema name t c now with
    ⟨e, left⟩ | ⟨made, c', settled, created, ⟨e, left⟩ | left | left⟩
  · rw [left]
    exact tells
  · rw [left]
    exact tells.congr fun id => Catalog.entry?_taken_back created id
  · rw [left]
    exact tells.made settled created
  · rw [left]
    have rows : (CatalogOp.write ⟨schema, name⟩ t.batches).OnRows := trivial
    exact Tells.rows (tells.made settled created) rows now

/-- Hosts and those who work on the rows of tables lead to a catalog, and the ledger says what
is written down along the way: what a host is asked to do counts if it is accepted. -/
inductive Run : KeyLedger → Catalog → Prop
  | new (warehouse : String) (options : Options) : Run (fun _ => none) (.new warehouse options)
  | host {ε α : Type} {ledger : KeyLedger} {c : Catalog} (before : Run ledger c)
      (op : HostOp ε α) (now : Int) :
      Run (if (op.run.outcome (.new c now)).1.isOk then ledger.after op else ledger)
        (op.after c now)
  | register {ledger : KeyLedger} {c : Catalog} (before : Run ledger c) (schema name : String)
      (t : HostTable) (now : Int) :
      Run (if ((LakeSchema.register schema name t).outcome (.new c now)).1.isOk then
          Function.update ledger ⟨schema, name⟩ (some ⟨[], []⟩) else ledger)
        ((LakeSchema.register schema name t).outcome (.new c now)).2.catalog
  | rows {ledger : KeyLedger} {c : Catalog} (before : Run ledger c) (op : CatalogOp) (now : Int)
      (rows : op.OnRows) : Run ledger (op.after c now)

theorem Run.tells (run : Run ledger c) : ledger.Tells c := by
  induction run with
  | new warehouse options => exact fun _ => .none
  | @host ε α ledger c before op now tells =>
      unfold HostOp.after
      rcases outcome : op.run.outcome (.new c now) with ⟨e | answer, s⟩
      · have unchanged := op.allOrNothing_run c now e s outcome
        rw [unchanged]
        exact tells
      · exact tells.host outcome
  | register before schema name t now tells => exact tells.register schema name t now
  | rows before op now rows tells => exact tells.rows rows now

end KeyLedger

/-- **A primary key can only follow renames.**  In every catalog that hosts lead to, in any order
and refused or not, no table has the property of the primary key among its settings, and the
primary key of a table is the columns that its property named when it was made, in that order,
each under the name it has come to by the renames that were accepted since.  The tables that were
registered name none. -/
theorem primary_keys_follow_renames {ledger : KeyLedger} {c : Catalog} (run : ledger.Run c) :
    (∀ {id : TableId} {v : Table}, c.getTable id = .ok v →
      v.schema.options.contains primaryKeyProperty = false ∧
        ∃ record, ledger id = some record ∧
          v.schema.primaryKeys = record.named.map (renamedBy record.renames)) ∧
    ∀ {id : TableId} {record : KeyRecord}, ledger id = some record →
      ∃ v, c.getTable id = .ok v := by
  constructor
  · intro id v shown
    obtain ⟨t, found, rfl⟩ := Catalog.getTable_ok_iff.mp shown
    obtain ⟨record, written, describes⟩ := run.tells.described found
    exact ⟨describes.settled, record, written, describes.keys⟩
  · intro id record written
    obtain ⟨t, found⟩ := run.tells.there written
    exact ⟨_, Catalog.getTable_ok_iff.mpr ⟨t, found, rfl⟩⟩

/-- Both columns of a key are renamed, one of them before the table moves; between that a host
asks for another key in vain. -/
theorem primary_keys_follow_renames_landed :
    let landed : TableId := ⟨"lake", "landed"⟩
    let record : KeyRecord :=
      ⟨["weight", "boat"], [("boat", "ship"), ("ship", "vessel"), ("weight", "load")]⟩
    ∃ ledger c v, KeyLedger.Run ledger c ∧ ledger landed = some record ∧ c.getTable landed = .ok v ∧
      v.schema.primaryKeys = ["load", "vessel"] ∧
      v.schema.options.contains primaryKeyProperty = false := by
  intro landed record
  have told {ledger : KeyLedger} {c : Catalog} (run : ledger.Run c)
      (written : ledger landed = some record) :
      ∃ v, c.getTable landed = .ok v ∧ v.schema.primaryKeys = ["load", "vessel"] ∧
        v.schema.options.contains primaryKeyProperty = false := by
    obtain ⟨right, known⟩ := primary_keys_follow_renames run
    obtain ⟨v, shown⟩ := known written
    obtain ⟨settled, record', same, keys⟩ := right shown
    cases written.symm.trans same
    exact ⟨v, shown, keys.trans (by decide +kernel), settled⟩
  let here : TableRef := ⟨["lake"], "catch"⟩
  let there : TableRef := ⟨["lake"], "landed"⟩
  let fields : List Field := [⟨"boat", .utf8, true, none⟩, ⟨"weight", .int64, true, none⟩]
  let properties : Options := .ofList [("deep", "yes"), (primaryKeyProperty, "weight , boat")]
  have start := (KeyLedger.Run.new "sea" ∅).host (.createNamespace ["lake"]) 1
  have made := start.host (.createTable here fields [] properties) 2
  have first := made.host
    (.alterTable here [.renameColumn ["boat"] "ship", .removeProperty "deep"]) 3
  have refused := first.host
    (.alterTable here [.renameColumn ["weight"] "tons", .setProperty primaryKeyProperty "ship"]) 4
  have moved := refused.host (.renameTable here there) 5
  have run := moved.host
    (.alterTable there [.renameColumn ["ship"] "vessel", .renameColumn ["weight"] "load"]) 6
  obtain ⟨ledger, c, run, written⟩ : ∃ ledger c, KeyLedger.Run ledger c ∧
      ledger landed = some record := ⟨_, _, run, by decide +kernel⟩
  obtain ⟨v, shown, keys, settled⟩ := told run written
  exact ⟨ledger, c, v, run, written, shown, keys, settled⟩

end TableLake
