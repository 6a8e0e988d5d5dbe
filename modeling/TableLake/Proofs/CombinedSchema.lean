/-
# TableLake.Proofs.CombinedSchema — a schema that a store and a host both have

Looking up a table, asking for it and listing it agree: a schema shows the table of the store,
or else the one of the host (`Mounted.shown`, `mem_shownNames_iff`).  A table that is dropped is
the one that was shown, and the one it hid comes to light (`deregisterTable_uncovers`).

A table that is made goes to the host without a look at the store.  So it is shown just if the
store has none of its name; if it has one, the request is granted and the new table stands
hidden behind the old one (`combined_schema_shows`).
-/
import TableLake.Proofs.Binding
import TableLake.Proofs.SchemaDrop

namespace TableLake

open TableLake.Outcome

set_option autoImplicit false

/-! ## Tables below schemas -/

namespace OrderedMap

variable {ν : Type} (m : OrderedMap String (OrderedMap String ν)) (schema : String)

theorem nodup_namesBelow : (((m.get? schema).map keys).getD []).Nodup := by
  cases m.get? schema with
  | none => exact List.nodup_nil
  | some tables => exact tables.nodup

theorem mem_namesBelow_iff (name : String) :
    name ∈ ((m.get? schema).map keys).getD [] ↔
      ((m.get? schema).bind fun tables => tables.get? name).isSome = true := by
  cases m.get? schema with
  | none => simp
  | some tables => exact (contains_iff_mem_keys tables name).symm

end OrderedMap

/-! ## What either side shows -/

namespace LakeSchema

variable {c : Catalog} {now : Int}

theorem outcome_tableNames (schema : String) :
    (tableNames schema).outcome (.new c now) = (.ok (c.tableNames schema), .new c now) := by
  unfold tableNames ask Store.listTables
  rw [outcome_tryCatch, outcome_adapt, outcome_enter_bind, outcome_ask]
  rw [Store.catalog_new, Catalog.listTables, Catalog.database, Catalog.tableNames]
  cases c.databases.get? schema <;> rfl

theorem outcome_tableExists (schema name : String) :
    (tableExists schema name).outcome (.new c now) =
      (.ok (c.tableExists ⟨schema, name⟩), .new c now) := by
  have ungated : (tableExists schema name).outcome (.new c now) =
      (.ok (c.tableExists ⟨schema, name⟩ && true), .new c now) := rfl
  rw [ungated, Bool.and_true]

theorem outcome_table? (schema name : String) :
    (table? schema name).outcome (.new c now) =
      (.ok ((c.entry? ⟨schema, name⟩).map fun t => t.view ⟨schema, name⟩), .new c now) := by
  unfold table? ask Store.getTable
  rw [outcome_tryCatch, outcome_map, outcome_adapt, outcome_enter_bind, outcome_bind, outcome_ask]
  rw [Store.catalog_new, Catalog.getTable, Catalog.entry]
  cases c.entry? ⟨schema, name⟩ <;> rfl

theorem outcome_deregister {schema name : String} {t : TableEntry}
    (found : c.entry? ⟨schema, name⟩ = some t) :
    (deregister schema name).outcome (.new c now) =
      (.ok (some (t.view ⟨schema, name⟩)), .new (c.eraseEntry ⟨schema, name⟩) now) := by
  have there : c.tableExists ⟨schema, name⟩ = true := by rw [Catalog.tableExists, found]; rfl
  unfold deregister ask Store.dropTable
  rw [outcome_bind, outcome_table?, found]
  simp only [Option.map_some]
  rw [outcome_bind, outcome_adapt, outcome_enter_update, Catalog.dropTable, if_pos there]
  rfl

end LakeSchema

/-- The table of the store that a schema shows under a name. -/
def Catalog.shown (c : Catalog) (schema name : String) : Option TableHandle :=
  ((c.entry? ⟨schema, name⟩).map fun t => t.view ⟨schema, name⟩).map .lake

theorem Catalog.shown_of_found {c : Catalog} {schema name : String} {t : TableEntry}
    (found : c.entry? ⟨schema, name⟩ = some t) :
    c.shown schema name = some (.lake (t.view ⟨schema, name⟩)) := by
  rw [shown, found]
  rfl

theorem Catalog.shown_of_missing {c : Catalog} {schema name : String}
    (missing : c.entry? ⟨schema, name⟩ = none) : c.shown schema name = none := by
  rw [shown, missing]
  rfl

/-- The table of the host that a schema shows under a name. -/
def HostCatalog.shown (h : HostCatalog) (schema name : String) : Option TableHandle :=
  (h.table? schema name).map .host

/-- A host makes a table just in a schema that it has, under a name that is free there. -/
theorem HostCatalog.registerTable_ok_iff {h h' : HostCatalog} {schema name : String}
    {t : HostTable} :
    h.registerTable schema name t = .ok h' ↔
      ∃ tables, h.get? schema = some tables ∧ tables.get? name = none ∧
        h' = h.insert schema (tables.insert name t) := by
  unfold registerTable
  cases h.get? schema with
  | none => simp
  | some tables =>
      cases taken : tables.get? name <;> simp [OrderedMap.contains, taken, eq_comm]

theorem HostCatalog.shown_registered {h h' : HostCatalog} {schema name : String} {t : HostTable}
    (made : h.registerTable schema name t = .ok h') : h'.shown schema name = some (.host t) := by
  obtain ⟨tables, -, -, rfl⟩ := registerTable_ok_iff.mp made
  simp [shown, table?]

theorem HostCatalog.shown_deregistered (h : HostCatalog) (schema name : String) :
    (h.deregisterTable schema name).shown schema name = none := by
  unfold shown table? deregisterTable
  cases found : h.get? schema with
  | none => simp [found]
  | some tables => simp [OrderedMap.get?_erase]

namespace Mounted

/-- The table that a schema shows under a name: the one of the store before the host's. -/
def shown (c : Catalog) (h : HostCatalog) (schema name : String) : Side → Option TableHandle
  | .lake => c.shown schema name
  | .host => h.shown schema name
  | .both => (c.shown schema name).or (h.shown schema name)

/-- The names that a schema lists. -/
def shownNames (c : Catalog) (h : HostCatalog) (schema : String) : Side → List String
  | .lake => c.tableNames schema
  | .host => h.tableNames schema
  | .both => firstOccurrences (c.tableNames schema ++ h.tableNames schema)

variable {c : Catalog} {now : Int} {h : HostCatalog} {schema name : String}

/-! ## Looking up, asking and listing -/

theorem outcome_lakeTable? :
    (lakeTable? schema name).outcome (combined c now h) =
      (.ok (c.shown schema name), combined c now h) :=
  InMount.outcome_map_of_answer (answer_onLake (LakeSchema.outcome_table? schema name)) _

theorem outcome_hostTable? :
    (hostTable? schema name).outcome (combined c now h) =
      (.ok (h.shown schema name), combined c now h) :=
  InMount.outcome_onHost none (fun h => h.shown schema name) (some (.new c now)) h

theorem outcome_table? (side : Side) :
    (table? side schema name).outcome (combined c now h) =
      (.ok (shown c h schema name side), combined c now h) := by
  cases side with
  | lake => exact outcome_lakeTable?
  | host => exact outcome_hostTable?
  | both =>
      unfold table?
      rw [InMount.outcome_bind_of_answer outcome_lakeTable?, shown]
      cases c.shown schema name with
      | some t => rfl
      | none => exact outcome_hostTable?

theorem outcome_lakeNames :
    (lakeNames schema).outcome (combined c now h) = (.ok (c.tableNames schema), combined c now h) :=
  answer_onLake (LakeSchema.outcome_tableNames schema)

theorem outcome_hostNames :
    (hostNames schema).outcome (combined c now h) = (.ok (h.tableNames schema), combined c now h) :=
  InMount.outcome_onHost [] (fun h => h.tableNames schema) (some (.new c now)) h

theorem outcome_tableNames (side : Side) :
    (tableNames side schema).outcome (combined c now h) =
      (.ok (shownNames c h schema side), combined c now h) := by
  cases side with
  | lake => exact outcome_lakeNames
  | host => exact outcome_hostNames
  | both =>
      unfold tableNames
      rw [InMount.outcome_bind_of_answer outcome_lakeNames,
        InMount.outcome_bind_of_answer outcome_hostNames]
      rfl

theorem outcome_lakeHas :
    (lakeHas schema name).outcome (combined c now h) =
      (.ok (c.shown schema name).isSome, combined c now h) := by
  have same : (c.shown schema name).isSome = c.tableExists ⟨schema, name⟩ := by
    simp [Catalog.shown, Catalog.tableExists]
  rw [same]
  exact answer_onLake (LakeSchema.outcome_tableExists schema name)

theorem outcome_hostHas :
    (hostHas schema name).outcome (combined c now h) =
      (.ok (h.shown schema name).isSome, combined c now h) := by
  rw [HostCatalog.shown, Option.isSome_map]
  rfl

theorem outcome_tableExists (side : Side) :
    (tableExists side schema name).outcome (combined c now h) =
      (.ok (shown c h schema name side).isSome, combined c now h) := by
  cases side with
  | lake => exact outcome_lakeHas
  | host => exact outcome_hostHas
  | both =>
      unfold tableExists
      rw [InMount.outcome_bind_of_answer outcome_lakeHas, shown]
      cases c.shown schema name with
      | some t => rfl
      | none => exact outcome_hostHas

theorem mem_shownNames_iff (side : Side) :
    name ∈ shownNames c h schema side ↔ (shown c h schema name side).isSome = true := by
  have lake : name ∈ c.tableNames schema ↔ (c.shown schema name).isSome = true := by
    rw [Catalog.shown, Option.isSome_map, Option.isSome_map]
    exact c.databases.mem_namesBelow_iff schema name
  have host : name ∈ h.tableNames schema ↔ (h.shown schema name).isSome = true := by
    rw [HostCatalog.shown, Option.isSome_map]
    exact OrderedMap.mem_namesBelow_iff h schema name
  cases side with
  | lake => exact lake
  | host => exact host
  | both =>
      rw [shownNames, mem_firstOccurrences, List.mem_append, lake, host, shown, Option.isSome_or,
        Bool.or_eq_true]

theorem nodup_shownNames (side : Side) : (shownNames c h schema side).Nodup := by
  cases side with
  | lake => exact c.databases.nodup_namesBelow schema
  | host => exact OrderedMap.nodup_namesBelow h schema
  | both => exact nodup_firstOccurrences _

/-! ## Making a table -/

theorem outcome_registerTable (name : String) (t : HostTable) :
    (registerTable .both schema name t).outcome (combined c now h) =
      match h.registerTable schema name t with
      | .ok h' => (.ok (), combined c now h')
      | .error e => (.error e, combined c now h) :=
  InMount.outcome_changeHost (fun h => h.registerTable schema name t) (some (.new c now)) h

theorem registered_of_ok {t : HostTable} {m' : Mounted}
    (registered : (registerTable .both schema name t).outcome (combined c now h) = (.ok (), m')) :
    ∃ h', h.registerTable schema name t = .ok h' ∧ m' = combined c now h' := by
  rw [outcome_registerTable] at registered
  cases made : h.registerTable schema name t with
  | error e =>
      rw [made] at registered
      cases registered
  | ok h' =>
      rw [made] at registered
      cases registered
      exact ⟨h', rfl, rfl⟩

theorem shown_of_taken {v : Table} (taken : c.getTable ⟨schema, name⟩ = .ok v) :
    shown c h schema name .both = some (.lake v) := by
  obtain ⟨t, found, rfl⟩ := Catalog.getTable_ok_iff.mp taken
  rw [shown, Catalog.shown_of_found found]
  rfl

theorem shown_of_free (free : c.tableExists ⟨schema, name⟩ = false) :
    shown c h schema name .both = h.shown schema name := by
  rw [shown, Catalog.shown_of_missing (Catalog.tableExists_eq_false_iff.mp free)]
  rfl

/-- A table that has been made is shown, unless the store has one of its name. -/
theorem shown_registered (c : Catalog) {h' : HostCatalog} {t : HostTable}
    (made : h.registerTable schema name t = .ok h') :
    (shown c h' schema name .both = some (.host t) ↔ c.tableExists ⟨schema, name⟩ = false) ∧
      (c.tableExists ⟨schema, name⟩ = true →
        shown c h' schema name .both = shown c h schema name .both) := by
  cases taken : c.tableExists ⟨schema, name⟩ with
  | true =>
      obtain ⟨v, given⟩ := Catalog.tableExists_iff_given.mp taken
      simp [shown_of_taken given]
  | false => simp [shown_of_free taken, HostCatalog.shown_registered made]

/-! ## Dropping a table -/

/-- The answer is the table that was shown, and it is gone; then one of the host that it hid
is shown. -/
theorem deregisterTable_uncovers (schema name : String) (c : Catalog) (now : Int)
    (h : HostCatalog) :
    ∃ c' h', (deregisterTable .both schema name).outcome (combined c now h) =
        (.ok (shown c h schema name .both), combined c' now h') ∧
      shown c' h' schema name .both =
        if c.tableExists ⟨schema, name⟩ then h.shown schema name else none := by
  unfold deregisterTable
  rw [InMount.outcome_bind_of_answer outcome_lakeHas]
  cases taken : c.tableExists ⟨schema, name⟩ with
  | true =>
      obtain ⟨t, found⟩ := Option.isSome_iff_exists.mp taken
      have gone : (c.eraseEntry ⟨schema, name⟩).shown schema name = none :=
        Catalog.shown_of_missing (by rw [Catalog.entry?_eraseEntry, if_pos rfl])
      refine ⟨c.eraseEntry ⟨schema, name⟩, h, ?_, ?_⟩
      · rw [shown, Catalog.shown_of_found found]
        simp only [Option.isSome_some, if_true, Option.some_or]
        unfold deregisterLake combined
        rw [InMount.outcome_bind, InMount.outcome_onLake, LakeSchema.outcome_deregister found]
        rfl
      · rw [shown, gone]
        rfl
  | false =>
      have absent := Catalog.shown_of_missing (Catalog.tableExists_eq_false_iff.mp taken)
      refine ⟨c, h.deregisterTable schema name, ?_, ?_⟩
      · rw [shown_of_free taken, absent]
        simp only [Option.isSome_none, Bool.false_eq_true, if_false]
        unfold deregisterHost
        rw [InMount.outcome_bind_of_answer outcome_hostTable?, InMount.outcome_bind, combined,
          InMount.outcome_changeHost]
        rfl
      · rw [shown_of_free taken, HostCatalog.shown_deregistered]
        rfl

/-! ## All of it -/

/-- What a combined schema lists, says to be there and shows is the same, and the store's table
comes first.  A table that is made is shown just if the store has none of its name. -/
theorem combined_schema_shows (schema : String) (c : Catalog) (now : Int) (h : HostCatalog) :
    let m := combined c now h
    (∃ names, (tableNames .both schema).outcome m = (.ok names, m) ∧ names.Nodup ∧
      ∀ name, ∃ found, (table? .both schema name).outcome m = (.ok found, m) ∧
        (tableExists .both schema name).outcome m = (.ok found.isSome, m) ∧
        (name ∈ names ↔ found.isSome = true) ∧
        ∀ v, c.getTable ⟨schema, name⟩ = .ok v → found = some (.lake v)) ∧
    ∀ name t m', (registerTable .both schema name t).outcome m = (.ok (), m') →
      ∃ found, (table? .both schema name).outcome m' = (.ok found, m') ∧
        (found = some (.host t) ↔ c.tableExists ⟨schema, name⟩ = false) ∧
        (c.tableExists ⟨schema, name⟩ = true →
          (table? .both schema name).outcome m = (.ok found, m)) := by
  intro m
  constructor
  · refine ⟨_, outcome_tableNames .both, nodup_shownNames .both, fun name => ?_⟩
    exact ⟨_, outcome_table? .both, outcome_tableExists .both, mem_shownNames_iff .both,
      fun v taken => shown_of_taken taken⟩
  · intro name t m' registered
    obtain ⟨h', made, rfl⟩ := registered_of_ok registered
    obtain ⟨free_iff, hidden⟩ := shown_registered c made
    refine ⟨_, outcome_table? .both, free_iff, fun taken => ?_⟩
    rw [hidden taken]
    exact outcome_table? .both

/-- A store that keeps boats in a harbor. -/
def mannedHarbor : Catalog :=
  let boats : TableEntry := .new ⟨0, [⟨"name", .utf8, true, none⟩], [], [], ∅, none⟩
  (Catalog.new "sea" ∅).setDatabase "harbor" (OrderedMap.ofList [("boats", boats)])

/-- A host that knows the harbor by its name only. -/
def bareYard : HostCatalog := OrderedMap.ofList [("harbor", ∅)]

/-- A table of a host. -/
def moorings : HostTable := ⟨[⟨"rope", .int64, true, none⟩], [], true⟩

theorem combined_schema_shows_harbor :
    ∃ m', (registerTable .both "harbor" "moorings" moorings).outcome
        (combined mannedHarbor 0 bareYard) = (.ok (), m') ∧
      (table? .both "harbor" "moorings").outcome m' = (.ok (some (.host moorings)), m') := by
  obtain ⟨found, shown, free_iff, -⟩ := (combined_schema_shows "harbor" mannedHarbor 0 bareYard).2
    "moorings" moorings _ rfl
  have made : found = some (.host moorings) := free_iff.mpr (by decide)
  exact ⟨_, rfl, made ▸ shown⟩

/-- Under the name of a table of the store a table is made, and what is shown is not it. -/
theorem moorings_hidden :
    ∃ m' found, (registerTable .both "harbor" "boats" moorings).outcome
        (combined mannedHarbor 0 bareYard) = (.ok (), m') ∧
      (table? .both "harbor" "boats").outcome m' = (.ok found, m') ∧
      found ≠ some (.host moorings) :=
  ⟨_, _, rfl, outcome_table? .both, by decide⟩

end Mounted

end TableLake
