/-
# TableLake.Proofs.SchemaDrop — dropping a schema from a catalog and the catalog of a host

A catalog drops a database, and a host a schema, if it is empty or goes with its tables, and
else refuses and is as it was.  So a side that is mounted alone drops a schema whole or not at
all (`dropsWhole_lake`, `dropsWhole_host`).

Of two sides the store is asked first, and what it has dropped it does not get back when the
host refuses.  A schema that is empty in the store and in use at the host is dropped by half:
the request fails and the database is gone.  This is the only way it can happen
(`dropped_whole_iff`); all else is dropped on both sides or on neither.
-/
import TableLake.Proofs.Isolation
import TableLake.Proofs.MountOutcome

namespace TableLake

set_option autoImplicit false

/-! ## One side -/

/-- Whether there are tables in a schema or a database. -/
def OrderedMap.holds {ν : Type} (m : OrderedMap String (OrderedMap String ν)) (name : String) :
    Bool :=
  (m.get? name).any fun tables => !tables.isEmpty

theorem OrderedMap.holds_iff {ν : Type} {m : OrderedMap String (OrderedMap String ν)}
    {name : String} : m.holds name = true ↔ ∃ tables, m.get? name = some tables ∧ tables ≠ ∅ := by
  simp only [holds, Option.any_eq_true, Bool.not_eq_true', ← Bool.not_eq_true, isEmpty_iff, ne_eq]

/-- The names of the tables of a schema in order; none where there is no schema. -/
def HostCatalog.tableNames (h : HostCatalog) (schema : String) : List String :=
  ((h.get? schema).map OrderedMap.keys).getD []

theorem HostCatalog.deregisterSchema_eq (h : HostCatalog) (schema : String) (cascade : Bool) :
    h.deregisterSchema schema cascade =
      if !cascade && h.holds schema then
        .error (.execution (.schemaInUse schema (h.tableNames schema)))
      else .ok (h.erase schema) := by
  unfold deregisterSchema OrderedMap.holds tableNames
  cases found : h.get? schema with
  | none => simp [OrderedMap.erase_of_missing found]
  | some tables => cases cascade <;> cases empty : tables.isEmpty <;> simp [empty]

theorem Catalog.dropDatabase_eq {c : Catalog} {name : String} (there : c.databaseExists name = true)
    (ignoreIfMissing cascade : Bool) :
    c.dropDatabase name ignoreIfMissing cascade =
      if !cascade && c.databases.holds name then .error (.databaseNotEmpty name)
      else .ok (c.without name) := by
  obtain ⟨db, found⟩ := Option.isSome_iff_exists.mp there
  unfold dropDatabase OrderedMap.holds
  rw [found]
  cases cascade <;> cases empty : db.isEmpty <;> simp [empty, without]

theorem Namespace.outcome_drop (database : String) (cascade : Bool) (c : Catalog) (now : Int) :
    (drop [database] cascade).outcome (.new c now) =
      match c.dropDatabase database false cascade with
      | .ok c' => (.ok (), .new c' now)
      | .error e => (.error (drop.words [database] e), .new c now) := by
  have named : (drop [database] cascade).outcome (.new c now) =
      InStore.outcome (ask (drop.words [database]) (Store.dropDatabase database false cascade))
        (.new c now) := rfl
  rw [named]
  unfold ask Store.dropDatabase
  rw [outcome_adapt, outcome_enter_update]
  cases c.dropDatabase database false cascade <;> rfl

theorem LakeSchema.outcome_deregisterSchema_eq (schema : String) (cascade : Bool) (c : Catalog)
    (now : Int) :
    (deregisterSchema schema cascade).outcome (.new c now) =
      if !cascade && c.databases.holds schema then
        (.error (.space (.namespaceNotEmpty [schema])), .new c now)
      else (.ok (), .new (c.without schema) now) := by
  rw [outcome_deregisterSchema]
  cases there : c.databaseExists schema with
  | false =>
      have missing := Catalog.databaseExists_eq_false_iff.mp there
      simp [OrderedMap.holds, missing, Catalog.without_of_missing missing]
  | true =>
      rw [if_pos rfl, outcome_adapt, Namespace.outcome_drop, Catalog.dropDatabase_eq there]
      cases !cascade && c.databases.holds schema <;> rfl

/-! ## A mounted side alone -/

namespace Mounted

/-- A schema is dropped from both sides, or the request is refused and nothing has changed. -/
def DropsWhole (schema : String) (cascade : Bool) (m : Mounted) : Prop :=
  match (deregisterSchema schema cascade).outcome m with
  | (.ok _, m') => m'.lakeHasSchema schema = false ∧ m'.hostHasSchema schema = false
  | (.error _, m') => m' = m

theorem outcome_dropLake (schema : String) (cascade : Bool) (c : Catalog) (now : Int)
    (host : Option HostCatalog) :
    (onLake () (LakeSchema.deregisterSchema schema cascade)).outcome ⟨some (.new c now), host⟩ =
      if !cascade && c.databases.holds schema then
        (.error (.space (.namespaceNotEmpty [schema])), ⟨some (.new c now), host⟩)
      else (.ok (), ⟨some (.new (c.without schema) now), host⟩) := by
  rw [InMount.outcome_onLake, LakeSchema.outcome_deregisterSchema_eq]
  cases !cascade && c.databases.holds schema <;> rfl

theorem outcome_dropHost (schema : String) (cascade : Bool) (lake : Option Store)
    (h : HostCatalog) :
    (changeHost fun h => h.deregisterSchema schema cascade).outcome ⟨lake, some h⟩ =
      if !cascade && h.holds schema then
        (.error (.execution (.schemaInUse schema (h.tableNames schema))), ⟨lake, some h⟩)
      else (.ok (), ⟨lake, some (h.erase schema)⟩) := by
  rw [InMount.outcome_changeHost, HostCatalog.deregisterSchema_eq]
  cases !cascade && h.holds schema <;> rfl

theorem dropsWhole_lake (schema : String) (cascade : Bool) (c : Catalog) (now : Int) :
    (⟨some (.new c now), none⟩ : Mounted).DropsWhole schema cascade := by
  unfold DropsWhole deregisterSchema
  rw [InMount.outcome_bind_of_answer (outcome_hasSchema schema _), InMount.outcome_bind,
    outcome_dropLake]
  cases !cascade && c.databases.holds schema with
  | true => rfl
  | false => exact ⟨c.databaseExists_without schema, rfl⟩

theorem dropsWhole_host (schema : String) (cascade : Bool) (h : HostCatalog) :
    (⟨none, some h⟩ : Mounted).DropsWhole schema cascade := by
  have untouched : (onLake () (LakeSchema.deregisterSchema schema cascade)).outcome ⟨none, some h⟩ =
      (.ok (), ⟨none, some h⟩) := rfl
  unfold DropsWhole deregisterSchema
  rw [InMount.outcome_bind_of_answer (outcome_hasSchema schema _),
    InMount.outcome_bind_of_answer untouched, InMount.outcome_bind, outcome_dropHost]
  cases !cascade && h.holds schema with
  | true => rfl
  | false => exact ⟨rfl, OrderedMap.contains_erase h schema⟩

/-! ## Both sides -/

/-- A schema is to be dropped without tables, is empty in the store, and is in use at the
host. -/
structure Uneven (c : Catalog) (h : HostCatalog) (schema : String) (cascade : Bool) : Prop where
  plain : cascade = false
  lake : c.databases.get? schema = some ∅
  host : ∃ tables, h.get? schema = some tables ∧ tables ≠ ∅

/-- The host is asked only when the store has done its part. -/
theorem outcome_deregisterSchema (schema : String) (cascade : Bool) (c : Catalog) (now : Int)
    (h : HostCatalog) :
    (deregisterSchema schema cascade).outcome (combined c now h) =
      if !cascade && c.databases.holds schema then
        (.error (.space (.namespaceNotEmpty [schema])), combined c now h)
      else if !cascade && h.holds schema then
        (.error (.execution (.schemaInUse schema (h.tableNames schema))),
          combined (c.without schema) now h)
      else
        (.ok (c.databaseExists schema || h.contains schema),
          combined (c.without schema) now (h.erase schema)) := by
  unfold deregisterSchema combined
  rw [InMount.outcome_bind_of_answer (outcome_hasSchema schema _), InMount.outcome_bind,
    outcome_dropLake]
  cases !cascade && c.databases.holds schema with
  | true => rfl
  | false =>
      simp only [Bool.false_eq_true, if_false]
      rw [InMount.outcome_bind, outcome_dropHost]
      cases !cascade && h.holds schema <;> rfl

theorem uneven_iff {c : Catalog} {h : HostCatalog} {schema : String} {cascade : Bool} :
    Uneven c h schema cascade ↔
      (!cascade && c.databases.holds schema) = false ∧ (!cascade && h.holds schema) = true ∧
        c.databases.get? schema ≠ none := by
  constructor
  · rintro ⟨rfl, empty, inUse⟩
    refine ⟨?_, OrderedMap.holds_iff.mpr inUse, by simp [empty]⟩
    simp only [OrderedMap.holds, empty]
    rfl
  · rintro ⟨free, inUse, there⟩
    obtain ⟨plain, inUse⟩ := (Bool.and_eq_true ..).mp inUse
    have plain : cascade = false := by simpa using plain
    subst plain
    obtain ⟨db, found⟩ := Option.ne_none_iff_exists'.mp there
    have empty : db = ∅ := by
      by_contra solid
      exact absurd (OrderedMap.holds_iff.mpr ⟨db, found, solid⟩) (by simpa using free)
    exact ⟨rfl, empty ▸ found, OrderedMap.holds_iff.mp inUse⟩

theorem outcome_of_uneven {c : Catalog} {h : HostCatalog} {schema : String} {cascade : Bool}
    (uneven : Uneven c h schema cascade) (now : Int) :
    (deregisterSchema schema cascade).outcome (combined c now h) =
      (.error (.execution (.schemaInUse schema (h.tableNames schema))),
        combined (c.without schema) now h) := by
  obtain ⟨free, inUse, -⟩ := uneven_iff.mp uneven
  rw [outcome_deregisterSchema, free, inUse]
  rfl

theorem combined_without_eq_iff {c : Catalog} {now : Int} {h : HostCatalog} {schema : String} :
    combined (c.without schema) now h = combined c now h ↔ c.databases.get? schema = none := by
  have same_iff : combined (c.without schema) now h = combined c now h ↔ c.without schema = c := by
    simp [combined, Store.new]
  rw [same_iff]
  constructor
  · intro same
    rw [← same, Catalog.without, OrderedMap.get?_erase, if_pos rfl]
  · intro missing
    rw [Catalog.without_of_missing missing]

/-- Whatever comes of the request, no other schema changes on either side. -/
theorem deregisterSchema_spares {schema other : String} (different : schema ≠ other)
    (cascade : Bool) (c : Catalog) (now : Int) (h : HostCatalog) :
    ∃ c' h', ((deregisterSchema schema cascade).outcome (combined c now h)).2 =
        combined c' now h' ∧
      c'.databases.get? other = c.databases.get? other ∧ h'.get? other = h.get? other := by
  have lake : (c.without schema).databases.get? other = c.databases.get? other := by
    rw [Catalog.without, OrderedMap.get?_erase, if_neg different]
  have host : (OrderedMap.erase h schema).get? other = h.get? other := by
    rw [OrderedMap.get?_erase, if_neg different]
  rw [outcome_deregisterSchema]
  split
  · exact ⟨c, h, rfl, rfl, rfl⟩
  split
  · exact ⟨c.without schema, h, rfl, lake, rfl⟩
  · exact ⟨c.without schema, h.erase schema, rfl, lake, host⟩

/-- A schema is dropped whole but in one case.  Then the host's refusal is the answer, the host
is as it was, and the store has lost its empty database. -/
theorem dropped_whole_iff (schema : String) (cascade : Bool) (c : Catalog) (now : Int)
    (h : HostCatalog) :
    ((combined c now h).DropsWhole schema cascade ↔ ¬Uneven c h schema cascade) ∧
      (Uneven c h schema cascade →
        (deregisterSchema schema cascade).outcome (combined c now h) =
          (.error (.execution (.schemaInUse schema (h.tableNames schema))),
            combined (c.without schema) now h)) := by
  refine ⟨?_, fun uneven => outcome_of_uneven uneven now⟩
  unfold DropsWhole
  rw [uneven_iff, outcome_deregisterSchema]
  cases !cascade && c.databases.holds schema with
  | true => simp
  | false =>
      cases !cascade && h.holds schema with
      | true => simpa using combined_without_eq_iff
      | false =>
          let after := combined (c.without schema) now (h.erase schema)
          have lake : after.lakeHasSchema schema = false := c.databaseExists_without schema
          have host : after.hostHasSchema schema = false := OrderedMap.contains_erase h schema
          simp [after, lake, host]

/-- A store that knows a harbor by its name only. -/
def bareHarbor : Catalog := (Catalog.new "sea" ∅).setDatabase "harbor" ∅

/-- A host that keeps boats there. -/
def busyHarbor : HostCatalog :=
  let boats : HostTable := ⟨[⟨"name", .utf8, true, none⟩], [], true⟩
  OrderedMap.ofList [("harbor", OrderedMap.ofList [("boats", boats)])]

theorem uneven_harbor : Uneven bareHarbor busyHarbor "harbor" false :=
  ⟨rfl, by decide, _, rfl, by decide⟩

theorem dropped_whole_iff_harbor :
    (deregisterSchema "harbor" false).outcome (combined bareHarbor 0 busyHarbor) =
        (.error (.execution (.schemaInUse "harbor" ["boats"])),
          combined (.new "sea" ∅) 0 busyHarbor) ∧
      (combined bareHarbor 0 busyHarbor).DropsWhole "harbor" true :=
  ⟨(dropped_whole_iff "harbor" false bareHarbor 0 busyHarbor).2 uneven_harbor,
    (dropped_whole_iff "harbor" true bareHarbor 0 busyHarbor).1.mpr
      fun uneven => nomatch uneven.plain⟩

/-- The harbor is still there for the host, and the store has lost it. -/
theorem harbor_dropped_by_half :
    ¬(combined bareHarbor 0 busyHarbor).DropsWhole "harbor" false := by
  unfold DropsWhole
  rw [outcome_of_uneven uneven_harbor]
  decide

end Mounted

end TableLake
