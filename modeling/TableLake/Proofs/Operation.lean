/-
# TableLake.Proofs.Operation — the operations on a catalog, seen from outside

`CatalogOp` names the ten operations that change a catalog; `CatalogOp.run` is what the
store does for each of them.  An operation that is refused leaves the catalog as it was,
and one that is accepted has one of seven effects (`CatalogOp.outcome_cases`): it is
idle, it makes, drops or moves something, or it takes one table a step further
(`TableEntry.Step`).  Whatever holds of every run is shown of these effects, once.
-/
import TableLake.Proofs.CatalogEntry
import TableLake.Proofs.EntryStep
import TableLake.Proofs.StoreOutcome

namespace TableLake

open TableLake.Outcome

set_option autoImplicit false

/-- The operations that change a catalog. -/
inductive CatalogOp where
  | createDatabase (name : String) (ignoreIfExists : Bool)
  | dropDatabase (name : String) (ignoreIfMissing cascade : Bool)
  | createTable (id : TableId) (schema : Schema) (ignoreIfExists : Bool)
  | dropTable (id : TableId) (ignoreIfMissing : Bool)
  | renameTable (source target : TableId) (ignoreIfMissing : Bool)
  | alterTable (id : TableId) (changes : List SchemaChange) (ignoreIfMissing : Bool)
  | write (id : TableId) (batches : List Batch)
  | compact (id : TableId) (request : CompactRequest)
  | rollbackTo (id : TableId) (version : Version)
  | createTag (id : TableId) (tag : String) (snapshot : Option Nat)

namespace CatalogOp

/-- The operation on a store; the answer is the snapshot that was committed, if any. -/
def run : CatalogOp → InStore CatalogError (Option Snapshot)
  | .createDatabase name ignoreIfExists => do
      Store.createDatabase name ignoreIfExists
      return none
  | .dropDatabase name ignoreIfMissing cascade => do
      Store.dropDatabase name ignoreIfMissing cascade
      return none
  | .createTable id schema ignoreIfExists => do
      Store.createTable id schema ignoreIfExists
      return none
  | .dropTable id ignoreIfMissing => do
      Store.dropTable id ignoreIfMissing
      return none
  | .renameTable source target ignoreIfMissing => do
      Store.renameTable source target ignoreIfMissing
      return none
  | .alterTable id changes ignoreIfMissing => do
      Store.alterTable id changes ignoreIfMissing
      return none
  | .write id batches => some <$> Store.write id batches
  | .compact id request => Store.compact id request
  | .rollbackTo id version => do
      Store.rollbackTo id version
      return none
  | .createTag id tag snapshot => do
      Store.createTag id tag snapshot
      return none

/-- The operation on the catalog alone, at a reading of the clock. -/
def apply (op : CatalogOp) (c : Catalog) (now : Int) :
    Except CatalogError (Catalog × Option Snapshot) :=
  match op with
  | .createDatabase name ignoreIfExists => (·, none) <$> c.createDatabase name ignoreIfExists
  | .dropDatabase name ignoreIfMissing cascade =>
      (·, none) <$> c.dropDatabase name ignoreIfMissing cascade
  | .createTable id schema ignoreIfExists => (·, none) <$> c.createTable id schema ignoreIfExists
  | .dropTable id ignoreIfMissing => (·, none) <$> c.dropTable id ignoreIfMissing
  | .renameTable source target ignoreIfMissing =>
      (·, none) <$> c.renameTable source target ignoreIfMissing
  | .alterTable id changes ignoreIfMissing =>
      (·, none) <$> c.alterTable id changes ignoreIfMissing
  | .write id batches => (fun done => (done.1, some done.2)) <$> c.write id batches now
  | .compact id request => c.compact id request now
  | .rollbackTo id version => (·, none) <$> c.rollbackTo id version
  | .createTag id tag snapshot => (·, none) <$> c.createTag id tag snapshot

/-- What the operation answers. -/
def answer (op : CatalogOp) (c : Catalog) (now : Int) : Except CatalogError (Option Snapshot) :=
  (op.run.outcome (Store.new c now)).1

/-- The catalog that the operation leaves behind, also when it is refused. -/
def after (op : CatalogOp) (c : Catalog) (now : Int) : Catalog :=
  (op.run.outcome (Store.new c now)).2.catalog

/-- What is left behind where an operation makes another catalog and an answer. -/
def settled (c : Catalog) (now : Int) :
    Except CatalogError (Catalog × Option Snapshot) →
      Except CatalogError (Option Snapshot) × Store
  | .ok (c', answer) => (.ok answer, .new c' now)
  | .error e => (.error e, .new c now)

theorem outcome_update_none (operation : Catalog → Except CatalogError Catalog) (c : Catalog)
    (now : Int) :
    InStore.outcome (do Store.update operation; return none) (.new c now) =
      settled c now ((·, none) <$> operation c) := by
  rw [outcome_bind, outcome_update, Store.catalog_new]
  cases operation c <;> rfl

/-- A store without a gate does what the catalog says; a refusal changes nothing. -/
theorem outcome_run (op : CatalogOp) (c : Catalog) (now : Int) :
    op.run.outcome (.new c now) = settled c now (op.apply c now) := by
  have reading : (Store.new c now).now = now := rfl
  cases op with
  | write id batches =>
      have applied : (write id batches).apply c now =
          (fun done => (done.1, some done.2)) <$> c.write id batches now := rfl
      unfold run Store.write
      rw [applied, outcome_map, outcome_enter_bind, outcome_commit, Store.catalog_new, reading]
      cases c.write id batches now <;> rfl
  | compact id request =>
      have entered : (Store.compact id request).outcome (.new c now) =
          InStore.outcome (do Store.enter .compact; Store.commit fun c now => c.compact id request now)
            (.new c now) := rfl
      have applied : (compact id request).apply c now = c.compact id request now := rfl
      unfold run
      rw [applied, entered, outcome_enter_bind, outcome_commit, Store.catalog_new, reading]
      cases c.compact id request now <;> rfl
  | createDatabase name ignoreIfExists =>
      exact outcome_update_none (·.createDatabase name ignoreIfExists) c now
  | dropDatabase name ignoreIfMissing cascade =>
      exact outcome_update_none (·.dropDatabase name ignoreIfMissing cascade) c now
  | createTable id schema ignoreIfExists =>
      exact outcome_update_none (·.createTable id schema ignoreIfExists) c now
  | dropTable id ignoreIfMissing =>
      exact outcome_update_none (·.dropTable id ignoreIfMissing) c now
  | renameTable source target ignoreIfMissing =>
      exact outcome_update_none (·.renameTable source target ignoreIfMissing) c now
  | alterTable id changes ignoreIfMissing =>
      exact outcome_update_none (·.alterTable id changes ignoreIfMissing) c now
  | rollbackTo id version => exact outcome_update_none (·.rollbackTo id version) c now
  | createTag id tag snapshot => exact outcome_update_none (·.createTag id tag snapshot) c now

/-! ## Effects -/

/-- What was asked for is there already, or is not there to be changed, and that was
said to be fine. -/
def Idle (c : Catalog) : CatalogOp → Prop
  | .createDatabase name ignoreIfExists =>
      ignoreIfExists = true ∧ c.databaseExists name = true
  | .dropDatabase name ignoreIfMissing _ =>
      ignoreIfMissing = true ∧ c.databaseExists name = false
  | .createTable id _ ignoreIfExists => ignoreIfExists = true ∧ c.tableExists id = true
  | .dropTable id ignoreIfMissing => ignoreIfMissing = true ∧ c.tableExists id = false
  | .renameTable source _ ignoreIfMissing =>
      ignoreIfMissing = true ∧ c.tableExists source = false
  | .alterTable id _ ignoreIfMissing => ignoreIfMissing = true ∧ c.tableExists id = false
  | _ => False

end CatalogOp

/-- One table a step further, and the snapshot that was committed, if any. -/
inductive TableEntry.Step (id : TableId) (now : Int) (t : TableEntry) :
    CatalogOp → TableEntry → Option Snapshot → Prop
  | alter {changes : List SchemaChange} {ignoreIfMissing : Bool} {schema : Schema}
      (evolved : t.schema.applyChanges id changes = .ok schema) :
      Step id now t (.alterTable id changes ignoreIfMissing) { t with schema } none
  | write {batches written : List Batch}
      (made : (batches.mapM fun b =>
        (Batch.make t.schema.fields b.columns).mapError CatalogError.data) = .ok written) :
      Step id now t (.write id batches)
        (t.commit (t.nextSnapshot .append now (t.latestBatches ++ written)))
        (some (t.nextSnapshot .append now (t.latestBatches ++ written)))
  | compact {request : CompactRequest} (admitted : t.admitRequest id request = .ok ())
      (filled : t.snapshots ≠ []) :
      Step id now t (.compact id request)
        (t.commit (t.nextSnapshot .compact now t.latestBatches))
        (some (t.nextSnapshot .compact now t.latestBatches))
  | compactEmpty {request : CompactRequest} (admitted : t.admitRequest id request = .ok ())
      (empty : t.snapshots = []) :
      Step id now t (.compact id request) t none
  | rollback {version : Version} {n : Nat} (means : t.versionId id version = .ok n)
      (kept : t.hasSnapshot n = true) :
      Step id now t (.rollbackTo id version) (t.upTo n) none
  | tag {tag : String} {snapshot : Option Nat} {n : Nat} (free : t.tags.contains tag = false)
      (target : t.tagTarget id snapshot = .ok n) :
      Step id now t (.createTag id tag snapshot) { t with tags := t.tags.insert tag n } none

namespace CatalogOp

/-- What an accepted operation makes of a catalog, and the snapshot it committed, if any. -/
inductive Effect (c : Catalog) (now : Int) : CatalogOp → Catalog → Option Snapshot → Prop
  | idle {op : CatalogOp} (idle : op.Idle c) : Effect c now op c none
  | createDatabase {name : String} {ignoreIfExists : Bool}
      (free : c.databases.get? name = none) :
      Effect c now (.createDatabase name ignoreIfExists) (c.setDatabase name ∅) none
  | dropDatabase {name : String} {ignoreIfMissing cascade : Bool} {db : Database}
      (found : c.databases.get? name = some db) (allowed : (db.isEmpty || cascade) = true) :
      Effect c now (.dropDatabase name ignoreIfMissing cascade)
        { c with databases := c.databases.erase name } none
  | createTable {id : TableId} {schema : Schema} {ignoreIfExists : Bool} {db : Database}
      (inside : c.databases.get? id.database = some db) (free : c.entry? id = none) :
      Effect c now (.createTable id schema ignoreIfExists) (c.setEntry id (.new schema)) none
  | dropTable {id : TableId} {ignoreIfMissing : Bool} {t : TableEntry}
      (found : c.entry? id = some t) :
      Effect c now (.dropTable id ignoreIfMissing) (c.eraseEntry id) none
  | renameTable {source target : TableId} {ignoreIfMissing : Bool} {t : TableEntry}
      {db : Database} (found : c.entry? source = some t)
      (inside : c.databases.get? target.database = some db) (free : c.entry? target = none) :
      Effect c now (.renameTable source target ignoreIfMissing)
        ((c.eraseEntry source).setEntry target t) none
  | step {op : CatalogOp} {id : TableId} {t t' : TableEntry} {answer : Option Snapshot}
      (found : c.entry? id = some t) (step : t.Step id now op t' answer) :
      Effect c now op (c.setEntry id t') answer

variable {c c' : Catalog} {now : Int}

theorem effect_createDatabase {name : String} {ignoreIfExists : Bool}
    (made : c.createDatabase name ignoreIfExists = .ok c') :
    Effect c now (.createDatabase name ignoreIfExists) c' none := by
  unfold Catalog.createDatabase at made
  split at made
  · rename_i there
    split at made
    · rename_i ignored
      cases made
      exact .idle ⟨ignored, there⟩
    · cases made
  · rename_i free
    cases made
    exact .createDatabase (Option.not_isSome_iff_eq_none.mp free)

theorem effect_dropDatabase {name : String} {ignoreIfMissing cascade : Bool}
    (made : c.dropDatabase name ignoreIfMissing cascade = .ok c') :
    Effect c now (.dropDatabase name ignoreIfMissing cascade) c' none := by
  unfold Catalog.dropDatabase at made
  cases found : c.databases.get? name with
  | none =>
      simp only [found] at made
      split at made
      · rename_i ignored
        cases made
        exact .idle ⟨ignored, by rw [Catalog.databaseExists, OrderedMap.contains, found]; rfl⟩
      · cases made
  | some db =>
      simp only [found] at made
      split at made
      · rename_i allowed
        cases made
        exact .dropDatabase found allowed
      · cases made

theorem effect_createTable {id : TableId} {schema : Schema} {ignoreIfExists : Bool}
    (made : c.createTable id schema ignoreIfExists = .ok c') :
    Effect c now (.createTable id schema ignoreIfExists) c' none := by
  unfold Catalog.createTable Catalog.database at made
  cases inside : c.databases.get? id.database with
  | none => simp [inside, bind, Except.bind] at made
  | some db =>
      have here : c.entry? id = db.get? id.object := Catalog.entry?_eq_get? inside
      simp only [inside, bind, Except.bind] at made
      split at made
      · rename_i there
        split at made
        · rename_i ignored
          cases made
          exact .idle ⟨ignored, by rw [Catalog.tableExists, here]; exact there⟩
        · cases made
      · rename_i free
        cases made
        have placed : c.setDatabase id.database (db.insert id.object (.new schema)) =
            c.setEntry id (.new schema) := by
          simp only [Catalog.setEntry, inside]
        rw [placed]
        exact .createTable inside (here.trans (Option.not_isSome_iff_eq_none.mp free))

theorem effect_dropTable {id : TableId} {ignoreIfMissing : Bool}
    (made : c.dropTable id ignoreIfMissing = .ok c') :
    Effect c now (.dropTable id ignoreIfMissing) c' none := by
  unfold Catalog.dropTable at made
  split at made
  · rename_i there
    cases made
    obtain ⟨t, found⟩ := Option.isSome_iff_exists.mp there
    exact .dropTable found
  · rename_i missing
    split at made
    · rename_i ignored
      cases made
      exact .idle ⟨ignored, Bool.not_eq_true _ ▸ missing⟩
    · cases made

theorem effect_renameTable {source target : TableId} {ignoreIfMissing : Bool}
    (made : c.renameTable source target ignoreIfMissing = .ok c') :
    Effect c now (.renameTable source target ignoreIfMissing) c' none := by
  unfold Catalog.renameTable Catalog.database at made
  cases found : c.entry? source with
  | none =>
      simp only [found] at made
      split at made
      · rename_i ignored
        cases made
        exact .idle ⟨ignored, by rw [Catalog.tableExists, found]; rfl⟩
      · cases made
  | some t =>
      simp only [found] at made
      cases inside : c.databases.get? target.database with
      | none => simp [inside, bind, Except.bind] at made
      | some db =>
          simp only [inside, bind, Except.bind] at made
          split at made
          · cases made
          · rename_i free
            cases made
            have missing : db.get? target.object = none := Option.not_isSome_iff_eq_none.mp free
            exact .renameTable found inside ((Catalog.entry?_eq_get? inside).trans missing)

theorem effect_alterTable {id : TableId} {changes : List SchemaChange} {ignoreIfMissing : Bool}
    (made : c.alterTable id changes ignoreIfMissing = .ok c') :
    Effect c now (.alterTable id changes ignoreIfMissing) c' none := by
  unfold Catalog.alterTable at made
  split at made
  · rename_i ignored
    cases made
    rw [Bool.and_eq_true, Bool.not_eq_true'] at ignored
    exact .idle ignored
  · obtain ⟨t, t', found, changed, rfl⟩ := Catalog.modifyEntry_ok_iff.mp made
    simp only [bind_eq_ok_iff, pure_eq_ok_iff] at changed
    obtain ⟨schema, evolved, rfl⟩ := changed
    exact .step found (.alter evolved)

theorem effect_write {id : TableId} {batches : List Batch} {s : Snapshot}
    (made : c.write id batches now = .ok (c', s)) :
    Effect c now (.write id batches) c' (some s) := by
  simp only [Catalog.write, bind_eq_ok_iff, pure_eq_ok_iff, Prod.mk.injEq] at made
  obtain ⟨t, there, ⟨t', s'⟩, written, rfl, rfl⟩ := made
  obtain ⟨rows, fit, rfl, rfl⟩ := TableEntry.write_ok_iff.mp written
  exact .step (Catalog.entry_ok_iff.mp there) (.write fit)

theorem effect_compact {id : TableId} {request : CompactRequest} {answer : Option Snapshot}
    (made : c.compact id request now = .ok (c', answer)) :
    Effect c now (.compact id request) c' answer := by
  simp only [Catalog.compact, bind_eq_ok_iff, pure_eq_ok_iff, Prod.mk.injEq] at made
  obtain ⟨t, there, ⟨t', answer'⟩, compacted, rfl, rfl⟩ := made
  have found := Catalog.entry_ok_iff.mp there
  obtain ⟨admitted, ⟨empty, rfl, rfl⟩ | ⟨filled, rfl, rfl⟩⟩ :=
    TableEntry.compact_ok_iff.mp compacted
  · exact .step found (.compactEmpty admitted empty)
  · exact .step found (.compact admitted filled)

theorem effect_rollbackTo {id : TableId} {version : Version}
    (made : c.rollbackTo id version = .ok c') :
    Effect c now (.rollbackTo id version) c' none := by
  obtain ⟨t, t', found, changed, rfl⟩ := Catalog.modifyEntry_ok_iff.mp made
  obtain ⟨n, means, kept, rfl⟩ := TableEntry.rollback_ok_iff.mp changed
  exact .step found (.rollback means kept)

theorem effect_createTag {id : TableId} {tag : String} {snapshot : Option Nat}
    (made : c.createTag id tag snapshot = .ok c') :
    Effect c now (.createTag id tag snapshot) c' none := by
  obtain ⟨t, t', found, changed, rfl⟩ := Catalog.modifyEntry_ok_iff.mp made
  obtain ⟨free, n, target, rfl⟩ := TableEntry.createTag_ok_iff.mp changed
  exact .step found (.tag free target)

theorem effect_of_map {op : CatalogOp} {result : Except CatalogError Catalog}
    {answer : Option Snapshot} (effect : ∀ c', result = .ok c' → Effect c now op c' none)
    (made : (·, none) <$> result = .ok (c', answer)) : Effect c now op c' answer := by
  obtain ⟨c', done, same⟩ := map_eq_ok_iff.mp made
  cases same
  exact effect c' done

theorem effect_of_apply {op : CatalogOp} {answer : Option Snapshot}
    (made : op.apply c now = .ok (c', answer)) : Effect c now op c' answer := by
  cases op with
  | createDatabase name ignoreIfExists =>
      exact effect_of_map (fun _ => effect_createDatabase) made
  | dropDatabase name ignoreIfMissing cascade =>
      exact effect_of_map (fun _ => effect_dropDatabase) made
  | createTable id schema ignoreIfExists =>
      exact effect_of_map (fun _ => effect_createTable) made
  | dropTable id ignoreIfMissing => exact effect_of_map (fun _ => effect_dropTable) made
  | renameTable source target ignoreIfMissing =>
      exact effect_of_map (fun _ => effect_renameTable) made
  | alterTable id changes ignoreIfMissing =>
      exact effect_of_map (fun _ => effect_alterTable) made
  | write id batches =>
      obtain ⟨⟨c', s⟩, done, same⟩ := map_eq_ok_iff.mp made
      cases same
      exact effect_write done
  | compact id request => exact effect_compact made
  | rollbackTo id version => exact effect_of_map (fun _ => effect_rollbackTo) made
  | createTag id tag snapshot => exact effect_of_map (fun _ => effect_createTag) made

/-- **A refused operation leaves the catalog as it was**, and an accepted one has its
effect. -/
theorem outcome_cases (op : CatalogOp) (c : Catalog) (now : Int) :
    (∃ e, op.run.outcome (.new c now) = (.error e, .new c now)) ∨
      ∃ c' answer, op.run.outcome (.new c now) = (.ok answer, .new c' now) ∧
        Effect c now op c' answer := by
  rw [outcome_run]
  cases made : op.apply c now with
  | error e => exact .inl ⟨e, rfl⟩
  | ok done => exact .inr ⟨done.1, done.2, rfl, effect_of_apply made⟩

end CatalogOp

/-! ## Tables that are there afterwards -/

variable {c c' : Catalog} {id : TableId}

/-- A table that was made where none was is there, without data. -/
theorem Catalog.entry?_createTable_of_free {schema : Schema} {ignoreIfExists : Bool}
    (free : c.entry? id = none) (made : c.createTable id schema ignoreIfExists = .ok c') :
    c'.entry? id = some (.new schema) := by
  have effect : CatalogOp.Effect c 0 (.createTable id schema ignoreIfExists) c' none :=
    CatalogOp.effect_createTable made
  cases effect with
  | idle idle =>
      have there : c.tableExists id = true := idle.2
      rw [Catalog.tableExists, free] at there
      cases there
  | createTable inside free => exact Catalog.entry?_setEntry_self inside _
  | step _ step => cases step

/-- A table that was made is there, without data. -/
theorem Catalog.entry?_createTable {schema : Schema}
    (made : c.createTable id schema false = .ok c') : c'.entry? id = some (.new schema) := by
  have effect : CatalogOp.Effect c 0 (.createTable id schema false) c' none :=
    CatalogOp.effect_createTable made
  cases effect with
  | idle idle => cases idle.1
  | createTable inside free => exact Catalog.entry?_setEntry_self inside _
  | step _ step => cases step

/-- A table that is altered is there, with the evolved schema over the same data; one that
is not there may be left alone. -/
theorem Catalog.entry?_alterTable {changes : List SchemaChange} {ignoreIfMissing : Bool}
    (made : c.alterTable id changes ignoreIfMissing = .ok c') :
    ignoreIfMissing = true ∧ c.entry? id = none ∧ c' = c ∨
      ∃ t schema, c.entry? id = some t ∧ t.schema.applyChanges id changes = .ok schema ∧
        c'.entry? id = some { t with schema } := by
  have effect : CatalogOp.Effect c 0 (.alterTable id changes ignoreIfMissing) c' none :=
    CatalogOp.effect_alterTable made
  cases effect with
  | idle idle =>
      exact .inl ⟨idle.1, Catalog.tableExists_eq_false_iff.mp idle.2, rfl⟩
  | step there step =>
      cases step with
      | alter evolved =>
          obtain ⟨db, inside, -⟩ := Catalog.exists_database_of_entry? there
          exact .inr ⟨_, _, there, evolved, Catalog.entry?_setEntry_self inside _⟩

/-- What was there and is altered has the evolved schema over the same data. -/
theorem Catalog.evolved_of_alterTable {t : TableEntry} {changes : List SchemaChange}
    {ignoreIfMissing : Bool} (there : c.entry? id = some t)
    (made : c.alterTable id changes ignoreIfMissing = .ok c') :
    ∃ schema, t.schema.applyChanges id changes = .ok schema ∧
      c'.entry? id = some { t with schema } := by
  rcases Catalog.entry?_alterTable made with ⟨-, missing, -⟩ | ⟨_, schema, found, evolved, left⟩
  · rw [there] at missing
    cases missing
  · rw [there] at found
    cases found
    exact ⟨schema, evolved, left⟩

end TableLake
