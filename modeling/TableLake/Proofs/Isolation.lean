/-
# TableLake.Proofs.Isolation — an operation changes the tables that it names and no others

An operation names a table or two, or a database that it drops (`CatalogOp.Concerns`).  Every
other table is handed out as before, and in its database the others are listed in the order
they had (`Effect.entry?_of_spared`, `Effect.filter_tableNames`).  Both are seen of the few
replacements that effects are made of.

A rename takes an entry out of one database and puts it into another, or the same.  All that
could stop it is asked before, so it is refused with nothing moved, or the entry has moved as
it was (`renameTable_of_movable`).  Then nothing stands in the way back.
-/
import TableLake.Proofs.Refusal

namespace TableLake

open TableLake.Outcome

set_option autoImplicit false

variable {c c' : Catalog} {now : Int} {op : CatalogOp} {answer : Option Snapshot}
variable {id other source target : TableId} {t t' : TableEntry} {name database : String}

/-- The operation names the table, or drops the database that it is in. -/
def CatalogOp.Concerns (id : TableId) : CatalogOp → Prop
  | .createDatabase _ _ => False
  | .dropDatabase name _ _ => name = id.database
  | .renameTable source target _ => source = id ∨ target = id
  | .createTable other _ _ | .dropTable other _ | .alterTable other _ _ | .write other _
  | .compact other _ | .rollbackTo other _ | .createTag other _ _ => other = id

instance (id : TableId) (op : CatalogOp) : Decidable (op.Concerns id) := by
  cases op <;> unfold CatalogOp.Concerns <;> infer_instance

theorem TableEntry.Step.concerns (step : t.Step id now op t' answer) : op.Concerns id := by
  cases step <;> rfl

/-! ## Listing -/

namespace Catalog

/-- The names of the tables of a database in order; none where there is no database. -/
def tableNames (c : Catalog) (database : String) : List String :=
  ((c.databases.get? database).map OrderedMap.keys).getD []

theorem listTables_ok_iff {names : List String} :
    c.listTables database = .ok names ↔
      ∃ db, c.databases.get? database = some db ∧ db.keys = names := by
  unfold listTables Catalog.database
  cases c.databases.get? database <;> simp [Functor.map, Except.map]

theorem tableNames_of_listTables {names : List String}
    (listed : c.listTables database = .ok names) : c.tableNames database = names := by
  obtain ⟨db, found, rfl⟩ := listTables_ok_iff.mp listed
  rw [tableNames, found]
  rfl

theorem tableNames_setDatabase (c : Catalog) (name database : String) (db : Database) :
    (c.setDatabase name db).tableNames database =
      if name = database then db.keys else c.tableNames database := by
  unfold tableNames setDatabase
  rw [OrderedMap.get?_insert]
  split <;> rfl

theorem tableNames_eq {db : Database} (inside : c.databases.get? database = some db) :
    c.tableNames database = db.keys := by
  rw [tableNames, inside]
  rfl

variable {keep : String → Bool}

/-- An entry that is set leaves the other names in their order. -/
theorem filter_tableNames_setEntry (c : Catalog) (t : TableEntry)
    (spared : id.database = database → keep id.object = false) :
    ((c.setEntry id t).tableNames database).filter keep = (c.tableNames database).filter keep := by
  unfold setEntry
  cases inside : c.databases.get? id.database with
  | none => rfl
  | some db =>
      simp only
      rw [tableNames_setDatabase]
      split
      · rename_i same
        rw [OrderedMap.filter_keys_insert db (spared same), ← same, tableNames_eq inside]
      · rfl

/-- An entry that is erased leaves the other names in their order. -/
theorem filter_tableNames_eraseEntry (c : Catalog)
    (spared : id.database = database → keep id.object = false) :
    ((c.eraseEntry id).tableNames database).filter keep = (c.tableNames database).filter keep := by
  unfold eraseEntry
  cases inside : c.databases.get? id.database with
  | none => rfl
  | some db =>
      simp only
      rw [tableNames_setDatabase]
      split
      · rename_i same
        rw [OrderedMap.filter_keys_erase db (spared same), ← same, tableNames_eq inside]
      · rfl

/-- A table is there just if its database lists its name, once. -/
theorem tableExists_iff_listed :
    c.tableExists id = true ↔
      ∃ names, c.listTables id.database = .ok names ∧ names.count id.object = 1 := by
  simp only [listTables_ok_iff]
  rw [tableExists, entry?]
  cases c.databases.get? id.database with
  | none => simp
  | some db =>
      have once : db.keys.count id.object = 1 ↔ id.object ∈ db.keys :=
        ⟨fun one => List.count_pos_iff.mp (one ▸ Nat.one_pos),
          fun inside => List.count_eq_one_of_mem db.nodup inside⟩
      have listed : (db.get? id.object).isSome = true ↔ id.object ∈ db.keys :=
        OrderedMap.contains_iff_mem_keys db id.object
      simpa [once] using listed

/-- A table is there just if it is handed out. -/
theorem tableExists_iff_given : c.tableExists id = true ↔ ∃ v, c.getTable id = .ok v := by
  simp only [getTable_ok_iff]
  rw [tableExists, Option.isSome_iff_exists]
  constructor
  · rintro ⟨t, found⟩
    exact ⟨_, t, found, rfl⟩
  · rintro ⟨_, t, found, -⟩
    exact ⟨t, found⟩

theorem exists_database_setEntry {db : Database} (found : c.databases.get? name = some db)
    (id : TableId) (t : TableEntry) : ∃ db', (c.setEntry id t).databases.get? name = some db' := by
  unfold setEntry
  cases inside : c.databases.get? id.database with
  | none => exact ⟨db, found⟩
  | some home =>
      by_cases same : id.database = name
      · exact ⟨home.insert id.object t, by simp [setDatabase, same]⟩
      · exact ⟨db, by simp [setDatabase, same, found]⟩

theorem getTable_congr (same : c'.entry? id = c.entry? id) : c'.getTable id = c.getTable id := by
  unfold getTable entry
  rw [same]

/-! ## Dropping -/

/-- The catalog without a database. -/
def without (c : Catalog) (database : String) : Catalog :=
  { c with databases := c.databases.erase database }

theorem eraseEntry_of_missing (missing : c.entry? id = none) : c.eraseEntry id = c := by
  unfold eraseEntry
  cases inside : c.databases.get? id.database with
  | none => rfl
  | some db =>
      have free : db.get? id.object = none := (entry?_eq_get? inside).symm.trans missing
      simp only
      rw [OrderedMap.erase_of_missing free, setDatabase_self inside]

theorem databaseExists_without (c : Catalog) (database : String) :
    (c.without database).databaseExists database = false :=
  c.databases.contains_erase database

theorem without_of_missing (missing : c.databases.get? database = none) :
    c.without database = c := by
  rw [without, OrderedMap.erase_of_missing missing]

end Catalog

/-! ## Effects -/

namespace CatalogOp

/-- A table that an operation does not concern is what it was. -/
theorem Effect.entry?_of_spared (effect : Effect c now op c' answer) (spared : ¬op.Concerns id) :
    c'.entry? id = c.entry? id := by
  cases effect with
  | idle => rfl
  | createDatabase free =>
      rw [Catalog.entry?_setDatabase]
      split
      · rename_i same
        rw [Catalog.entry?, ← same, free]
        rfl
      · rfl
  | dropDatabase => exact (c.entry?_eraseDatabase _ id).trans (if_neg spared)
  | createTable inside => exact (Catalog.entry?_setEntry inside _ id).trans (if_neg spared)
  | dropTable => exact (c.entry?_eraseEntry _ id).trans (if_neg spared)
  | @renameTable source target _ _ _ _ inside =>
      obtain ⟨_, inside⟩ := Catalog.exists_database_eraseEntry inside source
      rw [Catalog.entry?_setEntry inside, Catalog.entry?_eraseEntry,
        if_neg fun same => spared (.inr same), if_neg fun same => spared (.inl same)]
  | step found step =>
      obtain ⟨db, inside, -⟩ := Catalog.exists_database_of_entry? found
      rw [Catalog.entry?_setEntry inside, if_neg]
      rintro rfl
      exact spared step.concerns

/-- The tables that an operation does not concern are listed in the order they had. -/
theorem Effect.filter_tableNames (effect : Effect c now op c' answer) {keep : String → Bool}
    (spared : ∀ name, op.Concerns ⟨database, name⟩ → keep name = false) :
    (c'.tableNames database).filter keep = (c.tableNames database).filter keep := by
  have named {id : TableId} (concerned : op.Concerns id) (same : id.database = database) :
      keep id.object = false := by
    subst same
    exact spared id.object concerned
  cases effect with
  | idle => rfl
  | @createDatabase name _ free =>
      rw [Catalog.tableNames_setDatabase]
      split
      · rename_i same
        rw [Catalog.tableNames, ← same, free]
        rfl
      · rfl
  | @dropDatabase name _ _ db found =>
      by_cases same : name = database
      · -- all tables of the database are concerned, so none is left to compare
        have none (names : List String) : names.filter keep = [] :=
          List.filter_eq_nil_iff.mpr fun n _ => by simp [spared n same]
        rw [none, none]
      · rw [Catalog.tableNames, OrderedMap.get?_erase, if_neg same]
        rfl
  | createTable => exact c.filter_tableNames_setEntry _ (named rfl)
  | dropTable => exact c.filter_tableNames_eraseEntry (named rfl)
  | @renameTable source target _ t =>
      rw [Catalog.filter_tableNames_setEntry _ t (named (.inr rfl))]
      exact c.filter_tableNames_eraseEntry (named (.inl rfl))
  | step found step => exact c.filter_tableNames_setEntry _ (named step.concerns)

/-- A database stays unless it is dropped. -/
theorem Effect.exists_database (effect : Effect c now op c' answer) {db : Database}
    (found : c.databases.get? database = some db)
    (kept : ∀ ignoreIfMissing cascade, op ≠ .dropDatabase database ignoreIfMissing cascade) :
    ∃ db', c'.databases.get? database = some db' := by
  cases effect with
  | idle => exact ⟨db, found⟩
  | @createDatabase name =>
      rw [Catalog.setDatabase, OrderedMap.get?_insert]
      split
      · exact ⟨∅, rfl⟩
      · exact ⟨db, found⟩
  | @dropDatabase name ignoreIfMissing cascade =>
      have different : name ≠ database := by
        rintro rfl
        exact kept ignoreIfMissing cascade rfl
      exact ⟨db, by rw [OrderedMap.get?_erase, if_neg different, found]⟩
  | createTable => exact Catalog.exists_database_setEntry found _ _
  | dropTable => exact Catalog.exists_database_eraseEntry found _
  | renameTable =>
      obtain ⟨_, found⟩ := Catalog.exists_database_eraseEntry found _
      exact Catalog.exists_database_setEntry found _ _
  | step => exact Catalog.exists_database_setEntry found _ _

/-- An operation is refused and nothing has happened, or it has its effect. -/
theorem after_cases (op : CatalogOp) (c : Catalog) (now : Int) :
    ((∃ e, op.answer c now = .error e) ∧ op.after c now = c) ∨
      ∃ answer, op.answer c now = .ok answer ∧ Effect c now op (op.after c now) answer := by
  rw [CatalogOp.answer, after]
  rcases op.outcome_cases c now with ⟨e, left⟩ | ⟨c', answer, left, effect⟩
  · rw [left]
    exact .inl ⟨⟨e, rfl⟩, rfl⟩
  · rw [left]
    exact .inr ⟨answer, rfl, effect⟩

end CatalogOp

/-! ## Renames -/

/-- A table can be given a name: it is there, and so is the database of the name, and the name
is free. -/
structure Catalog.Movable (c : Catalog) (source target : TableId) : Prop where
  there : c.tableExists source = true
  home : c.databaseExists target.database = true
  free : c.tableExists target = false

namespace Catalog

/-- The catalog with a table under another name. -/
def moved (c : Catalog) (source target : TableId) (t : TableEntry) : Catalog :=
  (c.eraseEntry source).setEntry target t

theorem entry?_moved {db : Database} (inside : c.databases.get? target.database = some db)
    (source : TableId) (t : TableEntry) (id : TableId) :
    Catalog.entry? (c.moved source target t) id =
      if target = id then some t else if source = id then none else c.entry? id := by
  obtain ⟨_, inside⟩ := exists_database_eraseEntry inside source
  rw [moved, entry?_setEntry inside, entry?_eraseEntry]

/-- A table that can be renamed is. -/
theorem renameTable_of_movable {db : Database} (found : c.entry? source = some t)
    (inside : c.databases.get? target.database = some db) (free : c.entry? target = none)
    (ignoreIfMissing : Bool) :
    c.renameTable source target ignoreIfMissing = .ok (c.moved source target t) := by
  have absent : db.contains target.object = false := by
    rw [OrderedMap.contains, ← entry?_eq_get? inside, free]
    rfl
  unfold renameTable Catalog.database
  simp only [found, inside]
  show (if db.contains target.object then _ else _) = _
  rw [absent]
  rfl

/-- What a rename leaves behind: the table under its new name and not under the old one, and
the way back open. -/
structure Moved (c c' : Catalog) (source target : TableId) : Prop where
  arrived : ∀ v, c.getTable source = .ok v → c'.getTable target = .ok { v with id := target }
  gone : c'.tableExists source = false
  back : ∀ ignoreIfMissing now,
    (CatalogOp.renameTable target source ignoreIfMissing).answer c' now = .ok none ∧
      ∀ id, ((CatalogOp.renameTable target source ignoreIfMissing).after c' now).getTable id =
        c.getTable id

end Catalog

namespace CatalogOp

theorem renameTable_outcome {ignoreIfMissing : Bool}
    (made : c.renameTable source target ignoreIfMissing = .ok c') (now : Int) :
    (renameTable source target ignoreIfMissing).answer c now = .ok none ∧
      (renameTable source target ignoreIfMissing).after c now = c' := by
  rw [CatalogOp.answer, after, outcome_run]
  simp only [apply, made]
  exact ⟨rfl, rfl⟩

/-- A table that can be moved moves, and moves back. -/
theorem moved_of_movable (movable : c.Movable source target) (ignoreIfMissing : Bool) (now : Int) :
    (renameTable source target ignoreIfMissing).answer c now = .ok none ∧
      c.Moved ((renameTable source target ignoreIfMissing).after c now) source target := by
  obtain ⟨t, found⟩ := Option.isSome_iff_exists.mp movable.there
  obtain ⟨db, inside⟩ := Option.isSome_iff_exists.mp movable.home
  have free := Catalog.tableExists_eq_false_iff.mp movable.free
  have different : target ≠ source := by
    rintro rfl
    rw [found] at free
    cases free
  obtain ⟨answered, left⟩ :=
    renameTable_outcome (Catalog.renameTable_of_movable found inside free ignoreIfMissing) now
  refine ⟨answered, ?_⟩
  rw [left]
  have entries := Catalog.entry?_moved inside source t
  have arrived : Catalog.entry? (c.moved source target t) target = some t := by
    rw [entries, if_pos rfl]
  have gone : Catalog.entry? (c.moved source target t) source = none := by
    rw [entries, if_neg different, if_pos rfl]
  refine ⟨fun v given => ?_, by rw [Catalog.tableExists, gone]; rfl, fun ignoreIfMissing now => ?_⟩
  · obtain ⟨t', found', rfl⟩ := Catalog.getTable_ok_iff.mp given
    rw [found] at found'
    cases found'
    exact Catalog.getTable_ok_iff.mpr ⟨t, arrived, rfl⟩
  · obtain ⟨home, housed, -⟩ := Catalog.exists_database_of_entry? found
    obtain ⟨_, housed⟩ := Catalog.exists_database_eraseEntry housed source
    obtain ⟨_, housed⟩ : ∃ db', (c.moved source target t).databases.get? source.database = some db' :=
      Catalog.exists_database_setEntry housed target t
    obtain ⟨answered, left⟩ :=
      renameTable_outcome (Catalog.renameTable_of_movable arrived housed gone ignoreIfMissing) now
    refine ⟨answered, fun id => Catalog.getTable_congr ?_⟩
    rw [left, Catalog.entry?_moved housed, entries]
    -- the two names have changed places twice, and nothing else has moved
    split
    · rename_i same
      rw [← same, found]
    · split
      · rename_i same
        rw [← same, free]
      · rfl

/-- A rename that cannot be made leaves everything alone, and is refused unless the table is
missing and that was said to be fine. -/
theorem rename_of_not_movable (stuck : ¬c.Movable source target) (ignoreIfMissing : Bool)
    (now : Int) :
    (renameTable source target ignoreIfMissing).after c now = c ∧
      ((∃ answer, (renameTable source target ignoreIfMissing).answer c now = .ok answer) ↔
        ignoreIfMissing = true ∧ c.tableExists source = false) := by
  have fine (missing : ignoreIfMissing = true ∧ c.tableExists source = false) :
      (renameTable source target ignoreIfMissing).run.outcome (.new c now) =
        (.ok none, .new c now) :=
    outcome_of_idle missing
  rw [CatalogOp.answer, after]
  rcases (renameTable source target ignoreIfMissing).outcome_cases c now with
    ⟨e, left⟩ | ⟨c', answer, left, effect⟩
  · refine ⟨by rw [left]; rfl, iff_of_false ?_ fun missing => ?_⟩
    · rw [left]
      rintro ⟨answer, ⟨⟩⟩
    · rw [fine missing] at left
      cases left
  · cases effect with
    | idle idle => exact ⟨by rw [left]; rfl, iff_of_true ⟨_, by rw [left]⟩ idle⟩
    | renameTable found inside free =>
        refine absurd ⟨?_, ?_, ?_⟩ stuck
        · rw [Catalog.tableExists, found]
          rfl
        · rw [Catalog.databaseExists, OrderedMap.contains, inside]
          rfl
        · rw [Catalog.tableExists, free]
          rfl
    | step _ step => cases step

/-- No table can be moved to where it is. -/
theorem not_movable_self (c : Catalog) (id : TableId) : ¬c.Movable id id := by
  rintro ⟨there, -, free⟩
  rw [there] at free
  cases free

/-- A table that is dropped is gone and no other one is; if there is none, nothing happens. -/
theorem after_dropTable (c : Catalog) (id : TableId) (ignoreIfMissing : Bool) (now : Int) :
    (dropTable id ignoreIfMissing).after c now = c.eraseEntry id := by
  rw [after, outcome_run]
  simp only [apply, Catalog.dropTable]
  cases there : c.tableExists id with
  | true => rfl
  | false =>
      rw [Catalog.eraseEntry_of_missing (Catalog.tableExists_eq_false_iff.mp there)]
      cases ignoreIfMissing <;> rfl

/-- A database that is dropped with its tables is gone, and so are they and no others. -/
theorem after_dropDatabase_cascade (c : Catalog) (name : String) (ignoreIfMissing : Bool)
    (now : Int) :
    ((dropDatabase name ignoreIfMissing true).after c now).databaseExists name = false ∧
      ∀ id, ((dropDatabase name ignoreIfMissing true).after c now).tableExists id = true ↔
        c.tableExists id = true ∧ name ≠ id.database := by
  have dropped : (dropDatabase name ignoreIfMissing true).after c now = c.without name := by
    rw [after, outcome_run]
    simp only [apply, Catalog.dropDatabase]
    cases missing : c.databases.get? name with
    | none =>
        rw [Catalog.without_of_missing missing]
        cases ignoreIfMissing <;> rfl
    | some db =>
        simp only [Bool.or_true, if_true]
        rfl
  rw [dropped]
  refine ⟨c.databaseExists_without name, fun id => ?_⟩
  rw [Catalog.tableExists, Catalog.tableExists, Catalog.without, Catalog.entry?_eraseDatabase]
  by_cases same : name = id.database <;> simp [same]

end CatalogOp

/-- **Tables are kept apart.**  Whatever an operation does, accepted or refused, every table that
it does not concern is handed out as before, and every database that it does not drop lists the
others in the order they had.  A database that is dropped with its tables takes just these
along.  A table is there just if its database lists it, once, and just
if it is handed out.  A rename takes effect just if the table is there, the database of the
new name is there and the name is free: then the table is handed out under the new name as it
was, is not there under the old one, and can be renamed back, after which every table is
handed out as before.  Otherwise nothing changes, and the rename is refused, unless the table
is missing and that was said to be fine.  So no table is ever renamed to itself. -/
theorem tables_isolated (c : Catalog) (now : Int) :
    (∀ op : CatalogOp,
      (∀ id, ¬op.Concerns id → (op.after c now).getTable id = c.getTable id) ∧
      ∀ database names, c.listTables database = .ok names →
        (∀ ignoreIfMissing cascade, op ≠ .dropDatabase database ignoreIfMissing cascade) →
          ∃ names', (op.after c now).listTables database = .ok names' ∧
            names'.filter (fun name => ¬op.Concerns ⟨database, name⟩) =
              names.filter fun name => ¬op.Concerns ⟨database, name⟩) ∧
    (∀ name ignoreIfMissing,
      let c' := (CatalogOp.dropDatabase name ignoreIfMissing true).after c now
      c'.databaseExists name = false ∧
        ∀ id, c'.tableExists id = true ↔ c.tableExists id = true ∧ name ≠ id.database) ∧
    (∀ id,
      (c.tableExists id = true ↔
        ∃ names, c.listTables id.database = .ok names ∧ names.count id.object = 1) ∧
      (c.tableExists id = true ↔ ∃ v, c.getTable id = .ok v)) ∧
    (∀ source target ignoreIfMissing,
      let op := CatalogOp.renameTable source target ignoreIfMissing
      (c.Movable source target →
        op.answer c now = .ok none ∧ c.Moved (op.after c now) source target) ∧
      (¬c.Movable source target → op.after c now = c ∧
        ((∃ answer, op.answer c now = .ok answer) ↔
          ignoreIfMissing = true ∧ c.tableExists source = false))) ∧
    ∀ id ignoreIfMissing, (CatalogOp.renameTable id id ignoreIfMissing).after c now = c ∧
      ((∃ e, (CatalogOp.renameTable id id ignoreIfMissing).answer c now = .error e) ∨
        ignoreIfMissing = true ∧ c.tableExists id = false) := by
  refine ⟨fun op => ?_, fun name ignoreIfMissing => ?_, fun id => ?_, ?_, fun id ignoreIfMissing => ?_⟩
  · rcases op.after_cases c now with ⟨-, same⟩ | ⟨answer, -, effect⟩
    · rw [same]
      exact ⟨fun _ _ => rfl, fun database names listed _ => ⟨names, listed, rfl⟩⟩
    · refine ⟨fun id spared => Catalog.getTable_congr (effect.entry?_of_spared spared), ?_⟩
      intro database names listed kept
      obtain ⟨db, found, -⟩ := Catalog.listTables_ok_iff.mp listed
      obtain ⟨db', left⟩ := effect.exists_database found kept
      have listed' := Catalog.listTables_ok_iff.mpr ⟨db', left, rfl⟩
      refine ⟨db'.keys, listed', ?_⟩
      rw [← Catalog.tableNames_of_listTables listed, ← Catalog.tableNames_of_listTables listed']
      exact effect.filter_tableNames fun name concerned => by simp [concerned]
  · exact CatalogOp.after_dropDatabase_cascade c name ignoreIfMissing now
  · exact ⟨Catalog.tableExists_iff_listed, Catalog.tableExists_iff_given⟩
  · intro source target ignoreIfMissing
    exact ⟨fun movable => CatalogOp.moved_of_movable movable ignoreIfMissing now,
      fun stuck => CatalogOp.rename_of_not_movable stuck ignoreIfMissing now⟩
  · obtain ⟨same, accepted⟩ :=
      CatalogOp.rename_of_not_movable (CatalogOp.not_movable_self c id) ignoreIfMissing now
    refine ⟨same, ?_⟩
    cases answered : (CatalogOp.renameTable id id ignoreIfMissing).answer c now with
    | error e => exact .inl ⟨e, rfl⟩
    | ok answer => exact .inr (accepted.mp ⟨answer, answered⟩)

/-- A table with data and a tag goes from one database to another and back. -/
theorem tables_isolated_landing :
    let boats : TableId := ⟨"lake", "boats"⟩
    let here : TableId := ⟨"lake", "catch"⟩
    let there : TableId := ⟨"river", "landed"⟩
    let schema : Schema := ⟨0, [⟨"weight", .int64, true, none⟩], [], [], ∅, none⟩
    let c := CatalogOp.afterAll (.new "sea" ∅)
      [(.createDatabase "lake" false, 0), (.createDatabase "river" false, 1),
        (.createTable boats schema false, 2), (.createTable here schema false, 3),
        (.createTable ⟨"lake", "nets"⟩ schema false, 4), (.write here [], 5),
        (.createTag here "first" none, 6)]
    let c' := (CatalogOp.renameTable here there false).after c 7
    ∃ v names, c.getTable here = .ok v ∧ v.snapshots.length = 1 ∧ v.tags.keys = ["first"] ∧
      c'.getTable there = .ok { v with id := there } ∧ c'.tableExists here = false ∧
      c'.getTable boats = c.getTable boats ∧ c'.listTables "lake" = .ok names ∧
      names.filter (fun name => name ≠ "catch") = ["boats", "nets"] ∧
      ((CatalogOp.renameTable there here false).after c' 8).getTable here = .ok v := by
  intro boats here there schema c c'
  have seen : (c.getTable here).toOption.map (fun v => (v.snapshots.length, v.tags.keys)) =
      some (1, ["first"]) := by
    decide +kernel
  have listed : c.listTables "lake" = .ok ["boats", "catch", "nets"] := by decide +kernel
  have movable : c.Movable here there := ⟨by decide +kernel, by decide +kernel, by decide +kernel⟩
  obtain ⟨v, given, seen⟩ := Option.map_eq_some_iff.mp seen
  have given := toOption_eq_some_iff.mp given
  obtain ⟨frame, -, -, renames, -⟩ := tables_isolated c 7
  obtain ⟨apart, ordered⟩ := frame (.renameTable here there false)
  obtain ⟨-, moved⟩ := (renames here there false).1 movable
  obtain ⟨names, listed', order⟩ := ordered "lake" _ listed (by rintro _ _ ⟨⟩)
  have concerned (name : String) :
      (CatalogOp.renameTable here there false).Concerns ⟨"lake", name⟩ ↔ name = "catch" := by
    simp [CatalogOp.Concerns, here, there, eq_comm]
  simp only [concerned] at order
  refine ⟨v, names, given, congrArg Prod.fst seen, congrArg Prod.snd seen, moved.arrived v given,
    moved.gone, apart boats (by decide), listed', order, ?_⟩
  rw [(moved.back false 8).2 here, given]

end TableLake
