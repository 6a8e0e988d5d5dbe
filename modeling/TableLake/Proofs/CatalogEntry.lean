/-
# TableLake.Proofs.CatalogEntry — what the parts of a catalog look like after a change

`Catalog.entry?` is the view through which the operations on tables are described.
Here are the replacements that they are made of: each shows at one name and leaves
every other name alone, and writing a table back changes nothing (`setEntry_self`).
-/
import TableLake.Catalog
import TableLake.Proofs.OrderedMap
import TableLake.Proofs.Outcome

namespace TableLake.Catalog

open TableLake.Outcome

set_option autoImplicit false

variable {c : Catalog} {id : TableId} {t : TableEntry} {name : String}

theorem id_ext {id other : TableId} (database : id.database = other.database)
    (object : id.object = other.object) : id = other := by
  cases id; cases other; cases database; cases object; rfl

/-! ## Replacements -/

theorem entry?_setDatabase (c : Catalog) (name : String) (db : Database) (id : TableId) :
    Catalog.entry? (c.setDatabase name db) id =
      if name = id.database then db.get? id.object else c.entry? id := by
  unfold entry? setDatabase
  rw [OrderedMap.get?_insert]
  split <;> rfl

/-- A table stands in a database that exists. -/
theorem exists_database_of_entry? (found : c.entry? id = some t) :
    ∃ db, c.databases.get? id.database = some db ∧ db.get? id.object = some t :=
  Option.bind_eq_some_iff.mp found

theorem entry?_setEntry {db : Database} (inside : c.databases.get? id.database = some db)
    (t : TableEntry) (other : TableId) :
    Catalog.entry? (c.setEntry id t) other = if id = other then some t else c.entry? other := by
  unfold setEntry
  simp only [inside]
  rw [entry?_setDatabase]
  by_cases database : id.database = other.database
  · rw [if_pos database, OrderedMap.get?_insert]
    by_cases object : id.object = other.object
    · rw [if_pos object, if_pos (id_ext database object)]
    · have ne : id ≠ other := fun same => object (by rw [same])
      rw [if_neg object, if_neg ne, entry?, ← database, inside]
      rfl
  · have ne : id ≠ other := fun same => database (by rw [same])
    rw [if_neg database, if_neg ne]

theorem entry?_setEntry_self {db : Database} (inside : c.databases.get? id.database = some db)
    (t : TableEntry) : Catalog.entry? (c.setEntry id t) id = some t := by
  rw [entry?_setEntry inside, if_pos rfl]

/-- A table that is there is replaced by the one that is put in its place. -/
theorem entry?_setEntry_of_found (found : c.entry? id = some t) (t' : TableEntry) :
    Catalog.entry? (c.setEntry id t') id = some t' := by
  obtain ⟨db, inside, -⟩ := exists_database_of_entry? found
  exact entry?_setEntry_self inside t'

/-- A table at a name that was free hides no other table. -/
theorem entry?_setEntry_of_free {db : Database} {other : TableId} {t' : TableEntry}
    (inside : c.databases.get? id.database = some db) (free : c.entry? id = none)
    (found : c.entry? other = some t) : Catalog.entry? (c.setEntry id t') other = some t := by
  have different : id ≠ other := by
    rintro rfl
    rw [found] at free
    cases free
  rw [entry?_setEntry inside, if_neg different, found]

theorem entry?_eraseEntry (c : Catalog) (id other : TableId) :
    Catalog.entry? (c.eraseEntry id) other = if id = other then none else c.entry? other := by
  unfold eraseEntry
  cases inside : c.databases.get? id.database with
  | none =>
      simp only
      split
      · rename_i same
        rw [← same, entry?, inside]
        rfl
      · rfl
  | some db =>
      simp only
      rw [entry?_setDatabase]
      by_cases database : id.database = other.database
      · rw [if_pos database, OrderedMap.get?_erase]
        by_cases object : id.object = other.object
        · rw [if_pos object, if_pos (id_ext database object)]
        · have ne : id ≠ other := fun same => object (by rw [same])
          rw [if_neg object, if_neg ne, entry?, ← database, inside]
          rfl
      · have ne : id ≠ other := fun same => database (by rw [same])
        rw [if_neg database, if_neg ne]

theorem setDatabase_self {db : Database} (found : c.databases.get? name = some db) :
    c.setDatabase name db = c := by
  unfold setDatabase
  rw [OrderedMap.insert_self found]

/-- Writing a table back changes nothing. -/
theorem setEntry_self (found : c.entry? id = some t) : c.setEntry id t = c := by
  obtain ⟨db, inside, here⟩ := exists_database_of_entry? found
  unfold setEntry
  simp only [inside]
  rw [OrderedMap.insert_self here, setDatabase_self inside]

/-- Of two tables written to a place the later one stands. -/
theorem setEntry_setEntry (c : Catalog) (id : TableId) (t t' : TableEntry) :
    (c.setEntry id t).setEntry id t' = c.setEntry id t' := by
  unfold setEntry
  cases inside : c.databases.get? id.database with
  | none => simp only [inside]
  | some db =>
      have written : (c.setDatabase id.database (db.insert id.object t)).databases.get?
          id.database = some (db.insert id.object t) := by
        rw [setDatabase, OrderedMap.get?_insert, if_pos rfl]
      simp only [written, OrderedMap.insert_insert]
      unfold setDatabase
      rw [OrderedMap.insert_insert]

/-- A table that is put to a free name and erased leaves nothing. -/
theorem eraseEntry_setEntry {db : Database} (inside : c.databases.get? id.database = some db)
    (free : c.entry? id = none) (t : TableEntry) : (c.setEntry id t).eraseEntry id = c := by
  have missing : db.get? id.object = none := by
    rw [← free, entry?, inside]
    rfl
  have written : (c.setDatabase id.database (db.insert id.object t)).databases.get? id.database =
      some (db.insert id.object t) := by
    rw [setDatabase, OrderedMap.get?_insert, if_pos rfl]
  have restored : (c.setDatabase id.database (db.insert id.object t)).setDatabase id.database db =
      c.setDatabase id.database db := by
    unfold setDatabase
    rw [OrderedMap.insert_insert]
  unfold eraseEntry setEntry
  simp only [inside, written, OrderedMap.erase_insert_of_missing missing]
  rw [restored, setDatabase_self inside]

theorem exists_database_eraseEntry {db : Database} (found : c.databases.get? name = some db)
    (id : TableId) : ∃ db', (c.eraseEntry id).databases.get? name = some db' := by
  unfold eraseEntry
  cases inside : c.databases.get? id.database with
  | none => exact ⟨db, found⟩
  | some home =>
      by_cases same : id.database = name
      · exact ⟨home.erase id.object, by simp [setDatabase, same]⟩
      · exact ⟨db, by simp [setDatabase, same, found]⟩

theorem entry?_eq_get? {db : Database} (inside : c.databases.get? id.database = some db) :
    c.entry? id = db.get? id.object := by
  rw [ entry?, inside]
  rfl

theorem entry_ok_iff : c.entry id = .ok t ↔ c.entry? id = some t := by
  unfold entry
  cases c.entry? id <;> simp

theorem getTable_ok_iff {v : Table} :
    c.getTable id = .ok v ↔ ∃ t, c.entry? id = some t ∧ v = t.view id := by
  unfold getTable
  simp only [map_eq_ok_iff, entry_ok_iff]
  exact exists_congr fun t => and_congr_right fun _ => ⟨Eq.symm, Eq.symm⟩

theorem tableExists_eq_false_iff : c.tableExists id = false ↔ c.entry? id = none :=
  Option.isSome_eq_false_iff.trans Option.isNone_iff_eq_none

theorem databaseExists_eq_false_iff :
    c.databaseExists name = false ↔ c.databases.get? name = none :=
  Option.isSome_eq_false_iff.trans Option.isNone_iff_eq_none

/-- A table is made in a database that exists, under a name that is free. -/
theorem createTable_ok_iff {schema : Schema} {c' : Catalog} :
    c.createTable id schema false = .ok c' ↔
      c.databaseExists id.database = true ∧ c.entry? id = none ∧
        c' = c.setEntry id (.new schema) := by
  unfold createTable database setEntry
  cases inside : c.databases.get? id.database with
  | none => simp [databaseExists, OrderedMap.contains, inside, bind, Except.bind]
  | some db =>
      rw [entry?_eq_get? inside]
      cases here : db.get? id.object with
      | none =>
          simp [databaseExists, OrderedMap.contains, inside, here, bind, Except.bind, pure,
            Except.pure, eq_comm]
      | some t => simp [OrderedMap.contains, here, bind, Except.bind]

/-- A table that is there is changed just as the change says. -/
theorem modifyEntry_eq (found : c.entry? id = some t)
    (change : TableEntry → Except CatalogError TableEntry) :
    c.modifyEntry id change = c.setEntry id <$> change t := by
  have there : c.entry id = .ok t := entry_ok_iff.mpr found
  unfold modifyEntry
  rw [there]
  show change t >>= (fun t' => pure (c.setEntry id t')) = c.setEntry id <$> change t
  cases change t <;> rfl

/-- A table that is changed is there, and the change is accepted. -/
theorem modifyEntry_ok_iff {c' : Catalog} {change : TableEntry → Except CatalogError TableEntry} :
    c.modifyEntry id change = .ok c' ↔
      ∃ t t', c.entry? id = some t ∧ change t = .ok t' ∧ c' = c.setEntry id t' := by
  simp only [modifyEntry, bind_eq_ok_iff, pure_eq_ok_iff, entry_ok_iff]
  constructor
  · rintro ⟨t, found, t', changed, rfl⟩
    exact ⟨t, t', found, changed, rfl⟩
  · rintro ⟨t, t', found, changed, rfl⟩
    exact ⟨t, found, t', changed, rfl⟩

/-- A compaction replaces one table by what it makes of it. -/
theorem compact_ok_iff {c' : Catalog} {request : CompactRequest} {now : Int}
    {answer : Option Snapshot} :
    c.compact id request now = .ok (c', answer) ↔
      ∃ t t', c.entry? id = some t ∧ t.compact id request now = .ok (t', answer) ∧
        c' = c.setEntry id t' := by
  simp only [compact, bind_eq_ok_iff, pure_eq_ok_iff, entry_ok_iff, Prod.mk.injEq]
  constructor
  · rintro ⟨t, found, ⟨t', answer'⟩, compacted, rfl, rfl⟩
    exact ⟨t, t', found, compacted, rfl⟩
  · rintro ⟨t, t', found, compacted, rfl⟩
    exact ⟨t, found, (t', answer), compacted, rfl, rfl⟩

end TableLake.Catalog
