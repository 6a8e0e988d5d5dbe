/-
# TableLake.Proofs.Registration — a table is registered as a whole or not at all

Registering makes a table, writes its rows and takes it back where they are refused.
`Registration` lists the ways this can go, each with what leads to it and what it leaves behind:
refused before the table is made, an empty table, a table with one snapshot, and refused by the
write.  In the last one the table is taken back, and the catalog is the very one from before
(`Catalog.eraseEntry_setEntry`).  One of them is always taken (`registration`).

So the fields and rows of a registered table are those that were given
(`registered_whole_or_not_at_all`).  The rows come back although the write puts their columns under
fields of its own making: it takes them by position, and these are the fields that were given.
-/
import TableLake.Proofs.RegisterAmid
import TableLake.Proofs.WrittenColumns

namespace TableLake

open TableLake.Outcome

set_option autoImplicit false

/-! ## Rows -/

namespace Batch

variable {b y : Batch} {fields : List Field}

theorem rowList_eq_nil_iff : b.rowList = [] ↔ b.rows = 0 := by
  rw [rowList, List.map_eq_nil_iff, List.range_eq_nil]

/-- Under other fields a batch has the same rows. -/
theorem PutUnder.rowList_eq (put : PutUnder fields b y) : y.rowList = b.rowList := by
  obtain ⟨-, columns, rows⟩ := put
  unfold rowList row
  rw [columns, rows]

theorem PutUnder.flatMap_rowList_eq {batches written : List Batch}
    (put : List.Forall₂ (PutUnder fields) batches written) :
    written.flatMap rowList = batches.flatMap rowList := by
  rw [List.flatMap_def, List.flatMap_def,
    map_eq_of_related (fun _ _ here => PutUnder.rowList_eq here) put]

end Batch

/-- The rows of a table in memory. -/
def HostTable.rowList (t : HostTable) : List (List Cell) := t.batches.flatMap Batch.rowList

theorem HostTable.any_rows_iff {t : HostTable} :
    (t.batches.any fun b => 0 < b.rows) = true ↔ t.rowList ≠ [] := by
  rw [rowList, Ne, List.flatMap_eq_nil_iff, List.any_eq_true]
  simp [Batch.rowList_eq_nil_iff, Nat.pos_iff_ne_zero]

/-! ## Writing -/

namespace Catalog

variable {c c' : Catalog} {id : TableId} {entry : TableEntry} {batches : List Batch} {now : Int}
variable {s : Snapshot}

/-- A write to a table that is there puts its batches under the fields of the table. -/
theorem write_ok_iff (found : c.entry? id = some entry) :
    c.write id batches now = .ok (c', s) ↔ ∃ written,
      List.Forall₂ (fun b y => Batch.make entry.schema.fields b.columns = .ok y) batches written ∧
        s = entry.nextSnapshot .append now (entry.latestBatches ++ written) ∧
        c' = c.setEntry id (entry.commit s) := by
  have there : c.entry id = .ok entry := entry_ok_iff.mpr found
  unfold write
  rw [there, bind_eq_ok_iff]
  simp only [Except.ok.injEq, exists_eq_left', bind_eq_ok_iff, Prod.exists, pure_eq_ok_iff,
    Prod.mk.injEq, TableEntry.write_ok_iff, mapM_eq_ok_iff, mapError_eq_ok_iff]
  constructor
  · rintro ⟨t', s', ⟨written, made, rfl, rfl⟩, rfl, rfl⟩
    exact ⟨written, made, rfl, rfl⟩
  · rintro ⟨written, made, rfl, rfl⟩
    exact ⟨_, _, ⟨written, made, rfl, rfl⟩, rfl, rfl⟩

end Catalog

namespace LakeSchema

variable {c : Catalog} {now : Int} {id : TableId} {schema name : String} {t : HostTable}

theorem outcome_fill_of_rowless (rowless : t.rowList = []) (id : TableId) (c : Catalog)
    (now : Int) : (fill id t.batches).outcome (.new c now) = (.ok (), .new c now) := by
  have none : (t.batches.any fun b => 0 < b.rows) = false :=
    Bool.eq_false_iff.mpr fun some => HostTable.any_rows_iff.mp some rowless
  unfold fill
  rw [none]
  rfl

theorem outcome_fill_of_rows (solid : t.rowList ≠ []) (id : TableId) (c : Catalog) (now : Int) :
    (fill id t.batches).outcome (.new c now) =
      match c.write id t.batches now with
      | .ok (c', _) => (.ok (), .new c' now)
      | .error e => (.error (.catalog e), .new c now) := by
  have reading : (Store.new c now).now = now := rfl
  unfold fill ask Store.write
  rw [HostTable.any_rows_iff.mpr solid, if_pos rfl, outcome_bind, outcome_adapt,
    outcome_enter_bind, outcome_commit, Store.catalog_new, reading]
  cases c.write id t.batches now <;> rfl

/-! ## Registering -/

/-- The schema of a table that is registered: its fields and nothing else. -/
def plainSchema (fields : List Field) : Schema := ⟨0, fields, [], [], ∅, none⟩

theorem tableSchema_plain (fields : List Field) :
    tableSchema fields [] ∅ = .ok (plainSchema fields) := by
  unfold tableSchema
  refine mapError_eq_ok_iff.mpr (Schema.build_ok_iff.mpr ⟨by rintro _ ⟨⟩, ?_⟩)
  show plainSchema fields = ⟨0, fields.map id, [], [], ∅, none⟩
  rw [List.map_id]
  rfl

/-- Nothing is in the way of a table. -/
structure Admits (c : Catalog) (id : TableId) (t : HostTable) : Prop where
  inMemory : t.inMemory = true
  database : c.databaseExists id.database = true
  free : c.entry? id = none

/-- What registering answers and leaves behind, and what leads to it. -/
inductive Registration (c : Catalog) (now : Int) (id : TableId) (t : HostTable) :
    Except EngineError Unit × Store → Prop
  | barred {e : EngineError} (barred : ¬Admits c id t) :
      Registration c now id t (.error e, .new c now)
  | rowless (admits : Admits c id t) (rowless : t.rowList = []) :
      Registration c now id t (.ok (), .new (c.setEntry id (.new (plainSchema t.fields))) now)
  | filled {s : Snapshot} (admits : Admits c id t) (solid : t.rowList ≠ []) (fits : Fits t)
      (put : List.Forall₂ (Batch.PutUnder t.fields) t.batches s.batches) :
      Registration c now id t
        (.ok (), .new (c.setEntry id ((TableEntry.new (plainSchema t.fields)).commit s)) now)
  | unfit {e : EngineError} (solid : t.rowList ≠ []) (unfit : ¬Fits t) :
      Registration c now id t (.error e, .new c now)

/-- Where nothing is in the way the table is made and filled. -/
theorem outcome_register_of_admits (admits : Admits c ⟨schema, name⟩ t) (now : Int) :
    (register schema name t).outcome (.new c now) =
      InStore.outcome (tryCatch (fill ⟨schema, name⟩ t.batches) (takeBack ⟨schema, name⟩))
        (.new (c.setEntry ⟨schema, name⟩ (.new (plainSchema t.fields))) now) := by
  have created := Catalog.createTable_ok_iff.mpr
    ⟨admits.database, admits.free, (rfl : _ = c.setEntry _ (.new (plainSchema t.fields)))⟩
  rcases outcome_create ⟨schema, name⟩ (plainSchema t.fields) c now with
    ⟨e, refused⟩ | ⟨c', done, entered⟩
  · unfold create Store.createTable at refused
    rw [outcome_adapt, outcome_enter_update, created] at refused
    cases refused
  · cases created.symm.trans done
    unfold register
    rw [admits.inMemory, tableSchema_plain]
    show InStore.outcome (create ⟨schema, name⟩ (plainSchema t.fields) >>= _) _ = _
    rw [outcome_bind, entered]

/-- Where something is in the way nothing is done. -/
theorem outcome_register_of_barred (barred : ¬Admits c ⟨schema, name⟩ t) (now : Int) :
    ∃ e, (register schema name t).outcome (.new c now) = (.error e, .new c now) := by
  cases inMemory : t.inMemory with
  | false =>
      unfold register
      rw [inMemory]
      exact ⟨_, rfl⟩
  | true =>
      rcases outcome_register schema name t c now with refused | ⟨made, c', -, created, -⟩
      · exact refused
      · obtain ⟨database, free, -⟩ := Catalog.createTable_ok_iff.mp created
        exact absurd ⟨inMemory, database, free⟩ barred

/-- The rows are written to the new table if they fit, and else refused. -/
theorem outcome_fill_new (found : c.entry? id = some (.new (plainSchema t.fields)))
    (solid : t.rowList ≠ []) (now : Int) :
    (Fits t ∧ ∃ s : Snapshot, List.Forall₂ (Batch.PutUnder t.fields) t.batches s.batches ∧
        (fill id t.batches).outcome (.new c now) =
          (.ok (), .new (c.setEntry id ((TableEntry.new (plainSchema t.fields)).commit s)) now)) ∨
      ¬Fits t ∧ ∃ e, (fill id t.batches).outcome (.new c now) = (.error e, .new c now) := by
  rw [outcome_fill_of_rows solid]
  cases wrote : c.write id t.batches now with
  | ok done =>
      obtain ⟨c', s⟩ := done
      obtain ⟨written, made, held, rfl⟩ := (Catalog.write_ok_iff found).mp wrote
      have put : List.Forall₂ (Batch.PutUnder t.fields) t.batches written :=
        made.imp fun _ _ => Batch.putUnder_of_make
      have fits : Fits t := by
        intro b inside
        obtain ⟨y, -, fit⟩ := related_of_mem made inside
        exact ⟨y, fit⟩
      exact .inl ⟨fits, s, by rw [held]; exact put, rfl⟩
  | error e =>
      refine .inr ⟨fun fits => ?_, _, rfl⟩
      obtain ⟨written, made⟩ := exists_mapM_eq_ok fits
      have accepted : c.write id t.batches now = .ok (_, _) :=
        (Catalog.write_ok_iff found).mpr ⟨written, mapM_eq_ok_iff.mp made, rfl, rfl⟩
      rw [wrote] at accepted
      cases accepted

/-- **Registering goes one of the four ways.** -/
theorem registration (schema name : String) (t : HostTable) (c : Catalog) (now : Int) :
    Registration c now ⟨schema, name⟩ t ((register schema name t).outcome (.new c now)) := by
  by_cases admits : Admits c ⟨schema, name⟩ t
  · obtain ⟨db, inside⟩ := Option.isSome_iff_exists.mp admits.database
    have found := Catalog.entry?_setEntry_self inside (.new (plainSchema t.fields))
    rw [outcome_register_of_admits admits, outcome_tryCatch]
    by_cases rowless : t.rowList = []
    · rw [outcome_fill_of_rowless rowless]
      exact .rowless admits rowless
    · rcases outcome_fill_new found rowless now with ⟨fits, s, put, filled⟩ | ⟨unfit, e, refused⟩
      · rw [filled, Catalog.setEntry_setEntry]
        exact .filled admits rowless fits put
      · obtain ⟨e', taken⟩ := outcome_takeBack ⟨schema, name⟩ e
          (c.setEntry ⟨schema, name⟩ (.new (plainSchema t.fields))) now
        rw [CatalogOp.after_dropTable, Catalog.eraseEntry_setEntry inside admits.free] at taken
        rw [refused]
        simp only [taken]
        exact .unfit rowless unfit
  · obtain ⟨e, refused⟩ := outcome_register_of_barred admits now
    rw [refused]
    exact .barred admits

/-! ## As a whole or not at all -/

/-- Batches under the fields of the table are read as they are. -/
theorem readBy_of_own {entry : TableEntry} (unpinned : entry.schema.Unpinned)
    (own : ∀ b ∈ entry.latestBatches, b.fields = entry.schema.fields) (id : TableId)
    (k : Casting) : (entry.view id).readBy k = .ok entry.latestBatches :=
  (TableEntry.readBy_ok_iff unpinned).mpr
    (List.forall₂_same.mpr fun b inside => if_pos (own b inside))

theorem unpinned_plain (fields : List Field) : (plainSchema fields).Unpinned :=
  fun _ _ => rfl

namespace Registration

variable {result : Except EngineError Unit × Store} {e : EngineError} {s : Store}

theorem ok_iff (way : Registration c now id t result) :
    (∃ s, result = (.ok (), s)) ↔ Admits c id t ∧ (t.rowList ≠ [] → Fits t) := by
  cases way with
  | barred barred => exact iff_of_false (by rintro ⟨_, ⟨⟩⟩) fun given => barred given.1
  | rowless admits rowless =>
      exact iff_of_true ⟨_, rfl⟩ ⟨admits, fun solid => absurd rowless solid⟩
  | filled admits solid fits put => exact iff_of_true ⟨_, rfl⟩ ⟨admits, fun _ => fits⟩
  | unfit solid unfit => exact iff_of_false (by rintro ⟨_, ⟨⟩⟩) fun given => unfit (given.2 solid)

theorem unchanged (way : Registration c now id t (.error e, s)) : s = .new c now := by
  cases way <;> rfl

/-- What was registered is an entry at a free name, with the batches put under its fields. -/
theorem exists_entry (way : Registration c now id t (.ok (), s)) :
    ∃ entry, Admits c id t ∧ s = .new (c.setEntry id entry) now ∧
      entry.schema = plainSchema t.fields ∧
      (t.rowList = [] ∧ entry.snapshots = [] ∨
        t.rowList ≠ [] ∧ ∃ made, entry.snapshots = [made] ∧
          List.Forall₂ (Batch.PutUnder t.fields) t.batches made.batches) := by
  cases way with
  | rowless admits rowless => exact ⟨_, admits, rfl, rfl, .inl ⟨rowless, rfl⟩⟩
  | filled admits solid fits put => exact ⟨_, admits, rfl, rfl, .inr ⟨solid, _, rfl, put⟩⟩

/-- The rows of the table are read, and the snapshots tell whether there are some. -/
theorem shows (way : Registration c now id t (.ok (), s)) :
    ∃ shown batches, s.catalog.getTable id = .ok shown ∧ shown.schema.fields = t.fields ∧
      (∀ k, shown.readBy k = .ok batches) ∧ batches.flatMap Batch.rowList = t.rowList ∧
      (t.rowList = [] → shown.snapshots = []) ∧
      (t.rowList ≠ [] → ∃ made, shown.snapshots = [made]) := by
  obtain ⟨entry, admits, rfl, fields, held⟩ := way.exists_entry
  obtain ⟨db, inside⟩ := Option.isSome_iff_exists.mp admits.database
  have given : (c.setEntry id entry).getTable id = .ok (entry.view id) :=
    Catalog.getTable_ok_iff.mpr ⟨entry, Catalog.entry?_setEntry_self inside entry, rfl⟩
  have unpinned : entry.schema.Unpinned := fields ▸ unpinned_plain t.fields
  have latest : entry.latestBatches = Table.scanned entry.snapshots.getLast? :=
    entry.scanned_getLast?.symm
  refine ⟨entry.view id, entry.latestBatches, given, congrArg Schema.fields fields, ?_, ?_⟩
  · refine readBy_of_own unpinned ?_ id
    rw [latest, fields]
    rcases held with ⟨-, none⟩ | ⟨-, made, single, put⟩
    · rw [none]
      rintro _ ⟨⟩
    · rw [single]
      intro b inside
      obtain ⟨_, -, own, -⟩ := related_of_mem put.flip inside
      exact own
  · rw [latest]
    rcases held with ⟨rowless, none⟩ | ⟨solid, made, single, put⟩
    · rw [none]
      exact ⟨rowless.symm, fun _ => none, fun solid => absurd rowless solid⟩
    · rw [single]
      exact ⟨Batch.PutUnder.flatMap_rowList_eq put, fun rowless => absurd rowless solid,
        fun _ => ⟨made, single⟩⟩

end Registration

/-- **A table is registered as a whole or not at all.**  A table is registered exactly if it is in
memory, the database is there, the name is free, and its rows, if it has some, fit its fields.  It
then has the fields that were given.  Reading it gives all rows in their order, none of them cast,
and it has one snapshot if there are rows and else none.  Every other table is what it was.  Where the table is
refused, also by the write, the whole store is what it was. -/
theorem registered_whole_or_not_at_all (schema name : String) (t : HostTable) (c : Catalog)
    (now : Int) :
    let id : TableId := ⟨schema, name⟩
    let outcome := (register schema name t).outcome (.new c now)
    ((∃ s, outcome = (.ok (), s)) ↔ Admits c id t ∧ (t.rowList ≠ [] → Fits t)) ∧
    (∀ s, outcome = (.ok (), s) →
      c.entry? id = none ∧ (∀ other ≠ id, s.catalog.entry? other = c.entry? other) ∧
        ∃ shown batches, s.catalog.getTable id = .ok shown ∧ shown.schema.fields = t.fields ∧
          (∀ k, shown.readBy k = .ok batches) ∧ batches.flatMap Batch.rowList = t.rowList ∧
          (t.rowList = [] → shown.snapshots = []) ∧
          (t.rowList ≠ [] → ∃ made, shown.snapshots = [made])) ∧
    ∀ e s, outcome = (.error e, s) → s = .new c now := by
  intro id outcome
  have way : Registration c now id t outcome := registration schema name t c now
  refine ⟨way.ok_iff, fun s done => ?_, fun e s refused => ?_⟩
  · rw [done] at way
    obtain ⟨entry, admits, left, -⟩ := way.exists_entry
    obtain ⟨db, inside⟩ := Option.isSome_iff_exists.mp admits.database
    refine ⟨admits.free, fun other differs => ?_, way.shows⟩
    rw [left, Store.catalog_new, Catalog.entry?_setEntry inside, if_neg differs.symm]
  · rw [refused] at way
    exact way.unchanged

/-- Two rows without a column. -/
def bareRows : HostTable :=
  ⟨[], [{ Batch.empty with rows := 2, full := List.forall_mem_nil _ }], true⟩

/-- A weight is registered and read.  Rows without a column fit no table: they are refused by the
write, and there is no table for them afterwards. -/
theorem registered_whole_or_not_at_all_catch :
    (∃ s shown batches,
      (register "lake" "catch" oneWeight).outcome (.new emptyLake 5) = (.ok (), s) ∧
      s.catalog.getTable ⟨"lake", "catch"⟩ = .ok shown ∧ shown.read = .ok batches ∧
      batches.flatMap Batch.rowList = [[some (.integer 12)]] ∧
      ∃ made, shown.snapshots = [made]) ∧
    ∃ e, (register "lake" "bare" bareRows).outcome (.new emptyLake 5) =
      (.error e, .new emptyLake 5) := by
  have rows : oneWeight.rowList = [[some (.integer 12)]] := by decide +kernel
  obtain ⟨accepts, shows, -⟩ := registered_whole_or_not_at_all "lake" "catch" oneWeight emptyLake 5
  obtain ⟨accepts', -, unchanged⟩ :=
    registered_whole_or_not_at_all "lake" "bare" bareRows emptyLake 5
  have fits : Fits oneWeight := by
    intro b inside
    rw [List.mem_singleton.mp inside]
    exact ⟨_, rfl⟩
  constructor
  · obtain ⟨s, done⟩ := accepts.mpr ⟨⟨rfl, by decide +kernel, by decide +kernel⟩, fun _ => fits⟩
    obtain ⟨-, -, shown, batches, given, -, read, same, -, single⟩ := shows s done
    exact ⟨s, shown, batches, done, given, read .plain, same.trans rows,
      single (by rw [rows]; exact List.cons_ne_nil _ _)⟩
  · have unfit : ¬Fits bareRows := by
      intro fits
      obtain ⟨y, made⟩ := fits _ List.mem_cons_self
      cases made
    have solid : bareRows.rowList ≠ [] := by decide
    rcases left : (register "lake" "bare" bareRows).outcome (.new emptyLake 5) with ⟨e | ⟨⟩, s⟩
    · exact ⟨e, by rw [unchanged e s left]⟩
    · exact absurd ((accepts'.mp ⟨s, left⟩).2 solid) unfit

end LakeSchema

end TableLake
