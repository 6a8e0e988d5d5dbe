/-
# TableLake.Proofs.WrittenColumns — under which names written columns are read

Reading looks for a column by its name, writing puts columns under the fields of the table by
position, whatever names they come with.  So a table shows under each of its names the column
that stood at the place of the name when the batch was written (`Batch.column?_of_put`).
This is the column that the batch itself has under the name only if the pairs of names and
columns are those of the table (`Batch.keeps_columns_iff`).

The names of an insert are looked at when it is planned, and its rows are written later, by
position, under the columns that the table has then (`LakeSchema.outcome_append`).  What
`written_by_position` says of a batch with foreign names holds of rows that were planned for
columns which have been moved in between.
-/
import TableLake.Mount.Insert
import TableLake.Proofs.CommitLog

namespace TableLake

open TableLake.Outcome

set_option autoImplicit false

/-! ## Names and columns -/

namespace Batch

variable {b x y : Batch} {fields : List Field} {name : String} {c : Column}

/-- A batch shows under a name the column at its place. -/
theorem column?_eq_some_iff (distinct : (y.fields.map Field.name).Nodup) :
    y.column? name = some c ↔ (name, c) ∈ (y.fields.map Field.name).zip y.columns := by
  have pairs : (y.fields.map Field.name).zip y.columns =
      (y.fields.zip y.columns).map fun p => (p.1.name, p.2) := by
    rw [List.zip_map_left]
    rfl
  rw [pairs, List.mem_map, column?, Option.map_eq_some_iff]
  constructor
  · rintro ⟨⟨f, d⟩, found, rfl⟩
    have named : f.name = name := by simpa using List.find?_some found
    exact ⟨(f, d), List.mem_of_find?_eq_some found, Prod.ext named rfl⟩
  · rintro ⟨⟨f, d⟩, inside, same⟩
    cases same
    exact ⟨(f, d), find?_zip_eq distinct inside, rfl⟩

/-- What is put under fields shows under each of their names the column at its place. -/
theorem column?_of_put (distinct : (fields.map Field.name).Nodup) (put : PutUnder fields b y) :
    y.column? name = some c ↔ (name, c) ∈ (fields.map Field.name).zip b.columns := by
  obtain ⟨rfl, columns, -⟩ := put
  rw [column?_eq_some_iff distinct, columns]

/-- **A batch keeps its columns under their names just if each name stands over the same
column in the table.** -/
theorem keeps_columns_iff (distinct : (fields.map Field.name).Nodup) (put : PutUnder fields b y)
    (distinct' : (b.fields.map Field.name).Nodup) :
    (∀ name ∈ b.fields.map Field.name, y.column? name = b.column? name) ↔
      (b.fields.map Field.name).zip b.columns ⊆ (fields.map Field.name).zip b.columns := by
  constructor
  · rintro keeps ⟨name, c⟩ inside
    have own : b.column? name = some c := (column?_eq_some_iff distinct').mpr inside
    have named : name ∈ b.fields.map Field.name := (List.of_mem_zip inside).1
    exact (column?_of_put distinct put).mp ((keeps name named).trans own)
  · intro stands name named
    cases own : b.column? name with
    | none => exact absurd named (column?_eq_none_iff.mp own)
    | some c =>
        exact (column?_of_put distinct put).mpr (stands ((column?_eq_some_iff distinct').mp own))

end Batch

/-! ## Writing -/

namespace Catalog

variable {c c' : Catalog} {id : TableId} {t : TableEntry} {batches : List Batch} {now : Int}
variable {s : Snapshot}

/-- What is written is put under the fields of the table, behind what is there. -/
theorem exists_of_write (there : c.entry? id = some t)
    (wrote : c.write id batches now = .ok (c', s)) :
    ∃ written, List.Forall₂ (Batch.PutUnder t.schema.fields) batches written ∧
      s.batches = t.latestBatches ++ written ∧ c'.entry? id = some (t.commit s) := by
  have effect := CatalogOp.effect_write wrote
  cases effect with
  | step found step =>
      cases step with
      | write made =>
          rw [there] at found
          cases found
          exact ⟨_, CommitLog.put_of_made made, rfl, entry?_setEntry_of_found there _⟩

end Catalog

namespace TableEntry

variable {t : TableEntry} {id : TableId} {s : Snapshot} {batches written : List Batch}

/-- To read the snapshot of a write is to read what was there, and then what was written as
it is. -/
theorem readBy_written (put : List.Forall₂ (Batch.PutUnder t.schema.fields) batches written)
    (held : s.batches = t.latestBatches ++ written) {v : Table} (columns : v.schema = t.schema)
    (scan : v.scanSnapshot = .ok (some s)) (k : Casting) :
    v.readBy k = (· ++ written) <$> t.latestBatches.mapM ((t.view id).align k) := by
  have aligned : v.align k = (t.view id).align k := by
    funext x
    rw [Table.align, Table.align, columns]
    rfl
  have itself : written.mapM ((t.view id).align k) = .ok written := by
    refine mapM_eq_ok_iff.mpr (List.forall₂_same.mpr fun y inside => ?_)
    obtain ⟨b, -, own, -⟩ := related_of_mem put.flip inside
    exact mapError_eq_ok_iff.mpr (if_pos own)
  have scanned : Table.scanned (some s) = t.latestBatches ++ written := held
  rw [Table.readBy_eq, scan, aligned]
  show (Table.scanned (some s)).mapM _ = _
  rw [scanned, List.mapM_append, itself]
  cases t.latestBatches.mapM ((t.view id).align k) <;> rfl

end TableEntry

/-! ## Inserting -/

/-- The rows of an insert are refused, or there are none, or they are written to what the
table is by then. -/
theorem LakeSchema.outcome_append (planned : Table) (source : RowSource) (c : Catalog)
    (now : Int) :
    (∃ e, (LakeSchema.append planned source).outcome (.new c now) = (.error e, .new c now)) ∨
    (source.rows = 0 ∧
      (LakeSchema.append planned source).outcome (.new c now) = (.ok 0, .new c now)) ∨
    ∃ c' s, c.write planned.id source.batches now = .ok (c', s) ∧
      (LakeSchema.append planned source).outcome (.new c now) =
        (.ok source.rows, .new c' now) := by
  have reading : (Store.new c now).now = now := rfl
  unfold LakeSchema.append
  rw [outcome_bind, outcome_ofExcept]
  cases source.check planned.schema.fields with
  | error e => exact .inl ⟨e, rfl⟩
  | ok checked =>
      simp only
      split
      · rename_i empty
        exact .inr (.inl ⟨empty, rfl⟩)
      · unfold LakeSchema.ask Store.write
        rw [outcome_bind, outcome_adapt, outcome_enter_bind, outcome_commit, Store.catalog_new,
          reading]
        cases wrote : c.write planned.id source.batches now with
        | error e => exact .inl ⟨_, rfl⟩
        | ok done => exact .inr (.inr ⟨done.1, done.2, rfl, rfl⟩)

theorem Table.names_of_admitInsert {v : Table} {mode : InsertMode} {fields : List Field}
    (admitted : v.admitInsert mode fields = .ok ()) :
    v.schema.fieldNames = fields.map Field.name := by
  unfold Table.admitInsert at admitted
  split at admitted
  · cases admitted
  · split at admitted
    · rename_i same
      have names := congrArg (List.map Prod.fst) same
      rw [signature, signature, List.map_map, List.map_map] at names
      exact names
    · cases admitted

/-- **What is written goes under the columns of the table by position.**  If batches are
written to a table with distinct column names, each of them is read in the snapshot that is
made, behind what was there, with its rows, and under each name of the table with the column
that it has at the place of the name.  So where the batch's own column names are distinct, it
shows under all of them what it had under them just if each name stands over the same column
in the table.

An insert that was planned against any view of the table, and is carried out on what the table
is by then, is refused or has no rows, and changes nothing; or its batches are written in this
way, and show under the names that they were planned for what they had under them just if each
of these names stands over the same column in the table. -/
theorem written_by_position {c : Catalog} {id : TableId} {t : TableEntry} {now : Int}
    (there : c.entry? id = some t) (distinct : t.schema.fieldNames.Nodup) :
    (∀ {batches : List Batch} {c' : Catalog} {s : Snapshot},
      c.write id batches now = .ok (c', s) → ∃ v written, c'.getTable id = .ok v ∧
        v.latest? = some s ∧ s.batches = t.latestBatches ++ written ∧
        (∀ settings, (v.copy settings).scanSnapshot = .ok (some s) → ∀ k,
          (v.copy settings).readBy k =
            (· ++ written) <$> t.latestBatches.mapM ((t.view id).align k)) ∧
        List.Forall₂ (fun b y => y.rows = b.rows ∧
          (∀ name column, y.column? name = some column ↔
            (name, column) ∈ t.schema.fieldNames.zip b.columns) ∧
          ((b.fields.map Field.name).Nodup →
            ((∀ name ∈ b.fields.map Field.name, y.column? name = b.column? name) ↔
              (b.fields.map Field.name).zip b.columns ⊆ t.schema.fieldNames.zip b.columns)))
          batches written) ∧
    ∀ {planned : Table} {source : RowSource}, planned.id = id →
      planned.schema.fieldNames.Nodup → planned.admitInsert .append source.fields = .ok () →
      (∀ x ∈ source.batches, x.fields.map Field.name = source.fields.map Field.name) →
        (∃ e, (LakeSchema.append planned source).outcome (.new c now) =
          (.error e, .new c now)) ∨
        (source.rows = 0 ∧
          (LakeSchema.append planned source).outcome (.new c now) = (.ok 0, .new c now)) ∨
        ∃ c' s written, (LakeSchema.append planned source).outcome (.new c now) =
            (.ok source.rows, .new c' now) ∧
          c.write id source.batches now = .ok (c', s) ∧
          s.batches = t.latestBatches ++ written ∧
          List.Forall₂ (fun x y =>
            (∀ name ∈ planned.schema.fieldNames, y.column? name = x.column? name) ↔
              planned.schema.fieldNames.zip x.columns ⊆ t.schema.fieldNames.zip x.columns)
            source.batches written := by
  constructor
  · intro batches c' s wrote
    obtain ⟨written, put, held, left⟩ := Catalog.exists_of_write there wrote
    refine ⟨(t.commit s).view id, written, Catalog.getTable_ok_iff.mpr ⟨_, left, rfl⟩, ?_, held,
      fun settings scan => TableEntry.readBy_written put held rfl scan, put.imp fun b y here => ?_⟩
    · exact List.getLast?_concat
    · exact ⟨here.2.2, fun name column => Batch.column?_of_put distinct here,
        Batch.keeps_columns_iff distinct here⟩
  · rintro planned source rfl distinct' admitted own
    have names := Table.names_of_admitInsert admitted
    rcases LakeSchema.outcome_append planned source c now with refused | idle | done
    · exact .inl refused
    · exact .inr (.inl idle)
    · obtain ⟨c', s, wrote, appended⟩ := done
      obtain ⟨written, put, held, -⟩ := Catalog.exists_of_write there wrote
      refine .inr (.inr ⟨c', s, written, appended, wrote, held, ?_⟩)
      refine List.forall₂_iff_zip.mpr ⟨put.length_eq, fun {x y} pair => ?_⟩
      have planned_for : planned.schema.fieldNames = x.fields.map Field.name := by
        rw [names, own x (List.of_mem_zip pair).1]
      rw [planned_for] at distinct' ⊢
      exact Batch.keeps_columns_iff distinct (List.forall₂_zip put pair) distinct'

/-- The columns of boats. -/
def boatFields : List Field := [⟨"length", .int64, true, none⟩, ⟨"beam", .int64, true, none⟩]

/-- A batch of one boat. -/
def boat (length beam : Int) : Batch :=
  ⟨boatFields, [⟨.int64, [some (.integer length)]⟩, ⟨.int64, [some (.integer beam)]⟩], 1, rfl,
    by simp [Column.length], by simp [boatFields]⟩

/-- A run that makes a table of boats and then moves the beam to the front. -/
def boatRun : List (CatalogOp × Int) :=
  let here : TableId := ⟨"lake", "boats"⟩
  [(.createDatabase "lake" false, 0),
    (.createTable here ⟨0, boatFields, [], [], ∅, none⟩ false, 1), (.write here [boat 9 3], 2),
    (.alterTable here [.moveColumn "beam" .first] false, 3)]

/-- The table of boats before the move. -/
def boatTable : TableEntry where
  schema := ⟨0, boatFields, [], [], ∅, none⟩
  snapshots := [⟨1, 0, .append, 2, [boat 9 3]⟩]
  tags := ∅

/-- The table of boats after the move. -/
def movedTable : TableEntry :=
  { boatTable with schema := ⟨1, boatFields.reverse, [], [], ∅, none⟩ }

/-- A raft is as long as it is wide: written after the move, planned before it, it shows its
length and its beam. -/
theorem written_by_position_raft :
    let here : TableId := ⟨"lake", "boats"⟩
    let c := CatalogOp.afterAll (.new "sea" ∅) boatRun
    let raft := boat 4 4
    c.entry? here = some movedTable ∧
      ∃ c' s v y, (LakeSchema.append (boatTable.view here) ⟨boatFields, [raft]⟩).outcome
          (.new c 5) = (.ok 1, .new c' 5) ∧
        c'.getTable here = .ok v ∧ v.latest? = some s ∧ s.batches = [boat 9 3, y] ∧
        y.rows = 1 ∧ ∀ name ∈ boatFields.map Field.name, y.column? name = raft.column? name := by
  intro here c raft
  have there : c.entry? here = some movedTable := by decide +kernel
  have distinct : movedTable.schema.fieldNames.Nodup := by decide
  have answered : ((LakeSchema.append (boatTable.view here) ⟨boatFields, [raft]⟩).outcome
      (.new c 5)).1.toOption = some 1 := by
    decide +kernel
  have stands : (boatFields.map Field.name).zip raft.columns ⊆
      movedTable.schema.fieldNames.zip raft.columns := by
    decide
  obtain ⟨writes, inserts⟩ := @written_by_position c here movedTable 5 there distinct
  rcases @inserts (boatTable.view here) ⟨boatFields, [raft]⟩ rfl (by decide) (by decide)
      (by decide) with ⟨e, refused⟩ | ⟨empty, -⟩ | done
  · rw [refused] at answered
    cases answered
  · exact absurd empty (by decide)
  · obtain ⟨c', s, -, appended, wrote, -, -⟩ := done
    obtain ⟨v, written, given, latest, held, -, shows⟩ := writes wrote
    obtain ⟨y, rest, ⟨rows, -, keeps⟩, others, rfl⟩ := List.forall₂_cons_left_iff.mp shows
    cases List.forall₂_nil_left_iff.mp others
    exact ⟨there, c', s, v, y, appended, given, latest, held, rows,
      (keeps (by decide)).mpr stands⟩

/-- A boat under the names of all columns is written after the move, and shows its beam as its
length; so does one whose insert was planned before the move. -/
theorem moved_column_shows_beam :
    let here : TableId := ⟨"lake", "boats"⟩
    let c := CatalogOp.afterAll (.new "sea" ∅) boatRun
    let long := boat 12 4
    Reachable c ∧ c.entry? here = some movedTable ∧ movedTable.schema.fieldNames.Nodup ∧
      (long.fields.map Field.name).Perm movedTable.schema.fieldNames ∧
      (boatTable.view here).admitInsert .append long.fields = .ok () ∧
      ∃ c' s v y, c.write here [long] 5 = .ok (c', s) ∧
        (LakeSchema.append (boatTable.view here) ⟨boatFields, [long]⟩).outcome (.new c 5) =
          (.ok 1, .new c' 5) ∧
        c'.getTable here = .ok v ∧ v.read.toOption.bind List.getLast? = some y ∧
        long.column? "length" = some ⟨.int64, [some (.integer 12)]⟩ ∧
        y.column? "length" = some ⟨.int64, [some (.integer 4)]⟩ := by
  intro here c long
  have reached : Reachable c := (Reachable.new "sea" ∅).afterAll _
  have there : c.entry? here = some movedTable := by decide +kernel
  have answered : ((LakeSchema.append (boatTable.view here) ⟨boatFields, [long]⟩).outcome
      (.new c 5)).1.toOption = some 1 := by
    decide +kernel
  have left : ((c.write here [long] 5).toOption.bind fun p => (p.1.getTable here).toOption.bind
      fun v => (v.read.toOption.bind List.getLast?).bind fun y => y.column? "length") =
      some ⟨.int64, [some (.integer 4)]⟩ := by
    decide +kernel
  obtain ⟨⟨c', s⟩, wrote, left⟩ := Option.bind_eq_some_iff.mp left
  obtain ⟨v, given, left⟩ := Option.bind_eq_some_iff.mp left
  obtain ⟨y, read, shows⟩ := Option.bind_eq_some_iff.mp left
  have wrote := toOption_eq_some_iff.mp wrote
  refine ⟨reached, there, by decide, by decide, by decide, c', s, v, y, wrote, ?_,
    toOption_eq_some_iff.mp given, read, rfl, shows⟩
  rcases LakeSchema.outcome_append (boatTable.view here) ⟨boatFields, [long]⟩ c 5 with
    ⟨e, refused⟩ | ⟨empty, -⟩ | ⟨c'', s', wrote', appended⟩
  · rw [refused] at answered
    cases answered
  · exact absurd empty (by decide)
  · cases wrote.symm.trans wrote'
    exact appended

end TableLake
