/-
# TableLake.Proofs.Alignment — a batch as it is read through other fields

Batches that are stored keep the fields they were written under, and `Batch.align` reads
them through the fields of today: each field takes the column of its own name, cast to its
type, or missing values.  `align_ok_iff` says that this is all there is to it, also where
the fields are the batch's own and nothing is looked up.  The number of rows stays
(`rows_of_align`), a column of the result is what its field reads (`column?_of_align`), and
reading fails only if a field cannot read its column or must not (`exists_align_iff`).

Whatever settings lie over a table, reading it goes through the batches of one snapshot, or
through none, and shows each of them so (`Table.readBy_ok_iff`).  All this holds for any
casting, so it does not matter which values become which.
-/
import TableLake.Proofs.TimeTravel

namespace TableLake

open TableLake.Outcome

set_option autoImplicit false

namespace Batch

variable {k : Casting} {x y : Batch} {fields : List Field} {columns : List Column} {f : Field}
variable {c : Column}

/-! ## Batches -/

theorem forall₂_typed (b : Batch) :
    List.Forall₂ (fun f c => c.type = f.type) b.fields b.columns := by
  have same : List.Forall₂ (· = ·) (b.columns.map Column.type) (b.fields.map Field.type) := by
    rw [List.forall₂_eq_eq_eq]
    exact b.typed
  exact (List.forall₂_map_left_iff.mp (List.forall₂_map_right_iff.mp same)).flip

theorem missingRequired_eq_none
    (present : ∀ p ∈ fields.zip columns, p.1.nullable = false → p.2.nullCount = 0) :
    missingRequired fields columns = none := by
  refine Option.map_eq_none_iff.mpr (List.find?_eq_none.mpr ?_)
  intro p inside
  have full := present p inside
  simp only [Bool.and_eq_true, Bool.not_eq_true', decide_eq_true_eq, not_and]
  intro required
  rw [full required]
  exact Nat.lt_irrefl 0

theorem firstMismatch_eq_none (typed : List.Forall₂ (fun f c => c.type = f.type) fields columns) :
    ∀ index, firstMismatch index fields columns = none := by
  induction typed with
  | nil => exact fun _ => rfl
  | cons same _ ih => exact fun index => (if_pos same).trans (ih (index + 1))

/-- A batch is made of columns just if there is one and they fit the fields. -/
theorem make_ok_iff : make fields columns = .ok y ↔
    columns ≠ [] ∧ y.fields = fields ∧ y.columns = columns := by
  constructor
  · intro made
    obtain ⟨sameFields, sameColumns⟩ := eq_of_make made
    refine ⟨?_, sameFields, sameColumns⟩
    rintro rfl
    unfold make at made
    split at made <;> cases made
  · rintro ⟨filled, rfl, rfl⟩
    have count : y.columns.length = y.fields.length := y.forall₂_typed.length_eq.symm
    obtain ⟨first, rest, parts⟩ := List.exists_cons_of_ne_nil filled
    have height : first.length = y.rows := y.full first (by rw [parts]; exact List.mem_cons_self)
    have lengths : ∀ c ∈ y.columns, c.length = first.length :=
      fun c inside => (y.full c inside).trans height.symm
    unfold make
    rw [dif_pos count]
    split
    · rename_i none
      rw [parts] at none
      cases none
    · rename_i first' head
      rw [parts, List.head?_cons, Option.some.injEq] at head
      subst head
      split
      · rename_i field required
        rw [missingRequired_eq_none y.present] at required
        cases required
      · rw [dif_pos lengths]
        split
        · rename_i fault types
          rw [firstMismatch_eq_none y.forall₂_typed] at types
          cases types
        · exact congrArg Except.ok (Batch.ext rfl rfl height)

/-- Columns tell the rows, if there is a column. -/
theorem rows_eq (filled : x.columns ≠ []) (same : ∀ c ∈ x.columns, c.length = y.rows) :
    y.rows = x.rows := by
  obtain ⟨first, inside⟩ := List.exists_mem_of_ne_nil _ filled
  exact (same first inside).symm.trans (x.full first inside)

/-! ## What a field reads -/

theorem mem_of_column? {name : String} (found : x.column? name = some c) : c ∈ x.columns := by
  obtain ⟨⟨f, d⟩, here, rfl⟩ := Option.map_eq_some_iff.mp found
  exact (List.of_mem_zip (List.mem_of_find?_eq_some here)).2

/-- A batch has a column under just the names of its fields. -/
theorem column?_eq_none_iff {name : String} :
    x.column? name = none ↔ name ∉ x.fields.map Field.name := by
  rw [column?, Option.map_eq_none_iff, List.find?_eq_none]
  constructor
  · intro none inside
    obtain ⟨f, there, rfl⟩ := List.mem_map.mp inside
    obtain ⟨c, pair, -⟩ := related_of_mem x.forall₂_typed there
    exact none (f, c) pair (beq_self_eq_true f.name)
  · rintro missing ⟨f, c⟩ pair same
    have named : f.name = name := by simpa using same
    exact missing (named ▸ List.mem_map_of_mem (List.of_mem_zip pair).1)

theorem length_of_columnFor (read : x.columnFor k f = .ok c) : c.length = x.rows := by
  unfold columnFor at read
  split at read
  · rename_i stored found
    exact (Casting.length_of_cast read).trans (x.full stored (mem_of_column? found))
  · cases read
    exact Column.length_missing _ _

theorem type_of_columnFor (read : x.columnFor k f = .ok c) : c.type = f.type := by
  unfold columnFor at read
  split at read
  · exact Casting.type_of_cast read
  · cases read
    rfl

theorem find?_name_eq (distinct : (fields.map Field.name).Nodup) (inside : f ∈ fields) :
    fields.find? (fun g => g.name == f.name) = some f := by
  have there : (fields.find? fun g => g.name == f.name).isSome = true :=
    List.find?_isSome.mpr ⟨f, inside, beq_self_eq_true f.name⟩
  obtain ⟨g, found⟩ := Option.isSome_iff_exists.mp there
  have named : g.name = f.name := by simpa using List.find?_some found
  have only : g = f :=
    List.inj_on_of_nodup_map distinct (List.mem_of_find?_eq_some found) inside named
  rw [found, only]

/-- Of fields with distinct names the one of a name is found, wherever it stands. -/
theorem find?_zip_eq (distinct : (fields.map Field.name).Nodup)
    (inside : (f, c) ∈ fields.zip columns) :
    (fields.zip columns).find? (fun p => p.1.name == f.name) = some (f, c) := by
  induction fields generalizing columns with
  | nil => cases inside
  | cons g fields ih =>
      cases columns with
      | nil => cases inside
      | cons d columns =>
          rw [List.map_cons, List.nodup_cons] at distinct
          rcases List.mem_cons.mp inside with here | later
          · cases here
            exact List.find?_cons_of_pos (beq_self_eq_true f.name)
          · have other : g.name ≠ f.name := fun same =>
              distinct.1 (same ▸ List.mem_map_of_mem (List.of_mem_zip later).1)
            rw [List.zip_cons_cons, List.find?_cons_of_neg (by simpa using other)]
            exact ih distinct.2 later

/-- Through its own fields a batch reads its own columns. -/
theorem columnFor_own (distinct : (x.fields.map Field.name).Nodup) :
    List.Forall₂ (fun f c => x.columnFor k f = .ok c) x.fields x.columns := by
  refine List.forall₂_iff_zip.mpr ⟨x.forall₂_typed.length_eq, fun {f c} inside => ?_⟩
  have found : x.column? f.name = some c := by
    rw [column?, find?_zip_eq distinct inside, Option.map_some]
  have typed : c.type = f.type := List.forall₂_zip x.forall₂_typed inside
  rw [columnFor, found, ← typed]
  exact k.cast_self c

/-- What a field reads depends on its name and type alone. -/
theorem columnFor_congr {g : Field} (named : g.name = f.name) (typed : g.type = f.type) :
    x.columnFor k g = x.columnFor k f := by
  unfold columnFor
  rw [named, typed]

/-- The first column of a name is what the first field of the name reads. -/
theorem find?_zip_of_read (read : List.Forall₂ (fun f c => x.columnFor k f = .ok c) fields columns)
    (name : String) :
    ((fields.zip columns).find? fun p => p.1.name == name).map Prod.snd =
      (fields.find? fun f => f.name == name).bind fun f => (x.columnFor k f).toOption := by
  induction read with
  | nil => rfl
  | @cons f c fields columns here later ih =>
      rw [List.zip_cons_cons]
      by_cases same : f.name = name
      · rw [List.find?_cons_of_pos (by simpa using same),
          List.find?_cons_of_pos (by simpa using same), Option.bind_some, here]
        rfl
      · rw [List.find?_cons_of_neg (by simpa using same),
          List.find?_cons_of_neg (by simpa using same)]
        exact ih

/-! ## Reading through fields -/

/-- **What is read through fields is what each of them reads.** -/
theorem align_ok_iff (solid : fields ≠ []) (distinct : (fields.map Field.name).Nodup) :
    align k fields x = .ok y ↔
      y.fields = fields ∧ List.Forall₂ (fun f c => x.columnFor k f = .ok c) fields y.columns := by
  unfold align
  split
  · rename_i own
    subst own
    have same := columnFor_own (k := k) distinct
    constructor
    · intro read
      cases read
      exact ⟨rfl, same⟩
    · rintro ⟨sameFields, read⟩
      -- both lists of columns are what the fields read
      have sameColumns : x.columns = y.columns := by
        have first := mapM_eq_ok_iff.mpr same
        rw [mapM_eq_ok_iff.mpr read] at first
        exact (Except.ok.inj first).symm
      have filled : x.columns ≠ [] := ne_nil_of_related same solid
      have sameRows : y.rows = x.rows :=
        rows_eq filled fun c inside => y.full c (sameColumns ▸ inside)
      exact congrArg Except.ok (Batch.ext sameFields.symm sameColumns sameRows.symm)
  · simp only [bind_eq_ok_iff, mapM_eq_ok_iff, make_ok_iff]
    constructor
    · rintro ⟨columns, read, -, sameFields, rfl⟩
      exact ⟨sameFields, read⟩
    · rintro ⟨sameFields, read⟩
      exact ⟨y.columns, read, ne_nil_of_related read solid, sameFields, rfl⟩

section Aligned

variable (solid : fields ≠ []) (distinct : (fields.map Field.name).Nodup)
variable (aligned : align k fields x = .ok y)

include solid distinct aligned

theorem rows_of_align : y.rows = x.rows := by
  obtain ⟨-, read⟩ := (align_ok_iff solid distinct).mp aligned
  refine (rows_eq (ne_nil_of_related read solid) fun c inside => ?_).symm
  obtain ⟨f, -, found⟩ := related_of_mem read.flip inside
  exact length_of_columnFor found

/-- A column of the batch that is read is what its field reads. -/
theorem column?_of_align (name : String) :
    y.column? name =
      (fields.find? fun f => f.name == name).bind fun f => (x.columnFor k f).toOption := by
  obtain ⟨sameFields, read⟩ := (align_ok_iff solid distinct).mp aligned
  rw [column?, sameFields]
  exact find?_zip_of_read read name

/-- Every field has a column in the batch that is read. -/
theorem exists_column_of_align (inside : f ∈ fields) :
    ∃ c, x.columnFor k f = .ok c ∧ y.column? f.name = some c := by
  obtain ⟨-, read⟩ := (align_ok_iff solid distinct).mp aligned
  obtain ⟨c, -, found⟩ := related_of_mem read inside
  refine ⟨c, found, ?_⟩
  rw [column?_of_align solid distinct aligned, find?_name_eq distinct inside, Option.bind_some,
    found]
  rfl

end Aligned

/-- The columns that are read through fields make a batch just if each field reads its
column, without missing values where it forbids them. -/
theorem exists_read_iff : (∃ y : Batch, y.fields = fields ∧
      List.Forall₂ (fun f c => x.columnFor k f = .ok c) fields y.columns) ↔
    ∀ f ∈ fields, ∃ c, x.columnFor k f = .ok c ∧ (f.nullable = false → c.nullCount = 0) := by
  constructor
  · rintro ⟨y, rfl, read⟩ f inside
    obtain ⟨c, pair, found⟩ := related_of_mem read inside
    exact ⟨c, found, y.present (f, c) pair⟩
  · intro each
    obtain ⟨columns, read⟩ := exists_mapM_eq_ok fun f inside =>
      (each f inside).imp fun _ found => found.1
    have read := mapM_eq_ok_iff.mp read
    have typed : List.Forall₂ (fun f c => c.type = f.type) fields columns :=
      read.imp fun _ _ => type_of_columnFor
    refine ⟨⟨fields, columns, x.rows, ?_, ?_, ?_⟩, rfl, read⟩
    · rw [← List.forall₂_eq_eq_eq]
      exact List.forall₂_map_left_iff.mpr (List.forall₂_map_right_iff.mpr typed.flip)
    · intro c inside
      obtain ⟨f, -, found⟩ := related_of_mem read.flip inside
      exact length_of_columnFor found
    · rintro ⟨f, c⟩ inside required
      obtain ⟨c', found, full⟩ := each f (List.of_mem_zip inside).1
      have here : x.columnFor k f = .ok c := List.forall₂_zip read inside
      rw [here] at found
      cases found
      exact full required

/-- A batch is read through fields with distinct names just if each of them reads its
column, without missing values where it forbids them. -/
theorem exists_align_iff (solid : fields ≠ []) (distinct : (fields.map Field.name).Nodup) :
    (∃ y, align k fields x = .ok y) ↔
      ∀ f ∈ fields, ∃ c, x.columnFor k f = .ok c ∧ (f.nullable = false → c.nullCount = 0) := by
  simp only [align_ok_iff solid distinct]
  exact exists_read_iff

end Batch

/-! ## Tables -/

namespace Table

variable {k : Casting} {v : Table} {batches : List Batch}

/-- The batches of the snapshot that is selected, if one is. -/
def scanned : Option Snapshot → List Batch
  | some s => s.batches
  | none => []

theorem readBy_eq (k : Casting) (v : Table) :
    v.readBy k = v.scanSnapshot >>= fun selected => (scanned selected).mapM (v.align k) := by
  unfold readBy
  congr 1
  funext selected
  cases selected <;> rfl

/-- **What is read are the batches of the selected snapshot, each through the columns of
the schema.** -/
theorem readBy_ok_iff : v.readBy k = .ok batches ↔ ∃ selected, v.scanSnapshot = .ok selected ∧
    List.Forall₂ (fun x y => x.align k v.schema.fields = .ok y) (scanned selected) batches := by
  simp only [readBy_eq, bind_eq_ok_iff, mapM_eq_ok_iff, align, mapError_eq_ok_iff]

theorem exists_readBy_iff : (∃ batches, v.readBy k = .ok batches) ↔ ∃ selected,
    v.scanSnapshot = .ok selected ∧
      ∀ x ∈ scanned selected, ∃ y, x.align k v.schema.fields = .ok y := by
  simp only [readBy_eq, bind_eq_ok_iff]
  rw [exists_comm]
  simp only [exists_and_left, exists_mapM_eq_ok_iff, align, mapError_eq_ok_iff]

end Table

namespace TableEntry

variable {k : Casting} {t : TableEntry} {id : TableId} {batches : List Batch}

theorem scanned_getLast? (t : TableEntry) :
    Table.scanned t.snapshots.getLast? = t.latestBatches := by
  unfold latestBatches
  cases t.snapshots.getLast? <;> rfl

/-- Without settings the batches of the last snapshot are read through the columns of today. -/
theorem readBy_ok_iff (unpinned : t.schema.Unpinned) : (t.view id).readBy k = .ok batches ↔
    List.Forall₂ (fun x y => x.align k t.schema.fields = .ok y) t.latestBatches batches := by
  rw [Table.readBy_ok_iff, scanSnapshot_of_unpinned unpinned, ← scanned_getLast?]
  simp only [Except.ok.injEq, exists_eq_left']
  rfl

theorem exists_readBy_iff (unpinned : t.schema.Unpinned) :
    (∃ batches, (t.view id).readBy k = .ok batches) ↔
      ∀ x ∈ t.latestBatches, ∃ y, x.align k t.schema.fields = .ok y := by
  rw [Table.exists_readBy_iff, scanSnapshot_of_unpinned unpinned, ← scanned_getLast?]
  simp only [Except.ok.injEq, exists_eq_left']
  rfl

end TableEntry

end TableLake
