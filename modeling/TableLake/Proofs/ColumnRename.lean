/-
# TableLake.Proofs.ColumnRename — what a renamed column shows

Renaming a column changes the schema and leaves the stored batches alone, and reading looks
for their columns by the names of the schema.  So the renamed column shows what a batch has
under the new name, as a rule nothing, and not what it has under the old one
(`Renames.column?_of_align`).  A batch reads the same under the other name just if it has
the same there (`Renames.align_relabel_iff`); its rows and its other columns stay as they
were (`Renames.rest_of_align`).
-/
import TableLake.Proofs.Alignment
import TableLake.Proofs.ColumnNames

namespace TableLake

open TableLake.Outcome

set_option autoImplicit false

variable {k : Casting} {a b name : String} {x y z : Batch} {f : Field}
variable {fields before after : List Field}

/-! ## Another name for a column -/

/-- The field under the name `b` if its name is `a`. -/
def Field.relabel (a b : String) (f : Field) : Field :=
  if f.name = a then { f with name := b } else f

namespace Field

theorem type_relabel (a b : String) (f : Field) : (f.relabel a b).type = f.type := by
  unfold relabel
  split <;> rfl

theorem nullable_relabel (a b : String) (f : Field) : (f.relabel a b).nullable = f.nullable := by
  unfold relabel
  split <;> rfl

theorem relabel_of_ne (other : f.name ≠ a) : f.relabel a b = f :=
  if_neg other

theorem map_relabel_of_not_mem (apart : a ∉ fields.map Field.name) :
    fields.map (relabel a b) = fields := by
  have same : ∀ g ∈ fields, g.relabel a b = id g :=
    fun g inside => relabel_of_ne fun named => apart (named ▸ List.mem_map_of_mem inside)
  rw [List.map_congr_left same, List.map_id]

/-- With distinct names just one column is relabelled. -/
theorem map_relabel (distinct : ((before ++ f :: after).map Field.name).Nodup) :
    (before ++ f :: after).map (relabel f.name b) =
      before ++ { f with name := b } :: after := by
  obtain ⟨apart, apart'⟩ : f.name ∉ before.map name ∧ f.name ∉ after.map name := by
    simpa only [List.map_append, List.mem_append, not_or] using apart_of_distinct distinct rfl
  rw [List.map_append, List.map_cons, map_relabel_of_not_mem apart, map_relabel_of_not_mem apart']
  exact congrArg (before ++ · :: after) (if_pos rfl)

/-- Every other name is found where it was. -/
theorem find?_relabel (old : name ≠ a) (new : name ≠ b) (fields : List Field) :
    (fields.map (relabel a b)).find? (fun f => f.name == name) =
      fields.find? fun f => f.name == name := by
  induction fields with
  | nil => rfl
  | cons g fields ih =>
      rw [List.map_cons]
      by_cases here : g.name = name
      · have other : g.name ≠ a := fun same => old (here.symm.trans same)
        rw [relabel_of_ne other, List.find?_cons_of_pos (by simpa using here),
          List.find?_cons_of_pos (by simpa using here)]
      · have there : (g.relabel a b).name ≠ name := by
          unfold relabel
          split
          · exact new.symm
          · exact here
        rw [List.find?_cons_of_neg (by simpa using there),
          List.find?_cons_of_neg (by simpa using here)]
        exact ih

/-- The new name is found where the old one was, if it was free. -/
theorem find?_relabel_new (fresh : b ∉ fields.map Field.name) :
    (fields.map (relabel a b)).find? (fun f => f.name == b) =
      (fields.find? fun f => f.name == a).map (relabel a b) := by
  induction fields with
  | nil => rfl
  | cons g fields ih =>
      rw [List.map_cons, List.mem_cons, not_or] at fresh
      rw [List.map_cons]
      by_cases here : g.name = a
      · have there : (g.relabel a b).name = b := congrArg Field.name (if_pos here)
        rw [List.find?_cons_of_pos (by simpa using there),
          List.find?_cons_of_pos (by simpa using here), Option.map_some]
      · have apart : g.name ≠ b := Ne.symm fresh.1
        rw [relabel_of_ne here, List.find?_cons_of_neg (by simpa using apart),
          List.find?_cons_of_neg (by simpa using here)]
        exact ih fresh.2

end Field

/-- The batch with the column `a` under the name `b`. -/
def Batch.relabel (a b : String) (y : Batch) : Batch where
  fields := y.fields.map (Field.relabel a b)
  columns := y.columns
  rows := y.rows
  typed := by
    have same : Field.type ∘ Field.relabel a b = Field.type := funext (Field.type_relabel a b)
    rw [List.map_map, same]
    exact y.typed
  full := y.full
  present := by
    rintro ⟨g, d⟩ inside required
    rw [List.zip_map_left, List.mem_map] at inside
    obtain ⟨⟨f, d⟩, inside, same⟩ := inside
    cases same
    exact y.present (f, d) inside ((Field.nullable_relabel a b f).symm.trans required)

/-! ## One batch -/

/-- Of fields with distinct names the field `f` takes the name `b`, which was free, for the
name `a`, and the names are distinct again. -/
structure Renames (fields : List Field) (a b : String) (f : Field) : Prop where
  distinct : (fields.map Field.name).Nodup
  distinct' : ((fields.map (Field.relabel a b)).map Field.name).Nodup
  found : fields.find? (fun f => f.name == a) = some f
  fresh : b ∉ fields.map Field.name

namespace Renames

variable (renames : Renames fields a b f)

include renames

theorem named : f.name = a := by
  simpa using List.find?_some renames.found

theorem inside : f ∈ fields := List.mem_of_find?_eq_some renames.found

theorem solid : fields ≠ [] := List.ne_nil_of_mem renames.inside

theorem solid' : fields.map (Field.relabel a b) ≠ [] :=
  fun none => renames.solid (List.map_eq_nil_iff.mp none)

/-- What holds of every field as it is holds after the renaming if it holds of the field
that was renamed. -/
theorem forall_iff (property : Field → Field → Prop) (same : ∀ g ∈ fields, property g g) :
    (∀ g ∈ fields, property g (g.relabel a b)) ↔ property f (f.relabel a b) := by
  refine ⟨fun all => all f renames.inside, fun here g inside => ?_⟩
  by_cases named : g.name = a
  · have only : g = f := List.inj_on_of_nodup_map renames.distinct inside renames.inside
      (named.trans renames.named.symm)
    rw [only]
    exact here
  · rw [Field.relabel_of_ne named]
    exact same g inside

/-- A batch reads the same under the other name just if it has the same there. -/
theorem align_relabel_iff (aligned : x.align k fields = .ok y) :
    x.align k (fields.map (Field.relabel a b)) = .ok (y.relabel a b) ↔
      x.columnFor k (f.relabel a b) = x.columnFor k f := by
  obtain ⟨sameFields, read⟩ := (Batch.align_ok_iff renames.solid renames.distinct).mp aligned
  have relabelled : (y.relabel a b).fields = fields.map (Field.relabel a b) := by
    rw [← sameFields]
    rfl
  have same {g : Field} {c : Column} (here : x.columnFor k g = .ok c) :
      x.columnFor k (g.relabel a b) = .ok c ↔ x.columnFor k (g.relabel a b) = x.columnFor k g := by
    rw [here]
  rw [Batch.align_ok_iff renames.solid' renames.distinct', List.forall₂_map_left_iff,
    and_iff_right relabelled]
  exact (forall₂_iff_of_related read same).trans
    (renames.forall_iff (fun g g' => x.columnFor k g' = x.columnFor k g) fun _ _ => rfl)

/-- A batch can be read under the other name just if what it has there can stand there. -/
theorem exists_align_iff (aligned : x.align k fields = .ok y) :
    (∃ z, x.align k (fields.map (Field.relabel a b)) = .ok z) ↔
      ∃ c, x.columnFor k (f.relabel a b) = .ok c ∧ (f.nullable = false → c.nullCount = 0) := by
  have each := (Batch.exists_align_iff renames.solid renames.distinct).mp ⟨y, aligned⟩
  rw [Batch.exists_align_iff renames.solid' renames.distinct', List.forall_mem_map]
  refine (renames.forall_iff (fun _ g => ∃ c, x.columnFor k g = .ok c ∧
    (g.nullable = false → c.nullCount = 0)) each).trans ?_
  rw [Field.nullable_relabel]

/-- However the renamed column reads, the rows and the other columns stay. -/
theorem rest_of_align (aligned : x.align k fields = .ok y)
    (aligned' : x.align k (fields.map (Field.relabel a b)) = .ok z) :
    z.rows = y.rows ∧ ∀ name, name ≠ a → name ≠ b → z.column? name = y.column? name := by
  constructor
  · rw [Batch.rows_of_align renames.solid' renames.distinct' aligned',
      Batch.rows_of_align renames.solid renames.distinct aligned]
  · intro name old new
    rw [Batch.column?_of_align renames.solid' renames.distinct' aligned',
      Batch.column?_of_align renames.solid renames.distinct aligned, Field.find?_relabel old new]

/-- The renamed column reads what the batch has under the new name. -/
theorem column?_of_align (aligned' : x.align k (fields.map (Field.relabel a b)) = .ok z) :
    z.column? b = (x.columnFor k (f.relabel a b)).toOption := by
  rw [Batch.column?_of_align renames.solid' renames.distinct' aligned',
    Field.find?_relabel_new renames.fresh, renames.found]
  rfl

end Renames

/-! ## Tables -/

/-- A column that is renamed is the first of its name and takes a name that is free. -/
theorem Schema.renames_of_applyChanges {s s' : Schema} {table : TableId}
    (distinct : s.fieldNames.Nodup)
    (changed : s.applyChanges table [.renameColumn a b] = .ok s') :
    ∃ f, Renames s.fields a b f ∧ s'.fields = s.fields.map (Field.relabel a b) ∧
      s'.options = s.options := by
  have distinct' : s'.fieldNames.Nodup := nodup_of_applyChanges distinct changed
  obtain ⟨evolved, made, rfl⟩ := applyChanges_ok_iff.mp changed
  rw [evolve_single] at made
  cases step_of_applyChange made with
  | @renameColumn f newName before after parts first fresh free =>
      have relabelled : before ++ { f with name := b } :: after =
          s.fields.map (Field.relabel f.name b) := by
        rw [fieldNames, parts] at distinct
        rw [parts, Field.map_relabel distinct]
      have found : s.fields.find? (fun g => g.name == f.name) = some f := by
        refine List.find?_eq_some_iff_append.mpr ⟨beq_self_eq_true f.name, before, after, parts, ?_⟩
        intro g inside
        have other : g.name ≠ f.name := fun same => first (same ▸ List.mem_map_of_mem inside)
        simpa using other
      exact ⟨f, ⟨distinct, relabelled ▸ distinct', found, fresh⟩, relabelled, rfl⟩

/-- **What a renamed column shows.**  A table whose columns have distinct names and whose
settings leave it to be read at its last snapshot is read before and after one of its
columns takes another name.  The same batches are read, with the column under its new name,
just if every stored batch has under the new name what it has under the old one.  Whether
they are read at all depends only on what they have under the new name.  And whatever is
read has the rows and the other columns it had before, while the renamed column holds what
the stored batch has under the new name, missing values if it has nothing there.  How columns
are cast makes no difference: this holds of reading through any casting. -/
theorem rename_keeps_iff {c c' : Catalog} {id : TableId} {t : TableEntry} {shown : List Batch}
    {ignoreIfMissing : Bool} (there : c.entry? id = some t) (distinct : t.schema.fieldNames.Nodup)
    (unpinned : t.schema.Unpinned) (read : (t.view id).readBy k = .ok shown)
    (renamed : c.alterTable id [.renameColumn a b] ignoreIfMissing = .ok c') :
    ∃ f t', t.schema.field? a = some f ∧ c'.entry? id = some t' ∧
      ((t'.view id).readBy k = .ok (shown.map (Batch.relabel a b)) ↔
        ∀ x ∈ t.latestBatches, x.columnFor k (f.relabel a b) = x.columnFor k f) ∧
      ((∃ batches, (t'.view id).readBy k = .ok batches) ↔ ∀ x ∈ t.latestBatches,
        ∃ column, x.columnFor k (f.relabel a b) = .ok column ∧
          (f.nullable = false → column.nullCount = 0)) ∧
      ∀ {batches : List Batch}, (t'.view id).readBy k = .ok batches →
        List.Forall₂ (fun y z => z.rows = y.rows ∧
          ∀ name, name ≠ a → name ≠ b → z.column? name = y.column? name) shown batches ∧
        List.Forall₂ (fun x z => z.column? b = (x.columnFor k (f.relabel a b)).toOption)
          t.latestBatches batches := by
  rcases Catalog.entry?_alterTable renamed with ⟨-, missing, -⟩ | ⟨t₀, schema, found, evolved, left⟩
  · rw [there] at missing
    cases missing
  · rw [there] at found
    cases found
    obtain ⟨f, renames, fields, options⟩ := Schema.renames_of_applyChanges distinct evolved
    have unpinned' : schema.Unpinned := fun key inside => options ▸ unpinned key inside
    have aligned := (TableEntry.readBy_ok_iff unpinned).mp read
    -- the schema is another one, the stored batches are the same
    have read_iff {batches : List Batch} :
        (TableEntry.view { t with schema } id).readBy k = .ok batches ↔ List.Forall₂
          (fun x y => x.align k (t.schema.fields.map (Field.relabel a b)) = .ok y)
          t.latestBatches batches := by
      rw [← fields]
      exact TableEntry.readBy_ok_iff unpinned'
    refine ⟨f, _, renames.found, left, ?_, ?_, ?_⟩
    · rw [read_iff, List.forall₂_map_right_iff]
      exact forall₂_iff_of_related aligned renames.align_relabel_iff
    · have readable := (TableEntry.exists_readBy_iff unpinned).mp ⟨shown, read⟩
      refine (TableEntry.exists_readBy_iff unpinned').trans (forall₂_congr fun x inside => ?_)
      obtain ⟨y, before⟩ := readable x inside
      show (∃ z, x.align k schema.fields = .ok z) ↔ _
      rw [fields]
      exact renames.exists_align_iff before
    · intro batches read'
      have aligned' := read_iff.mp read'
      refine ⟨(related_through aligned aligned').imp ?_, aligned'.imp ?_⟩
      · rintro y z ⟨x, before, after⟩
        exact renames.rest_of_align before after
      · exact fun x z after => renames.column?_of_align after

/-- A run that writes `weighed` and then adds a column for notes. -/
def weighedRun : List (CatalogOp × Int) :=
  let here : TableId := ⟨"lake", "catch"⟩
  let schema : Schema := ⟨0, [⟨"weight", .int64, true, none⟩], [], [], ∅, none⟩
  [(.createDatabase "lake" false, 0), (.createTable here schema false, 1),
    (.write here [weighed], 2),
    (.alterTable here [.addColumn ⟨"note", .utf8, true, none⟩ none] false, 3)]

/-- The table that `weighedRun` leaves. -/
def weighedTable : TableEntry where
  schema := ⟨1, [⟨"weight", .int64, true, none⟩, ⟨"note", .utf8, true, none⟩], [], [], ∅, none⟩
  snapshots := [⟨1, 0, .append, 2, [weighed]⟩]
  tags := ∅

/-- The column for notes came after the batch, so it loses nothing when it is renamed. -/
theorem rename_keeps_iff_notes :
    let here : TableId := ⟨"lake", "catch"⟩
    let c := CatalogOp.afterAll (.new "sea" ∅) weighedRun
    ∃ shown c' t', c.alterTable here [.renameColumn "note" "remark"] false = .ok c' ∧
      (weighedTable.view here).read = .ok shown ∧ c'.entry? here = some t' ∧
      (t'.view here).read = .ok (shown.map (Batch.relabel "note" "remark")) := by
  intro here c
  have there : c.entry? here = some weighedTable := by decide +kernel
  have distinct : weighedTable.schema.fieldNames.Nodup := by decide
  have unpinned : weighedTable.schema.Unpinned := fun _ _ => rfl
  have readable : (weighedTable.view here).read.toOption.isSome = true := by decide +kernel
  have accepted : (c.alterTable here [.renameColumn "note" "remark"] false).toOption.isSome =
      true := by
    decide +kernel
  obtain ⟨shown, read⟩ := Option.isSome_iff_exists.mp readable
  obtain ⟨c', renamed⟩ := Option.isSome_iff_exists.mp accepted
  have read := toOption_eq_some_iff.mp read
  have renamed := toOption_eq_some_iff.mp renamed
  obtain ⟨f, t', column, left, kept, -⟩ := rename_keeps_iff there distinct unpinned read renamed
  refine ⟨shown, c', t', renamed, read, left, kept.mpr ?_⟩
  cases column
  decide +kernel

/-- The weights are gone when their column is renamed. -/
theorem rename_loses_weights :
    let here : TableId := ⟨"lake", "catch"⟩
    let c := CatalogOp.afterAll (.new "sea" ∅) weighedRun
    Reachable c ∧ c.entry? here = some weighedTable ∧ weighedTable.schema.fieldNames.Nodup ∧
      weighedTable.schema.Unpinned ∧
      ∃ shown c' t' batches, (weighedTable.view here).read = .ok shown ∧
        c.alterTable here [.renameColumn "weight" "mass"] false = .ok c' ∧
        c'.entry? here = some t' ∧ (t'.view here).read = .ok batches ∧
        shown.map (fun y => y.column? "weight") = [some ⟨.int64, [some (.integer 8)]⟩] ∧
        batches.map (fun z => z.column? "mass") = [some ⟨.int64, [none]⟩] := by
  intro here c
  have reached : Reachable c := (Reachable.new "sea" ∅).afterAll weighedRun
  have there : c.entry? here = some weighedTable := by decide +kernel
  refine ⟨reached, there, by decide, fun _ _ => rfl, ?_⟩
  have before : (weighedTable.view here).read.toOption.map
      (fun shown => shown.map fun y => y.column? "weight") =
        some [some ⟨.int64, [some (.integer 8)]⟩] := by
    decide +kernel
  have after : ((c.alterTable here [.renameColumn "weight" "mass"] false).toOption.bind fun c' =>
      (c'.entry? here).bind fun t' => (t'.view here).read.toOption.map fun batches =>
        batches.map fun z => z.column? "mass") = some [some ⟨.int64, [none]⟩] := by
    decide +kernel
  obtain ⟨shown, read, values⟩ := Option.map_eq_some_iff.mp before
  obtain ⟨c', renamed, after⟩ := Option.bind_eq_some_iff.mp after
  obtain ⟨t', left, after⟩ := Option.bind_eq_some_iff.mp after
  obtain ⟨batches, read', values'⟩ := Option.map_eq_some_iff.mp after
  exact ⟨shown, c', t', batches, toOption_eq_some_iff.mp read, toOption_eq_some_iff.mp renamed,
    left, toOption_eq_some_iff.mp read', values, values'⟩

end TableLake
