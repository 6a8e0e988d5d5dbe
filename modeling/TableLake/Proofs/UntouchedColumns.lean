/-
# TableLake.Proofs.UntouchedColumns — columns that an alteration leaves alone

An alteration that neither drops nor renames a column nor gives it another type leaves a
column of that name and type in the schema (`Schema.has_of_applyChanges`).  What a stored
batch shows there depends on nothing else (`Batch.columnFor_congr`), whether the batch is
handed out as it is stored or put together under other fields.  So such a column reads the
same before and after (`untouched_column_reads`), whatever happens around it.
-/
import TableLake.Proofs.ColumnRename
import TableLake.Proofs.ColumnStep
import TableLake.Proofs.Scan

namespace TableLake

open TableLake.Outcome

set_option autoImplicit false

variable {k : Casting} {f : Field}

/-- The change neither drops nor renames a column nor gives it another type. -/
def SchemaChange.Spares (f : Field) (change : SchemaChange) : Prop :=
  ¬change.Frees f.name ∧ ∀ type, change = .updateType f.name type → type = f.type

namespace Schema

variable {s s' : Schema} {table : TableId} {change : SchemaChange} {changes : List SchemaChange}

/-- There is a column of the name and type of a field. -/
def Has (s : Schema) (f : Field) : Prop :=
  ∃ g ∈ s.fields, g.name = f.name ∧ g.type = f.type

theorem Step.has (distinct : s.fieldNames.Nodup) (step : s.Step change s')
    (spared : change.Spares f) (there : s.Has f) : s'.Has f := by
  obtain ⟨g, inside, named, typed⟩ := there
  obtain ⟨g', sent, named', kept⟩ := SchemaChange.exists_sends (named ▸ spared.1)
  refine ⟨g', (step.mem_fields_iff distinct).mpr (.inr ⟨g, inside, sent⟩), named'.trans named, ?_⟩
  rcases kept with same | retyped
  · exact same.trans typed
  · exact spared.2 _ (named ▸ retyped)

theorem has_of_applyChanges (distinct : s.fieldNames.Nodup) (there : s.Has f)
    (spared : ∀ change ∈ changes, change.Spares f)
    (changed : s.applyChanges table changes = .ok s') : s'.Has f := by
  let both (s : Schema) := s.fieldNames.Nodup ∧ s.Has f
  have kept : both s' := keeps_of_allowed
    (fun spared both step => ⟨step.nodup_fieldNames both.1, step.has both.1 spared both.2⟩)
    (fun both => both) spared ⟨distinct, there⟩ changed
  exact kept.2

end Schema

/-- A batch that is read through two lists of fields has the same rows both times, and the
same column under a field that has its name and type in both. -/
theorem Batch.same_column_of_align {x y z : Batch} {fields fields' : List Field} {g : Field}
    (distinct : (fields.map Field.name).Nodup) (distinct' : (fields'.map Field.name).Nodup)
    (aligned : x.align k fields = .ok y) (aligned' : x.align k fields' = .ok z)
    (inside : f ∈ fields) (inside' : g ∈ fields') (named : g.name = f.name)
    (typed : g.type = f.type) :
    z.rows = y.rows ∧
      ∃ column, y.column? f.name = some column ∧ z.column? f.name = some column := by
  have solid : fields ≠ [] := List.ne_nil_of_mem inside
  have solid' : fields' ≠ [] := List.ne_nil_of_mem inside'
  constructor
  · rw [Batch.rows_of_align solid' distinct' aligned', Batch.rows_of_align solid distinct aligned]
  · obtain ⟨column, found, shown⟩ := Batch.exists_column_of_align solid distinct aligned inside
    obtain ⟨column', found', shown'⟩ :=
      Batch.exists_column_of_align solid' distinct' aligned' inside'
    rw [Batch.columnFor_congr named typed, found] at found'
    cases found'
    exact ⟨column, shown, named ▸ shown'⟩

/-- **An alteration leaves alone what it does not touch.**  A table that was made with
distinct column names, whatever happened to it since, is altered by changes none of which
drops or renames one of its columns or gives it another type.  If it is read before and
after, through the same casting and under any settings that select the same snapshot, then
there are as many batches with as many rows, and the column has the same values in each. -/
theorem untouched_column_reads {c₀ c₁ c c' : Catalog} {id₀ id : TableId} {schema : Schema}
    {ignoreIfExists ignoreIfMissing : Bool} {v v' : Table} {name : String}
    {changes : List SchemaChange} {settings settings' : Options} {shown shown' : List Batch}
    (free : c₀.entry? id₀ = none) (made : c₀.createTable id₀ schema ignoreIfExists = .ok c₁)
    (distinct : schema.fieldNames.Nodup) (run : Follows (fun _ _ _ _ => True) c₁ id₀ c id)
    (before : c.getTable id = .ok v) (column : v.schema.field? name = some f)
    (altered : c.alterTable id changes ignoreIfMissing = .ok c')
    (spared : ∀ change ∈ changes, change.Spares f) (after : c'.getTable id = .ok v')
    (same : (v.copy settings).scanSnapshot = (v'.copy settings').scanSnapshot)
    (read : (v.copy settings).readBy k = .ok shown)
    (read' : (v'.copy settings').readBy k = .ok shown') :
    List.Forall₂ (fun y z => z.rows = y.rows ∧
      ∃ column, y.column? name = some column ∧ z.column? name = some column) shown shown' := by
  obtain ⟨t, there, rfl⟩ := Catalog.getTable_ok_iff.mp before
  obtain ⟨t', there', rfl⟩ := Catalog.getTable_ok_iff.mp after
  have distinct : t.schema.fieldNames.Nodup := by
    obtain ⟨_, found, kept⟩ := run.entry
      (fun _ _ _ _ step distinct => TableEntry.Step.nodup_fieldNames distinct step)
      (Catalog.entry?_createTable_of_free free made) distinct
    rw [there] at found
    cases found
    exact kept
  obtain ⟨schema', evolved, left⟩ := Catalog.evolved_of_alterTable there altered
  rw [there'] at left
  cases left
  have distinct' : schema'.fieldNames.Nodup := Schema.nodup_of_applyChanges distinct evolved
  have inside : f ∈ t.schema.fields := List.mem_of_find?_eq_some column
  have named : f.name = name := by simpa using List.find?_some column
  obtain ⟨g, inside', named', typed'⟩ :=
    Schema.has_of_applyChanges distinct ⟨f, inside, rfl, rfl⟩ spared evolved
  obtain ⟨selected, scan, aligned⟩ := Table.readBy_ok_iff.mp read
  obtain ⟨selected', scan', aligned'⟩ := Table.readBy_ok_iff.mp read'
  rw [same, scan'] at scan
  cases scan
  subst named
  refine (related_through aligned aligned').imp ?_
  rintro y z ⟨x, first, second⟩
  exact Batch.same_column_of_align distinct distinct' first second inside inside' named' typed'

/-- The weights of a table stay while everything around them changes. -/
theorem untouched_column_reads_weights :
    let here : TableId := ⟨"lake", "catch"⟩
    let c := CatalogOp.afterAll (.new "sea" ∅) weighedRun
    let changes : List SchemaChange :=
      [.renameColumn "note" "remark", .updateType "remark" .int32, .moveColumn "remark" .first,
        .addColumn ⟨"grade", .utf8, true, none⟩ (some .first), .dropColumn "remark",
        .updateNullability ["weight"] false, .updateComment ["weight"] (some "in tons")]
    ∃ c' v' shown shown', c.alterTable here changes false = .ok c' ∧
      c'.getTable here = .ok v' ∧ v'.schema.fieldNames = ["grade", "weight"] ∧
      ((weighedTable.view here).copy ∅).read = .ok shown ∧ (v'.copy ∅).read = .ok shown' ∧
      List.Forall₂ (fun y z => z.rows = y.rows ∧
        ∃ column, y.column? "weight" = some column ∧ z.column? "weight" = some column)
        shown shown' := by
  intro here c changes
  let weight : Field := ⟨"weight", .int64, true, none⟩
  let schema : Schema := ⟨0, [weight], [], [], ∅, none⟩
  let altered : TableEntry :=
    { weighedTable with
      schema := ⟨2, [⟨"grade", .utf8, true, none⟩, ⟨"weight", .int64, false, some "in tons"⟩],
        [], [], ∅, none⟩ }
  let c₀ := CatalogOp.afterAll (.new "sea" ∅) (weighedRun.take 1)
  let c₁ := CatalogOp.afterAll (.new "sea" ∅) (weighedRun.take 2)
  have free : c₀.entry? here = none := rfl
  have made : c₀.createTable here schema false = .ok c₁ := rfl
  have run : Follows (fun _ _ _ _ => True) c₁ here c here :=
    .step (.step .here _ 2 rfl trivial) _ 3 rfl trivial
  have there : c.entry? here = some weighedTable := by decide +kernel
  have left : ((c.alterTable here changes false).toOption.bind fun c' => c'.entry? here) =
      some altered := by
    decide +kernel
  have read : ((weighedTable.view here).copy ∅).read.toOption.isSome = true := by decide +kernel
  have read' : ((altered.view here).copy ∅).read.toOption.isSome = true := by decide +kernel
  obtain ⟨c', accepted, there'⟩ := Option.bind_eq_some_iff.mp left
  obtain ⟨shown, read⟩ := exists_ok_of_isSome read
  obtain ⟨shown', read'⟩ := exists_ok_of_isSome read'
  have accepted := toOption_eq_some_iff.mp accepted
  have before := Catalog.getTable_ok_iff.mpr ⟨weighedTable, there, rfl⟩
  have after := Catalog.getTable_ok_iff.mpr ⟨altered, there', rfl⟩
  have spared : ∀ change ∈ changes, change.Spares weight := by
    simp [changes, SchemaChange.Spares, SchemaChange.Frees, weight]
  have distinct : schema.fieldNames.Nodup := by decide
  exact ⟨c', _, shown, shown', accepted, after, rfl, read, read',
    untouched_column_reads free made distinct run before rfl accepted spared after rfl read read'⟩

end TableLake
