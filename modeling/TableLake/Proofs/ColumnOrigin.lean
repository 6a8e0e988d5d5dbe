/-
# TableLake.Proofs.ColumnOrigin — where a column comes from, and what it shows

Traced back through a list of changes, a name leads to the name its column had before
them, or to the change that added the column (`SchemaChange.origin?`).  A name that a column
had before leads back to itself unless one of the changes gave it up
(`Schema.Keeps.applyChanges`).

A stored batch knows nothing of this.  It is found at its place in every snapshot since its
own (`TableEntry.Orderly.getElem?_scanned`) and read by the names of its own fields.  So a column
that was added later reads as missing values from it if its name was free when the batch was
written.  If the name was taken then, given up since and taken again, the column reads what
the batch had under the name (`added_column_reads`).
-/
import TableLake.Proofs.ColumnRename
import TableLake.Proofs.ColumnStep
import TableLake.Proofs.RunRecord
import TableLake.Proofs.Scan

namespace TableLake

open TableLake.Outcome

set_option autoImplicit false

variable {k : Casting} {name : String} {f : Field}

/-! ## Names through changes -/

namespace SchemaChange

/-- The name before a change of the column that has a name after it; none if the change
added the column. -/
def source? : SchemaChange → String → Option String
  | .addColumn f _, name => if f.name = name then none else some name
  | .renameColumn column newName, name => some (if newName = name then column else name)
  | _, name => some name

/-- The same for a list of changes. -/
def origin? : List SchemaChange → String → Option String
  | [], name => some name
  | change :: later, name => (origin? later name).bind change.source?

theorem origin?_concat (changes : List SchemaChange) (change : SchemaChange) (name : String) :
    origin? (changes ++ [change]) name = (change.source? name).bind (origin? changes) := by
  induction changes with
  | nil =>
      show (some name).bind change.source? = (change.source? name).bind some
      rw [Option.bind_some, Option.bind_fun_some]
  | cons first later ih =>
      show (origin? (later ++ [change]) name).bind first.source? =
        (change.source? name).bind fun name => (origin? later name).bind first.source?
      rw [ih, Option.bind_assoc]

end SchemaChange

namespace Schema

variable {s s' : Schema} {table : TableId} {change : SchemaChange} {names : List String}
variable {made changes : List SchemaChange}

/-- A name that is not given up stays, and its column with it. -/
theorem Step.keeps_name (distinct : s.fieldNames.Nodup) (step : s.Step change s')
    (inside : name ∈ s.fieldNames) :
    change.Frees name ∨ name ∈ s'.fieldNames ∧ change.source? name = some name := by
  by_cases freed : change.Frees name
  · exact .inl freed
  right
  obtain ⟨f, there, rfl⟩ := List.mem_map.mp inside
  obtain ⟨g, sent, named, -⟩ := SchemaChange.exists_sends freed
  have after : g ∈ s'.fields := (step.mem_fields_iff distinct).mpr (.inr ⟨f, there, sent⟩)
  refine ⟨List.mem_map.mpr ⟨g, after, named⟩, ?_⟩
  cases step with
  | @addColumn added place before after parts fresh =>
      have other : added.name ≠ f.name := fun same => fresh (same ▸ inside)
      exact if_neg other
  | @renameColumn renamed newName before after parts first fresh =>
      have other : newName ≠ f.name := fun same => fresh (same ▸ inside)
      exact congrArg some (if_neg other)
  | _ => rfl

/-- Each of the names was given up by one of the changes, or it is there and leads back to
itself. -/
def Keeps (names : List String) (changes : List SchemaChange) (s : Schema) : Prop :=
  ∀ name ∈ names, (∃ change ∈ changes, change.Frees name) ∨
    name ∈ s.fieldNames ∧ SchemaChange.origin? changes name = some name

theorem keeps_start (s : Schema) : Keeps s.fieldNames [] s :=
  fun _ inside => .inr ⟨inside, rfl⟩

theorem Keeps.step (kept : Keeps names made s) (distinct : s.fieldNames.Nodup)
    (step : s.Step change s') : Keeps names (made ++ [change]) s' := by
  intro name inside
  rcases kept name inside with ⟨earlier, there, freed⟩ | ⟨present, traced⟩
  · exact .inl ⟨earlier, List.mem_append_left _ there, freed⟩
  · rcases step.keeps_name distinct present with freed | ⟨present, same⟩
    · exact .inl ⟨change, List.mem_append_right _ List.mem_cons_self, freed⟩
    · right
      rw [SchemaChange.origin?_concat, same, Option.bind_some]
      exact ⟨present, traced⟩

theorem Keeps.applyChanges (kept : Keeps names made s) (distinct : s.fieldNames.Nodup)
    (changed : s.applyChanges table changes = .ok s') : Keeps names (made ++ changes) s' :=
  distinct_induction (fun distinct kept step => kept.step distinct step) (fun kept => kept)
    distinct kept changed

end Schema

/-! ## Batches through commits -/

/-- The changes an operation makes to the schema of its table. -/
def CatalogOp.changes : CatalogOp → List SchemaChange
  | .alterTable _ changes _ => changes
  | _ => []

namespace TableEntry

variable {t : TableEntry} {s : Snapshot} {x x' : Batch} {i : Nat}

theorem getElem?_of_prefix {batches longer : List Batch} (grown : batches <+: longer)
    (stored : batches[i]? = some x) : longer[i]? = some x := by
  obtain ⟨bound, rfl⟩ := List.getElem?_eq_some_iff.mp stored
  exact List.prefix_iff_getElem?.mp grown i bound

/-- Whatever snapshot is selected, a batch that is found at the place of another one of the
table is this one. -/
theorem Orderly.getElem?_scanned (orderly : t.Orderly) {selected : Option Snapshot}
    (there : ∀ s' ∈ selected, s' ∈ t.snapshots) (inside : s ∈ t.snapshots)
    (stored : s.batches[i]? = some x) (place : (Table.scanned selected)[i]? = some x') :
    x' = x := by
  cases selected with
  | none => cases place
  | some s' =>
      have inside' := there s' rfl
      have place : s'.batches[i]? = some x' := place
      rcases Nat.le_total s.id s'.id with earlier | later
      · have kept := getElem?_of_prefix (orderly.prefix_of_le inside inside' earlier) stored
        exact Option.some.inj (place.symm.trans kept)
      · have kept := getElem?_of_prefix (orderly.prefix_of_le inside' inside later) place
        exact Option.some.inj (kept.symm.trans stored)

/-- Of what happens to a table only an alteration gives up names. -/
theorem Step.keeps_names {id : TableId} {now : Int} {t' : TableEntry} {op : CatalogOp}
    {answer : Option Snapshot} {names : List String} {made : List SchemaChange}
    (distinct : t.schema.fieldNames.Nodup) (kept : Schema.Keeps names made t.schema)
    (step : t.Step id now op t' answer) : Schema.Keeps names (made ++ op.changes) t'.schema := by
  cases step with
  | alter evolved => exact kept.applyChanges distinct evolved
  | _ =>
      -- no other operation has changes to make
      rw [← List.append_nil made] at kept
      exact kept

end TableEntry

/-- What is read from a batch in a column: what the batch has under the name of the column,
and missing values if it has nothing there. -/
theorem Batch.column?_cases_of_align {x y : Batch} {fields : List Field}
    (distinct : (fields.map Field.name).Nodup) (aligned : x.align k fields = .ok y)
    (inside : f ∈ fields) :
    y.rows = x.rows ∧
      (f.name ∉ x.fields.map Field.name → y.column? f.name = some (.missing f.type x.rows)) ∧
      (f.name ∈ x.fields.map Field.name → ∃ stored values, x.column? f.name = some stored ∧
        k.cast stored f.type = .ok values ∧ y.column? f.name = some values) := by
  have solid : fields ≠ [] := List.ne_nil_of_mem inside
  obtain ⟨c, read, shown⟩ := Batch.exists_column_of_align solid distinct aligned inside
  refine ⟨Batch.rows_of_align solid distinct aligned, fun missing => ?_, fun taken => ?_⟩
  · rw [Batch.columnFor, Batch.column?_eq_none_iff.mpr missing] at read
    cases read
    exact shown
  · cases found : x.column? f.name with
    | none => exact absurd taken (Batch.column?_eq_none_iff.mp found)
    | some stored =>
        rw [Batch.columnFor, found] at read
        exact ⟨stored, c, rfl, read, shown⟩

/-- **What a column shows of the batches that were there before it.**  In a catalog that
operations led to, a batch is written to a table whose columns have distinct names, and the
table is followed through any run that neither drops it nor rolls it back below that commit.
Then, in whatever snapshot is read afterwards, the rows that come from the batch read as
missing values in every column that was added since, if no column had its name when the
batch was written.  If one had, that one was dropped or renamed since, and the added column
reads what the casting makes of the batch's values under the name. -/
theorem added_column_reads {c c' : Catalog} {id id' : TableId} {t : TableEntry}
    {written shown : List Batch} {now : Int} {s : Snapshot} {changes : List SchemaChange}
    {v : Table} {settings : Options} {i : Nat} {x y : Batch}
    (reached : Reachable c) (there : c.entry? id = some t) (distinct : t.schema.fieldNames.Nodup)
    (committed : (CatalogOp.write id written).answer c now = .ok (some s))
    (stored : s.batches[i]? = some x) (new : t.latestBatches.length ≤ i)
    (run : Recorded (fun op made => made ++ op.changes) (CatalogOp.Spares s.id) []
      ((CatalogOp.write id written).after c now) id c' id' changes)
    (after : c'.getTable id' = .ok v) (read : (v.copy settings).readBy k = .ok shown)
    (place : shown[i]? = some y) (column : f ∈ v.schema.fields)
    (added : SchemaChange.origin? changes f.name = none) :
    y.rows = x.rows ∧
      (f.name ∉ t.schema.fieldNames → y.column? f.name = some (.missing f.type x.rows)) ∧
      (f.name ∈ t.schema.fieldNames → (∃ change ∈ changes, change.Frees f.name) ∧
        ∃ stored values, x.column? f.name = some stored ∧ k.cast stored f.type = .ok values ∧
          y.column? f.name = some values) := by
  obtain ⟨t₁, left, step⟩ := CatalogOp.step_of_answer there rfl committed
  have orderly : ∀ {u : TableEntry}, c'.entry? id' = some u → u.Orderly :=
    (run.follows.reachable (reached.step _ now)).orderly
  cases step with
  | @write _ made fit =>
      -- the batch is under the fields of the schema it was written to
      have own : x.fields = t.schema.fields := by
        rw [TableEntry.nextSnapshot, List.getElem?_append_right new] at stored
        obtain ⟨b, -, here⟩ := related_at (mapM_eq_ok_iff.mp fit).flip stored
        exact (Batch.make_ok_iff.mp (mapError_eq_ok_iff.mp here)).2.1
      let s := t.nextSnapshot .append now (t.latestBatches ++ made)
      let property (changes : List SchemaChange) (u : TableEntry) :=
        s ∈ u.snapshots ∧ u.schema.fieldNames.Nodup ∧
          Schema.Keeps t.schema.fieldNames changes u.schema
      have begun : property [] (t.commit s) :=
        ⟨List.mem_append_right _ List.mem_cons_self, distinct, Schema.keeps_start t.schema⟩
      obtain ⟨u, found, inside, distinct', kept⟩ := run.entry
        (fun spared there step kept => ⟨step.keeps_snapshot there kept.1 spared,
          step.nodup_fieldNames kept.2.1, step.keeps_names kept.2.1 kept.2.2⟩) left begun
      obtain ⟨u', found', rfl⟩ := Catalog.getTable_ok_iff.mp after
      rw [found] at found'
      cases found'
      obtain ⟨selected, scan, aligned⟩ := Table.readBy_ok_iff.mp read
      obtain ⟨x', scanned, shows⟩ := related_at aligned.flip place
      have selects : ∀ s' ∈ selected, s' ∈ u.snapshots := by
        rintro s' rfl
        exact Table.mem_of_scanSnapshot scan
      obtain rfl : x' = x := (orderly found).getElem?_scanned selects inside stored scanned
      obtain ⟨rows, missing, taken⟩ := Batch.column?_cases_of_align distinct' shows column
      rw [own] at missing taken
      refine ⟨rows, missing, fun before => ⟨?_, taken before⟩⟩
      rcases kept f.name before with freed | ⟨-, traced⟩
      · exact freed
      · rw [added] at traced
        cases traced

/-- A column for notes that is added behind a batch and renamed. -/
theorem added_column_reads_remarks :
    let here : TableId := ⟨"lake", "catch"⟩
    let c := CatalogOp.afterAll (.new "sea" ∅) (weighedRun.take 3)
    let run : List (CatalogOp × Int) :=
      [(.alterTable here [.addColumn ⟨"note", .utf8, true, none⟩ none] false, 3),
        (.alterTable here [.renameColumn "note" "remark"] false, 4)]
    ∃ v shown y, Catalog.getTable (CatalogOp.afterAll c run) here = .ok v ∧
      (v.copy ∅).read = .ok shown ∧ shown[0]? = some y ∧ y.rows = 1 ∧
      y.column? "remark" = some (.missing .utf8 1) := by
  intro here c run
  let weight : Field := ⟨"weight", .int64, true, none⟩
  let remark : Field := ⟨"remark", .utf8, true, none⟩
  let before := CatalogOp.afterAll (.new "sea" ∅) (weighedRun.take 2)
  let t : TableEntry := ⟨⟨2, [weight, remark], [], [], ∅, none⟩, weighedTable.snapshots, ∅⟩
  have reached : Reachable before := (Reachable.new "sea" ∅).afterAll (weighedRun.take 2)
  have there : before.entry? here = some (.new ⟨0, [weight], [], [], ∅, none⟩) := rfl
  have committed : (CatalogOp.write here [weighed]).answer before 2 =
      .ok (some ⟨1, 0, .append, 2, [weighed]⟩) := rfl
  have recorded : ∃ changes, SchemaChange.origin? changes "remark" = none ∧
      Recorded (fun op made => made ++ op.changes) (CatalogOp.Spares 1) [] c here
        (CatalogOp.afterAll c run) here changes := by
    refine ⟨_, ?_, .step (.step .here _ 3 rfl id) _ 4 rfl id⟩
    decide +kernel
  obtain ⟨changes, added, recorded⟩ := recorded
  have left : Catalog.entry? (CatalogOp.afterAll c run) here = some t := by decide +kernel
  have after := Catalog.getTable_ok_iff.mpr ⟨t, left, rfl⟩
  have shows : (((t.view here).copy ∅).read.toOption.bind fun shown => shown[0]?).isSome =
      true := by
    decide +kernel
  obtain ⟨y, shows⟩ := Option.isSome_iff_exists.mp shows
  obtain ⟨shown, read, place⟩ := Option.bind_eq_some_iff.mp shows
  have read := toOption_eq_some_iff.mp read
  have column : remark ∈ (t.view here).schema.fields := List.mem_cons_of_mem _ List.mem_cons_self
  obtain ⟨rows, missing, -⟩ := added_column_reads reached there (by decide) committed rfl
    (Nat.le_refl 0) recorded after read place column added
  exact ⟨_, shown, y, after, read, place, rows, missing (by decide)⟩

/-- The weights are back when their column is dropped and another one is added under its
name. -/
theorem readded_column_shows_weights :
    let here : TableId := ⟨"lake", "catch"⟩
    let weight : Field := ⟨"weight", .int64, true, none⟩
    let before := CatalogOp.afterAll (.new "sea" ∅) (weighedRun.take 2)
    let c := (CatalogOp.write here [weighed]).after before 2
    let run : List (CatalogOp × Int) :=
      [(.alterTable here [.addColumn ⟨"note", .utf8, true, none⟩ none] false, 3),
        (.alterTable here [.dropColumn "weight"] false, 4),
        (.alterTable here [.addColumn weight none] false, 5)]
    Reachable before ∧
      (CatalogOp.write here [weighed]).answer before 2 =
        .ok (some ⟨1, 0, .append, 2, [weighed]⟩) ∧
      ∃ changes v shown y,
        Recorded (fun op made => made ++ op.changes) (CatalogOp.Spares 1) [] c here
          (CatalogOp.afterAll c run) here changes ∧
        SchemaChange.origin? changes "weight" = none ∧
        Catalog.getTable (CatalogOp.afterAll c run) here = .ok v ∧
        v.schema.fieldNames.Nodup ∧ weight ∈ v.schema.fields ∧
        v.read = .ok shown ∧ shown[0]? = some y ∧
        y.column? "weight" = some ⟨.int64, [some (.integer 8)]⟩ := by
  intro here weight before c run
  have reached : Reachable before := (Reachable.new "sea" ∅).afterAll (weighedRun.take 2)
  have recorded : ∃ changes, SchemaChange.origin? changes "weight" = none ∧
      Recorded (fun op made => made ++ op.changes) (CatalogOp.Spares 1) [] c here
        (CatalogOp.afterAll c run) here changes := by
    refine ⟨_, ?_, .step (.step (.step .here _ 3 rfl id) _ 4 rfl id) _ 5 rfl id⟩
    decide +kernel
  obtain ⟨changes, added, recorded⟩ := recorded
  let t : TableEntry :=
    ⟨⟨3, [⟨"note", .utf8, true, none⟩, weight], [], [], ∅, none⟩, weighedTable.snapshots, ∅⟩
  have left : Catalog.entry? (CatalogOp.afterAll c run) here = some t := by decide +kernel
  have shows : ((t.view here).read.toOption.bind fun shown =>
      shown[0]?.map fun y => y.column? "weight") = some (some ⟨.int64, [some (.integer 8)]⟩) := by
    decide +kernel
  obtain ⟨shown, read, shows⟩ := Option.bind_eq_some_iff.mp shows
  obtain ⟨y, place, values⟩ := Option.map_eq_some_iff.mp shows
  exact ⟨reached, rfl, changes, t.view here, shown, y, recorded, added,
    Catalog.getTable_ok_iff.mpr ⟨t, left, rfl⟩, by decide,
    List.mem_cons_of_mem _ List.mem_cons_self, toOption_eq_some_iff.mp read, place, values⟩

end TableLake
