/-
# TableLake.Proofs.Readability — whether a table can be read after an alteration

Whether changes are accepted is decided by the schema alone; nobody looks at the data.  A
stored batch can be read afterwards if it is under the very fields of the new schema, or if
it supplies every column: it has it, or nothing under its name, in a form that can be cast,
and without missing values where they are forbidden (`Batch.exists_align_iff_supplies`).

Not every column has to be looked at.  A column that was there under its name with its type,
and was no less strict, is supplied as it was (`Schema.eases_or_demanded`).  What is demanded
anew are columns that are added, renamed, given another type or closed to missing values
(`SchemaChange.Demands`), and these are what can make a table unreadable.
-/
import TableLake.Proofs.ColumnRename
import TableLake.Proofs.ColumnStep
import TableLake.Proofs.Scan

namespace TableLake

open TableLake.Outcome TableLake.Text

set_option autoImplicit false

/-! ## One batch -/

namespace Batch

variable {k : Casting} {x y : Batch} {f g : Field} {fields : List Field}

/-- The batch has something to show under a field, with no missing value if the field
forbids them. -/
def Supplies (k : Casting) (x : Batch) (f : Field) : Prop :=
  ∃ c, x.columnFor k f = .ok c ∧ (f.nullable = false → c.nullCount = 0)

instance (k : Casting) (x : Batch) (f : Field) : Decidable (x.Supplies k f) :=
  match read : x.columnFor k f with
  | .ok c => decidable_of_iff (f.nullable = false → c.nullCount = 0) (by simp [Supplies, read])
  | .error e => isFalse (by simp [Supplies, read])

/-- A batch that has columns is read through fields, if at all, because there are some. -/
theorem fields_ne_nil_of_align (filled : x.columns ≠ []) (aligned : x.align k fields = .ok y) :
    fields ≠ [] := by
  unfold align at aligned
  split at aligned
  · rename_i own
    subst own
    exact ne_nil_of_related x.forall₂_typed.flip filled
  · simp only [bind_eq_ok_iff, make_ok_iff] at aligned
    obtain ⟨columns, -, filled, rfl, rfl⟩ := aligned
    exact ne_nil_of_related y.forall₂_typed.flip filled

/-- A batch is read through fields if they are its own, or if it supplies each of them. -/
theorem exists_align_iff_supplies (solid : fields ≠ []) :
    (∃ y, x.align k fields = .ok y) ↔ x.fields = fields ∨ ∀ f ∈ fields, x.Supplies k f := by
  unfold align
  split
  · rename_i own
    exact iff_of_true ⟨x, rfl⟩ (.inl own)
  · rename_i other
    rw [or_iff_right other]
    refine Iff.trans (exists_congr fun y => ?_) exists_read_iff
    simp only [bind_eq_ok_iff, mapM_eq_ok_iff, make_ok_iff]
    constructor
    · rintro ⟨columns, read, -, sameFields, rfl⟩
      exact ⟨sameFields, read⟩
    · rintro ⟨sameFields, read⟩
      exact ⟨y.columns, read, ne_nil_of_related read solid, sameFields, rfl⟩

end Batch

/-! ## Changes -/

/-- A field is no stricter than another one of its name and type. -/
def Field.Eases (f g : Field) : Prop :=
  f.name = g.name ∧ f.type = g.type ∧ (f.nullable = false → g.nullable = false)

namespace Field

variable {f g h : Field}

theorem Eases.refl (f : Field) : f.Eases f := ⟨rfl, rfl, id⟩

theorem Eases.trans (first : f.Eases g) (second : g.Eases h) : f.Eases h :=
  ⟨first.1.trans second.1, first.2.1.trans second.2.1, fun strict => second.2.2 (first.2.2 strict)⟩

theorem Eases.supplies {k : Casting} {x : Batch} (eases : f.Eases g) (supplied : x.Supplies k g) :
    x.Supplies k f := by
  obtain ⟨named, typed, looser⟩ := eases
  obtain ⟨c, read, full⟩ := supplied
  exact ⟨c, (Batch.columnFor_congr named typed).trans read, fun strict => full (looser strict)⟩

end Field

namespace SchemaChange

/-- The change asks of the column that has a name after it what was not asked of it before. -/
def Demands (name : String) : SchemaChange → Prop
  | .addColumn f _ => f.name = name
  | .renameColumn _ newName => newName = name
  | .updateType column _ => column = name
  | .updateNullability path nullable => path = [name] ∧ nullable = false
  | _ => False

/-- The change makes the table say which snapshot is read. -/
def Pins : SchemaChange → Prop
  | .setOption key _ => key ∈ [scanSnapshotKey, scanTagKey, scanTimeKey]
  | _ => False

/-- A column that is sent on is demanded, or no stricter than it was. -/
theorem eases_of_sends {change : SchemaChange} {f g : Field} (sent : change.sends? f = some g) :
    change.Demands g.name ∨ g.Eases f := by
  cases change with
  | renameColumn column newName =>
      cases sent
      split
      · exact .inl rfl
      · exact .inr (.refl f)
  | dropColumn column =>
      rw [sends?] at sent
      split at sent
      · cases sent
      · cases sent
        exact .inr (.refl f)
  | updateType column type =>
      cases sent
      split
      · rename_i here
        exact .inl here.symm
      · exact .inr (.refl f)
  | updateNullability path nullable =>
      cases sent
      split
      · rename_i here
        cases nullable with
        | false => exact .inl ⟨here, rfl⟩
        | true => exact .inr ⟨rfl, rfl, by intro strict; cases strict⟩
      · exact .inr (.refl f)
  | updateComment path comment =>
      cases sent
      split
      · exact .inr ⟨rfl, rfl, id⟩
      · exact .inr (.refl f)
  | _ =>
      cases sent
      exact .inr (.refl f)

end SchemaChange

namespace Schema

variable {s s' : Schema} {table : TableId} {change : SchemaChange} {changes : List SchemaChange}
variable {g : Field}

theorem Step.eases_or_demanded (distinct : s.fieldNames.Nodup) (step : s.Step change s')
    (inside : g ∈ s'.fields) : change.Demands g.name ∨ ∃ f ∈ s.fields, g.Eases f := by
  rcases (step.mem_fields_iff distinct).mp inside with added | ⟨f, there, sent⟩
  · cases change with
    | addColumn f place =>
        rw [List.mem_singleton.mp added]
        exact .inl rfl
    | _ => cases added
  · exact (SchemaChange.eases_of_sends sent).imp_right fun eases => ⟨f, there, eases⟩

/-- A column after changes is demanded by one of them, or no stricter than one before. -/
theorem eases_or_demanded (distinct : s.fieldNames.Nodup)
    (changed : s.applyChanges table changes = .ok s') (inside : g ∈ s'.fields) :
    (∃ change ∈ changes, change.Demands g.name) ∨ ∃ f ∈ s.fields, g.Eases f := by
  let motive (made : List SchemaChange) (s' : Schema) := ∀ g ∈ s'.fields,
    (∃ change ∈ made, change.Demands g.name) ∨ ∃ f ∈ s.fields, g.Eases f
  have begun : motive [] s := fun g inside => .inr ⟨g, inside, .refl g⟩
  have done : motive ([] ++ changes) s' := by
    refine distinct_induction ?_ (fun each => each) distinct begun changed
    intro made s₁ s₂ change distinct each step g inside
    rcases step.eases_or_demanded distinct inside with demanded | ⟨f, there, eases⟩
    · exact .inl ⟨change, List.mem_append_right _ List.mem_cons_self, demanded⟩
    · rcases each f there with ⟨earlier, listed, demanded⟩ | ⟨f₀, origin, before⟩
      · exact .inl ⟨earlier, List.mem_append_left _ listed, eases.1 ▸ demanded⟩
      · exact .inr ⟨f₀, origin, eases.trans before⟩
  exact done g inside

theorem fields_ne_nil_of_applyChanges (solid : s.fields ≠ [])
    (changed : s.applyChanges table changes = .ok s') : s'.fields ≠ [] := by
  let filled (s : Schema) := s.fields ≠ []
  have kept : filled s' := keeps_of_applyChanges (fun solid step => step.fields_ne_nil solid)
    (fun solid => solid) solid changed
  exact kept

theorem Step.unpinned (free : ¬change.Pins) (unpinned : s.Unpinned) (step : s.Step change s') :
    s'.Unpinned := by
  cases step with
  | setOption key value =>
      intro other inside
      have different : key ≠ other := fun same => free (same ▸ inside)
      rw [OrderedMap.get?_insert, if_neg different]
      exact unpinned other inside
  | removeOption key =>
      intro other inside
      rw [OrderedMap.get?_erase, unpinned other inside, ite_self]
  | _ => exact unpinned

end Schema

/-! ## Tables -/

namespace TableEntry

variable {t t' : TableEntry} {id : TableId}

/-- All batches of the table have columns. -/
def Filled (t : TableEntry) : Prop :=
  ∀ s ∈ t.snapshots, ∀ x ∈ s.batches, x.columns ≠ []

theorem Filled.latest (filled : t.Filled) : ∀ x ∈ t.latestBatches, x.columns ≠ [] := by
  intro x inside
  unfold latestBatches at inside
  cases last : t.snapshots.getLast? with
  | none =>
      rw [last] at inside
      cases inside
  | some s =>
      rw [last] at inside
      exact filled s (List.mem_of_getLast? last) x inside

theorem Filled.commit {kind : CommitKind} {now : Int} {batches : List Batch} (filled : t.Filled)
    (solid : ∀ x ∈ batches, x.columns ≠ []) :
    (t.commit (t.nextSnapshot kind now batches)).Filled := by
  intro s inside
  rcases List.mem_append.mp inside with earlier | here
  · exact filled s earlier
  · rw [List.mem_singleton.mp here]
    exact solid

theorem Filled.step {now : Int} {op : CatalogOp} {answer : Option Snapshot} (filled : t.Filled)
    (step : t.Step id now op t' answer) : t'.Filled := by
  cases step with
  | alter => exact filled
  | write made =>
      refine filled.commit fun x inside => ?_
      rcases List.mem_append.mp inside with earlier | here
      · exact filled.latest x earlier
      · obtain ⟨b, -, made⟩ := related_of_mem (mapM_eq_ok_iff.mp made).flip here
        obtain ⟨solid, -, same⟩ := Batch.make_ok_iff.mp (mapError_eq_ok_iff.mp made)
        exact same ▸ solid
  | compact => exact filled.commit filled.latest
  | compactEmpty => exact filled
  | rollback => exact fun s inside => filled s (List.mem_of_mem_filter inside)
  | tag => exact filled

end TableEntry

theorem Reachable.filled {c : Catalog} {id : TableId} {t : TableEntry} (reached : Reachable c)
    (found : c.entry? id = some t) : t.Filled := by
  refine reached.entry ?_ TableEntry.Filled.step found
  intro schema s inside
  cases inside

/-- **When a table can be read after an alteration.**  In a catalog that operations led to, a
table that has no settings for which snapshot is read, and is read, is altered.  Then it can
be read just if a snapshot is selected and each of its batches is under the fields of the new
schema or supplies all of them.  The last snapshot is selected as before unless one of the
changes sets one of those settings.  And if the columns have distinct names, it is enough
that each batch supplies the columns that are demanded anew.  Which columns are supplied is up
to the casting that the table is read through, whatever that is. -/
theorem read_after_alter_iff {c c' : Catalog} {id : TableId} {t : TableEntry}
    {k : Casting} {shown : List Batch} {changes : List SchemaChange} {ignoreIfMissing : Bool}
    (reached : Reachable c) (there : c.entry? id = some t) (unpinned : t.schema.Unpinned)
    (read : (t.view id).readBy k = .ok shown)
    (altered : c.alterTable id changes ignoreIfMissing = .ok c') :
    ∃ t', c'.entry? id = some t' ∧
      ((∃ batches, (t'.view id).readBy k = .ok batches) ↔ ∃ selected,
        (t'.view id).scanSnapshot = .ok selected ∧ ∀ x ∈ Table.scanned selected,
          x.fields = t'.schema.fields ∨ ∀ f ∈ t'.schema.fields, x.Supplies k f) ∧
      ((∀ change ∈ changes, ¬change.Pins) →
        (t'.view id).scanSnapshot = .ok t.snapshots.getLast?) ∧
      (t.schema.fieldNames.Nodup →
        ((∃ batches, (t'.view id).readBy k = .ok batches) ↔ ∃ selected,
          (t'.view id).scanSnapshot = .ok selected ∧ ∀ x ∈ Table.scanned selected,
            ∀ f ∈ t'.schema.fields, (∃ change ∈ changes, change.Demands f.name) →
              x.Supplies k f)) := by
  obtain ⟨schema, evolved, left⟩ := Catalog.evolved_of_alterTable there altered
  have orderly := reached.orderly there
  have readable := (TableEntry.exists_readBy_iff unpinned).mp ⟨shown, read⟩
  -- whatever is scanned afterwards was read before
  have known {selected : Option Snapshot}
      (scan : (TableEntry.view { t with schema } id).scanSnapshot = .ok selected) :
      ∀ x ∈ Table.scanned selected, x ∈ t.latestBatches := by
    intro x inside
    refine orderly.mem_latest_of_scanned ?_ inside
    rintro s rfl
    exact Table.mem_of_scanSnapshot scan
  have solid : ∀ x ∈ t.latestBatches, t.schema.fields ≠ [] := by
    intro x inside
    obtain ⟨y, aligned⟩ := readable x inside
    exact Batch.fields_ne_nil_of_align ((reached.filled there).latest x inside) aligned
  have solid' : ∀ x ∈ t.latestBatches, schema.fields ≠ [] := fun x inside =>
    Schema.fields_ne_nil_of_applyChanges (solid x inside) evolved
  refine ⟨_, left, ?_, ?_, fun distinct => ?_⟩
  · refine Table.exists_readBy_iff.trans
      (exists_congr fun selected => and_congr_right fun scan => ?_)
    exact forall₂_congr fun x inside =>
      Batch.exists_align_iff_supplies (solid' x (known scan x inside))
  · intro free
    have unpinned' : schema.Unpinned :=
      Schema.keeps_of_allowed Schema.Step.unpinned (fun unpinned => unpinned) free unpinned evolved
    exact TableEntry.scanSnapshot_of_unpinned unpinned' id
  · have distinct' : schema.fieldNames.Nodup := Schema.nodup_of_applyChanges distinct evolved
    refine Table.exists_readBy_iff.trans
      (exists_congr fun selected => and_congr_right fun scan => ?_)
    refine forall₂_congr fun x inside => ?_
    have latest := known scan x inside
    have before := (Batch.exists_align_iff (solid x latest) distinct).mp (readable x latest)
    refine (Batch.exists_align_iff (solid' x latest) distinct').trans ?_
    constructor
    · exact fun each f column _ => each f column
    · intro each f column
      rcases Schema.eases_or_demanded distinct evolved column with demanded | ⟨g, origin, eases⟩
      · exact each f column demanded
      · exact eases.supplies (before g origin)

/-- No weight is missing, so missing weights can be forbidden. -/
theorem read_after_alter_iff_weights :
    let here : TableId := ⟨"lake", "catch"⟩
    let c := CatalogOp.afterAll (.new "sea" ∅) weighedRun
    ∃ c' t' batches, c.alterTable here [.updateNullability ["weight"] false] false = .ok c' ∧
      c'.entry? here = some t' ∧ (t'.view here).read = .ok batches := by
  intro here c
  let t : TableEntry :=
    { weighedTable with
      schema := ⟨2, [⟨"weight", .int64, false, none⟩, ⟨"note", .utf8, true, none⟩], [], [], ∅,
        none⟩ }
  have reached : Reachable c := (Reachable.new "sea" ∅).afterAll weighedRun
  have there : c.entry? here = some weighedTable := by decide +kernel
  have distinct : weighedTable.schema.fieldNames.Nodup := by decide
  have unpinned : weighedTable.schema.Unpinned := fun _ _ => rfl
  have read : (weighedTable.view here).read.toOption.isSome = true := by decide +kernel
  have left : ((c.alterTable here [.updateNullability ["weight"] false] false).toOption.bind
      fun c' => c'.entry? here) = some t := by
    decide +kernel
  obtain ⟨shown, read⟩ := exists_ok_of_isSome read
  obtain ⟨c', altered, found⟩ := Option.bind_eq_some_iff.mp left
  have altered := toOption_eq_some_iff.mp altered
  obtain ⟨t', found', -, last, readable⟩ := read_after_alter_iff reached there unpinned read altered
  rw [found] at found'
  cases found'
  have scan := last (by simp [SchemaChange.Pins])
  have supplied : ∀ x ∈ [weighed], ∀ f ∈ t.schema.fields, x.Supplies .plain f := by decide +kernel
  obtain ⟨batches, read'⟩ := (readable distinct).mpr
    ⟨_, scan, fun x inside f column _ => supplied x inside f column⟩
  exact ⟨c', t, batches, altered, found, read'⟩

/-- A column without missing values is accepted next to the weights, and the table is not
read any more. -/
theorem strict_column_unreadable :
    let here : TableId := ⟨"lake", "catch"⟩
    let c := CatalogOp.afterAll (.new "sea" ∅) weighedRun
    Reachable c ∧ c.entry? here = some weighedTable ∧ weighedTable.schema.Unpinned ∧
      ∃ shown c' t', (weighedTable.view here).read = .ok shown ∧
        c.alterTable here [.addColumn ⟨"grade", .utf8, false, none⟩ none] false = .ok c' ∧
        c'.entry? here = some t' ∧ t'.schema.Unpinned ∧
        (t'.view here).read = .error (.data (.missingRequired "grade")) := by
  intro here c
  let t : TableEntry :=
    { weighedTable with
      schema := ⟨2, [⟨"weight", .int64, true, none⟩, ⟨"note", .utf8, true, none⟩,
        ⟨"grade", .utf8, false, none⟩], [], [], ∅, none⟩ }
  have reached : Reachable c := (Reachable.new "sea" ∅).afterAll weighedRun
  have there : c.entry? here = some weighedTable := by decide +kernel
  have read : (weighedTable.view here).read.toOption.isSome = true := by decide +kernel
  have left : (c.alterTable here [.addColumn ⟨"grade", .utf8, false, none⟩ none]
      false).toOption.bind (fun c' => c'.entry? here) = some t := by
    decide +kernel
  obtain ⟨shown, read⟩ := exists_ok_of_isSome read
  obtain ⟨c', altered, found⟩ := Option.bind_eq_some_iff.mp left
  exact ⟨reached, there, fun _ _ => rfl, shown, c', t, read,
    toOption_eq_some_iff.mp altered, found, fun _ _ => rfl, rfl⟩

end TableLake
