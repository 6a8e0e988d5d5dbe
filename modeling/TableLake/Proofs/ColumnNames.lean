/-
# TableLake.Proofs.ColumnNames — whether the columns of a table have distinct names

A column is added or renamed only to a name that no other column has, so distinct names
stay distinct through every change (`Schema.Step.nodup_fieldNames`) and through whatever
else happens to a table.  Nobody looks at the names a table is made with: the new table has
the columns as they are given, a name that occurs twice included (`fieldNames_of_create`).
So the columns of a table have distinct names if those who make tables give them distinct
names, and nothing else makes sure of it.
-/
import TableLake.Proofs.HostRun
import TableLake.Proofs.SchemaKeys

namespace TableLake

open TableLake.Outcome

set_option autoImplicit false

variable {c : Catalog} {now : Int} {r : TableRef} {fields : List Field}
variable {partitionKeys : List String} {properties : Options}

/-! ## Steps -/

/-- Among columns of distinct names no other one has the name of a column. -/
theorem Field.apart_of_distinct {f : Field} {fields before after : List Field}
    (distinct : (fields.map Field.name).Nodup) (parts : fields = before ++ f :: after) :
    f.name ∉ (before ++ after).map Field.name := by
  rw [parts, List.map_append, List.map_cons, List.nodup_middle, ← List.map_append] at distinct
  exact (List.nodup_cons.mp distinct).1

namespace Schema

variable {s s' : Schema} {change : SchemaChange}

/-- A step keeps the names of the columns distinct: the names are the same, or the same
in another order, or one is gone, or a fresh one has come in. -/
theorem Step.nodup_fieldNames (distinct : s.fieldNames.Nodup) (step : s.Step change s') :
    s'.fieldNames.Nodup := by
  cases step with
  | setOption => exact distinct
  | removeOption => exact distinct
  | addColumn parts fresh =>
      simp only [fieldNames, parts, List.map_append, List.map_cons] at distinct fresh ⊢
      exact List.nodup_middle.mpr (List.nodup_cons.mpr ⟨fresh, distinct⟩)
  | @renameColumn f newName before after parts first fresh =>
      simp only [fieldNames, parts, List.map_append, List.map_cons] at distinct fresh ⊢
      have others := (List.nodup_cons.mp (List.nodup_middle.mp distinct)).2
      refine List.nodup_middle.mpr (List.nodup_cons.mpr ⟨fun inside => fresh ?_, others⟩)
      rcases List.mem_append.mp inside with there | there
      · exact List.mem_append_left _ there
      · exact List.mem_append_right _ (List.mem_cons_of_mem _ there)
  | dropColumn parts =>
      simp only [fieldNames, parts, List.map_append, List.map_cons] at distinct ⊢
      exact (List.nodup_cons.mp (List.nodup_middle.mp distinct)).2
  | updateType parts =>
      simpa only [fieldNames, parts, List.map_append, List.map_cons] using distinct
  | updateNullability parts =>
      simpa only [fieldNames, parts, List.map_append, List.map_cons] using distinct
  | updateComment parts =>
      simpa only [fieldNames, parts, List.map_append, List.map_cons] using distinct
  | @moveColumn f place before after front back parts first others =>
      rw [fieldNames, parts] at distinct
      exact ((perm_moved others).map Field.name).nodup_iff.mpr distinct

theorem nodup_of_applyChanges {table : TableId} {changes : List SchemaChange}
    (distinct : s.fieldNames.Nodup) (changed : s.applyChanges table changes = .ok s') :
    s'.fieldNames.Nodup :=
  keeps_of_applyChanges Step.nodup_fieldNames (fun distinct => distinct) distinct changed

end Schema

/-- Of what happens to a table only an alteration touches the columns. -/
theorem TableEntry.Step.nodup_fieldNames {id : TableId} {t t' : TableEntry} {op : CatalogOp}
    {answer : Option Snapshot} (distinct : t.schema.fieldNames.Nodup)
    (step : t.Step id now op t' answer) : t'.schema.fieldNames.Nodup := by
  cases step with
  | alter evolved => exact Schema.nodup_of_applyChanges distinct evolved
  | write => exact distinct
  | compact => exact distinct
  | compactEmpty => exact distinct
  | rollback => exact distinct
  | tag => exact distinct

/-! ## New tables -/

/-- A new schema has the columns that are given, whatever their names. -/
theorem fieldNames_of_tableSchema {schema : Schema}
    (made : tableSchema fields partitionKeys properties = .ok schema) :
    schema.fieldNames = fields.map Field.name := by
  unfold tableSchema at made
  cases built : SchemaDraft.build
      { fields, partitionKeys
        primaryKeys := primaryKeysOf properties
        options := properties.erase primaryKeyProperty
        comment := properties.get? commentProperty } with
  | error e =>
      simp only [built] at made
      cases made
  | ok s =>
      simp only [built] at made
      cases made
      exact Schema.fieldNames_of_build built

/-- What is handed out after making a table is the new table. -/
theorem Namespace.fieldNames_of_create {shown : Table} {s : Store}
    (done : (createTable r fields partitionKeys properties).outcome (.new c now) = (.ok shown, s)) :
    ∃ id t, tableId r = .ok id ∧ s.catalog.entry? id = some t ∧ shown = t.view id ∧
      t.schema.fieldNames = fields.map Field.name := by
  simp only [createTable, outcome_bind_ok_iff, outcome_ofExcept_ok_iff] at done
  obtain ⟨id, _, ⟨named, rfl⟩, schema, _, ⟨settled, rfl⟩, ⟨⟩, _, asked, loaded⟩ := done
  obtain ⟨c', made, rfl⟩ := made_of_ask asked
  have there : c'.entry? id = some (.new schema) := Catalog.entry?_createTable made
  rw [outcome_loadTable named there] at loaded
  cases loaded
  exact ⟨id, _, named, there, rfl, fieldNames_of_tableSchema settled⟩

/-! ## Catalogs -/

/-- **Names stay as distinct as they are given.**  If hosts make tables only of columns with
distinct names, then in every catalog they lead to the columns of every table have distinct
names.  But a table that a host makes, or registers, has the names that it was given,
distinct or not. -/
theorem column_names_distinct
    (hosted : Hosted (fun fields => (fields.map Field.name).Nodup) c) :
    (∀ {id : TableId} {t : TableEntry}, c.entry? id = some t → t.schema.fieldNames.Nodup) ∧
      (∀ {r : TableRef} {fields : List Field} {partitionKeys : List String} {properties : Options}
        {now : Int} {shown : Table} {s : Store},
        (Namespace.createTable r fields partitionKeys properties).outcome (.new c now) =
            (.ok shown, s) →
          ∃ id t, Namespace.tableId r = .ok id ∧ s.catalog.entry? id = some t ∧
            shown = t.view id ∧ t.schema.fieldNames = fields.map Field.name) ∧
      ∀ {schema name : String} {t : HostTable} {now : Int} {s : Store},
        (LakeSchema.register schema name t).outcome (.new c now) = (.ok (), s) →
          ∃ entry, s.catalog.entry? ⟨schema, name⟩ = some entry ∧
            entry.schema.fieldNames = t.fields.map Field.name := by
  refine ⟨?_, Namespace.fieldNames_of_create, ?_⟩
  · have new {fields : List Field} {partitionKeys : List String} {properties : Options}
        {schema : Schema} (distinct : (fields.map Field.name).Nodup)
        (made : tableSchema fields partitionKeys properties = .ok schema) :
        (TableEntry.new schema).schema.fieldNames.Nodup :=
      (fieldNames_of_tableSchema made).symm ▸ distinct
    exact @Hosted.entry c _ (fun t => t.schema.fieldNames.Nodup) new
      TableEntry.Step.nodup_fieldNames hosted
  · intro schema name t now s done
    obtain ⟨made, entry, settled, there, rfl⟩ := LakeSchema.entry?_register done
    exact ⟨entry, there, fieldNames_of_tableSchema settled⟩

/-- What a host does to make two tables and move one of them. -/
def twoBoats : Catalog :=
  let columns : List Field := [⟨"name", .utf8, true, none⟩, ⟨"length", .int64, true, none⟩]
  let made := (HostOp.registerSchema "lake").after (.new "sea" ∅) 0
  let boats := (HostOp.createTable ⟨["lake"], "boats"⟩ columns ["name"] ∅).after made 1
  (HostOp.renameTable ⟨["lake"], "boats"⟩ ⟨["lake"], "ships"⟩).after boats 2

theorem column_names_distinct_twoBoats :
    ∃ t, Catalog.entry? twoBoats ⟨"lake", "ships"⟩ = some t ∧ t.schema.fieldNames.Nodup := by
  have hosted : Hosted (fun fields => (fields.map Field.name).Nodup) twoBoats := by
    refine .host (.host (.host (.new "sea" ∅) _ 0 ?_) _ 1 ?_) _ 2 ?_
    · intro fields none
      cases none
    · intro fields given
      cases given
      decide
    · intro fields none
      cases none
  have there : (Catalog.entry? twoBoats ⟨"lake", "ships"⟩).isSome = true := by decide +kernel
  obtain ⟨t, found⟩ := Option.isSome_iff_exists.mp there
  exact ⟨t, found, (column_names_distinct hosted).1 found⟩

/-- A host makes a table with two columns of one name, and it is there. -/
theorem twin_columns_accepted :
    let twins : List Field := [⟨"a", .int32, true, none⟩, ⟨"a", .utf8, true, none⟩]
    let c := (HostOp.registerSchema "lake").after (.new "sea" ∅) 0
    ∃ shown t, ((Namespace.createTable ⟨["lake"], "t"⟩ twins [] ∅).outcome (.new c 1)).1 =
        .ok shown ∧
      Catalog.entry? ((HostOp.createTable ⟨["lake"], "t"⟩ twins [] ∅).after c 1) ⟨"lake", "t"⟩ =
        some t ∧
      ¬t.schema.fieldNames.Nodup := by
  intro twins c
  have accepted : ((Namespace.createTable ⟨["lake"], "t"⟩ twins [] ∅).outcome
      (.new c 1)).1.toOption.isSome = true := by
    decide +kernel
  have names : (Catalog.entry? ((HostOp.createTable ⟨["lake"], "t"⟩ twins [] ∅).after c 1)
      ⟨"lake", "t"⟩).map (fun t => t.schema.fieldNames) = some ["a", "a"] := by
    decide +kernel
  obtain ⟨shown, made⟩ := Option.isSome_iff_exists.mp accepted
  obtain ⟨t, found, names⟩ := Option.map_eq_some_iff.mp names
  refine ⟨shown, t, toOption_eq_some_iff.mp made, found, ?_⟩
  rw [names]
  decide

end TableLake
