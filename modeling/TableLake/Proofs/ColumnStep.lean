/-
# TableLake.Proofs.ColumnStep — what becomes of the columns under a change

Where the columns have distinct names, a change treats them one by one.  It sends each of
them on, as it is or altered, or drops it (`SchemaChange.sends?`), and may add one
(`SchemaChange.added`); the columns afterwards are these, in some order
(`Schema.Step.perm_fields`).  So a column afterwards is the added one or what became of one
before (`Schema.Step.mem_fields_iff`), and no column is looked for by its place.  A name is
given up only by the column being dropped or renamed (`SchemaChange.Frees`).
-/
import TableLake.Proofs.ColumnNames

namespace TableLake

set_option autoImplicit false

namespace SchemaChange

/-- What becomes of a column; none if it is dropped. -/
def sends? : SchemaChange → Field → Option Field
  | .renameColumn column newName, f =>
      some (if f.name = column then { f with name := newName } else f)
  | .dropColumn column, f => if f.name = column then none else some f
  | .updateType column type, f => some (if f.name = column then { f with type } else f)
  | .updateNullability path nullable, f =>
      some (if path = [f.name] then { f with nullable } else f)
  | .updateComment path comment, f => some (if path = [f.name] then { f with comment } else f)
  | _, f => some f

/-- The column that is added, if there is one. -/
def added : SchemaChange → List Field
  | .addColumn f _ => [f]
  | _ => []

/-- The change drops the column of a name or gives it another name. -/
def Frees (name : String) : SchemaChange → Prop
  | .renameColumn column _ => column = name
  | .dropColumn column => column = name
  | _ => False

/-- A column that keeps its name keeps its type as well, or is given the type it has then. -/
theorem exists_sends {change : SchemaChange} {f : Field} (kept : ¬change.Frees f.name) :
    ∃ g, change.sends? f = some g ∧ g.name = f.name ∧
      (g.type = f.type ∨ change = .updateType f.name g.type) := by
  cases change with
  | renameColumn column newName =>
      have other : f.name ≠ column := fun same => kept same.symm
      exact ⟨f, by simp [sends?, other], rfl, .inl rfl⟩
  | dropColumn column =>
      have other : f.name ≠ column := fun same => kept same.symm
      exact ⟨f, by simp [sends?, other], rfl, .inl rfl⟩
  | updateType column type =>
      refine ⟨_, rfl, ?_⟩
      split
      · rename_i here
        exact ⟨rfl, .inr (by rw [here])⟩
      · exact ⟨rfl, .inl rfl⟩
  | updateNullability path nullable =>
      refine ⟨_, rfl, ?_⟩
      split <;> exact ⟨rfl, .inl rfl⟩
  | updateComment path comment =>
      refine ⟨_, rfl, ?_⟩
      split <;> exact ⟨rfl, .inl rfl⟩
  | setOption => exact ⟨f, rfl, rfl, .inl rfl⟩
  | removeOption => exact ⟨f, rfl, rfl, .inl rfl⟩
  | addColumn => exact ⟨f, rfl, rfl, .inl rfl⟩
  | moveColumn => exact ⟨f, rfl, rfl, .inl rfl⟩

end SchemaChange

namespace Schema

variable {s s' : Schema} {change : SchemaChange} {f g : Field} {before after : List Field}

/-- What leaves every other name alone happens to one column, if the names are distinct. -/
theorem filterMap_here {send : Field → Option Field}
    (distinct : ((before ++ f :: after).map Field.name).Nodup)
    (others : ∀ g, g.name ≠ f.name → send g = some g) :
    (before ++ f :: after).filterMap send = before ++ (send f).toList ++ after := by
  obtain ⟨apart, apart'⟩ : f.name ∉ before.map Field.name ∧ f.name ∉ after.map Field.name := by
    simpa only [List.map_append, List.mem_append, not_or] using Field.apart_of_distinct distinct rfl
  have kept : ∀ {fields : List Field}, f.name ∉ fields.map Field.name →
      fields.filterMap send = fields := by
    intro fields apart
    have same : ∀ g ∈ fields, send g = some g := fun g inside =>
      others g fun same => apart (same ▸ List.mem_map_of_mem inside)
    rw [List.filterMap_congr same, List.filterMap_some]
  rw [List.filterMap_append, List.filterMap_cons, kept apart, kept apart']
  cases send f with
  | none => simp
  | some g => simp

/-- **The columns after a change are what became of those before, and the added one.** -/
theorem Step.perm_fields (distinct : s.fieldNames.Nodup) (step : s.Step change s') :
    s'.fields.Perm (change.added ++ s.fields.filterMap change.sends?) := by
  have all : s.fields.filterMap some = s.fields := List.filterMap_some
  -- a change of one column, by what becomes of that column
  have one {f : Field} {before after : List Field} (parts : s.fields = before ++ f :: after)
      (others : ∀ g, g.name ≠ f.name → change.sends? g = some g) :
      s.fields.filterMap change.sends? = before ++ (change.sends? f).toList ++ after := by
    rw [fieldNames, parts] at distinct
    rw [parts, filterMap_here distinct others]
  cases step with
  | setOption => exact .of_eq all.symm
  | removeOption => exact .of_eq all.symm
  | addColumn parts =>
      refine List.perm_middle.trans (.cons _ (.of_eq ?_))
      rw [← parts]
      exact all.symm
  | renameColumn parts =>
      rw [one parts fun g other => by simp [SchemaChange.sends?, other]]
      simp [SchemaChange.sends?, SchemaChange.added]
  | dropColumn parts =>
      rw [one parts fun g other => by simp [SchemaChange.sends?, other]]
      simp [SchemaChange.sends?, SchemaChange.added]
  | updateType parts =>
      rw [one parts fun g other => by simp [SchemaChange.sends?, other]]
      simp [SchemaChange.sends?, SchemaChange.added]
  | updateNullability parts =>
      rw [one parts fun g other => by simp [SchemaChange.sends?, other.symm]]
      simp [SchemaChange.sends?, SchemaChange.added]
  | updateComment parts =>
      rw [one parts fun g other => by simp [SchemaChange.sends?, other.symm]]
      simp [SchemaChange.sends?, SchemaChange.added]
  | @moveColumn f place before after front back parts first others =>
      have order : (front ++ f :: back).Perm s.fields := by
        rw [parts]
        exact perm_moved others
      exact order.trans (.of_eq all.symm)

/-- A column after a change is the added one, or what became of one before. -/
theorem Step.mem_fields_iff (distinct : s.fieldNames.Nodup) (step : s.Step change s') :
    g ∈ s'.fields ↔ g ∈ change.added ∨ ∃ f ∈ s.fields, change.sends? f = some g := by
  rw [(step.perm_fields distinct).mem_iff, List.mem_append, List.mem_filterMap]

/-- The names of the columns are distinct at every step of a list of changes if they are at
the start. -/
theorem distinct_induction {motive : List SchemaChange → Schema → Prop}
    (step : ∀ {made : List SchemaChange} {s s' : Schema} {change : SchemaChange},
      s.fieldNames.Nodup → motive made s → s.Step change s' → motive (made ++ [change]) s')
    (number : ∀ {made : List SchemaChange} {s : Schema} {id : Nat},
      motive made s → motive made { s with id })
    {table : TableId} {changes made : List SchemaChange} (distinct : s.fieldNames.Nodup)
    (start : motive made s) (changed : s.applyChanges table changes = .ok s') :
    motive (made ++ changes) s' := by
  let both (made : List SchemaChange) (s : Schema) := s.fieldNames.Nodup ∧ motive made s
  have done : both (made ++ changes) s' := by
    refine applyChanges_induction ?_ (fun both => ⟨both.1, number both.2⟩) ⟨distinct, start⟩ changed
    rintro made s s' change ⟨distinct, earlier⟩ taken
    exact ⟨taken.nodup_fieldNames distinct, step distinct earlier taken⟩
  exact done.2

end Schema

end TableLake
