/-
# TableLake.Proofs.SchemaStep — what one change does to a schema

`Schema.Step` says for each change what it needs and what it leaves behind, with the
columns cut at the place where something happens: the first column of a name, or the place
a column is put.  A change that is made is such a step (`step_of_applyChange`).  So what
every step keeps, whole lists of changes keep (`keeps_of_applyChanges`), and whatever holds
of every evolved schema is shown of the nine steps, once.
-/
import TableLake.Schema.Change
import TableLake.Proofs.Outcome
import Mathlib.Data.List.Basic

namespace TableLake

open TableLake.Outcome

set_option autoImplicit false

/-- The columns that stand before a place: none, or those up to the first of a name. -/
def Place.Follows : Place → List Field → Prop
  | .first, before => before = []
  | .after column, before => ∃ front f, before = front ++ [f] ∧ f.name = column ∧
      column ∉ front.map Field.name

namespace Schema

variable {s s' : Schema} {table : TableId} {column : String} {fields before after : List Field}
variable {f : Field} {i : Nat}

/-! ## Places -/

/-- The place of a column is that of the first one of its name. -/
theorem exists_of_position (found : position table fields column = .ok i) :
    ∃ before f after, fields = before ++ f :: after ∧ before.length = i ∧ f.name = column ∧
      column ∉ before.map Field.name := by
  unfold position at found
  split at found
  · rename_i j first
    cases found
    obtain ⟨bound, here, earlier⟩ := List.findIdx?_eq_some_iff_getElem.mp first
    refine ⟨fields.take i, fields[i], fields.drop (i + 1), ?_, ?_, by simpa using here, ?_⟩
    · rw [List.getElem_cons_drop, List.take_append_drop]
    · exact List.length_take_of_le (Nat.le_of_lt bound)
    · intro inside
      obtain ⟨g, there, same⟩ := List.mem_map.mp inside
      obtain ⟨j, below, rfl⟩ := List.mem_take_iff_getElem.mp there
      have other := earlier j (by omega)
      exact other (by simpa using same)
  · cases found

theorem exists_of_target {place : Place} (found : target table fields place = .ok i) :
    ∃ before after, fields = before ++ after ∧ before.length = i ∧ place.Follows before := by
  cases place with
  | first =>
      cases found
      exact ⟨[], fields, rfl, rfl, rfl⟩
  | after column =>
      simp only [target, bind_eq_ok_iff, pure_eq_ok_iff] at found
      obtain ⟨j, there, rfl⟩ := found
      obtain ⟨front, f, after, rfl, rfl, named, first⟩ := exists_of_position there
      exact ⟨front ++ [f], after, by simp, by simp, front, f, rfl, named, first⟩

theorem fresh_of_requireFresh (fresh : requireFresh table fields column = .ok ()) :
    column ∉ fields.map Field.name := by
  unfold requireFresh at fresh
  split at fresh
  · cases fresh
  · rename_i missing
    intro inside
    obtain ⟨f, there, same⟩ := List.mem_map.mp inside
    exact missing (List.any_eq_true.mpr ⟨f, there, by simpa using same⟩)

theorem eq_of_topLevel {path : List String} (single : topLevel path = .ok column) :
    path = [column] := by
  unfold topLevel at single
  split at single
  · cases single
    rfl
  · cases single

theorem modify_here (before : List Field) (f : Field) (after : List Field)
    (change : Field → Field) :
    (before ++ f :: after).modify before.length change = before ++ change f :: after := by
  simp [List.modify_eq_take_cons_drop]

theorem eraseIdx_here (before : List Field) (f : Field) (after : List Field) :
    (before ++ f :: after).eraseIdx before.length = before ++ after := by
  simp [List.eraseIdx_append_of_length_le]

theorem insertIdx_here (before : List Field) (f : Field) (after : List Field) :
    (before ++ after).insertIdx before.length f = before ++ f :: after := by
  induction before with
  | nil => rfl
  | cons g before ih => exact congrArg (g :: ·) ih

/-- A column put elsewhere among the others is there with the same ones. -/
theorem perm_moved {front back : List Field} (others : before ++ after = front ++ back) :
    (front ++ f :: back).Perm (before ++ f :: after) := by
  have same : (front ++ back).Perm (before ++ after) := .of_eq others.symm
  exact List.perm_middle.trans ((same.cons f).trans List.perm_middle.symm)

/-! ## Steps -/

/-- One change: what it needs of a schema and what it makes of it. -/
inductive Step (s : Schema) : SchemaChange → Schema → Prop
  | setOption (key value : String) :
      Step s (.setOption key value) { s with options := s.options.insert key value }
  | removeOption (key : String) :
      Step s (.removeOption key) { s with options := s.options.erase key }
  | addColumn {f : Field} {place : Option Place} {before after : List Field}
      (parts : s.fields = before ++ after) (fresh : f.name ∉ s.fieldNames)
      (placed : ∀ p ∈ place, p.Follows before) (last : place = none → after = []) :
      Step s (.addColumn f place) { s with fields := before ++ f :: after }
  | renameColumn {f : Field} {newName : String} {before after : List Field}
      (parts : s.fields = before ++ f :: after) (first : f.name ∉ before.map Field.name)
      (fresh : newName ∉ s.fieldNames) (free : f.name ∉ s.partitionKeys) :
      Step s (.renameColumn f.name newName)
        { s with
          fields := before ++ { f with name := newName } :: after
          primaryKeys := s.primaryKeys.map fun key => if key = f.name then newName else key }
  | dropColumn {f : Field} {before after : List Field}
      (parts : s.fields = before ++ f :: after) (first : f.name ∉ before.map Field.name)
      (free : f.name ∉ s.partitionKeys) (optional : f.name ∉ s.primaryKeys)
      (others : before ++ after ≠ []) :
      Step s (.dropColumn f.name) { s with fields := before ++ after }
  | updateType {f : Field} {type : ColumnType} {before after : List Field}
      (parts : s.fields = before ++ f :: after) (first : f.name ∉ before.map Field.name) :
      Step s (.updateType f.name type) { s with fields := before ++ { f with type } :: after }
  | updateNullability {f : Field} {nullable : Bool} {before after : List Field}
      (parts : s.fields = before ++ f :: after) (first : f.name ∉ before.map Field.name)
      (allowed : nullable = true → f.name ∉ s.primaryKeys) :
      Step s (.updateNullability [f.name] nullable)
        { s with fields := before ++ { f with nullable } :: after }
  | updateComment {f : Field} {comment : Option String} {before after : List Field}
      (parts : s.fields = before ++ f :: after) (first : f.name ∉ before.map Field.name) :
      Step s (.updateComment [f.name] comment)
        { s with fields := before ++ { f with comment } :: after }
  | moveColumn {f : Field} {place : Place} {before after front back : List Field}
      (parts : s.fields = before ++ f :: after) (first : f.name ∉ before.map Field.name)
      (others : before ++ after = front ++ back) (placed : place.Follows front) :
      Step s (.moveColumn f.name place) { s with fields := front ++ f :: back }

theorem step_of_addColumn {place : Option Place} (made : s.addColumn table f place = .ok s') :
    s.Step (.addColumn f place) s' := by
  simp only [addColumn, bind_eq_ok_iff] at made
  obtain ⟨⟨⟩, fresh, made⟩ := made
  have fresh := fresh_of_requireFresh fresh
  cases place with
  | none =>
      cases made
      exact .addColumn (List.append_nil _).symm fresh (by intro p none; cases none) fun _ => rfl
  | some place =>
      simp only [bind_eq_ok_iff, pure_eq_ok_iff] at made
      obtain ⟨i, there, rfl⟩ := made
      obtain ⟨before, after, parts, rfl, placed⟩ := exists_of_target there
      rw [parts, insertIdx_here]
      refine .addColumn parts fresh ?_ (by intro none; cases none)
      intro p same
      cases same
      exact placed

theorem step_of_renameColumn {newName : String}
    (made : s.renameColumn table column newName = .ok s') :
    s.Step (.renameColumn column newName) s' := by
  simp only [renameColumn, bind_eq_ok_iff] at made
  obtain ⟨i, there, ⟨⟩, fresh, made⟩ := made
  obtain ⟨before, f, after, parts, rfl, rfl, first⟩ := exists_of_position there
  split at made
  · cases made
  · rename_i free
    cases made
    rw [parts, modify_here]
    exact .renameColumn parts first (fresh_of_requireFresh fresh) free

theorem step_of_dropColumn (made : s.dropColumn table column = .ok s') :
    s.Step (.dropColumn column) s' := by
  simp only [dropColumn, bind_eq_ok_iff] at made
  obtain ⟨i, there, made⟩ := made
  obtain ⟨before, f, after, parts, rfl, rfl, first⟩ := exists_of_position there
  split at made
  · cases made
  · rename_i free
    split at made
    · cases made
    · rename_i several
      cases made
      rw [not_or] at free
      have others : before ++ after ≠ [] := by
        intro none
        have alone : (before ++ after).length = 0 := by rw [none]; rfl
        refine several ?_
        rw [parts]
        simp only [List.length_append, List.length_cons] at alone ⊢
        omega
      rw [parts, eraseIdx_here]
      exact .dropColumn parts first free.1 free.2 others

theorem exists_of_modifyColumn {change : Field → Field}
    (made : s.modifyColumn table column change = .ok s') :
    ∃ before f after, s.fields = before ++ f :: after ∧ f.name = column ∧
      column ∉ before.map Field.name ∧ s' = { s with fields := before ++ change f :: after } := by
  simp only [modifyColumn, bind_eq_ok_iff, pure_eq_ok_iff] at made
  obtain ⟨i, there, rfl⟩ := made
  obtain ⟨before, f, after, parts, rfl, named, first⟩ := exists_of_position there
  exact ⟨before, f, after, parts, named, first, by rw [parts, modify_here]⟩

theorem step_of_updateNullability {path : List String} {nullable : Bool}
    (made : s.updateNullability table path nullable = .ok s') :
    s.Step (.updateNullability path nullable) s' := by
  simp only [updateNullability, bind_eq_ok_iff] at made
  obtain ⟨column, single, i, there, made⟩ := made
  obtain ⟨before, f, after, parts, rfl, rfl, first⟩ := exists_of_position there
  split at made
  · cases made
  · rename_i allowed
    cases made
    rw [eq_of_topLevel single, parts, modify_here]
    exact .updateNullability parts first fun loose inside => allowed ⟨loose, inside⟩

theorem step_of_moveColumn {place : Place} (made : s.moveColumn table column place = .ok s') :
    s.Step (.moveColumn column place) s' := by
  simp only [moveColumn, bind_eq_ok_iff] at made
  obtain ⟨i, there, made⟩ := made
  obtain ⟨before, f, after, parts, rfl, rfl, first⟩ := exists_of_position there
  have here : s.fields[before.length]? = some f := by rw [parts]; simp
  simp only [here, bind_eq_ok_iff, pure_eq_ok_iff] at made
  obtain ⟨j, target, rfl⟩ := made
  rw [parts, eraseIdx_here] at target ⊢
  obtain ⟨front, back, others, rfl, placed⟩ := exists_of_target target
  rw [others, insertIdx_here]
  exact .moveColumn parts first others placed

/-- **A change that is made is a step.** -/
theorem step_of_applyChange {change : SchemaChange}
    (made : s.applyChange table change = .ok s') : s.Step change s' := by
  cases change with
  | setOption key value =>
      cases made
      exact .setOption key value
  | removeOption key =>
      cases made
      exact .removeOption key
  | addColumn field place => exact step_of_addColumn made
  | renameColumn column newName => exact step_of_renameColumn made
  | dropColumn column => exact step_of_dropColumn made
  | updateType column type =>
      obtain ⟨before, f, after, parts, rfl, first, rfl⟩ := exists_of_modifyColumn made
      exact .updateType parts first
  | updateNullability path nullable => exact step_of_updateNullability made
  | updateComment path comment =>
      simp only [applyChange, updateComment, bind_eq_ok_iff] at made
      obtain ⟨column, single, made⟩ := made
      obtain ⟨before, f, after, parts, rfl, first, rfl⟩ := exists_of_modifyColumn made
      rw [eq_of_topLevel single]
      exact .updateComment parts first
  | moveColumn column place => exact step_of_moveColumn made

/-! ## Lists of changes -/

/-- What every step keeps, a list of changes keeps. -/
theorem keeps_of_evolve {property : Schema → Prop}
    (step : ∀ {s s' : Schema} {change : SchemaChange},
      property s → s.Step change s' → property s') :
    ∀ {changes : List SchemaChange} {s s' : Schema}, property s →
      s.evolve table changes = .ok s' → property s'
  | [], s, s', start, made => by
      cases made
      exact start
  | change :: rest, s, s', start, made => by
      simp only [evolve, List.foldlM_cons, bind_eq_ok_iff] at made
      obtain ⟨next, first, later⟩ := made
      exact keeps_of_evolve step (step start (step_of_applyChange first)) later

/-- What is said of a schema and the changes behind it, and extended by every step, is said
at the end of a list of changes. -/
theorem evolve_induction {motive : List SchemaChange → Schema → Prop}
    (step : ∀ {made : List SchemaChange} {s s' : Schema} {change : SchemaChange},
      motive made s → s.Step change s' → motive (made ++ [change]) s') :
    ∀ {changes made : List SchemaChange} {s s' : Schema}, motive made s →
      s.evolve table changes = .ok s' → motive (made ++ changes) s'
  | [], made, s, s', start, evolved => by
      cases evolved
      rw [List.append_nil]
      exact start
  | change :: rest, made, s, s', start, evolved => by
      simp only [evolve, List.foldlM_cons, bind_eq_ok_iff] at evolved
      obtain ⟨next, first, later⟩ := evolved
      have all := evolve_induction step (step start (step_of_applyChange first)) later
      rw [List.append_assoc] at all
      exact all

theorem evolve_single (s : Schema) (table : TableId) (change : SchemaChange) :
    s.evolve table [change] = s.applyChange table change := by
  simp [evolve]

theorem applyChanges_ok_iff {changes : List SchemaChange} :
    s.applyChanges table changes = .ok s' ↔
      ∃ evolved, s.evolve table changes = .ok evolved ∧ s' = { evolved with id := s.id + 1 } := by
  simp only [applyChanges, bind_eq_ok_iff, pure_eq_ok_iff]
  exact exists_congr fun _ => and_congr_right fun _ => eq_comm

/-- What every step keeps and the number of a schema has no part in, changes as a whole keep. -/
theorem keeps_of_applyChanges {property : Schema → Prop}
    (step : ∀ {s s' : Schema} {change : SchemaChange}, property s → s.Step change s' → property s')
    (number : ∀ {s : Schema} {id : Nat}, property s → property { s with id })
    {changes : List SchemaChange} (start : property s)
    (changed : s.applyChanges table changes = .ok s') : property s' := by
  obtain ⟨evolved, made, rfl⟩ := applyChanges_ok_iff.mp changed
  exact number (keeps_of_evolve step start made)

/-- The same of changes as a whole, if the number of a schema has no part in it. -/
theorem applyChanges_induction {motive : List SchemaChange → Schema → Prop}
    (step : ∀ {made : List SchemaChange} {s s' : Schema} {change : SchemaChange},
      motive made s → s.Step change s' → motive (made ++ [change]) s')
    (number : ∀ {made : List SchemaChange} {s : Schema} {id : Nat},
      motive made s → motive made { s with id })
    {changes made : List SchemaChange} (start : motive made s)
    (changed : s.applyChanges table changes = .ok s') : motive (made ++ changes) s' := by
  obtain ⟨evolved, done, rfl⟩ := applyChanges_ok_iff.mp changed
  exact number (evolve_induction step start done)

/-- What every step of some kind keeps, changes that are all of that kind keep. -/
theorem keeps_of_allowed {property : Schema → Prop} {allowed : SchemaChange → Prop}
    (step : ∀ {s s' : Schema} {change : SchemaChange}, allowed change → property s →
      s.Step change s' → property s')
    (number : ∀ {s : Schema} {id : Nat}, property s → property { s with id })
    {changes : List SchemaChange} (all : ∀ change ∈ changes, allowed change) (start : property s)
    (changed : s.applyChanges table changes = .ok s') : property s' := by
  let kept (made : List SchemaChange) (s : Schema) :=
    (∀ change ∈ made, allowed change) → property s
  have done : kept ([] ++ changes) s' := by
    refine applyChanges_induction ?_ (fun kept all => number (kept all)) (fun _ => start) changed
    intro made s s' change earlier taken all
    have before : property s := earlier fun _ inside => all _ (List.mem_append_left _ inside)
    exact step (all _ (List.mem_append_right _ List.mem_cons_self)) before taken
  exact done all

/-- Of changes that were made, each was a step. -/
theorem exists_step_of_applyChanges {changes : List SchemaChange}
    (changed : s.applyChanges table changes = .ok s') :
    ∀ change ∈ changes, ∃ before after : Schema, before.Step change after := by
  let steps (made : List SchemaChange) (_ : Schema) : Prop :=
    ∀ change ∈ made, ∃ before after : Schema, before.Step change after
  have start : steps [] s := by rintro _ ⟨⟩
  have done : steps ([] ++ changes) s' := by
    refine applyChanges_induction ?_ (fun earlier => earlier) start changed
    intro made before after change earlier step other inside
    rcases List.mem_append.mp inside with there | last
    · exact earlier other there
    · rw [List.mem_singleton.mp last]
      exact ⟨before, after, step⟩
  exact done

theorem id_of_applyChanges {changes : List SchemaChange}
    (made : s.applyChanges table changes = .ok s') : s'.id = s.id + 1 := by
  obtain ⟨evolved, -, rfl⟩ := applyChanges_ok_iff.mp made
  rfl

end Schema

end TableLake
