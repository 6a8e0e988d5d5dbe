/-
# TableLake.Proofs.ChangeList — one list of changes made in two parts

The number of a schema has no part in its changes: from a schema with another number they lead
to the same schema with that number (`evolve_numbered`).  So the changes of two lists lead to what
those of the first and then those of the second lead to, and are refused as the part that is
refused first (`applyChanges_append`).  The number alone tells the two ways apart: it counts how
often changes were made, not how many.  And one more change at the end of a list does to what the
list leads to what it does to any schema (`applyChanges_concat`).
-/
import TableLake.Proofs.SchemaStep

namespace TableLake.Schema

open TableLake.Outcome

set_option autoImplicit false

variable {s mid : Schema} {table : TableId}

/-! ## Schemas with other numbers -/

theorem modifyColumn_numbered (s : Schema) (id : Nat) (column : String) (change : Field → Field) :
    { s with id }.modifyColumn table column change =
      (fun s' => { s' with id }) <$> s.modifyColumn table column change := by
  simp only [modifyColumn, map_bind, map_pure]

/-- A change is the same one whatever the number of the schema. -/
theorem applyChange_numbered (s : Schema) (id : Nat) (change : SchemaChange) :
    { s with id }.applyChange table change =
      (fun s' => { s' with id }) <$> s.applyChange table change := by
  cases change with
  | setOption key value => rfl
  | removeOption key => rfl
  | addColumn f place =>
      simp only [applyChange, addColumn, map_bind]
      refine bind_congr fun _ => ?_
      cases place with
      | none => rfl
      | some place => simp only [map_bind, map_pure]
  | renameColumn column newName =>
      simp only [applyChange, renameColumn, map_bind]
      refine bind_congr fun i => bind_congr fun _ => ?_
      split <;> rfl
  | dropColumn column =>
      simp only [applyChange, dropColumn, map_bind]
      refine bind_congr fun i => ?_
      split
      · rfl
      · split <;> rfl
  | updateType column type => exact modifyColumn_numbered s id column _
  | updateNullability path nullable =>
      simp only [applyChange, updateNullability, map_bind]
      refine bind_congr fun column => bind_congr fun i => ?_
      split <;> rfl
  | updateComment path comment =>
      simp only [applyChange, updateComment, map_bind]
      exact bind_congr fun column => modifyColumn_numbered s id column _
  | moveColumn column place =>
      simp only [applyChange, moveColumn, map_bind]
      refine bind_congr fun i => ?_
      cases s.fields[i]? with
      | none => rfl
      | some f => simp only [map_bind, map_pure]

theorem evolve_numbered (id : Nat) : ∀ (changes : List SchemaChange) (s : Schema),
    { s with id }.evolve table changes = (fun s' => { s' with id }) <$> s.evolve table changes
  | [], _ => rfl
  | change :: rest, s => by
      simp only [evolve, List.foldlM_cons, applyChange_numbered, map_bind, bind_map_left]
      exact bind_congr fun next => evolve_numbered id rest next

/-! ## Two lists -/

/-- The changes of two lists are those of the first, then those of the second, numbered as one. -/
theorem applyChanges_append (s : Schema) (table : TableId) (xs ys : List SchemaChange) :
    s.applyChanges table (xs ++ ys) = do
      let s₁ ← s.applyChanges table xs
      let s₂ ← s₁.applyChanges table ys
      return { s₂ with id := s.id + 1 } := by
  simp only [applyChanges, evolve_append, evolve_numbered, bind_assoc, pure_bind, bind_map_left]

/-- One more change is made of what the list leads to, whose number stays. -/
theorem applyChanges_concat {earlier : List SchemaChange}
    (made : s.applyChanges table earlier = .ok mid) (change : SchemaChange) :
    s.applyChanges table (earlier ++ [change]) = mid.applyChange table change := by
  obtain ⟨evolved, earlier, rfl⟩ := applyChanges_ok_iff.mp made
  rw [applyChange_numbered, applyChanges, evolve_append, earlier]
  simp only [bind, Except.bind, evolve_single, Functor.map, Except.map, pure, Except.pure]

/-- **Two lists of changes are made as one.**  The changes of both are made exactly if those of the
first are and, on what they lead to, those of the second.  The schemas then differ in the number
alone, which counts once for each list.  Otherwise the error is that of the list that fails first. -/
theorem applyChanges_sequential (s : Schema) (table : TableId) (xs ys : List SchemaChange) :
    ((∃ s', s.applyChanges table (xs ++ ys) = .ok s') ↔
      ∃ s₁, s.applyChanges table xs = .ok s₁ ∧ ∃ s₂, s₁.applyChanges table ys = .ok s₂) ∧
    (∀ s' s₁ s₂, s.applyChanges table (xs ++ ys) = .ok s' → s.applyChanges table xs = .ok s₁ →
      s₁.applyChanges table ys = .ok s₂ →
        s'.id = s.id + 1 ∧ s₂.id = s.id + 2 ∧ s₂ = { s' with id := s₂.id }) ∧
    ∀ e, s.applyChanges table (xs ++ ys) = .error e ↔
      s.applyChanges table xs = .error e ∨
        ∃ s₁, s.applyChanges table xs = .ok s₁ ∧ s₁.applyChanges table ys = .error e := by
  rw [applyChanges_append]
  refine ⟨?_, ?_, fun e => ?_⟩
  · simp only [bind_eq_ok_iff, pure_eq_ok_iff]
    constructor
    · rintro ⟨s', s₁, first, s₂, second, -⟩
      exact ⟨s₁, first, s₂, second⟩
    · rintro ⟨s₁, first, s₂, second⟩
      exact ⟨_, s₁, first, s₂, second, rfl⟩
  · intro s' s₁ s₂ both first second
    have number := id_of_applyChanges first
    have number' := id_of_applyChanges second
    rw [first] at both
    simp only [bind, Except.bind, second] at both
    cases both
    exact ⟨rfl, by omega, rfl⟩
  · simp [bind_eq_error_iff, pure, Except.pure]

/-- The key of a table of boats gets another name, and the column under that name is moved.  As the
key it cannot be dropped, which is found out in the second list as well as in one. -/
theorem applyChanges_sequential_boats :
    let here : TableId := ⟨"sea", "boats"⟩
    let boat : Field := ⟨"boat", .utf8, false, none⟩
    let port : Field := ⟨"port", .utf8, true, none⟩
    let s : Schema := ⟨4, [boat], [], ["boat"], ∅, none⟩
    let xs : List SchemaChange := [.addColumn port (some .first), .renameColumn "boat" "vessel"]
    let ys : List SchemaChange := [.moveColumn "vessel" .first]
    let s₁ : Schema := ⟨5, [port, { boat with name := "vessel" }], [], ["vessel"], ∅, none⟩
    let s₂ : Schema := ⟨6, [{ boat with name := "vessel" }, port], [], ["vessel"], ∅, none⟩
    s.applyChanges here xs = .ok s₁ ∧ s₁.applyChanges here ys = .ok s₂ ∧
      (∃ s', s.applyChanges here (xs ++ ys) = .ok s' ∧
        s'.id = 5 ∧ s₂.id = 6 ∧ s₂ = { s' with id := s₂.id }) ∧
      ∃ e, s₁.applyChanges here [.dropColumn "vessel"] = .error e ∧
        s.applyChanges here (xs ++ [.dropColumn "vessel"]) = .error e := by
  intro here boat port s xs ys s₁ s₂
  have first : s.applyChanges here xs = .ok s₁ := rfl
  have second : s₁.applyChanges here ys = .ok s₂ := rfl
  obtain ⟨made, numbered, -⟩ := applyChanges_sequential s here xs ys
  obtain ⟨-, -, refused⟩ := applyChanges_sequential s here xs [.dropColumn "vessel"]
  obtain ⟨s', both⟩ := made.mpr ⟨s₁, first, s₂, second⟩
  exact ⟨first, second, ⟨s', both, numbered s' s₁ s₂ both first second⟩,
    _, rfl, (refused _).mpr (.inr ⟨s₁, first, rfl⟩)⟩

end TableLake.Schema
