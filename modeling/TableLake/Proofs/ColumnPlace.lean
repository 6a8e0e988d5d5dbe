/-
# TableLake.Proofs.ColumnPlace — where a column lands

A column that is added or moved is put where it is asked for: last, first, or right after another
one (`StandsAt`).  All other columns stay as they are and in their order, for the place is looked
up among them alone (`moveColumn_here`): a move towards the front and one towards the back end in
the same way.  So a column moves just if it is there and is not asked to stand after itself or
after a column that is not there (`exists_moveColumn_iff`), and a move to where it stands already
changes nothing (`moveColumn_of_standsAt`).
-/
import TableLake.Proofs.ChangeList
import TableLake.Proofs.ColumnNames

namespace TableLake

open TableLake.Outcome

set_option autoImplicit false

/-- The column stands where it was asked for; last, if no place was asked for. -/
def StandsAt (f : Field) (fields : List Field) : Option Place → Prop
  | none => fields.getLast? = some f
  | some .first => fields.head? = some f
  | some (.after column) => ∃ g, g.name = column ∧ [g, f] <:+: fields

/-- The columns of other names. -/
def otherColumns (column : String) (fields : List Field) : List Field :=
  fields.filter fun f => f.name ≠ column

section

variable {f : Field} {before after : List Field}

theorem standsAt_of_follows {place : Option Place} (placed : ∀ p ∈ place, p.Follows before)
    (last : place = none → after = []) : StandsAt f (before ++ f :: after) place := by
  match place with
  | none =>
      rw [last rfl]
      exact List.getLast?_concat
  | some .first =>
      obtain rfl : before = [] := placed .first rfl
      rfl
  | some (.after column) =>
      obtain ⟨front, g, rfl, named, -⟩ := placed (.after column) rfl
      exact ⟨g, named, front, after, by simp⟩

theorem otherColumns_here (apart : f.name ∉ (before ++ after).map Field.name) :
    otherColumns f.name (before ++ f :: after) = before ++ after := by
  have kept : ∀ g ∈ before ++ after, decide (g.name ≠ f.name) = true := by
    intro g inside
    exact decide_eq_true fun same => apart (same ▸ List.mem_map_of_mem inside)
  rw [otherColumns, List.filter_append, List.filter_cons_of_neg (by simp), ← List.filter_append,
    List.filter_eq_self.mpr kept]

/-- A name that no column has, none of the first ones has. -/
theorem Field.not_named_before {name : String}
    (unnamed : name ∉ (before ++ after).map Field.name) : name ∉ before.map Field.name := by
  intro inside
  rw [List.map_append] at unnamed
  exact unnamed (List.mem_append_left _ inside)

theorem Field.first_of_distinct {fields : List Field} (distinct : (fields.map Field.name).Nodup)
    (parts : fields = before ++ f :: after) : f.name ∉ before.map Field.name :=
  not_named_before (apart_of_distinct distinct parts)

/-- The names of the others are the other names. -/
theorem Field.mem_others_iff {fields : List Field} {name : String}
    (distinct : (fields.map Field.name).Nodup) (parts : fields = before ++ f :: after) :
    name ∈ (before ++ after).map Field.name ↔ name ∈ fields.map Field.name ∧ name ≠ f.name := by
  have apart := apart_of_distinct distinct parts
  simp only [parts, List.map_append, List.map_cons, List.mem_append, List.mem_cons] at apart ⊢
  constructor
  · intro there
    exact ⟨there.imp_right .inr, fun same => apart (same ▸ there)⟩
  · rintro ⟨there | same | there, differs⟩
    · exact .inl there
    · exact absurd same differs
    · exact .inr there

end

namespace Schema

variable {s s' : Schema} {table : TableId} {column : String} {f : Field} {place : Place}
variable {fields before after : List Field}

/-! ## Looking places up -/

theorem exists_position_iff (table : TableId) :
    (∃ i, position table fields column = .ok i) ↔ column ∈ fields.map Field.name := by
  constructor
  · rintro ⟨i, found⟩
    obtain ⟨before, f, after, rfl, -, rfl, -⟩ := exists_of_position found
    simp
  · intro inside
    obtain ⟨f, there, named⟩ := List.mem_map.mp inside
    unfold position
    cases found : fields.findIdx? fun f => f.name == column with
    | some i => exact ⟨i, rfl⟩
    | none =>
        have missing := List.findIdx?_eq_none_iff.mp found f there
        exact absurd named (by simpa using missing)

theorem position_here (first : f.name ∉ before.map Field.name) :
    position table (before ++ f :: after) f.name = .ok before.length := by
  have found : (before ++ f :: after).findIdx? (fun g => g.name == f.name) =
      some before.length := by
    refine List.findIdx?_eq_some_iff_getElem.mpr ⟨by simp, by simp, fun j below => ?_⟩
    have other : before[j].name ≠ f.name := fun same =>
      first (same ▸ List.mem_map_of_mem (List.getElem_mem below))
    rw [List.getElem_append_left below]
    simpa using other
  rw [position, found]

theorem exists_target_iff (table : TableId) :
    (∃ i, target table fields place = .ok i) ↔
      ∀ r, place = .after r → r ∈ fields.map Field.name := by
  cases place with
  | first => exact iff_of_true ⟨0, rfl⟩ (by rintro r ⟨⟩)
  | after column =>
      rw [target, exists_bind_pure_eq_ok_iff, exists_position_iff]
      simp only [Place.after.injEq, forall_eq']

/-! ## Moves -/

/-- A column that moves is taken out first, and its new place is looked up among the others. -/
theorem moveColumn_here (parts : s.fields = before ++ f :: after)
    (first : f.name ∉ before.map Field.name) :
    s.moveColumn table f.name place = do
      let i ← target table (before ++ after) place
      return { s with fields := (before ++ after).insertIdx i f } := by
  have here : (before ++ f :: after)[before.length]? = some f := by simp
  rw [moveColumn, parts, position_here first]
  simp only [bind, Except.bind, here, eraseIdx_here]

/-- A column moves just if it is there, and the one it is to stand after is another that is. -/
theorem exists_moveColumn_iff (distinct : s.fieldNames.Nodup) :
    (∃ s', s.moveColumn table column place = .ok s') ↔
      column ∈ s.fieldNames ∧ ∀ r, place = .after r → r ∈ s.fieldNames ∧ r ≠ column := by
  by_cases inside : column ∈ s.fieldNames
  · obtain ⟨i, found⟩ := (exists_position_iff table).mpr inside
    obtain ⟨before, f, after, parts, -, rfl, first⟩ := exists_of_position found
    rw [moveColumn_here parts first, exists_bind_pure_eq_ok_iff, exists_target_iff]
    simp only [inside, true_and, Field.mem_others_iff distinct parts]
    rfl
  · refine iff_of_false ?_ fun both => inside both.1
    rintro ⟨s', made⟩
    cases step_of_moveColumn made with
    | moveColumn parts => exact inside (by simp [fieldNames, parts])

/-- Where it stands already, a column stays. -/
theorem moveColumn_of_standsAt (distinct : s.fieldNames.Nodup)
    (stands : StandsAt f s.fields (some place)) : s.moveColumn table f.name place = .ok s := by
  cases place with
  | first =>
      obtain ⟨after, parts⟩ := List.head?_eq_some_iff.mp stands
      have here : s.fields = [] ++ f :: after := parts
      rw [moveColumn_here here (List.not_mem_nil)]
      show Except.ok { s with fields := f :: after } = _
      rw [← parts]
  | after column =>
      obtain ⟨g, rfl, before, after, parts⟩ := stands
      have here : s.fields = (before ++ [g]) ++ f :: after := by simpa using parts.symm
      have asked : s.fields = before ++ g :: f :: after := by simpa using here
      have first := Field.first_of_distinct distinct here
      have first' := Field.first_of_distinct distinct asked
      have found : target table (before ++ [g] ++ after) (.after g.name) =
          .ok (before ++ [g]).length := by
        rw [List.append_assoc, List.singleton_append, target, position_here first']
        simp [pure, Except.pure, bind, Except.bind]
      rw [moveColumn_here here first, found]
      show Except.ok { s with fields := (before ++ [g] ++ after).insertIdx _ f } = _
      rw [insertIdx_here, ← here]

/-! ## Where columns land -/

theorem addColumn_lands {place : Option Place} (made : s.addColumn table f place = .ok s') :
    StandsAt f s'.fields place ∧ otherColumns f.name s'.fields = s.fields ∧
      s'.fields.Perm (f :: s.fields) ∧ s' = { s with fields := s'.fields } := by
  cases step_of_addColumn made with
  | addColumn parts fresh placed last =>
      rw [fieldNames, parts] at fresh
      refine ⟨standsAt_of_follows placed last, ?_, ?_, rfl⟩
      · rw [parts]
        exact otherColumns_here fresh
      · rw [parts]
        exact List.perm_middle

theorem moveColumn_lands (distinct : s.fieldNames.Nodup)
    (made : s.moveColumn table column place = .ok s') :
    (∃ f ∈ s.fields, f.name = column ∧ StandsAt f s'.fields (some place)) ∧
      otherColumns column s'.fields = otherColumns column s.fields ∧
      s'.fields.Perm s.fields ∧ s' = { s with fields := s'.fields } := by
  cases step_of_moveColumn made with
  | @moveColumn f _ before after front back parts first same placed =>
      have apart := Field.apart_of_distinct distinct parts
      have stands : StandsAt f (front ++ f :: back) (some place) := by
        refine standsAt_of_follows ?_ (by intro none; cases none)
        intro p asked
        cases asked
        exact placed
      refine ⟨⟨f, by simp [parts], rfl, stands⟩, ?_, ?_, rfl⟩
      · rw [parts, otherColumns_here apart, same]
        exact otherColumns_here (same ▸ apart)
      · rw [parts]
        exact perm_moved same

/-- **Columns land where they are asked for.**  Whatever changes were made of a schema whose columns
have distinct names, one more that adds a column puts it where it is asked for and keeps all others
as they are and in order.  One that moves a column does the same and neither adds nor loses any; it
is made exactly if the column is there and the one that it is to stand after is another that is.
A move to where the column stands already changes nothing. -/
theorem columns_land {earlier : List SchemaChange} {mid : Schema} (distinct : s.fieldNames.Nodup)
    (made : s.applyChanges table earlier = .ok mid) :
    (∀ f place s', s.applyChanges table (earlier ++ [.addColumn f place]) = .ok s' →
      StandsAt f s'.fields place ∧ otherColumns f.name s'.fields = mid.fields ∧
        s'.fields.Perm (f :: mid.fields) ∧ s' = { mid with fields := s'.fields }) ∧
    (∀ column place s', s.applyChanges table (earlier ++ [.moveColumn column place]) = .ok s' →
      (∃ f ∈ mid.fields, f.name = column ∧ StandsAt f s'.fields (some place)) ∧
        otherColumns column s'.fields = otherColumns column mid.fields ∧
        s'.fields.Perm mid.fields ∧ s' = { mid with fields := s'.fields }) ∧
    (∀ column place,
      (∃ s', s.applyChanges table (earlier ++ [.moveColumn column place]) = .ok s') ↔
        column ∈ mid.fieldNames ∧ ∀ r, place = .after r → r ∈ mid.fieldNames ∧ r ≠ column) ∧
    ∀ f place, StandsAt f mid.fields (some place) →
      s.applyChanges table (earlier ++ [.moveColumn f.name place]) = .ok mid := by
  have distinct' : mid.fieldNames.Nodup := nodup_of_applyChanges distinct made
  simp only [applyChanges_concat made]
  exact ⟨fun _ _ _ added => addColumn_lands added,
    fun _ _ _ moved => moveColumn_lands distinct' moved,
    fun _ _ => exists_moveColumn_iff distinct',
    fun _ _ stands => moveColumn_of_standsAt distinct' stands⟩

/-- After a column has its new name, one moves backwards past another, one is added before the last
one, one cannot stand after itself, and one stands already where it is put. -/
theorem columns_land_tonnage :
    let here : TableId := ⟨"sea", "boats"⟩
    let boat : Field := ⟨"boat", .utf8, false, none⟩
    let crew : Field := ⟨"crew", .int64, true, none⟩
    let tonnage : Field := ⟨"tonnage", .int64, true, some "gross"⟩
    let note : Field := ⟨"note", .utf8, true, none⟩
    let s : Schema := ⟨0, [boat, crew, { tonnage with name := "weight" }], [], [], ∅, none⟩
    let mid : Schema := ⟨1, [boat, crew, tonnage], [], [], ∅, none⟩
    let changed (change : SchemaChange) :=
      s.applyChanges here [.renameColumn "weight" "tonnage", change]
    s.fieldNames.Nodup ∧ s.applyChanges here [.renameColumn "weight" "tonnage"] = .ok mid ∧
      (∃ s', changed (.moveColumn "boat" (.after "crew")) = .ok s' ∧
        s'.fields = [crew, boat, tonnage] ∧ StandsAt boat s'.fields (some (.after "crew"))) ∧
      (∃ s', changed (.addColumn note (some (.after "crew"))) = .ok s' ∧
        s'.fields = [boat, crew, note, tonnage] ∧ otherColumns "note" s'.fields = mid.fields) ∧
      (¬∃ s', changed (.moveColumn "boat" (.after "boat")) = .ok s') ∧
      changed (.moveColumn "tonnage" (.after "crew")) = .ok mid := by
  intro here boat crew tonnage note s mid changed
  have distinct : s.fieldNames.Nodup := by decide
  have made : s.applyChanges here [.renameColumn "weight" "tonnage"] = .ok mid := rfl
  have alone : ∀ f ∈ mid.fields, f.name = "boat" → f = boat := by decide
  obtain ⟨added, moved, moves, stays⟩ := columns_land distinct made
  refine ⟨distinct, made, ⟨_, rfl, rfl, ?_⟩, ⟨_, rfl, rfl, ?_⟩, ?_, ?_⟩
  · obtain ⟨⟨f, inside, named, stands⟩, -⟩ := moved "boat" (.after "crew") _ rfl
    exact alone f inside named ▸ stands
  · exact (added note (some (.after "crew")) _ rfl).2.1
  · intro found
    exact ((moves "boat" (.after "boat")).mp found).2 "boat" rfl |>.2 rfl
  · exact stays tonnage (.after "crew") ⟨crew, rfl, [boat], [], rfl⟩

end Schema

end TableLake
