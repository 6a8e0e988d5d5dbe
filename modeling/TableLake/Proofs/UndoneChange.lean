/-
# TableLake.Proofs.UndoneChange — a change that is taken back

A change is made exactly if it is a step (`applyChange_ok_iff`), so to take a change back means to
find a step the other way.  There is one wherever the keys of the schema are in order:

* an added column is under no key, for its name was free and every key names a column; and it is
  not the last one.  So it can be dropped (`Step.drop_added`);
* a renamed column gets its old name back, which no other column has, and the keys theirs: no other
  key was the new name, so a key that is now the new name was the old one (`Step.rename_back`);
* a moved column goes back behind the column that stood before it (`Step.move_back`).

Keys that name no column would spoil the first two, and columns of one name the last two.
-/
import TableLake.Proofs.ColumnPlace

namespace TableLake

open TableLake.Outcome

set_option autoImplicit false

/-- The place right behind some columns. -/
def Place.behind (before : List Field) : Place :=
  match before.getLast? with
  | none => .first
  | some f => .after f.name

theorem Place.follows_behind {before : List Field} (distinct : (before.map Field.name).Nodup) :
    (Place.behind before).Follows before := by
  unfold Place.behind
  cases last : before.getLast? with
  | none => exact List.getLast?_eq_none_iff.mp last
  | some f =>
      obtain ⟨front, rfl⟩ := List.getLast?_eq_some_iff.mp last
      exact ⟨front, f, rfl, rfl, Field.first_of_distinct distinct rfl⟩

namespace Schema

variable {s s' : Schema} {table : TableId} {change back : SchemaChange}
variable {f : Field} {column newName : String} {place : Place} {before after : List Field}

/-! ## Steps are made -/

theorem requireFresh_of_fresh (table : TableId) {fields : List Field}
    (fresh : column ∉ fields.map Field.name) : requireFresh table fields column = .ok () := by
  refine if_neg fun there => ?_
  obtain ⟨g, inside, same⟩ := List.any_eq_true.mp there
  have named : g.name = column := by simpa using same
  exact fresh (named ▸ List.mem_map_of_mem inside)

theorem target_here (table : TableId) (placed : place.Follows before) :
    target table (before ++ after) place = .ok before.length := by
  cases place with
  | first =>
      obtain rfl : before = [] := placed
      rfl
  | after column =>
      obtain ⟨front, g, rfl, rfl, first⟩ := placed
      rw [List.append_assoc, List.singleton_append, target, position_here first]
      simp [bind, Except.bind, pure, Except.pure]

theorem modifyColumn_here (table : TableId) (parts : s.fields = before ++ f :: after)
    (first : f.name ∉ before.map Field.name) (change : Field → Field) :
    s.modifyColumn table f.name change = .ok { s with fields := before ++ change f :: after } := by
  rw [modifyColumn, parts, position_here first]
  simp only [bind, Except.bind, pure, Except.pure, modify_here]

/-- A step is made, whatever the table is called. -/
theorem applyChange_of_step (table : TableId) (step : s.Step change s') :
    s.applyChange table change = .ok s' := by
  cases step with
  | setOption key value => rfl
  | removeOption key => rfl
  | @addColumn f place before after parts fresh placed last =>
      have fresh := requireFresh_of_fresh table fresh
      show s.addColumn table f place = _
      unfold addColumn
      rw [fresh]
      cases place with
      | none =>
          obtain rfl : after = [] := last rfl
          rw [List.append_nil] at parts
          rw [parts]
          rfl
      | some place =>
          have found : target table (before ++ after) place = .ok before.length :=
            target_here table (placed place rfl)
          simp only [bind, Except.bind, pure, Except.pure, parts, found, insertIdx_here]
  | @renameColumn f newName before after parts first fresh free =>
      have fresh := requireFresh_of_fresh table fresh
      show s.renameColumn table f.name newName = _
      rw [renameColumn, fresh, parts, position_here first]
      simp only [bind, Except.bind, pure, Except.pure, if_neg free, modify_here]
  | @dropColumn f before after parts first free optional others =>
      have unkeyed : ¬(f.name ∈ s.partitionKeys ∨ f.name ∈ s.primaryKeys) :=
        not_or.mpr ⟨free, optional⟩
      have several : (before ++ f :: after).length ≠ 1 := by
        have filled := List.length_pos_of_ne_nil others
        simp only [List.length_append, List.length_cons] at filled ⊢
        omega
      show s.dropColumn table f.name = _
      rw [dropColumn, parts, position_here first]
      simp only [bind, Except.bind, pure, Except.pure, if_neg unkeyed, if_neg several,
        eraseIdx_here]
  | updateType parts first => exact modifyColumn_here table parts first _
  | @updateNullability f nullable before after parts first allowed =>
      have loose : ¬((nullable = true) ∧ f.name ∈ s.primaryKeys) :=
        fun both => allowed both.1 both.2
      show s.updateNullability table [f.name] nullable = _
      rw [updateNullability, parts]
      simp only [topLevel, bind, Except.bind, pure, Except.pure, position_here first, if_neg loose,
        modify_here]
  | updateComment parts first => exact modifyColumn_here table parts first _
  | @moveColumn f place before after front back parts first others placed =>
      show s.moveColumn table f.name place = _
      rw [moveColumn_here parts first, others, target_here table placed]
      simp only [bind, Except.bind, pure, Except.pure, insertIdx_here]

/-- **A change is made exactly if it is a step.** -/
theorem applyChange_ok_iff : s.applyChange table change = .ok s' ↔ s.Step change s' :=
  ⟨step_of_applyChange, applyChange_of_step table⟩

/-! ## Steps back -/

theorem Step.drop_added {place : Option Place} (keyed : s.Keyed) (solid : s.fields ≠ [])
    (step : s.Step (.addColumn f place) s') : s'.Step (.dropColumn f.name) s := by
  cases step with
  | @addColumn _ _ before after parts fresh =>
      have unnamed : f.name ∉ (before ++ after).map Field.name := parts ▸ fresh
      have free : f.name ∉ s.partitionKeys := fun key => fresh (keyed.partitions _ key)
      have optional : f.name ∉ s.primaryKeys := fun key => fresh (keyed.primaries _ key)
      have dropped : Step { s with fields := before ++ f :: after } (.dropColumn f.name)
          { s with fields := before ++ after } :=
        .dropColumn rfl (Field.not_named_before unnamed) free optional (parts ▸ solid)
      rw [← parts] at dropped
      exact dropped

/-- Keys that were renamed take their old names back, if none was the new name before. -/
theorem renamedKeys_back {keys : List String} {old new : String} (fresh : new ∉ keys) :
    (keys.map fun key => if key = old then new else key).map
      (fun key => if key = new then old else key) = keys := by
  rw [List.map_map]
  refine (List.map_congr_left fun key inside => ?_).trans (List.map_id keys)
  by_cases renamed : key = old
  · simp [renamed]
  · have kept : key ≠ new := fun same => fresh (same ▸ inside)
    simp [renamed, kept]

theorem Step.rename_back (keyed : s.Keyed) (distinct : s.fieldNames.Nodup)
    (step : s.Step (.renameColumn column newName) s') :
    s'.Step (.renameColumn newName column) s := by
  cases step with
  | @renameColumn f _ before after parts first fresh free =>
      have apart := Field.apart_of_distinct distinct parts
      have other : newName ≠ f.name := by
        rintro rfl
        exact fresh (by simp [fieldNames, parts])
      -- among the others neither the new name is found nor the old one
      have unnamed : newName ∉ (before ++ f :: after).map Field.name := parts ▸ fresh
      have first' := Field.not_named_before unnamed
      have fresh' : f.name ∉ (before ++ { f with name := newName } :: after).map Field.name := by
        simp only [List.map_append, List.map_cons, List.mem_append, List.mem_cons] at apart ⊢
        rintro (there | same | there)
        · exact apart (.inl there)
        · exact other same.symm
        · exact apart (.inr there)
      have unpartitioned : newName ∉ s.partitionKeys := fun key => fresh (keyed.partitions _ key)
      have unkeyed : newName ∉ s.primaryKeys := fun key => fresh (keyed.primaries _ key)
      let keys := s.primaryKeys.map fun key => if key = f.name then newName else key
      let renamed : Schema :=
        { s with fields := before ++ { f with name := newName } :: after, primaryKeys := keys }
      have back : renamed.Step (.renameColumn newName f.name)
          { renamed with
            fields := before ++ f :: after
            primaryKeys := keys.map fun key => if key = newName then f.name else key } :=
        .renameColumn (f := { f with name := newName }) rfl first' fresh' unpartitioned
      rw [renamedKeys_back unkeyed, ← parts] at back
      exact back

/-- Where a column stands: first, or behind another one. -/
def placeOf (s : Schema) (column : String) : Place :=
  Place.behind (s.fields.takeWhile fun f => f.name ≠ column)

theorem placeOf_here (parts : s.fields = before ++ f :: after)
    (first : f.name ∉ before.map Field.name) : s.placeOf f.name = Place.behind before := by
  have others : ∀ g ∈ before, decide (g.name ≠ f.name) = true := by
    intro g inside
    exact decide_eq_true fun same => first (same ▸ List.mem_map_of_mem inside)
  rw [placeOf, parts, List.takeWhile_append_of_pos others, List.takeWhile_cons_of_neg (by simp),
    List.append_nil]

theorem Step.move_back (distinct : s.fieldNames.Nodup)
    (step : s.Step (.moveColumn column place) s') :
    s'.Step (.moveColumn column (s.placeOf column)) s := by
  cases step with
  | @moveColumn f _ before after front back parts first others placed =>
      have apart := Field.apart_of_distinct distinct parts
      have first' : f.name ∉ front.map Field.name := Field.not_named_before (others ▸ apart)
      have earlier : (before.map Field.name).Nodup := by
        rw [fieldNames, parts, List.map_append] at distinct
        exact (List.nodup_append.mp distinct).1
      rw [placeOf_here parts first]
      have moved : Step { s with fields := front ++ f :: back }
          (.moveColumn f.name (Place.behind before)) { s with fields := before ++ f :: after } :=
        .moveColumn rfl first' others.symm (Place.follows_behind earlier)
      rw [← parts] at moved
      exact moved

/-! ## Changes that are taken back -/

/-- Whenever the change is made, the other one is made afterwards, by itself or in one list with the
change, and brings back the schema.  The number alone tells how often changes were made. -/
def TakenBack (s : Schema) (change back : SchemaChange) : Prop :=
  ∀ (table : TableId) (s' : Schema), s.applyChanges table [change] = .ok s' →
    (∀ table', s'.applyChanges table' [back] = .ok { s with id := s.id + 2 }) ∧
      s.applyChanges table [change, back] = .ok { s with id := s.id + 1 }

theorem takenBack_of_step (opposite : ∀ s', s.Step change s' → s'.Step back s) :
    s.TakenBack change back := by
  intro table s' made
  obtain ⟨evolved, changed, rfl⟩ := applyChanges_ok_iff.mp made
  rw [evolve_single] at changed
  have restored (table' : TableId) :
      Schema.applyChanges { evolved with id := s.id + 1 } table' [back] =
        .ok { s with id := s.id + 2 } := by
    refine applyChanges_ok_iff.mpr ⟨{ s with id := s.id + 1 }, ?_, rfl⟩
    rw [evolve_single, applyChange_numbered,
      applyChange_of_step table' (opposite evolved (step_of_applyChange changed))]
    rfl
  refine ⟨restored, ?_⟩
  have both := applyChanges_append s table [change] [back]
  rw [made] at both
  simp only [bind, Except.bind, restored, pure, Except.pure] at both
  exact both

/-- **Changes can be undone.**  In a schema that lists of changes led to from one that was built, if
it has a column and its columns have distinct names: an added column can be dropped, a rename is
undone by the rename the other way, and a moved column can be moved to where it stood.  Each time
the columns are the old ones in the old order, and keys, settings and comment are the old ones. -/
theorem changes_undone {d : SchemaDraft} {built : Schema} {n : Nat} (made : d.build = .ok built)
    (evolved : built.Evolved n s) (solid : s.fields ≠ []) (distinct : s.fieldNames.Nodup) :
    (∀ f place, s.TakenBack (.addColumn f place) (.dropColumn f.name)) ∧
      (∀ column newName,
        s.TakenBack (.renameColumn column newName) (.renameColumn newName column)) ∧
      ∀ column place, s.TakenBack (.moveColumn column place)
        (.moveColumn column (s.placeOf column)) := by
  have keyed : s.Keyed := evolved.keeps Keyed.step
    (fun keyed => ⟨keyed.partitions, keyed.primaries, keyed.mandatory⟩) (keyed_of_build made)
  exact ⟨fun _ _ => takenBack_of_step fun _ step => step.drop_added keyed solid,
    fun _ _ => takenBack_of_step fun _ step => step.rename_back keyed distinct,
    fun _ _ => takenBack_of_step fun _ step => step.move_back distinct⟩

/-- The landings by day; two columns make up the key, one of them named twice. -/
def landingDraft : SchemaDraft where
  fields :=
    [⟨"day", .date32, true, none⟩, ⟨"boat", .utf8, true, none⟩, ⟨"tons", .int64, true, none⟩]
  partitionKeys := ["day"]
  primaryKeys := ["boat", "day", "boat"]

/-- The key changes its name in both places and back, a column is put in the middle and dropped, and
the last column is moved to the front and behind the one that stood before it. -/
theorem changes_undone_landing :
    let here : TableId := ⟨"lake", "landings"⟩
    ∃ s, landingDraft.build = .ok s ∧ s.fields ≠ [] ∧ s.fieldNames.Nodup ∧
      (∃ s', s.applyChanges here [.renameColumn "boat" "vessel"] = .ok s' ∧
        s'.primaryKeys = ["vessel", "day", "vessel"] ∧
        s'.applyChanges here [.renameColumn "vessel" "boat"] = .ok { s with id := 2 }) ∧
      (∃ s', s.applyChanges here [.addColumn ⟨"crew", .int32, true, none⟩ (some (.after "day"))] =
          .ok s' ∧
        s'.fieldNames = ["day", "crew", "boat", "tons"] ∧
        s'.applyChanges here [.dropColumn "crew"] = .ok { s with id := 2 }) ∧
      ∃ s', s.applyChanges here [.moveColumn "tons" .first] = .ok s' ∧
        s'.fieldNames = ["tons", "day", "boat"] ∧
        s'.applyChanges here [.moveColumn "tons" (.after "boat")] = .ok { s with id := 2 } := by
  intro here
  obtain ⟨s, made⟩ : ∃ s, landingDraft.build = .ok s := ⟨_, rfl⟩
  have facts : s.id = 0 ∧ s.fields ≠ [] ∧ s.fieldNames.Nodup ∧
      s.placeOf "tons" = .after "boat" := by
    cases made
    decide
  obtain ⟨start, solid, distinct, place⟩ := facts
  obtain ⟨added, renamed, moved⟩ := changes_undone made .built solid distinct
  have moved := moved "tons" .first here
  rw [place, start] at moved
  simp only [TakenBack, start] at added renamed
  refine ⟨s, made, solid, distinct, ?_, ?_, ?_⟩
  · obtain ⟨s', there, keys⟩ : ∃ s', s.applyChanges here [.renameColumn "boat" "vessel"] = .ok s' ∧
        s'.primaryKeys = ["vessel", "day", "vessel"] := by
      cases made
      exact ⟨_, rfl, rfl⟩
    exact ⟨s', there, keys, (renamed _ _ here s' there).1 here⟩
  · obtain ⟨s', there, names⟩ : ∃ s', s.applyChanges here
        [.addColumn ⟨"crew", .int32, true, none⟩ (some (.after "day"))] = .ok s' ∧
        s'.fieldNames = ["day", "crew", "boat", "tons"] := by
      cases made
      exact ⟨_, rfl, rfl⟩
    exact ⟨s', there, names, (added _ _ here s' there).1 here⟩
  · obtain ⟨s', there, names⟩ : ∃ s', s.applyChanges here [.moveColumn "tons" .first] = .ok s' ∧
        s'.fieldNames = ["tons", "day", "boat"] := by
      cases made
      exact ⟨_, rfl, rfl⟩
    exact ⟨s', there, names, (moved s' there).1 here⟩

end Schema

end TableLake
