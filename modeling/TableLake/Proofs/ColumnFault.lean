/-
# TableLake.Proofs.ColumnFault — what a refused change says of the columns

A change is refused because a column is missing, because a name is taken, or because the change is
not supported.  The first two are reports on the columns of the table, and each comes from a lookup
by name: `position` reports a column just if none has the name, `requireFresh` just if one has.
All changes look names up in the columns they find, with one exception.  A column that moves is
taken out first, and the one that it is to stand after is looked up among the others.  So a column
that is to stand after itself is said to be missing (`moveColumn_after_itself`).

A list of changes is refused by the first change that is refused, of the schema that those before it
lead to (`exists_of_evolve_error`).  What it says is true of this schema, unless a column was to
stand after itself (`column_faults_true`).
-/
import TableLake.Proofs.ColumnPlace

namespace TableLake

open TableLake.Outcome

set_option autoImplicit false

/-- What the error says of a table's columns is so.  Of the errors that speak of other things only
one is given for a change of columns: that it is not supported. -/
def CatalogError.TrueOf (table : TableId) (s : Schema) : CatalogError → Prop
  | .noColumn named column => named = table ∧ column ∉ s.fieldNames
  | .columnExists named column => named = table ∧ column ∈ s.fieldNames
  | .unsupported _ => True
  | _ => False

namespace Schema

variable {s : Schema} {table : TableId} {e : CatalogError} {column newName : String}
variable {fields : List Field} {f : Field} {place : Place}

/-! ## Lookups -/

theorem position_error_iff : position table fields column = .error e ↔
    column ∉ fields.map Field.name ∧ e = .noColumn table column := by
  have missing : (fields.findIdx? fun f => f.name == column) = none ↔
      column ∉ fields.map Field.name := by
    simp [List.findIdx?_eq_none_iff]
  rw [← missing, position]
  cases fields.findIdx? fun f => f.name == column with
  | some i => simp
  | none => simp [eq_comm]

theorem requireFresh_error_iff : requireFresh table fields column = .error e ↔
    column ∈ fields.map Field.name ∧ e = .columnExists table column := by
  have taken : (fields.any fun f => f.name == column) = true ↔ column ∈ fields.map Field.name := by
    simp
  rw [← taken, requireFresh]
  cases fields.any fun f => f.name == column with
  | true => simp [eq_comm]
  | false => simp

theorem target_error_iff : target table fields place = .error e ↔
    ∃ r, place = .after r ∧ r ∉ fields.map Field.name ∧ e = .noColumn table r := by
  cases place with
  | first => simp [target]
  | after column => simp [target, bind_eq_error_iff, position_error_iff, pure, Except.pure]

theorem unsupported_of_topLevel {path : List String} (refused : topLevel path = .error e) :
    ∃ words, e = .unsupported words := by
  unfold topLevel at refused
  split at refused
  · cases refused
  · exact ⟨_, (Except.error.inj refused).symm⟩

theorem true_of_position (refused : position table s.fields column = .error e) :
    e.TrueOf table s := by
  obtain ⟨missing, rfl⟩ := position_error_iff.mp refused
  exact ⟨rfl, missing⟩

theorem true_of_requireFresh (refused : requireFresh table s.fields column = .error e) :
    e.TrueOf table s := by
  obtain ⟨taken, rfl⟩ := requireFresh_error_iff.mp refused
  exact ⟨rfl, taken⟩

theorem true_of_target (refused : target table s.fields place = .error e) : e.TrueOf table s := by
  obtain ⟨r, -, missing, rfl⟩ := target_error_iff.mp refused
  exact ⟨rfl, missing⟩

theorem true_of_topLevel {path : List String} (refused : topLevel path = .error e) :
    e.TrueOf table s := by
  obtain ⟨words, rfl⟩ := unsupported_of_topLevel refused
  trivial

/-! ## Changes -/

theorem true_of_addColumn {place : Option Place} (refused : s.addColumn table f place = .error e) :
    e.TrueOf table s := by
  simp only [addColumn, bind_eq_error_iff] at refused
  rcases refused with taken | ⟨⟨⟩, -, refused⟩
  · exact true_of_requireFresh taken
  · cases place with
    | none => cases refused
    | some place =>
        rcases bind_eq_error_iff.mp refused with missing | ⟨i, -, ⟨⟩⟩
        exact true_of_target missing

theorem true_of_renameColumn (refused : s.renameColumn table column newName = .error e) :
    e.TrueOf table s := by
  simp only [renameColumn, bind_eq_error_iff] at refused
  rcases refused with missing | ⟨i, -, taken | ⟨⟨⟩, -, refused⟩⟩
  · exact true_of_position missing
  · exact true_of_requireFresh taken
  · split at refused
    · cases refused
      trivial
    · cases refused

theorem true_of_dropColumn (refused : s.dropColumn table column = .error e) : e.TrueOf table s := by
  simp only [dropColumn, bind_eq_error_iff] at refused
  rcases refused with missing | ⟨i, -, refused⟩
  · exact true_of_position missing
  · split at refused
    · cases refused
      trivial
    · split at refused
      · cases refused
        trivial
      · cases refused

theorem true_of_modifyColumn {change : Field → Field}
    (refused : s.modifyColumn table column change = .error e) : e.TrueOf table s := by
  rcases bind_eq_error_iff.mp refused with missing | ⟨i, -, ⟨⟩⟩
  exact true_of_position missing

theorem true_of_updateNullability {path : List String} {nullable : Bool}
    (refused : s.updateNullability table path nullable = .error e) : e.TrueOf table s := by
  simp only [updateNullability, bind_eq_error_iff] at refused
  rcases refused with nested | ⟨column, -, missing | ⟨i, -, refused⟩⟩
  · exact true_of_topLevel nested
  · exact true_of_position missing
  · split at refused
    · cases refused
      trivial
    · cases refused

theorem true_of_updateComment {path : List String} {comment : Option String}
    (refused : s.updateComment table path comment = .error e) : e.TrueOf table s := by
  rcases bind_eq_error_iff.mp refused with nested | ⟨column, -, refused⟩
  · exact true_of_topLevel nested
  · exact true_of_modifyColumn refused

/-- A column is asked to stand after itself, and there is no other of its name. -/
def AfterItself (s : Schema) (change : SchemaChange) : Prop :=
  ∃ column, change = .moveColumn column (.after column) ∧ s.fieldNames.count column = 1

/-- The columns that are left when one is taken out have its name once less. -/
theorem count_fieldNames {before after : List Field} (parts : s.fields = before ++ f :: after) :
    s.fieldNames.count f.name = ((before ++ after).map Field.name).count f.name + 1 := by
  simp only [fieldNames, parts, List.map_append, List.map_cons, List.count_append,
    List.count_cons_self]
  omega

theorem true_of_moveColumn (refused : s.moveColumn table column place = .error e) :
    e.TrueOf table s ∨ s.AfterItself (.moveColumn column place) := by
  cases found : position table s.fields column with
  | error e' =>
      have same : s.moveColumn table column place = .error e' := by
        rw [moveColumn, found]
        rfl
      rw [same] at refused
      cases refused
      exact .inl (true_of_position found)
  | ok i =>
      obtain ⟨before, f, after, parts, -, rfl, first⟩ := exists_of_position found
      rw [moveColumn_here parts first] at refused
      rcases bind_eq_error_iff.mp refused with refused | ⟨j, -, ⟨⟩⟩
      obtain ⟨r, rfl, missing, rfl⟩ := target_error_iff.mp refused
      -- among the others a name is missing that no column has, or that of the one taken out
      by_cases itself : r = f.name
      · subst itself
        refine .inr ⟨f.name, rfl, ?_⟩
        rw [count_fieldNames parts, List.count_eq_zero.mpr missing]
      · refine .inl ⟨rfl, fun there => missing ?_⟩
        simp only [fieldNames, parts, List.map_append, List.map_cons, List.mem_append,
          List.mem_cons] at there ⊢
        tauto

/-- A column that is there is said to be missing where it is to stand after itself. -/
theorem moveColumn_after_itself (table : TableId) (single : s.fieldNames.count column = 1) :
    column ∈ s.fieldNames ∧
      s.moveColumn table column (.after column) = .error (.noColumn table column) := by
  have there : column ∈ s.fieldNames := List.count_pos_iff.mp (by omega)
  obtain ⟨i, found⟩ := (exists_position_iff table).mpr there
  obtain ⟨before, f, after, parts, -, rfl, first⟩ := exists_of_position found
  have alone : f.name ∉ (before ++ after).map Field.name := by
    rw [← List.count_eq_zero]
    have once := count_fieldNames parts
    omega
  have missing : target table (before ++ after) (.after f.name) = .error (.noColumn table f.name) :=
    target_error_iff.mpr ⟨f.name, rfl, alone, rfl⟩
  refine ⟨there, ?_⟩
  rw [moveColumn_here parts first, missing]
  rfl

/-- **A refused change says what is so of the columns**, unless one is asked to stand after
itself. -/
theorem true_iff_of_applyChange {change : SchemaChange}
    (refused : s.applyChange table change = .error e) :
    e.TrueOf table s ↔ ¬s.AfterItself change := by
  constructor
  · rintro so ⟨column, rfl, single⟩
    obtain ⟨there, same⟩ := moveColumn_after_itself table single
    have given : s.moveColumn table column (.after column) = .error e := refused
    rw [same] at given
    cases given
    exact so.2 there
  · intro other
    cases change with
    | setOption key value => cases refused
    | removeOption key => cases refused
    | addColumn field place => exact true_of_addColumn refused
    | renameColumn column newName => exact true_of_renameColumn refused
    | dropColumn column => exact true_of_dropColumn refused
    | updateType column type => exact true_of_modifyColumn refused
    | updateNullability path nullable => exact true_of_updateNullability refused
    | updateComment path comment => exact true_of_updateComment refused
    | moveColumn column place => exact (true_of_moveColumn refused).resolve_right other

/-! ## Lists of changes -/

/-- A list of changes is refused by one of them, after those before it are made. -/
theorem exists_of_evolve_error : ∀ {changes : List SchemaChange} {s : Schema},
    s.evolve table changes = .error e → ∃ made change rest mid,
      changes = made ++ change :: rest ∧ s.evolve table made = .ok mid ∧
        mid.applyChange table change = .error e
  | [], s, refused => by cases refused
  | first :: later, s, refused => by
      simp only [evolve, List.foldlM_cons, bind_eq_error_iff] at refused
      rcases refused with here | ⟨next, done, refused⟩
      · exact ⟨[], first, later, s, rfl, rfl, here⟩
      · obtain ⟨made, change, rest, mid, rfl, before, refused⟩ := exists_of_evolve_error refused
        refine ⟨first :: made, change, rest, mid, rfl, ?_, refused⟩
        simp only [evolve, List.foldlM_cons, bind_eq_ok_iff]
        exact ⟨next, done, before⟩

/-- **What a refused list of changes says of the columns is so**, of the schema that the changes
before the refused one led to: a column that is missing is not there, one that exists is.  There is
one exception, and in it the report is always untrue: a column that is there, and is the only one of
its name, is said to be missing when it is asked to stand after itself. -/
theorem column_faults_true {changes : List SchemaChange}
    (refused : s.applyChanges table changes = .error e) :
    ∃ made change rest mid, changes = made ++ change :: rest ∧ s.evolve table made = .ok mid ∧
      mid.applyChange table change = .error e ∧ (e.TrueOf table mid ↔ ¬mid.AfterItself change) := by
  rcases bind_eq_error_iff.mp refused with refused | ⟨evolved, -, ⟨⟩⟩
  obtain ⟨made, change, rest, mid, parts, before, refused⟩ := exists_of_evolve_error refused
  exact ⟨made, change, rest, mid, parts, before, refused, true_iff_of_applyChange refused⟩

/-- The column that was renamed before is missing under its old name. -/
theorem column_faults_true_tonnage :
    let here : TableId := ⟨"sea", "boats"⟩
    let fields : List Field := [⟨"boat", .utf8, false, none⟩, ⟨"weight", .int64, true, none⟩]
    let s : Schema := ⟨0, fields, [], [], ∅, none⟩
    let changes : List SchemaChange := [.renameColumn "weight" "tonnage", .dropColumn "weight"]
    let e : CatalogError := .noColumn here "weight"
    s.applyChanges here changes = .error e ∧ "weight" ∈ s.fieldNames ∧
      ∃ made change rest mid, changes = made ++ change :: rest ∧ s.evolve here made = .ok mid ∧
        mid.applyChange here change = .error e ∧ e.TrueOf here mid := by
  intro here fields s changes e
  have refused : s.applyChanges here changes = .error e := rfl
  obtain ⟨made, change, rest, mid, parts, before, denied, so⟩ := column_faults_true refused
  refine ⟨refused, by decide, made, change, rest, mid, parts, before, denied, so.mpr ?_⟩
  rintro ⟨column, rfl, -⟩
  have inside : SchemaChange.moveColumn column (.after column) ∈ changes := by
    rw [parts]
    exact List.mem_append_right _ List.mem_cons_self
  simp [changes] at inside

/-- A column that is there is said to be missing when it is asked to stand after itself. -/
theorem boat_denied :
    let here : TableId := ⟨"sea", "boats"⟩
    let fields : List Field := [⟨"boat", .utf8, false, none⟩, ⟨"tons", .int64, true, none⟩]
    let s : Schema := ⟨0, fields, [], [], ∅, none⟩
    s.evolve here [] = .ok s ∧
      s.applyChanges here [.moveColumn "boat" (.after "boat")] = .error (.noColumn here "boat") ∧
      "boat" ∈ s.fieldNames ∧ ¬(CatalogError.noColumn here "boat").TrueOf here s := by
  intro here fields s
  have there : "boat" ∈ s.fieldNames := by decide
  exact ⟨rfl, rfl, there, fun so => so.2 there⟩

end Schema

end TableLake
