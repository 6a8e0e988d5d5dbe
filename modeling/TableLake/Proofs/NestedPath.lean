/-
# TableLake.Proofs.NestedPath — columns that are named by a path

A change names its column by a path, and only a path of one part names a column of a table.  For
four kinds of change this is found out when they are translated, for two more when the schema
evolves: neither has a step for any other path (`overlooked_of_step`).  So a list with such a change
in it is refused, wherever it stands and whatever else is wrong with the list.

The kind that is left moves a column.  Its path is cut to the first part by the translation, and a
path below a column moves the column (`nested_path_refused`, `column_moved_by_path_below`).
-/
import TableLake.Proofs.HostRun
import TableLake.Proofs.SchemaStep

namespace TableLake

open TableLake.Outcome

set_option autoImplicit false

/-! ## Paths of changes -/

namespace TableChange

variable {change : TableChange} {made : SchemaChange} {s s' : Schema} {path : List String}
variable {column : String}

/-- The path by which a change names its column; a change of a setting has none. -/
def path? : TableChange → Option (List String)
  | .setProperty .. | .removeProperty _ => none
  | .addColumn path .. | .renameColumn path _ | .deleteColumn path | .updateType path _
  | .updateNullability path _ | .updateComment path _ | .updatePosition path _ => some path

/-- The path does not have one part. -/
def Nested (change : TableChange) : Prop :=
  ∃ path ∈ change.path?, path.length ≠ 1

/-- A column is moved, and the path goes on below it. -/
inductive Overlooked : TableChange → Prop
  | move (column part : String) (rest : List String) (place : Place) :
      Overlooked (.updatePosition (column :: part :: rest) place)

/-- The change with the path of a column that is moved cut to its first part. -/
def cut : TableChange → TableChange
  | .updatePosition (column :: _) place => .updatePosition [column] place
  | change => change

theorem eq_of_topLevel (single : topLevel path = .ok column) : path = [column] := by
  unfold topLevel at single
  split at single
  · cases single
    rfl
  · cases single

/-- What is moved is the column that the path starts with. -/
theorem toSchemaChange_cut (change : TableChange) :
    change.cut.toSchemaChange = change.toSchemaChange := by
  unfold cut
  split <;> rfl

theorem not_nested_cut (only : change.Nested → change.Overlooked) : ¬change.cut.Nested := by
  rintro ⟨path, given, several⟩
  by_cases nested : change.Nested
  · obtain ⟨column, part, rest, place⟩ := only nested
    cases given
    exact several rfl
  · refine nested ?_
    unfold cut at given
    split at given
    · cases given
      exact absurd rfl several
    · exact ⟨path, given, several⟩

/-- **Both layers together let no path pass but a single part**, except to move a column. -/
theorem overlooked_of_step (asked : change.toSchemaChange = .ok made) (step : s.Step made s')
    (nested : change.Nested) : change.Overlooked := by
  obtain ⟨path, given, several⟩ := nested
  have not_single {column : String} : path ≠ [column] := by
    rintro rfl
    exact several rfl
  cases change with
  | setProperty property value => cases given
  | removeProperty property => cases given
  | updateNullability path nullable =>
      cases given
      cases asked
      cases step
      exact absurd rfl not_single
  | updateComment path comment =>
      cases given
      cases asked
      cases step
      exact absurd rfl not_single
  | updatePosition path place =>
      cases given
      match path, asked with
      | [column], _ => exact absurd rfl not_single
      | column :: part :: rest, _ => exact .move column part rest place
  | _ =>
      -- translated only from the column of a single part
      cases given
      simp only [toSchemaChange, bind_eq_ok_iff] at asked
      obtain ⟨column, single, -⟩ := asked
      exact absurd (eq_of_topLevel single) not_single

end TableChange

/-! ## Lists of changes -/

namespace Namespace

variable {r : TableRef} {c : Catalog} {now : Int} {changes : List TableChange}

/-- Of the changes of a table that were made, those with a nested path moved columns. -/
theorem overlooked_of_alterTable {shown : Table} {s : Store}
    (done : (alterTable r changes).outcome (.new c now) = (.ok shown, s)) :
    ∀ change ∈ changes, change.Nested → change.Overlooked := by
  intro change inside nested
  obtain ⟨id, made, c', -, translated, altered, -⟩ := of_alterTable done
  obtain ⟨change', inside', translated⟩ := related_of_mem (mapM_eq_ok_iff.mp translated) inside
  rcases Catalog.entry?_alterTable altered with ⟨⟨⟩, -, -⟩ | ⟨t, schema, -, evolved, -⟩
  obtain ⟨before, after, step⟩ := Schema.exists_step_of_applyChanges evolved change'
    (List.of_mem_zip inside').2
  exact TableChange.overlooked_of_step translated step nested

/-- The paths of columns that are moved might as well be cut to their first parts. -/
theorem alterTable_cut (r : TableRef) (changes : List TableChange) :
    alterTable r (changes.map TableChange.cut) = alterTable r changes := by
  have translated : (changes.map TableChange.cut).mapM TableChange.toSchemaChange =
      changes.mapM TableChange.toSchemaChange := by
    rw [List.mapM_map]
    exact congrArg changes.mapM (funext TableChange.toSchemaChange_cut)
  unfold alterTable
  rw [translated]

end Namespace

/-- **A list of changes with a nested path in it is refused, unless the path only moves a column.**
In any catalog, at any reading of the clock, let some change of the list name a column by a path
that does not have one part.  If it does not move a column, or names none by the empty path, the
list is refused and nothing has changed.  If all such changes of the list move columns by longer
paths, they are taken for moves of the columns that the paths start with: with the paths cut to
them, no path of the list is nested, and the list does the same. -/
theorem nested_path_refused (r : TableRef) (changes : List TableChange) (c : Catalog) (now : Int) :
    (∀ change ∈ changes, change.Nested → ¬change.Overlooked →
      ∃ e, (Namespace.alterTable r changes).outcome (.new c now) = (.error e, .new c now)) ∧
    ((∀ change ∈ changes, change.Nested → change.Overlooked) →
      (∀ change ∈ changes.map TableChange.cut, ¬change.Nested) ∧
        Namespace.alterTable r changes = Namespace.alterTable r (changes.map TableChange.cut)) := by
  constructor
  · intro change inside nested noticed
    rcases left : (Namespace.alterTable r changes).outcome (.new c now) with ⟨e | shown, s⟩
    · rw [Namespace.allOrNothing_alterTable r changes c now e s left]
      exact ⟨e, rfl⟩
    · exact absurd (Namespace.overlooked_of_alterTable left change inside nested) noticed
  · intro only
    refine ⟨?_, (Namespace.alterTable_cut r changes).symm⟩
    intro change inside
    obtain ⟨original, there, rfl⟩ := List.mem_map.mp inside
    exact TableChange.not_nested_cut (only original there)

/-- A catalog with a table of two columns. -/
def twoColumns : Catalog :=
  let fields : List Field := [⟨"boat", .utf8, true, none⟩, ⟨"weight", .int64, true, none⟩]
  CatalogOp.afterAll (.new "sea" ∅) [(.createDatabase "lake" false, 1),
    (.createTable ⟨"lake", "boats"⟩ ⟨0, fields, [], [], ∅, none⟩ false, 2)]

/-- A list is refused for a comment below a column, although a column is moved before; without the
comment the column is moved, whatever part of it the path names. -/
theorem nested_path_refused_boats :
    let boats : TableRef := ⟨["lake"], "boats"⟩
    let move : TableChange := .updatePosition ["weight", "unit"] .first
    let note : TableChange := .updateComment ["boat", "name"] (some "as painted")
    (∃ e, (Namespace.alterTable boats [move, note]).outcome (.new twoColumns 3) =
      (.error e, .new twoColumns 3)) ∧
    Namespace.alterTable boats [move] =
      Namespace.alterTable boats [.updatePosition ["weight"] .first] := by
  intro boats move note
  have below : note.Nested := ⟨_, rfl, by decide⟩
  have noticed : ¬TableChange.Overlooked (.updateComment ["boat", "name"] (some "as painted")) := by
    rintro ⟨⟩
  constructor
  · exact (nested_path_refused boats [move, note] twoColumns 3).1 note (by decide) below noticed
  · refine ((nested_path_refused boats [move] twoColumns 3).2 ?_).2
    intro change only _
    rw [List.mem_singleton.mp only]
    exact .move "weight" "unit" [] .first

/-- What a path names below a column is taken for the column, which is moved. -/
theorem column_moved_by_path_below :
    let boats : TableRef := ⟨["lake"], "boats"⟩
    let move : TableChange := .updatePosition ["weight", "unit"] .first
    Reachable twoColumns ∧ move.Nested ∧
      (twoColumns.entry? ⟨"lake", "boats"⟩).map (fun t => (t.schema.id, t.schema.fieldNames)) =
        some (0, ["boat", "weight"]) ∧
      ∃ shown s, (Namespace.alterTable boats [move]).outcome (.new twoColumns 3) =
          (.ok shown, s) ∧
        (s.catalog.entry? ⟨"lake", "boats"⟩).map (fun t => (t.schema.id, t.schema.fieldNames)) =
          some (1, ["weight", "boat"]) := by
  intro boats move
  have reached : Reachable twoColumns := (Reachable.new "sea" ∅).afterAll _
  let outcome := (Namespace.alterTable boats [move]).outcome (.new twoColumns 3)
  have accepted : outcome.1.toOption.isSome = true := by decide +kernel
  obtain ⟨shown, accepted⟩ := exists_ok_of_isSome accepted
  refine ⟨reached, ⟨_, rfl, by decide⟩, by decide +kernel, shown, _, Prod.ext accepted rfl, ?_⟩
  decide +kernel

end TableLake
