/-
# TableLake.Proofs.TableName — which texts name a table, and which table they name

A written name is cut at its points.  It falls into two parts just if it has one point
(`pieces_eq_pair_iff`), and something has to stand on either side (`OnePoint`).  The tables that
are written so are those whose two names hold no point and are not empty (`Nameable`), and for them
writing and reading are inverse to each other (`TableId.read_ok_iff`).

Other tables have texts too, and two of them may have the same: `a.b.c` is written for the table
`b.c` in `a` and for `c` in `a.b`.  Such a text is not read.  One that is read is not the text of
any other table (`TableId.Nameable.eq_of_text`), so a call that is accepted has worked on the only
table that its text can mean (`table_names_round_trip`).
-/
import TableLake.Proofs.CompactionWords
import TableLake.Proofs.ProcedureEffect
import TableLake.Proofs.SolidParts

namespace TableLake

open TableLake.Text TableLake.Outcome

set_option autoImplicit false

/-! ## Two parts -/

namespace Text

variable {sep : Char} {cs before after : List Char}

/-- A text is cut into two parts at the only separator in it. -/
theorem pieces_eq_pair_iff :
    pieces sep cs = [before, after] ↔ cs = before ++ sep :: after ∧ sep ∉ before ∧ sep ∉ after := by
  constructor
  · intro parts
    have whole := joined_pieces sep cs
    have absent {piece : List Char} (inside : piece ∈ pieces sep cs) : sep ∉ piece :=
      not_mem_of_mem_pieces inside
    rw [parts] at whole absent
    exact ⟨whole.symm, absent (by simp), absent (by simp)⟩
  · rintro ⟨rfl, first, second⟩
    rw [pieces_append_cons after first, pieces_of_not_mem second]

theorem split_eq_pair_iff {s a b : String} : split sep s = [a, b] ↔
    s.toList = a.toList ++ sep :: b.toList ∧ sep ∉ a.toList ∧ sep ∉ b.toList := by
  rw [← pieces_eq_pair_iff, split]
  constructor
  · intro parts
    have back := congrArg (List.map String.toList) parts
    rw [List.map_map] at back
    simpa [Function.comp_def] using back
  · intro parts
    simp [parts]

theorem absent_of_once (once : (before ++ sep :: after).count sep = 1) :
    sep ∉ before ∧ sep ∉ after := by
  rw [List.count_append, List.count_cons_self] at once
  exact ⟨List.not_mem_of_count_eq_zero (by omega), List.not_mem_of_count_eq_zero (by omega)⟩

/-- Where there is one separator, every cut at a separator is the one into pieces. -/
theorem pieces_of_once (once : cs.count sep = 1) (cut : cs = before ++ sep :: after) :
    pieces sep cs = [before, after] := by
  subst cut
  exact pieces_eq_pair_iff.mpr ⟨rfl, absent_of_once once⟩

theorem count_eq_one_of_absent (first : sep ∉ before) (second : sep ∉ after) :
    (before ++ sep :: after).count sep = 1 := by
  rw [List.count_append, List.count_cons_self, List.count_eq_zero_of_not_mem first,
    List.count_eq_zero_of_not_mem second]

end Text

/-! ## Texts that name tables -/

/-- A text has one point, and something stands on either side of it. -/
structure OnePoint (s : String) : Prop where
  once : s.toList.count '.' = 1
  between : ∀ before after, s.toList = before ++ '.' :: after → before ≠ [] ∧ after ≠ []

namespace TableId

variable {s : String} {id other : TableId}

/-- The two names of a table hold no point and are not empty. -/
structure Nameable (id : TableId) : Prop where
  database : '.' ∉ id.database.toList
  object : '.' ∉ id.object.toList
  hasDatabase : id.database ≠ ""
  hasObject : id.object ≠ ""

theorem toList_text (id : TableId) :
    id.text.toList = id.database.toList ++ '.' :: id.object.toList := by
  simp [text]

/-- **Reading and writing are inverse to each other.** -/
theorem ofText?_eq_some_iff : ofText? s = some id ↔ id.Nameable ∧ id.text = s := by
  constructor
  · intro found
    unfold ofText? at found
    split at found
    · rename_i database object parts
      obtain ⟨whole, first, second⟩ := split_eq_pair_iff.mp parts
      split at found
      · cases found
      · rename_i solid
        cases found
        simp only [Bool.or_eq_true, String.isEmpty_iff, not_or] at solid
        refine ⟨⟨first, second, solid.1, solid.2⟩, String.toList_injective ?_⟩
        rw [toList_text, whole]
    · cases found
  · rintro ⟨nameable, rfl⟩
    exact ofText?_text id nameable.database nameable.object nameable.hasDatabase
      nameable.hasObject

theorem read_ok_iff : TableId.read s = .ok id ↔ id.Nameable ∧ id.text = s := by
  rw [← ofText?_eq_some_iff, TableId.read]
  cases ofText? s <;> simp

theorem Nameable.count_text (nameable : id.Nameable) : id.text.toList.count '.' = 1 := by
  rw [toList_text]
  exact count_eq_one_of_absent nameable.database nameable.object

/-- **A text that is read is the text of one table only**, be the others nameable or not. -/
theorem Nameable.eq_of_text (nameable : id.Nameable) (same : other.text = id.text) :
    other = id := by
  have once := nameable.count_text
  have parts := pieces_of_once once (toList_text id)
  have parts' := pieces_of_once once (same ▸ toList_text other)
  rw [parts, List.cons.injEq, List.cons.injEq] at parts'
  obtain ⟨database, object, -⟩ := parts'
  cases id
  cases other
  cases String.toList_injective database
  cases String.toList_injective object
  rfl

/-- A text with two points is that of two tables, and is not read. -/
example : (⟨"lake.catch", "day"⟩ : TableId).text = (⟨"lake", "catch.day"⟩ : TableId).text ∧
    TableId.ofText? "lake.catch.day" = none := by
  decide +kernel

/-- A text names some table just if it has one point and something on either side of it. -/
theorem exists_nameable_iff : (∃ id : TableId, id.Nameable ∧ id.text = s) ↔ OnePoint s := by
  constructor
  · rintro ⟨id, nameable, rfl⟩
    refine ⟨nameable.count_text, fun before after cut => ?_⟩
    have parts := pieces_of_once nameable.count_text (toList_text id)
    rw [pieces_of_once nameable.count_text cut, List.cons.injEq, List.cons.injEq] at parts
    obtain ⟨rfl, rfl, -⟩ := parts
    simpa using And.intro nameable.hasDatabase nameable.hasObject
  · rintro ⟨once, between⟩
    obtain ⟨before, after, cut, -⟩ :=
      List.eq_append_cons_of_mem (List.count_pos_iff.mp (once ▸ Nat.one_pos))
    obtain ⟨hasDatabase, hasObject⟩ := between before after cut
    obtain ⟨first, second⟩ := absent_of_once (cut ▸ once)
    refine ⟨⟨String.ofList before, String.ofList after⟩, ?_, String.toList_injective ?_⟩
    · exact ⟨by simpa using first, by simpa using second, by simpa using hasDatabase,
        by simpa using hasObject⟩
    · simp [toList_text, cut]

end TableId

/-! ## Calls -/

namespace BoundArguments

variable {args : BoundArguments} {name word : String} {id : TableId}

theorem requiredText_ok_iff :
    args.requiredText name = .ok word ↔ args.text name = .ok (some word) ∧ blank word = false := by
  rw [requiredText, bind_eq_ok_iff]
  constructor
  · rintro ⟨_ | given, found, solid⟩
    · cases solid
    · simp only at solid
      split at solid
      · cases solid
      · rename_i solid'
        cases solid
        exact ⟨found, Bool.eq_false_iff.mpr solid'⟩
  · rintro ⟨found, solid⟩
    exact ⟨some word, found, by simp [solid, pure_eq_ok_iff]⟩

/-- A call is about the table whose text it is given. -/
theorem tableId_ok_iff :
    args.tableId = .ok id ↔ id.Nameable ∧ args.text "table" = .ok (some id.text) := by
  simp only [tableId, bind_eq_ok_iff, fromCatalog_ok_iff, requiredText_ok_iff, TableId.read_ok_iff]
  constructor
  · rintro ⟨_, ⟨given, -⟩, nameable, rfl⟩
    exact ⟨nameable, given⟩
  · rintro ⟨nameable, given⟩
    have solid : blank id.text = false := by
      rw [Bool.eq_false_iff, Ne, blank_iff]
      intro all
      exact absurd (all '.' (by simp [TableId.text])) (by decide)
    exact ⟨_, ⟨given, solid⟩, nameable, rfl⟩

end BoundArguments

theorem Procedure.Does.named {p : Procedure} {args : BoundArguments} {c c' : Catalog} {now : Int}
    {id : TableId} {message : String} (does : p.Does args c now id c' message) :
    args.tableId = .ok id := by
  cases does with
  | compact named => exact named
  | rollbackTo named => exact named

/-- **A written name means one table or none.**  The texts that are read are those with one point
and something on either side of it.  A text is read as a table just if the names of the table hold
no point and are not empty and the text is the table's; then it is the text of no other table,
whatever the names of the others.  So a procedure that answers was given the text of a table that
is there, that only this table has, and has changed nothing else in the catalog. -/
theorem table_names_round_trip :
    (∀ text, (∃ id, TableId.read text = .ok id) ↔ OnePoint text) ∧
    (∀ text id, TableId.read text = .ok id ↔ id.Nameable ∧ id.text = text) ∧
    (∀ text id other, TableId.read text = .ok id → other.text = text → other = id) ∧
    ∀ (p : Procedure) (args : BoundArguments) (s s' : Store) (messages : List String),
      (p.call args).outcome s = (.ok messages, s') →
        ∃ id, args.text "table" = .ok (some id.text) ∧ (∀ other, other.text = id.text → other = id) ∧
          (∃ t, s.catalog.entry? id = some t) ∧ s.catalog.SameBut id s'.catalog := by
  refine ⟨fun text => ?_, fun text id => TableId.read_ok_iff, fun text id other read same => ?_,
    fun p args s s' messages answered => ?_⟩
  · rw [← TableId.exists_nameable_iff]
    exact exists_congr fun id => TableId.read_ok_iff
  · obtain ⟨nameable, rfl⟩ := TableId.read_ok_iff.mp read
    exact nameable.eq_of_text same
  · obtain ⟨left, -, ⟨e, refused, -⟩ | ⟨told, done, id, message, -, does⟩⟩ :=
      Procedure.effects_call p args s
    · rw [answered] at refused
      cases refused
    · rw [answered] at done
      cases done
      obtain ⟨nameable, given⟩ := BoundArguments.tableId_ok_iff.mp does.named
      obtain ⟨t, -, found, -⟩ := does.exists_entry
      exact ⟨id, given, fun other => nameable.eq_of_text, ⟨t, found⟩, does.sameBut⟩

/-- A table is named, and a rollback finds it by this name. -/
theorem table_names_round_trip_catch :
    let here : TableId := ⟨"lake", "catch"⟩
    let c := CatalogOp.afterAll (.new "sea" ∅) (catchRun.take 6)
    let args : BoundArguments :=
      ⟨Procedure.rollbackTo.parameters, [.ofText "lake.catch", .ofText "first"]⟩
    OnePoint "lake.catch" ∧ (∀ other : TableId, other.text = "lake.catch" → other = here) ∧
      ∃ left, (Procedure.rollbackTo.call args).outcome (.new c 60) =
          (.ok ["Rolled back lake.catch to tag first"], left) ∧
        c.SameBut here left.catalog ∧ left.catalog ≠ c := by
  intro here c args
  obtain ⟨reads, -, single, calls⟩ := table_names_round_trip
  have read : TableId.read "lake.catch" = .ok here := by decide +kernel
  let outcome := (Procedure.rollbackTo.call args).outcome (.new c 60)
  have told : outcome.1.toOption = some ["Rolled back lake.catch to tag first"] := by
    decide +kernel
  have answered : outcome = (.ok ["Rolled back lake.catch to tag first"], outcome.2) :=
    Prod.ext (toOption_eq_some_iff.mp told) rfl
  have cut : outcome.2.catalog ≠ c := by decide +kernel
  obtain ⟨id, given, -, -, kept⟩ := calls .rollbackTo args _ _ _ answered
  have same : args.text "table" = .ok (some "lake.catch") := by decide +kernel
  rw [same] at given
  cases single _ here id read (by simpa [eq_comm] using given)
  exact ⟨(reads _).mp ⟨here, read⟩, fun other => single _ here other read, outcome.2, answered,
    kept, cut⟩

end TableLake
