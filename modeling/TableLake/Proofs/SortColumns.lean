/-
# TableLake.Proofs.SortColumns — what a sort compaction sorts by

A strategy comes with columns and columns with a strategy.  Whether they are there is asked of the
texts, before the columns are cut, trimmed and rid of blank parts.  What is left of them are solid
names, and a compaction is committed only if the table has all of these.  But a text of commas and
white space is not blank, and nothing is left of it; so there is a compaction that is reported as a
sort compaction and sorts by no column (`sorted_by_nothing`).  It takes a character that is neither
white space nor a comma in the text of the columns, and nothing else, for a sort compaction to sort
by an existing column (`sorts_by_column_iff`).
-/
import TableLake.Proofs.CatalogEntry
import TableLake.Proofs.CompactionWords
import TableLake.Proofs.History
import TableLake.Proofs.SolidParts

namespace TableLake

open TableLake.Outcome TableLake.Text

set_option autoImplicit false

/-- The columns of a request as they were written: the text of a call or of an action. -/
inductive CompactRequest.Asked (request : CompactRequest) : String → Prop
  | call {partitions strategy columns options : String}
      (read : readCompactRequest partitions strategy columns options = .ok request) :
      Asked request columns
  | action {args : ArgumentList} {path : TablePath} {settings : Options} {given : Option String}
      (read : Action.read .compact args = .ok (some (.compact path request settings)))
      (named : args.get "order-by" = .ok given) : Asked request (given.getD "")

/-- The order of a request is read from its columns and some strategy. -/
theorem CompactRequest.Asked.order {request : CompactRequest} {columns : String}
    (asked : request.Asked columns) :
    ∃ strategy, readSortOrder strategy columns = .ok request.order := by
  cases asked with
  | call read =>
      obtain ⟨_, order, _, -, sorted, -, rfl⟩ := readCompactRequest_ok_iff.mp read
      exact ⟨_, sorted⟩
  | action read named =>
      obtain ⟨strategy, columns, -, again, sorted⟩ := (ArgumentList.asks_of_read read).order
      rw [named, Except.ok.injEq] at again
      subst again
      exact ⟨_, sorted⟩

theorem CompactRequest.jobName_eq_sort_iff {request : CompactRequest} :
    request.jobName = "Sort Compact Job" ↔ ∃ order, request.order = some order := by
  rw [jobName, ← Option.isSome_iff_exists]
  split
  · rename_i sorted
    exact iff_of_true rfl sorted
  · rename_i plain
    exact iff_of_false (by decide) plain

/-- A request is admitted just if the table has its keys and columns. -/
theorem TableEntry.admitRequest_ok_iff {t : TableEntry} {id : TableId} {request : CompactRequest} :
    t.admitRequest id request = .ok () ↔
      (∀ partition ∈ request.partitions, t.foreignKey partition = none) ∧
        ∀ order, request.order = some order →
          ∀ column ∈ order.columns, (t.schema.field? column).isSome = true := by
  have keys : request.partitions.findSome? t.foreignKey = none ↔
      ∀ partition ∈ request.partitions, t.foreignKey partition = none :=
    List.findSome?_eq_none_iff
  rw [← keys]
  unfold admitRequest
  cases request.partitions.findSome? t.foreignKey with
  | some key => exact iff_of_false (by rintro ⟨⟩) (by rintro ⟨⟨⟩, -⟩)
  | none =>
      cases request.order with
      | none => exact iff_of_true rfl ⟨rfl, by rintro order ⟨⟩⟩
      | some order =>
          have columns :
              (order.columns.find? fun column => (t.schema.field? column).isNone) = none ↔
                ∀ column ∈ order.columns, (t.schema.field? column).isSome = true := by
            rw [List.find?_eq_none]
            simp only [Bool.not_eq_true, Option.isNone_eq_false_iff]
          simp only [Option.some.injEq, forall_eq', true_and, ← columns]
          cases order.columns.find? fun column => (t.schema.field? column).isNone with
          | some column => exact iff_of_false (by rintro ⟨⟩) (by rintro ⟨⟩)
          | none => exact iff_of_true rfl rfl

/-- **A sort compaction sorts by what is left of the text of its columns.**  No order is asked for
just if both texts are blank; else its columns are solid and trimmed names without commas, and
there are any just if the text has something else than commas and white space.  So, if a request
from the texts of a call or of an action makes a snapshot and is reported as a sort compaction,
the table has all columns of its order, and the order has one just if the text has something else
than commas and white space. -/
theorem sorts_by_column_iff (strategy columns : String) :
    (readSortOrder strategy columns = .ok none ↔ blank strategy = true ∧ blank columns = true) ∧
      (∀ order, readSortOrder strategy columns = .ok (some order) →
        (∀ column ∈ order.columns,
            blank column = false ∧ trim column = column ∧ ',' ∉ column.toList) ∧
          (order.columns ≠ [] ↔ HasPart ',' columns)) ∧
      ∀ {c c' : Catalog} {id : TableId} {request : CompactRequest} {now : Int} {s : Snapshot},
        request.Asked columns → c.compact id request now = .ok (c', some s) →
          request.jobName = "Sort Compact Job" →
            ∃ t order, c.entry? id = some t ∧ request.order = some order ∧
              (∀ column ∈ order.columns, (t.schema.field? column).isSome = true) ∧
              ((∃ column, column ∈ order.columns) ↔ HasPart ',' columns) := by
  have parts {strategy : String} {order : SortOrder}
      (read : readSortOrder strategy columns = .ok (some order)) :
      solidParts ',' columns = order.columns := (readSortOrder_eq_some_iff.mp read).2.2.2
  refine ⟨readSortOrder_eq_none_iff, fun order read => ?_, ?_⟩
  · rw [← parts read]
    exact ⟨fun column inside => solid_of_mem_solidParts inside, solidParts_ne_nil_iff⟩
  · intro c c' id request now s asked done sorted
    obtain ⟨t, t', found, compacted, -⟩ := Catalog.compact_ok_iff.mp done
    obtain ⟨admitted, -⟩ := TableEntry.compact_ok_iff.mp compacted
    obtain ⟨order, given⟩ := CompactRequest.jobName_eq_sort_iff.mp sorted
    obtain ⟨strategy, read⟩ := asked.order
    have known := (TableEntry.admitRequest_ok_iff.mp admitted).2 order given
    refine ⟨t, order, found, given, known, ?_⟩
    rw [given] at read
    rw [← parts read, ← solidParts_ne_nil_iff]
    exact ⟨fun ⟨_, inside⟩ => List.ne_nil_of_mem inside, List.exists_mem_of_ne_nil _⟩

/-- The catch is sorted by weight, whatever stands around it. -/
theorem sorts_by_column_iff_weight :
    let c := CatalogOp.afterAll (.new "sea" ∅) (catchRun.take 3)
    let order : SortOrder := ⟨.zorder, ["weight"]⟩
    ∃ request c' s, readCompactRequest "" " ZOrder" ", weight ," "" = .ok request ∧
      c.compact ⟨"lake", "catch"⟩ request 60 = .ok (c', some s) ∧ s.id = 2 ∧
      request.jobName = "Sort Compact Job" ∧ request.order = some order ∧
      (blank "weight" = false ∧ trim "weight" = "weight" ∧ ',' ∉ "weight".toList) ∧
      HasPart ',' ", weight ," ∧
      (c.entry? ⟨"lake", "catch"⟩).map (fun t => (t.schema.field? "weight").isSome) =
        some true := by
  intro c order
  let request : CompactRequest := ⟨[], some order, ∅⟩
  have read : readCompactRequest "" " ZOrder" ", weight ," "" = .ok request := by decide +kernel
  have sorted : readSortOrder " ZOrder" ", weight ," = .ok (some order) := by decide +kernel
  have done : ((c.compact ⟨"lake", "catch"⟩ request 60).toOption.bind fun made =>
      made.2.map Snapshot.id) = some 2 := by
    decide +kernel
  obtain ⟨⟨c', answer⟩, done, answered⟩ := Option.bind_eq_some_iff.mp done
  obtain ⟨s, rfl, number⟩ := Option.map_eq_some_iff.mp answered
  have done := toOption_eq_some_iff.mp done
  obtain ⟨-, of_text, of_commit⟩ := sorts_by_column_iff " ZOrder" ", weight ,"
  obtain ⟨solid, some_part⟩ := of_text order sorted
  obtain ⟨t, order', found, given, known, -⟩ := of_commit (.call read) done rfl
  cases given
  refine ⟨request, c', s, read, done, number, rfl, rfl, solid "weight" (by simp [order]),
    some_part.mp (List.cons_ne_nil _ _), ?_⟩
  rw [found, Option.map_some, known "weight" (by simp [order])]

/-- A comma alone is not blank, and a compaction by it is reported as a sort compaction and
sorts by nothing. -/
theorem sorted_by_nothing :
    let c := CatalogOp.afterAll (.new "sea" ∅) (catchRun.take 3)
    let request : CompactRequest := ⟨[], some ⟨.order, []⟩, ∅⟩
    blank "order" = false ∧ blank "," = false ∧
      readSortOrder "order" "," = .ok (some ⟨.order, []⟩) ∧
      readCompactRequest "" "order" "," "" = .ok request ∧
      request.jobName = "Sort Compact Job" ∧
      ∃ c' s, c.compact ⟨"lake", "catch"⟩ request 60 = .ok (c', some s) := by
  intro c request
  have done : ((c.compact ⟨"lake", "catch"⟩ request 60).toOption.bind fun made =>
      made.2.map Snapshot.id) = some 2 := by
    decide +kernel
  obtain ⟨⟨c', answer⟩, done, answered⟩ := Option.bind_eq_some_iff.mp done
  obtain ⟨s, rfl, -⟩ := Option.map_eq_some_iff.mp answered
  exact ⟨by decide +kernel, by decide +kernel, by decide +kernel, by decide +kernel, rfl, c', s,
    toOption_eq_some_iff.mp done⟩

end TableLake
