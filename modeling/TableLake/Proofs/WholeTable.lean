/-
# TableLake.Proofs.WholeTable — which words ask to compact the whole table

A request without partitions is for the whole table.  A call asks for that with a blank text or
the word `ALL`, an action by giving no partition.  But blank parts are left out wherever
partitions are read, and nothing looks at what is left, so there are more words that come to the
same: a text of semicolons and white space, though it is not blank, and a partition that is named
and left blank or without a value (`whole_table_unasked`).  `compacts_whole_table_iff` has all of
them.  A partition that is read names a key, so none of those in a request stands for the whole
table by itself.
-/
import TableLake.Proofs.CompactionWords
import TableLake.Proofs.OrderedMap
import TableLake.Proofs.SolidParts

namespace TableLake

open TableLake.Outcome TableLake.Text

set_option autoImplicit false

/-! ## Partitions -/

variable {s : String} {specs : List String} {partition : Partition} {partitions : List Partition}

/-- A partition has a key: there is no text without a part. -/
theorem ne_empty_of_readPartition (read : readPartition s = .ok partition) : partition ≠ ∅ := by
  simp only [readPartition, bind_eq_ok_iff, pure_eq_ok_iff] at read
  obtain ⟨pairs, each, rfl⟩ := read
  have parts : split ',' s ≠ [] := by
    rw [split, Ne, List.map_eq_nil_iff]
    exact pieces_ne_nil _ _
  exact OrderedMap.ofList_ne_empty (ne_nil_of_related (mapM_eq_ok_iff.mp each) parts)

theorem ne_empty_of_readPartitions (read : readPartitions specs = .ok partitions) :
    ∀ partition ∈ partitions, partition ≠ ∅ := by
  intro partition inside
  obtain ⟨spec, -, one⟩ := related_of_mem (mapM_eq_ok_iff.mp read).flip inside
  exact ne_empty_of_readPartition one

/-- No partition is read just if all texts are blank. -/
theorem readPartitions_eq_nil_iff :
    readPartitions specs = .ok [] ↔ ∀ s ∈ specs, blank s = true := by
  rw [readPartitions, mapM_eq_ok_iff, List.forall₂_nil_right_iff, List.filter_eq_nil_iff]
  simp only [List.forall_mem_map, isEmpty_trim, Bool.not_eq_true', Bool.not_eq_false]

theorem ne_empty_of_readPartitionChoice (read : readPartitionChoice s = .ok partitions) :
    ∀ partition ∈ partitions, partition ≠ ∅ := by
  unfold readPartitionChoice at read
  split at read
  · cases read
    exact List.forall_mem_nil _
  · exact ne_empty_of_readPartitions read

/-- A text comes to no partition just if it is the word for the whole table or has nothing but
semicolons and white space. -/
theorem readPartitionChoice_eq_nil_iff :
    readPartitionChoice s = .ok [] ↔ trim s = "ALL" ∨ ¬HasPart ';' s := by
  by_cases all : trim s = "ALL"
  · have whole : (blank s || trim s == "ALL") = true := by rw [all]; exact Bool.or_true _
    rw [readPartitionChoice, if_pos whole]
    exact iff_of_true rfl (.inl all)
  · rw [readPartitionChoice_eq all, readPartitions_eq_nil_iff, or_iff_right all, hasPart_iff]
    simp only [not_exists, not_and, Bool.not_eq_false]

/-! ## Requests -/

/-- **Which words ask to compact the whole table.**  The request of a call has no partition just
if the text for them is `ALL`, white space around it, or has nothing but semicolons and white
space; that of an action just if every partition that is given is blank.  And no partition of
a request is one without keys, which every row belongs to. -/
theorem compacts_whole_table_iff (request : CompactRequest) :
    (∀ partitions strategy columns options : String,
      readCompactRequest partitions strategy columns options = .ok request →
        (∀ partition ∈ request.partitions, partition ≠ ∅) ∧
          (request.partitions = [] ↔ trim partitions = "ALL" ∨ ¬HasPart ';' partitions)) ∧
      ∀ (args : ArgumentList) (path : TablePath) (settings : Options),
        Action.read .compact args = .ok (some (.compact path request settings)) →
          (∀ partition ∈ request.partitions, partition ≠ ∅) ∧
            (request.partitions = [] ↔ ∀ text ∈ args.getAll "partition", blank text = true) := by
  constructor
  · intro partitions strategy columns options read
    obtain ⟨_, _, parts, -, -, cut, rfl⟩ := readCompactRequest_ok_iff.mp read
    refine ⟨ne_empty_of_readPartitionChoice cut, ?_⟩
    rw [← readPartitionChoice_eq_nil_iff, cut, Except.ok.injEq]
  · intro args path settings read
    have cut := (ArgumentList.asks_of_read read).partitions
    refine ⟨ne_empty_of_readPartitions cut, ?_⟩
    rw [← readPartitions_eq_nil_iff, cut, Except.ok.injEq]

/-- The arguments of an action on the catch of the lake that gives these partitions. -/
def catchArgs (partitions : List (Option String)) : ArgumentList :=
  .ofGroups ([("warehouse", some "sea"), ("database", some "lake"), ("table", some "catch")] ++
    partitions.map fun partition => ("partition", partition))

/-- The first day of the catch, among blank parts. -/
theorem compacts_whole_table_iff_first_day :
    let day : CompactRequest := ⟨[.ofList [("day", "1")]], none, ∅⟩
    readCompactRequest " ;day=1;" "" "" "" = .ok day ∧
      Action.read .compact (catchArgs [some " ", some "day=1"]) =
        .ok (some (.compact ⟨"sea", "lake", "catch"⟩ day ∅)) ∧
      HasPart ';' " ;day=1;" ∧
      ¬∀ text ∈ (catchArgs [some " ", some "day=1"]).getAll "partition", blank text = true := by
  intro day
  have call : readCompactRequest " ;day=1;" "" "" "" = .ok day := by decide +kernel
  have action : Action.read .compact (catchArgs [some " ", some "day=1"]) =
      .ok (some (.compact ⟨"sea", "lake", "catch"⟩ day ∅)) := by decide +kernel
  have some_part : day.partitions ≠ [] := List.cons_ne_nil _ _
  obtain ⟨of_call, of_action⟩ := compacts_whole_table_iff day
  have words := (of_call _ _ _ _ call).2.not.mp some_part
  exact ⟨call, action, not_not.mp (not_or.mp words).2,
    (of_action _ _ _ action).2.not.mp some_part⟩

/-- A text that is neither blank nor the word for the whole table, and a partition that is named
and has no value, come to the whole table. -/
theorem whole_table_unasked :
    let whole : CompactRequest := ⟨[], none, ∅⟩
    (blank " ; ;" = false ∧ trim " ; ;" ≠ "ALL" ∧
        readCompactRequest " ; ;" "" "" "" = .ok whole) ∧
      (catchArgs [none]).has "partition" = true ∧
      ArgumentList.read ["--warehouse", "sea", "--database", "lake", "--table", "catch",
        "--partition"] = .ok (catchArgs [none]) ∧
      Action.read .compact (catchArgs [none]) =
        .ok (some (.compact ⟨"sea", "lake", "catch"⟩ whole ∅)) := by
  decide +kernel

end TableLake
