/-
# TableLake.Proofs.CompactionWords — a compaction asked for by a call or by an action

A call gives the partitions and the settings of a compaction as one text each, an action one
by one.  The two are cut, trimmed and rid of blank parts at different places: an action looks
at its settings without trimming them, a call trims a setting before it cuts it at the equal
sign and its key and value after that.  Both come to the same request
(`compact_words_iff_texts`): joined texts fall back into their parts (`split_intercalate`), a
setting is read alike trimmed or not (`readKeyValue_trim_ok_iff`), and a text that stands for
the whole table has no partition in it that an action could miss
(`readPartitionChoice_eq`).
-/
import TableLake.Action
import TableLake.Proofs.Outcome
import TableLake.Proofs.Trimming

namespace TableLake

open TableLake.Outcome TableLake.Text

set_option autoImplicit false

theorem fromCatalog_ok_iff {α : Type} {outcome : Except CatalogError α} {a : α} :
    fromCatalog outcome = .ok a ↔ outcome = .ok a := by
  cases outcome with
  | error e => exact iff_of_false (by rintro ⟨⟩) (by rintro ⟨⟩)
  | ok b => exact ⟨fun same => Except.ok.inj same ▸ rfl, fun same => Except.ok.inj same ▸ rfl⟩

/-! ## Settings -/

/-- A pair is read as what stands before and after its first equal sign, both trimmed. -/
theorem readKeyValue_ok_iff {pair : String} {entry : String × String} :
    readKeyValue pair = .ok entry ↔
      ∃ cut, cutOnce '=' pair.toList = some cut ∧ trimmed cut.1 ≠ [] ∧
        entry = (String.ofList (trimmed cut.1), String.ofList (trimmed cut.2)) := by
  unfold readKeyValue splitOnce
  cases cutOnce '=' pair.toList with
  | none => exact iff_of_false (by rintro ⟨⟩) (by rintro ⟨_, ⟨⟩, -⟩)
  | some cut =>
      have solid : blank (String.ofList cut.1) = true ↔ trimmed cut.1 = [] := by
        rw [blank_iff, String.toList_ofList, trimmed_eq_nil_iff]
      have named (cs : List Char) : trim (String.ofList cs) = String.ofList (trimmed cs) := by
        rw [trim, String.toList_ofList]
      simp only [Option.map_some, named, Option.some.injEq, exists_eq_left', solid]
      split
      · rename_i empty
        exact iff_of_false (by rintro ⟨⟩) fun given => given.1 empty
      · rename_i some
        rw [Except.ok.injEq, eq_comm]
        exact (and_iff_right some).symm

/-- White space around a pair makes no difference. -/
theorem readKeyValue_trim_ok_iff {pair : String} {entry : String × String} :
    readKeyValue (trim pair) = .ok entry ↔ readKeyValue pair = .ok entry := by
  have solid : isBlank '=' = false := by decide
  rw [readKeyValue_ok_iff, readKeyValue_ok_iff, trim, String.toList_ofList,
    cutOnce_trimmed solid]
  cases cutOnce '=' pair.toList with
  | none => exact iff_of_false (by rintro ⟨_, ⟨⟩, -⟩) (by rintro ⟨_, ⟨⟩, -⟩)
  | some cut =>
      simp only [Option.map_some, Option.some.injEq, exists_eq_left', trimmed_trimmedLeft,
        trimmed_trimmedRight]

theorem solidParts_intercalate {sep : Char} {parts : List String}
    (solid : ∀ p ∈ parts, blank p = false ∧ sep ∉ p.toList) :
    solidParts sep ((String.singleton sep).intercalate parts) = parts.map trim := by
  rw [solidParts]
  cases parts with
  | nil => rfl
  | cons p ps =>
      have cut : split sep ((String.singleton sep).intercalate (p :: ps)) = p :: ps :=
        split_intercalate (List.cons_ne_nil _ _) fun q inside => (solid q inside).2
      rw [cut, List.filter_eq_self]
      intro part inside
      obtain ⟨q, there, rfl⟩ := List.mem_map.mp inside
      rw [isEmpty_trim, (solid q there).1]
      rfl

/-- Settings are the same one by one and with commas between. -/
theorem readKeyValues_intercalate_ok_iff {parts : List String} {options : Options}
    (solid : ∀ p ∈ parts, blank p = false ∧ ',' ∉ p.toList) :
    readKeyValues (",".intercalate parts) = .ok options ↔
      ∃ pairs, (parts.mapM fun pair => fromCatalog (readKeyValue pair)) = .ok pairs ∧
        OrderedMap.ofList pairs = options := by
  have cut : solidParts ',' (",".intercalate parts) = parts.map trim :=
    solidParts_intercalate solid
  unfold readKeyValues
  rw [cut]
  simp only [bind_eq_ok_iff, pure_eq_ok_iff]
  refine exists_congr fun pairs => and_congr_left fun _ => ?_
  simp only [mapM_eq_ok_iff, List.forall₂_map_left_iff, fromCatalog_ok_iff,
    readKeyValue_trim_ok_iff]

/-! ## Partitions -/

/-- Blank texts hold no partitions. -/
theorem readPartitions_of_blank {specs : List String} (all : ∀ s ∈ specs, blank s = true) :
    readPartitions specs = .ok [] := by
  have none : (specs.map trim).filter (fun s => !s.isEmpty) = [] := by
    refine List.filter_eq_nil_iff.mpr fun part inside => ?_
    obtain ⟨s, there, rfl⟩ := List.mem_map.mp inside
    rw [isEmpty_trim, all s there]
    exact Bool.false_ne_true
  rw [readPartitions, none]
  rfl

/-- Unless the text is the word for the whole table, the partitions of a request are those
between its semicolons. -/
theorem readPartitionChoice_eq {s : String} (some : trim s ≠ "ALL") :
    readPartitionChoice s = readPartitions (split ';' s) := by
  unfold readPartitionChoice
  split
  · rename_i whole
    rcases Bool.or_eq_true_iff.mp whole with empty | all
    · exact (readPartitions_of_blank fun part inside => blank_of_mem_split empty inside).symm
    · exact absurd (beq_iff_eq.mp all) some
  · rfl

/-- Partitions are the same one by one and with semicolons between. -/
theorem readPartitions_split_intercalate {specs : List String}
    (free : ∀ s ∈ specs, ';' ∉ s.toList) :
    readPartitions (split ';' (";".intercalate specs)) = readPartitions specs := by
  cases specs with
  | nil => rfl
  | cons s rest =>
      have cut : split ';' (";".intercalate (s :: rest)) = s :: rest :=
        split_intercalate (List.cons_ne_nil _ _) free
      rw [cut]

/-! ## Orders -/

section Orders

variable {strategy columns : String} {order : SortOrder}

/-- No order is asked for just if both texts are blank. -/
theorem readSortOrder_eq_none_iff :
    readSortOrder strategy columns = .ok none ↔ blank strategy = true ∧ blank columns = true := by
  unfold readSortOrder
  split
  · rename_i first second
    exact iff_of_true rfl ⟨first, second⟩
  · rename_i first _
    rw [bind_eq_ok_iff, first]
    refine iff_of_false ?_ (fun both => Bool.false_ne_true both.1)
    rintro ⟨kind, -, made⟩
    cases pure_eq_ok_iff.mp made
  · rename_i neither _
    exact iff_of_false (by rintro ⟨⟩) fun both => neither both.1 both.2

/-- An order is asked for just if neither text is blank; its columns are the solid parts of the
second. -/
theorem readSortOrder_eq_some_iff :
    readSortOrder strategy columns = .ok (some order) ↔
      blank strategy = false ∧ blank columns = false ∧
        OrderStrategy.read strategy = .ok order.strategy ∧
        solidParts ',' columns = order.columns := by
  unfold readSortOrder
  split
  · rename_i first _
    exact iff_of_false (by rintro ⟨⟩) fun given => Bool.false_ne_true (given.1.symm.trans first)
  · rename_i first second
    obtain ⟨kind, names⟩ := order
    simp only [bind_eq_ok_iff, pure_eq_ok_iff, fromCatalog_ok_iff, Option.some.injEq,
      SortOrder.mk.injEq, first, second, true_and]
    constructor
    · rintro ⟨_, read, rfl, rfl⟩
      exact ⟨read, rfl⟩
    · rintro ⟨read, rfl⟩
      exact ⟨kind, read, rfl, rfl⟩
  · rename_i _ other
    exact iff_of_false (by rintro ⟨⟩) fun given => other given.1 given.2.1

end Orders

/-! ## Words -/

/-- The keys that a compaction takes from its arguments, settings of the catalog apart. -/
def compactKeys : List String :=
  ["warehouse", "database", "table", "partition", "order-strategy", "order-by", "table-conf"]

/-- The arguments name a table and give the parts of a compaction, and nothing else. -/
structure ArgumentList.Gives (args : ArgumentList) (path : TablePath) (partitions : List String)
    (strategy columns : String) (settings : List String) : Prop where
  path : TablePath.read args = .ok path
  partitions : args.getAll "partition" = partitions
  strategy : args.getAll "order-strategy" = [strategy]
  columns : args.getAll "order-by" = [columns]
  settings : args.getAll "table-conf" = settings
  only : ∀ key, args.has key = true → key ∈ compactKeys

namespace ArgumentList

variable {args : ArgumentList} {path : TablePath} {partitions settings : List String}
variable {strategy columns key : String}

theorem getAll_of_not_has (missing : args.has key = false) : args.getAll key = [] := by
  rw [getAll, Option.isNone_iff_eq_none.mp (Option.isSome_eq_false_iff.mp missing)]
  rfl

theorem get_of_single {value : String} (single : args.getAll key = [value]) :
    args.get key = .ok (some value) := by
  rw [get, single]

theorem settings_ok_iff {options : Options} :
    args.settings key = .ok options ↔
      ∃ pairs, ((args.getAll key).mapM fun pair => fromCatalog (readKeyValue pair)) = .ok pairs ∧
        OrderedMap.ofList pairs = options := by
  simp only [settings, bind_eq_ok_iff, pure_eq_ok_iff]

theorem Gives.not_has (gives : args.Gives path partitions strategy columns settings)
    (foreign : key ∉ compactKeys) : args.has key = false :=
  Bool.not_eq_true _ ▸ fun there => foreign (gives.only key there)

/-- A key that is not given settles nothing. -/
theorem settings_of_not_has (missing : args.has key = false) : args.settings key = .ok ∅ := by
  rw [settings, getAll_of_not_has missing]
  rfl

/-- What an action for a compaction is made from. -/
theorem Gives.read_ok_iff (gives : args.Gives path partitions strategy columns settings)
    {answer : Option Action} :
    Action.read .compact args = .ok answer ↔
      ∃ parts order options, readPartitions partitions = .ok parts ∧
        readSortOrder strategy columns = .ok order ∧ args.settings "table-conf" = .ok options ∧
        answer = some (.compact path ⟨parts, order, options⟩ ∅) := by
  have help : args.has "help" = false := gives.not_has (by decide)
  have catalog : args.settings "catalog-conf" = .ok ∅ :=
    settings_of_not_has (gives.not_has (by decide))
  unfold Action.read
  rw [help, if_neg Bool.false_ne_true]
  simp only [map_eq_ok_iff, Action.readCompact, bind_eq_ok_iff, pure_eq_ok_iff, gives.path,
    gives.partitions, get_of_single gives.strategy, get_of_single gives.columns, catalog,
    Except.ok.injEq, exists_eq_left', Option.getD_some]
  constructor
  · rintro ⟨_, ⟨parts, first, order, second, options, third, rfl⟩, rfl⟩
    exact ⟨parts, order, options, first, second, third, rfl⟩
  · rintro ⟨parts, order, options, first, second, third, rfl⟩
    exact ⟨_, ⟨parts, first, order, second, options, third, rfl⟩, rfl⟩

/-- The arguments ask to compact a table by a request, with settings for its catalog. -/
structure Asks (args : ArgumentList) (path : TablePath) (request : CompactRequest)
    (catalogSettings : Options) : Prop where
  path : TablePath.read args = .ok path
  partitions : readPartitions (args.getAll "partition") = .ok request.partitions
  order : ∃ strategy columns, args.get "order-strategy" = .ok strategy ∧
    args.get "order-by" = .ok columns ∧
    readSortOrder (strategy.getD "") (columns.getD "") = .ok request.order
  tableOptions : args.settings "table-conf" = .ok request.tableOptions
  catalogSettings : args.settings "catalog-conf" = .ok catalogSettings

/-- An action to compact a table comes from arguments that ask for it. -/
theorem asks_of_read {request : CompactRequest} {catalogSettings : Options}
    (read : Action.read .compact args = .ok (some (.compact path request catalogSettings))) :
    args.Asks path request catalogSettings := by
  unfold Action.read at read
  split at read
  · cases read
  · simp only [map_eq_ok_iff, Action.readCompact, bind_eq_ok_iff, pure_eq_ok_iff] at read
    obtain ⟨_, ⟨_, place, parts, cut, strategy, first, columns, second, order, sorted, options, set,
      settings, further, rfl⟩, same⟩ := read
    cases same
    exact ⟨place, cut, ⟨strategy, columns, first, second, sorted⟩, set, further⟩

end ArgumentList

/-- What a request is made from. -/
theorem readCompactRequest_ok_iff {partitions strategy columns options : String}
    {request : CompactRequest} :
    readCompactRequest partitions strategy columns options = .ok request ↔
      ∃ tableOptions order parts, readKeyValues options = .ok tableOptions ∧
        readSortOrder strategy columns = .ok order ∧ readPartitionChoice partitions = .ok parts ∧
        ⟨parts, order, tableOptions⟩ = request := by
  simp only [readCompactRequest, bind_eq_ok_iff, pure_eq_ok_iff, fromCatalog_ok_iff]
  constructor
  · rintro ⟨tableOptions, first, order, second, parts, third, rfl⟩
    exact ⟨tableOptions, order, parts, first, second, third, rfl⟩
  · rintro ⟨tableOptions, order, parts, first, second, third, rfl⟩
    exact ⟨tableOptions, first, order, second, parts, third, rfl⟩

/-- **An action and a call ask for the same compaction.**  Take arguments that name a table
and give partitions without semicolons, a strategy, columns and solid settings without commas,
and nothing else.  They are read as an action just if the texts of a call are read as a request,
with semicolons between the partitions and commas between the settings; and then the action is
to compact that table by that very request.  Only the text that a call takes for the whole
table is no list of partitions. -/
theorem compact_words_iff_texts {args : ArgumentList} {path : TablePath}
    {partitions settings : List String} {strategy columns : String}
    (gives : args.Gives path partitions strategy columns settings)
    (free : ∀ p ∈ partitions, ';' ∉ p.toList)
    (some_part : trim (";".intercalate partitions) ≠ "ALL")
    (solid : ∀ s ∈ settings, blank s = false ∧ ',' ∉ s.toList) {answer : Option Action} :
    Action.read .compact args = .ok answer ↔
      ∃ request, readCompactRequest (";".intercalate partitions) strategy columns
          (",".intercalate settings) = .ok request ∧
        answer = some (.compact path request ∅) := by
  have parts : readPartitionChoice (";".intercalate partitions) = readPartitions partitions :=
    (readPartitionChoice_eq some_part).trans (readPartitions_split_intercalate free)
  have options {o : Options} : args.settings "table-conf" = .ok o ↔
      readKeyValues (",".intercalate settings) = .ok o := by
    rw [ArgumentList.settings_ok_iff, gives.settings, readKeyValues_intercalate_ok_iff solid]
  simp only [gives.read_ok_iff, readCompactRequest_ok_iff, parts, options]
  constructor
  · rintro ⟨parts, order, options, first, second, third, rfl⟩
    exact ⟨_, ⟨options, order, parts, third, second, first, rfl⟩, rfl⟩
  · rintro ⟨_, ⟨options, order, parts, third, second, first, rfl⟩, rfl⟩
    exact ⟨parts, order, options, first, second, third, rfl⟩

/-- The words for a compaction of the catch of two days; the second partition is left blank and
a setting is given twice. -/
def catchGroups : List (String × Option String) :=
  [("warehouse", some "sea"), ("database", some "lake"), ("table", some "catch"),
    ("partition", some " day=1 , boat= a=b"), ("partition", some "\u3000"),
    ("partition", some "day=2"), ("order-strategy", some " ZOrder"),
    ("order-by", some "length,, beam "), ("table-conf", some "depth= 1"),
    ("table-conf", some "\u00a0depth =2=3 ")]

theorem compact_words_iff_texts_catch :
    let args := ArgumentList.ofGroups catchGroups
    let path : TablePath := ⟨"sea", ⟨"lake", "catch"⟩⟩
    ∃ request,
      readCompactRequest " day=1 , boat= a=b;\u3000;day=2" " ZOrder" "length,, beam "
          "depth= 1,\u00a0depth =2=3 " = .ok request ∧
        Action.read .compact args = .ok (some (.compact path request ∅)) ∧
        request.partitions.map OrderedMap.entries =
          [[("day", "1"), ("boat", "a=b")], [("day", "2")]] ∧
        request.tableOptions.entries = [("depth", "2=3")] := by
  intro args path
  let partitions := [" day=1 , boat= a=b", "\u3000", "day=2"]
  let settings := ["depth= 1", "\u00a0depth =2=3 "]
  have keys : args.values.keys ⊆ compactKeys := by decide +kernel
  have gives : args.Gives path partitions " ZOrder" "length,, beam " settings :=
    { path := by rfl
      partitions := by decide +kernel
      strategy := by decide +kernel
      columns := by decide +kernel
      settings := by decide +kernel
      only := fun key there => keys ((OrderedMap.contains_iff_mem_keys _ _).mp there) }
  have free : ∀ p ∈ partitions, ';' ∉ p.toList := by decide +kernel
  have some_part : trim (";".intercalate partitions) ≠ "ALL" := by decide +kernel
  have solid : ∀ s ∈ settings, blank s = false ∧ ',' ∉ s.toList := by decide +kernel
  have asked : (readCompactRequest " day=1 , boat= a=b;\u3000;day=2" " ZOrder" "length,, beam "
      "depth= 1,\u00a0depth =2=3 ").toOption.map (fun request =>
        (request.partitions.map OrderedMap.entries, request.tableOptions.entries)) =
      some ([[("day", "1"), ("boat", "a=b")], [("day", "2")]], [("depth", "2=3")]) := by
    decide +kernel
  obtain ⟨request, read, shows⟩ := Option.map_eq_some_iff.mp asked
  obtain ⟨parts, options⟩ := Prod.mk.injEq .. ▸ shows
  have read := toOption_eq_some_iff.mp read
  exact ⟨request, read,
    (compact_words_iff_texts gives free some_part solid).mpr ⟨request, read, rfl⟩, parts, options⟩

end TableLake
