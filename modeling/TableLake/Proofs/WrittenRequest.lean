/-
# TableLake.Proofs.WrittenRequest — a compaction request is read as it was written

A request is written with semicolons between partitions, commas between pairs and columns, and an
equal sign in each pair.  Around all of them there may be any white space
(`CompactRequest.WrittenAs`).  What is written must not be taken for this: texts are clean, that is,
without white space at their own ends, and the separators do not occur in them
(`CompactRequest.Clear`).  Then what is read is what was written (`read_of_written`).

White space belongs to the part that it stands at and is gone when the part is trimmed
(`trim_of_padded`).  A partition is trimmed as a whole before its pairs are, which takes nothing
else away (`readPartition_trim`).  A value may hold equal signs, since a pair is cut once, and the
value of a setting semicolons.
-/
import TableLake.Proofs.CompactionWords
import TableLake.Proofs.OrderedMap

namespace TableLake

open TableLake.Outcome TableLake.Text

set_option autoImplicit false

/-! ## Clean texts and white space -/

/-- A text without white space at its ends. -/
@[mk_iff]
structure Clean (s : String) : Prop where
  head : ∀ c ∈ s.toList.head?, isBlank c = false
  foot : ∀ c ∈ s.toList.getLast?, isBlank c = false

/-- A clean text without any of some characters. -/
@[mk_iff]
structure CleanOf (apart : List Char) (s : String) : Prop extends Clean s where
  free : ∀ c ∈ apart, c ∉ s.toList

-- the ends of the text are looked at, and its characters, not all characters there are
instance (s : String) : Decidable (Clean s) :=
  decidable_of_iff ((s.toList.head?.all fun c => !isBlank c) = true ∧
    (s.toList.getLast?.all fun c => !isBlank c) = true) (by simp [clean_iff, Option.all_eq_true])

instance (apart : List Char) (s : String) : Decidable (CleanOf apart s) :=
  decidable_of_iff (Clean s ∧ (apart.all fun c => !s.toList.contains c) = true)
    (by simp [cleanOf_iff])

/-- A text with white space around it. -/
def PaddedAs (s text : String) : Prop :=
  ∃ front back, blank front = true ∧ blank back = true ∧ text = front ++ s ++ back

section Padded

variable {s text : String} {c : Char}

theorem trim_of_padded (clean : Clean s) (padded : PaddedAs s text) : trim text = s := by
  obtain ⟨front, back, first, last, rfl⟩ := padded
  have cut : trimmed (front.toList ++ s.toList ++ back.toList) = s.toList :=
    trimmed_padded (blank_iff.mp first) (blank_iff.mp last) clean.head clean.foot
  rw [trim, String.toList_append, String.toList_append, cut, String.ofList_toList]

theorem not_mem_of_padded (solid : isBlank c = false) (absent : c ∉ s.toList)
    (padded : PaddedAs s text) : c ∉ text.toList := by
  obtain ⟨front, back, first, last, rfl⟩ := padded
  have outside {side : String} (all : blank side = true) : c ∉ side.toList := by
    intro inside
    rw [blank_iff.mp all c inside] at solid
    cases solid
  rw [String.toList_append, String.toList_append, List.mem_append, List.mem_append]
  rintro ((inside | inside) | inside)
  · exact outside first inside
  · exact absent inside
  · exact outside last inside

theorem blank_of_padded (clean : Clean s) (solid : s ≠ "") (padded : PaddedAs s text) :
    blank text = false := by
  rw [← isEmpty_trim, trim_of_padded clean padded]
  exact Bool.eq_false_iff.mpr fun empty => solid (String.isEmpty_iff.mp empty)

end Padded

/-- Parts written with separators between, or nothing but white space where there are none. -/
inductive JoinedAs (sep : Char) : List String → String → Prop
  | none {text : String} (empty : blank text = true) : JoinedAs sep [] text
  | some {parts : List String} (solid : parts ≠ []) :
      JoinedAs sep parts ((String.singleton sep).intercalate parts)

theorem solidParts_of_blank {sep : Char} {text : String} (empty : blank text = true) :
    solidParts sep text = [] := by
  refine List.filter_eq_nil_iff.mpr fun part inside => ?_
  obtain ⟨p, there, rfl⟩ := List.mem_map.mp inside
  rw [isEmpty_trim, blank_of_mem_split empty there]
  exact Bool.false_ne_true

theorem solidParts_trim {sep : Char} (solid : isBlank sep = false) (text : String) :
    solidParts sep (trim text) = solidParts sep text := by
  rw [solidParts, solidParts, map_split_trim solid]

theorem JoinedAs.solidParts_eq {sep : Char} {parts : List String} {text : String}
    (joined : JoinedAs sep parts text)
    (solid : ∀ p ∈ parts, blank p = false ∧ sep ∉ p.toList) :
    solidParts sep text = parts.map trim := by
  cases joined with
  | none empty => exact solidParts_of_blank empty
  | some => exact solidParts_intercalate solid

/-! ## Pairs -/

/-- A key and a value with an equal sign between, and white space around each. -/
def PairAs (entry : String × String) (text : String) : Prop :=
  ∃ key value, PaddedAs entry.1 key ∧ PaddedAs entry.2 value ∧ text = key ++ "=" ++ value

/-- The key can be told from the value, and both from what stands between pairs. -/
@[mk_iff]
structure ClearPair (apart : List Char) (entry : String × String) : Prop where
  named : entry.1 ≠ ""
  key : CleanOf ('=' :: apart) entry.1
  value : CleanOf apart entry.2

instance (apart : List Char) (entry : String × String) : Decidable (ClearPair apart entry) :=
  decidable_of_iff _ (clearPair_iff apart entry).symm

namespace ClearPair

variable {apart : List Char} {entry : String × String} {text : String} {sep : Char}

/-- A pair is read as it was written. -/
theorem read (clear : ClearPair apart entry) (written : PairAs entry text) :
    readKeyValue text = .ok entry := by
  obtain ⟨key, value, front, back, rfl⟩ := written
  have absent : '=' ∉ key.toList :=
    not_mem_of_padded (by decide) (clear.key.free '=' List.mem_cons_self) front
  have cut : cutOnce '=' (key ++ "=" ++ value).toList = some (key.toList, value.toList) := by
    rw [String.toList_append, String.toList_append, List.append_assoc]
    exact cutOnce_append_cons _ absent
  have first : String.ofList (trimmed key.toList) = entry.1 :=
    trim_of_padded clear.key.toClean front
  have second : String.ofList (trimmed value.toList) = entry.2 :=
    trim_of_padded clear.value.toClean back
  refine readKeyValue_ok_iff.mpr ⟨_, cut, fun empty => clear.named ?_, ?_⟩
  · rw [← first, empty]
  · rw [first, second]

theorem not_mem (clear : ClearPair apart entry) (written : PairAs entry text)
    (inside : sep ∈ apart) (solid : isBlank sep = false) (other : sep ≠ '=') :
    sep ∉ text.toList := by
  obtain ⟨key, value, front, back, rfl⟩ := written
  rw [String.toList_append, String.toList_append, List.mem_append, List.mem_append]
  rintro ((here | here) | here)
  · exact not_mem_of_padded solid (clear.key.free sep (List.mem_cons_of_mem _ inside)) front here
  · exact other (List.mem_singleton.mp here)
  · exact not_mem_of_padded solid (clear.value.free sep inside) back here

end ClearPair

theorem blank_of_pairAs {entry : String × String} {text : String} (written : PairAs entry text) :
    blank text = false := by
  obtain ⟨key, value, -, -, rfl⟩ := written
  refine Bool.eq_false_iff.mpr fun all => ?_
  have equal : isBlank '=' = true := blank_iff.mp all '=' (by simp [String.toList_append])
  exact absurd equal (by decide)

/-! ## Settings -/

/-- Settings are read as they were written, in the order they were written in. -/
theorem readKeyValues_of_written {entries : List (String × String)} {pairs : List String}
    {text : String} (clear : ∀ entry ∈ entries, ClearPair [','] entry)
    (written : List.Forall₂ PairAs entries pairs) (joined : JoinedAs ',' pairs text) :
    readKeyValues text = .ok (.ofList entries) := by
  have each := (List.forall₂_and_left _ _).mpr ⟨clear, written⟩
  have solid : ∀ p ∈ pairs, blank p = false ∧ ',' ∉ p.toList := by
    intro p inside
    obtain ⟨entry, -, clear, written⟩ := related_of_mem each.flip inside
    exact ⟨blank_of_pairAs written,
      clear.not_mem written List.mem_cons_self (by decide) (by decide)⟩
  unfold readKeyValues
  rw [joined.solidParts_eq solid, bind_eq_ok_iff]
  refine ⟨entries, mapM_eq_ok_iff.mpr (List.forall₂_map_left_iff.mpr ?_), rfl⟩
  exact each.flip.imp fun _ _ here => readKeyValue_trim_ok_iff.mpr (here.1.read here.2)

/-! ## Partitions -/

/-- The pairs of a partition with commas between. -/
def PartitionAs (p : Partition) (text : String) : Prop :=
  ∃ pairs, List.Forall₂ PairAs p.entries pairs ∧ text = ",".intercalate pairs

/-- A partition has a pair, and its pairs can be told from each other. -/
@[mk_iff]
structure ClearPartition (p : Partition) : Prop where
  solid : p.entries ≠ []
  pairs : ∀ entry ∈ p.entries, ClearPair [',', ';'] entry

instance (p : Partition) : Decidable (ClearPartition p) :=
  decidable_of_iff _ (clearPartition_iff p).symm

/-- White space around a partition makes no difference. -/
theorem readPartition_trim (text : String) : readPartition (trim text) = readPartition text := by
  have pairs (s : String) :
      ((split ',' s).mapM fun pair => fromCatalog (readKeyValue (trim pair))) =
        ((split ',' s).map trim).mapM fun pair => fromCatalog (readKeyValue pair) := by
    rw [List.mapM_map]
    rfl
  unfold readPartition
  rw [pairs, pairs, map_split_trim (by decide)]

namespace ClearPartition

variable {p : Partition} {text : String}

theorem read (clear : ClearPartition p) (written : PartitionAs p text) :
    readPartition text = .ok p := by
  obtain ⟨pairs, written, rfl⟩ := written
  have each := (List.forall₂_and_left _ _).mpr ⟨clear.pairs, written⟩
  have cut : split ',' (",".intercalate pairs) = pairs := by
    refine split_intercalate (ne_nil_of_related written clear.solid) fun pair inside => ?_
    obtain ⟨entry, -, clear, written⟩ := related_of_mem each.flip inside
    exact clear.not_mem written List.mem_cons_self (by decide) (by decide)
  unfold readPartition
  rw [cut, bind_eq_ok_iff]
  refine ⟨p.entries, mapM_eq_ok_iff.mpr (each.flip.imp fun pair entry here => ?_), ?_⟩
  · exact fromCatalog_ok_iff.mpr (readKeyValue_trim_ok_iff.mpr (here.1.read here.2))
  · exact congrArg Except.ok (OrderedMap.ext (OrderedMap.entries_ofList p.nodup))

theorem not_mem (clear : ClearPartition p) (written : PartitionAs p text) : ';' ∉ text.toList := by
  obtain ⟨pairs, written, rfl⟩ := written
  have each := (List.forall₂_and_left _ _).mpr ⟨clear.pairs, written⟩
  rw [String.toList_intercalate]
  refine not_mem_intercalate (by decide) fun cs inside => ?_
  obtain ⟨pair, there, rfl⟩ := List.mem_map.mp inside
  obtain ⟨entry, -, clear, written⟩ := related_of_mem each.flip there
  exact clear.not_mem written (by simp) (by decide) (by decide)

theorem blank_eq_false (clear : ClearPartition p) (written : PartitionAs p text) :
    blank text = false := by
  have read := clear.read written
  refine Bool.eq_false_iff.mpr fun all => ?_
  have empty : trim text = "" := trim_eq_empty_iff.mpr all
  have refused : (readPartition "").toOption = none := by decide +kernel
  rw [← readPartition_trim, empty] at read
  rw [read] at refused
  cases refused

end ClearPartition

/-- The partitions of a request are read as they were written, in their order. -/
theorem readPartitionChoice_of_written {partitions : List Partition} {specs : List String}
    {text : String} (clear : ∀ p ∈ partitions, ClearPartition p)
    (written : List.Forall₂ PartitionAs partitions specs) (joined : JoinedAs ';' specs text) :
    readPartitionChoice text = .ok partitions := by
  have each := (List.forall₂_and_left _ _).mpr ⟨clear, written⟩
  have solid : ∀ s ∈ specs, blank s = false ∧ ';' ∉ s.toList := by
    intro s inside
    obtain ⟨p, -, clear, written⟩ := related_of_mem each.flip inside
    exact ⟨clear.blank_eq_false written, clear.not_mem written⟩
  have read : (solidParts ';' text).mapM readPartition = .ok partitions := by
    rw [joined.solidParts_eq solid]
    refine mapM_eq_ok_iff.mpr (List.forall₂_map_left_iff.mpr (each.flip.imp fun s p here => ?_))
    rw [readPartition_trim, here.1.read here.2]
  refine (readPartitionChoice_eq fun whole => ?_).trans read
  -- the word for the whole table would be a partition that is refused
  have alone : solidParts ';' text = ["ALL"] := by
    rw [← solidParts_trim (by decide), whole]
    decide +kernel
  have refused : (["ALL"].mapM readPartition).toOption = none := by decide +kernel
  rw [← alone, read] at refused
  cases refused

/-! ## Orders -/

/-- A strategy by its name and columns with commas between, or white space for both. -/
inductive OrderAs : Option SortOrder → String → String → Prop
  | none {strategy columns : String} (first : blank strategy = true)
      (second : blank columns = true) : OrderAs none strategy columns
  | some {order : SortOrder} {strategy : String} {columns : List String}
      (named : PaddedAs order.strategy.name strategy)
      (written : List.Forall₂ PaddedAs order.columns columns) :
      OrderAs (some order) strategy (",".intercalate columns)

/-- An order has a column, and its columns can be told from each other. -/
@[mk_iff]
structure ClearOrder (order : SortOrder) : Prop where
  solid : order.columns ≠ []
  columns : ∀ column ∈ order.columns, column ≠ "" ∧ CleanOf [','] column

instance (order : SortOrder) : Decidable (ClearOrder order) :=
  decidable_of_iff _ (clearOrder_iff order).symm

theorem clean_name (strategy : OrderStrategy) : Clean strategy.name := by
  cases strategy <;> decide

theorem name_ne_empty (strategy : OrderStrategy) : strategy.name ≠ "" := by
  cases strategy <;> decide

theorem read_name {strategy : OrderStrategy} {text : String}
    (named : PaddedAs strategy.name text) : OrderStrategy.read text = .ok strategy := by
  unfold OrderStrategy.read
  rw [trim_of_padded (clean_name strategy) named]
  cases strategy <;> rfl

theorem readSortOrder_of_written {order : Option SortOrder} {strategy columns : String}
    (clear : ∀ o ∈ order, ClearOrder o) (written : OrderAs order strategy columns) :
    readSortOrder strategy columns = .ok order := by
  cases written with
  | none first second => exact readSortOrder_eq_none_iff.mpr ⟨first, second⟩
  | @some order strategy columns named written =>
      obtain ⟨some_column, plain⟩ := clear order rfl
      have each := (List.forall₂_and_left _ _).mpr ⟨plain, written⟩
      have solid : ∀ text ∈ columns, blank text = false ∧ ',' ∉ text.toList := by
        intro text inside
        obtain ⟨column, -, ⟨named, plain⟩, padded⟩ := related_of_mem each.flip inside
        exact ⟨blank_of_padded plain.toClean named padded,
          not_mem_of_padded (by decide) (plain.free ',' List.mem_cons_self) padded⟩
      have read : solidParts ',' (",".intercalate columns) = order.columns := by
        have parts : solidParts ',' (",".intercalate columns) = columns.map trim :=
          solidParts_intercalate solid
        have trims := map_eq_of_related (f := id) (g := trim)
          (fun column text here => trim_of_padded here.1.2.toClean here.2) each
        rw [parts, trims, List.map_id]
      have first : blank strategy = false :=
        blank_of_padded (clean_name order.strategy) (name_ne_empty order.strategy) named
      have second : blank (",".intercalate columns) = false := by
        refine Bool.eq_false_iff.mpr fun empty => some_column ?_
        rw [← read, solidParts_of_blank empty]
      exact readSortOrder_eq_some_iff.mpr ⟨first, second, read_name named, read⟩

/-! ## Requests -/

namespace CompactRequest

/-- A request as four texts.  Settings may be written in any order. -/
structure WrittenAs (request : CompactRequest) (partitions strategy columns options : String) :
    Prop where
  partitions : ∃ specs, List.Forall₂ PartitionAs request.partitions specs ∧
    JoinedAs ';' specs partitions
  order : OrderAs request.order strategy columns
  options : ∃ entries pairs, entries.Perm request.tableOptions.entries ∧
    List.Forall₂ PairAs entries pairs ∧ JoinedAs ',' pairs options

/-- Nothing in the request can be taken for the way it is written. -/
@[mk_iff]
structure Clear (request : CompactRequest) : Prop where
  partitions : ∀ p ∈ request.partitions, ClearPartition p
  order : ∀ o ∈ request.order, ClearOrder o
  options : ∀ entry ∈ request.tableOptions.entries, ClearPair [','] entry

instance (request : CompactRequest) : Decidable request.Clear :=
  decidable_of_iff _ request.clear_iff.symm

/-- **A request is read as it was written.**  Its partitions, with their keys, and the columns of
its order are read in the order they were written in; every setting has the value it was given. -/
theorem read_of_written {request : CompactRequest} {partitions strategy columns options : String}
    (clear : request.Clear) (written : request.WrittenAs partitions strategy columns options) :
    ∃ read, readCompactRequest partitions strategy columns options = .ok read ∧
      read.partitions = request.partitions ∧ read.order = request.order ∧
      ∀ key, read.tableOptions.get? key = request.tableOptions.get? key := by
  obtain ⟨specs, parts, joined⟩ := written.partitions
  obtain ⟨entries, pairs, perm, settings, joined'⟩ := written.options
  have tableOptions : readKeyValues options = .ok (.ofList entries) :=
    readKeyValues_of_written (fun entry inside => clear.options entry (perm.mem_iff.mp inside))
      settings joined'
  refine ⟨⟨request.partitions, request.order, .ofList entries⟩, ?_, rfl, rfl, fun key => ?_⟩
  · exact readCompactRequest_ok_iff.mpr ⟨_, _, _, tableOptions,
      readSortOrder_of_written clear.order written.order,
      readPartitionChoice_of_written clear.partitions parts joined, rfl⟩
  · have distinct : (entries.map Prod.fst).Nodup :=
      (perm.map Prod.fst).nodup_iff.mpr request.tableOptions.nodup
    have own : OrderedMap.ofList request.tableOptions.entries = request.tableOptions :=
      OrderedMap.ext (OrderedMap.entries_ofList request.tableOptions.nodup)
    exact (OrderedMap.get?_ofList_of_perm distinct perm key).trans (by rw [own])

/-- A compaction of the catch of two days, with a value that holds an equal sign, one that holds a
semicolon, and empty ones. -/
def dayRequest : CompactRequest where
  partitions := [.ofList [("day", "1=2"), ("boat", "")], .ofList [("day", "3")]]
  order := some ⟨.zorder, ["length", "beam"]⟩
  tableOptions := .ofList [("depth", "a;b"), ("net", "")]

/-- With white space of all kinds in it, and the settings in the other order, it is read. -/
theorem read_of_written_day :
    ∃ read, readCompactRequest "\u3000day = 1=2\t,boat=\u00a0; day=3" "zorder\n"
        "length ,\u2003beam" "net=, depth =\u0085a;b" = .ok read ∧
      read.partitions.map OrderedMap.entries = [[("day", "1=2"), ("boat", "")], [("day", "3")]] ∧
      read.order = some ⟨.zorder, ["length", "beam"]⟩ ∧
      read.tableOptions.get? "depth" = some "a;b" ∧ read.tableOptions.get? "net" = some "" := by
  have clear : dayRequest.Clear := by decide +kernel
  have pair {key value : String} (front between between' back : String)
      (first : blank front = true) (second : blank between = true)
      (third : blank between' = true) (last : blank back = true) :
      PairAs (key, value) (front ++ key ++ between ++ "=" ++ (between' ++ value ++ back)) :=
    ⟨_, _, ⟨front, between, first, second, rfl⟩, ⟨between', back, third, last, rfl⟩, rfl⟩
  have written : dayRequest.WrittenAs "\u3000day = 1=2\t,boat=\u00a0; day=3" "zorder\n"
      "length ,\u2003beam" "net=, depth =\u0085a;b" :=
    { partitions :=
        ⟨_, .cons ⟨_, .cons (pair "\u3000" " " " " "\t" rfl rfl rfl rfl)
            (.cons (pair "" "" "" "\u00a0" rfl rfl rfl rfl) .nil), rfl⟩
          (.cons ⟨_, .cons (pair " " "" "" "" rfl rfl rfl rfl) .nil, rfl⟩ .nil),
          .some (List.cons_ne_nil _ _)⟩
      order := @OrderAs.some ⟨.zorder, ["length", "beam"]⟩ "zorder\n" ["length ", "\u2003beam"]
        ⟨"", "\n", rfl, rfl, rfl⟩
        (.cons ⟨"", " ", rfl, rfl, rfl⟩ (.cons ⟨"\u2003", "", rfl, rfl, rfl⟩ .nil))
      options := ⟨[("net", ""), ("depth", "a;b")], _, .swap _ _ _,
        .cons (pair "" "" "" "" rfl rfl rfl rfl)
          (.cons (pair " " " " "\u0085" "" rfl rfl rfl rfl) .nil),
        .some (List.cons_ne_nil _ _)⟩ }
  obtain ⟨read, accepted, parts, order, settings⟩ := read_of_written clear written
  refine ⟨read, accepted, ?_, order, ?_, ?_⟩
  · rw [parts]
    rfl
  · rw [settings]
    rfl
  · rw [settings]
    rfl

end CompactRequest

end TableLake
