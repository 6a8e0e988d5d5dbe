/-
# TableLake.Proofs.OrderedMap — dictionaries made from lists of entries

Inserting a key that is new appends its entry.  So a list of entries whose keys are
distinct becomes the dictionary with just these entries in this order
(`entries_ofList`), and nothing that was written down is lost.  A value that is put in or
taken out leaves the other keys in their order (`filter_keys_insert`, `filter_keys_erase`).
Laid over another dictionary, a dictionary shows its own values first (`get?_overlay`).
-/
import TableLake.OrderedMap
import Mathlib.Data.List.Nodup

namespace TableLake.OrderedMap

set_option autoImplicit false

variable {κ ν : Type}

theorem isEmpty_iff {m : OrderedMap κ ν} : m.isEmpty = true ↔ m = ∅ := by
  refine List.isEmpty_iff.trans ⟨fun none => ext none, ?_⟩
  rintro rfl
  rfl

variable [DecidableEq κ]

theorem placed_of_fresh (k : κ) (v : ν) : ∀ {entries : List (κ × ν)},
    k ∉ entries.map Prod.fst → placed k v entries = entries ++ [(k, v)]
  | [], _ => rfl
  | (j, w) :: rest, fresh => by
      have other : j ≠ k := fun same => fresh (by simp [same])
      have later : k ∉ rest.map Prod.fst := fun inside => fresh (List.mem_cons_of_mem _ inside)
      simp [placed, other, placed_of_fresh k v later]

theorem entries_insert_of_fresh (m : OrderedMap κ ν) {k : κ} (fresh : k ∉ m.keys) (v : ν) :
    (m.insert k v).entries = m.entries ++ [(k, v)] :=
  placed_of_fresh k v fresh

theorem entries_insertAll_of_fresh : ∀ {m : OrderedMap κ ν} {entries : List (κ × ν)},
    (m.keys ++ entries.map Prod.fst).Nodup → (m.insertAll entries).entries = m.entries ++ entries
  | m, [], _ => by simp [insertAll]
  | m, (k, v) :: rest, distinct => by
      have fresh : k ∉ m.keys := fun inside =>
        (List.nodup_append.mp distinct).2.2 k inside k (by simp) rfl
      have keys : (m.insert k v).keys = m.keys ++ [k] := by rw [keys_insert, if_neg fresh]
      have later : ((m.insert k v).keys ++ rest.map Prod.fst).Nodup := by
        rw [keys]; simpa using distinct
      have step := entries_insertAll_of_fresh later
      rw [entries_insert_of_fresh m fresh v, List.append_assoc, List.singleton_append] at step
      exact step

/-- Entries with distinct keys are the entries of their dictionary. -/
theorem entries_ofList {entries : List (κ × ν)} (distinct : (entries.map Prod.fst).Nodup) :
    (ofList entries).entries = entries := by
  have fresh : ((empty : OrderedMap κ ν).keys ++ entries.map Prod.fst).Nodup := by
    simpa [keys, empty] using distinct
  simpa [ofList, empty] using entries_insertAll_of_fresh fresh

theorem get?_ofList_eq_some_iff {entries : List (κ × ν)} (distinct : (entries.map Prod.fst).Nodup)
    (k : κ) (v : ν) : (ofList entries).get? k = some v ↔ (k, v) ∈ entries := by
  rw [get?_eq_some_iff, entries_ofList distinct]

/-- It does not matter in which order entries with distinct keys are written down. -/
theorem get?_ofList_of_perm {entries entries' : List (κ × ν)}
    (distinct : (entries.map Prod.fst).Nodup) (same : entries.Perm entries') (k : κ) :
    (ofList entries).get? k = (ofList entries').get? k := by
  have distinct' : (entries'.map Prod.fst).Nodup := (same.map Prod.fst).nodup_iff.mp distinct
  refine Option.ext fun v => ?_
  rw [get?_ofList_eq_some_iff distinct, get?_ofList_eq_some_iff distinct', same.mem_iff]

/-- Nor does it matter in which order the entries of a dictionary are written down again. -/
theorem get?_ofList_of_listed {m : OrderedMap κ ν} {entries : List (κ × ν)}
    (listed : entries.Perm m.entries) (k : κ) : (ofList entries).get? k = m.get? k := by
  have itself : ofList m.entries = m := ext (entries_ofList m.nodup)
  rw [← get?_ofList_of_perm m.nodup listed.symm, itself]

/-- Inserting the value that is there changes nothing. -/
theorem placed_self {k : κ} {v : ν} : ∀ {entries : List (κ × ν)},
    find k entries = some v → placed k v entries = entries
  | [], found => by simp [find] at found
  | (j, w) :: rest, found => by
      by_cases here : j = k
      · simp only [find, here, if_true, Option.some.injEq] at found
        simp [placed, here, found]
      · simp only [find, here, if_false] at found
        simp [placed, here, placed_self found]

theorem insert_self {m : OrderedMap κ ν} {k : κ} {v : ν} (found : m.get? k = some v) :
    m.insert k v = m :=
  ext (placed_self found)

/-- Of two values inserted at a key the later one stands. -/
theorem placed_placed (k : κ) (v w : ν) : ∀ entries : List (κ × ν),
    placed k w (placed k v entries) = placed k w entries
  | [] => by simp [placed]
  | (j, u) :: rest => by
      by_cases here : j = k
      · simp [placed, here]
      · simp [placed, here, placed_placed k v w rest]

theorem insert_insert (m : OrderedMap κ ν) (k : κ) (v w : ν) :
    (m.insert k v).insert k w = m.insert k w :=
  ext (placed_placed k v w m.entries)

/-- With an entry in it a dictionary is not the empty one. -/
theorem insert_ne_empty (m : OrderedMap κ ν) (k : κ) (v : ν) : m.insert k v ≠ ∅ := by
  intro none
  have found := get?_insert m k k v
  rw [none, if_pos rfl] at found
  cases found

theorem insertAll_ne_empty : ∀ {m : OrderedMap κ ν} (entries : List (κ × ν)), m ≠ ∅ →
    m.insertAll entries ≠ ∅
  | _, [], solid => solid
  | m, (k, v) :: rest, _ => insertAll_ne_empty rest (insert_ne_empty m k v)

theorem ofList_ne_empty : ∀ {entries : List (κ × ν)}, entries ≠ [] → ofList entries ≠ ∅
  | [], solid => absurd rfl solid
  | (k, v) :: rest, _ => insertAll_ne_empty rest (insert_ne_empty _ k v)

theorem erase_of_missing {m : OrderedMap κ ν} {k : κ} (missing : m.get? k = none) :
    m.erase k = m := by
  have absent := (get?_eq_none_iff m k).mp missing
  refine ext (List.filter_eq_self.mpr fun entry inside => ?_)
  refine decide_eq_true fun same => absent ?_
  rw [← same]
  exact List.mem_map_of_mem inside

/-- A key that was missing is put in and taken out. -/
theorem erase_insert_of_missing {m : OrderedMap κ ν} {k : κ} (missing : m.get? k = none) (v : ν) :
    (m.insert k v).erase k = m := by
  have fresh := (get?_eq_none_iff m k).mp missing
  have alone : m.entries.filter (fun entry => decide (entry.1 ≠ k)) = m.entries :=
    congrArg entries (erase_of_missing missing)
  refine ext ?_
  show (m.insert k v).entries.filter (fun entry => decide (entry.1 ≠ k)) = m.entries
  rw [entries_insert_of_fresh m fresh v, List.filter_append, alone]
  simp

theorem contains_erase (m : OrderedMap κ ν) (k : κ) : (m.erase k).contains k = false := by
  rw [contains, get?_erase, if_pos rfl]
  rfl

/-! ## The order of the other keys -/

/-- A value at a key leaves the other keys in their order. -/
theorem filter_keys_insert (m : OrderedMap κ ν) {k : κ} {keep : κ → Bool} (other : keep k = false)
    (v : ν) : (m.insert k v).keys.filter keep = m.keys.filter keep := by
  rw [keys_insert]
  split
  · rfl
  · simp [List.filter_append, other]

/-- A key that is removed leaves the other keys in their order. -/
theorem filter_keys_erase (m : OrderedMap κ ν) {k : κ} {keep : κ → Bool} (other : keep k = false) :
    (m.erase k).keys.filter keep = m.keys.filter keep := by
  rw [keys_erase, List.filter_filter]
  refine List.filter_congr fun k' _ => ?_
  by_cases same : k' = k <;> simp [same, other]

/-! ## One over the other -/

theorem get?_insertAll (k : κ) : ∀ {m : OrderedMap κ ν} {entries : List (κ × ν)},
    (entries.map Prod.fst).Nodup → (m.insertAll entries).get? k = (find k entries).or (m.get? k)
  | m, [], _ => rfl
  | m, (j, v) :: rest, distinct => by
      obtain ⟨fresh, later⟩ := List.nodup_cons.mp distinct
      have step : (m.insertAll ((j, v) :: rest)).get? k =
          (find k rest).or ((m.insert j v).get? k) := get?_insertAll k later
      rw [step, get?_insert]
      by_cases here : j = k
      · have gone : find k rest = none := find_eq_none_iff.mpr (here ▸ fresh)
        simp [find, here, gone]
      · simp [find, here]

theorem get?_overlay (m n : OrderedMap κ ν) (k : κ) :
    (m.overlay n).get? k = (n.get? k).or (m.get? k) :=
  get?_insertAll k n.nodup

/-! ## Entries whose keys may repeat -/

theorem get?_insertAll_or (k : κ) : ∀ (entries : List (κ × ν)) {m : OrderedMap κ ν},
    (m.insertAll entries).get? k = ((ofList entries).get? k).or (m.get? k)
  | [], _ => rfl
  | (j, v) :: rest, m => by
      have whole : (m.insertAll ((j, v) :: rest)).get? k =
          ((ofList rest).get? k).or ((m.insert j v).get? k) := get?_insertAll_or k rest
      have alone : (ofList ((j, v) :: rest)).get? k =
          ((ofList rest).get? k).or ((empty.insert j v).get? k) := get?_insertAll_or k rest
      rw [whole, alone, get?_insert, get?_insert, get?_empty, Option.or_assoc]
      split <;> rfl

/-- An entry counts unless a later one has its key. -/
theorem get?_ofList_cons (k j : κ) (v : ν) (entries : List (κ × ν)) :
    (ofList ((j, v) :: entries)).get? k =
      ((ofList entries).get? k).or (if j = k then some v else none) := by
  have first : ofList ((j, v) :: entries) = (empty.insert j v).insertAll entries := rfl
  rw [first, get?_insertAll_or, get?_insert, get?_empty]

theorem get?_ofList_eq_none_iff {k : κ} : ∀ {entries : List (κ × ν)},
    (ofList entries).get? k = none ↔ k ∉ entries.map Prod.fst
  | [] => by simp [ofList, insertAll]
  | (j, v) :: entries => by
      rw [get?_ofList_cons, Option.or_eq_none_iff, get?_ofList_eq_none_iff]
      simp [and_comm, eq_comm]

theorem mem_of_get?_ofList {k : κ} {v : ν} : ∀ {entries : List (κ × ν)},
    (ofList entries).get? k = some v → (k, v) ∈ entries
  | [], found => by cases found
  | (j, w) :: entries, found => by
      rw [get?_ofList_cons, Option.or_eq_some_iff] at found
      rcases found with later | ⟨-, here⟩
      · exact List.mem_cons_of_mem _ (mem_of_get?_ofList later)
      · split at here
        · rename_i same
          cases here
          cases same
          exact List.mem_cons_self
        · cases here

/-! ## Changed values -/

theorem get?_insertAll_map {μ : Type} (f : ν → μ) : ∀ (entries : List (κ × ν))
    {m : OrderedMap κ ν} {m' : OrderedMap κ μ}, (∀ k, m'.get? k = (m.get? k).map f) →
      ∀ k, (m'.insertAll (entries.map (Prod.map id f))).get? k = ((m.insertAll entries).get? k).map f
  | [], _, _, same => same
  | (j, v) :: rest, m, m', same => by
      have step : ∀ k, (m'.insert j (f v)).get? k = ((m.insert j v).get? k).map f := by
        intro k
        rw [get?_insert, get?_insert, same k]
        split <;> rfl
      exact get?_insertAll_map f rest step

/-- A dictionary of changed values shows the values, changed. -/
theorem get?_ofList_map {μ : Type} (f : ν → μ) (entries : List (κ × ν)) (k : κ) :
    (ofList (entries.map (Prod.map id f))).get? k = ((ofList entries).get? k).map f :=
  get?_insertAll_map f entries (fun _ => rfl) k

end TableLake.OrderedMap
