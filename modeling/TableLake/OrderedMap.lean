/-
# TableLake.OrderedMap — a dictionary that remembers the order of its keys

The entries are a list in which no key occurs twice.  A new key goes to the end;
a key that is there keeps its place and takes the new value; removing a key moves
no other one.  `get?` is the view through which the operations are described:
`get?_insert`, `get?_erase` and `get?_filter` say what each does to it, and
`keys_insert`, `keys_erase` what each does to the order.
-/

namespace TableLake

set_option autoImplicit false

/-- Entries in order of first insertion, each key once. -/
structure OrderedMap (κ ν : Type) where
  entries : List (κ × ν)
  nodup : (entries.map Prod.fst).Nodup
deriving DecidableEq, Repr

namespace OrderedMap

variable {κ ν : Type}

@[ext]
theorem ext {m n : OrderedMap κ ν} (same : m.entries = n.entries) : m = n := by
  cases m; cases n; cases same; rfl

def empty : OrderedMap κ ν := ⟨[], List.nodup_nil⟩

instance : EmptyCollection (OrderedMap κ ν) := ⟨empty⟩
instance : Inhabited (OrderedMap κ ν) := ⟨empty⟩

/-- The keys in order. -/
def keys (m : OrderedMap κ ν) : List κ := m.entries.map Prod.fst

/-- The values in the order of their keys. -/
def values (m : OrderedMap κ ν) : List ν := m.entries.map Prod.snd

def isEmpty (m : OrderedMap κ ν) : Bool := m.entries.isEmpty

/-- Keep the entries that pass a test. -/
def filter (m : OrderedMap κ ν) (keep : κ → ν → Bool) : OrderedMap κ ν where
  entries := m.entries.filter fun entry => keep entry.1 entry.2
  nodup := m.nodup.sublist (List.filter_sublist.map _)

variable [DecidableEq κ]

/-- The value of the first entry with a key. -/
def find (k : κ) : List (κ × ν) → Option ν
  | [] => none
  | (k', v) :: rest => if k' = k then some v else find k rest

def get? (m : OrderedMap κ ν) (k : κ) : Option ν := find k m.entries

def contains (m : OrderedMap κ ν) (k : κ) : Bool := (m.get? k).isSome

/-- The entries with a value at a key: in its place, or at the end. -/
def placed (k : κ) (v : ν) : List (κ × ν) → List (κ × ν)
  | [] => [(k, v)]
  | (k', w) :: rest => if k' = k then (k, v) :: rest else (k', w) :: placed k v rest

/-- A key that is new goes behind the others; one that is there keeps its place. -/
theorem keys_placed (k : κ) (v : ν) : ∀ entries : List (κ × ν),
    (placed k v entries).map Prod.fst =
      if k ∈ entries.map Prod.fst then entries.map Prod.fst
      else entries.map Prod.fst ++ [k]
  | [] => by simp [placed]
  | (k', w) :: rest => by
      by_cases same : k' = k
      · simp [placed, same]
      · have ih := keys_placed k v rest
        have other : k ≠ k' := fun h => same h.symm
        by_cases inside : k ∈ rest.map Prod.fst <;>
          simp_all [placed]

theorem nodup_placed (k : κ) (v : ν) {entries : List (κ × ν)}
    (distinct : (entries.map Prod.fst).Nodup) :
    ((placed k v entries).map Prod.fst).Nodup := by
  rw [keys_placed]
  by_cases inside : k ∈ entries.map Prod.fst
  · simpa [inside] using distinct
  · simp only [inside, if_false]
    rw [List.nodup_append]
    refine ⟨distinct, by simp, ?_⟩
    intro a ha b hb same
    simp only [List.mem_singleton] at hb
    subst hb; subst same
    exact inside ha

def insert (m : OrderedMap κ ν) (k : κ) (v : ν) : OrderedMap κ ν :=
  ⟨placed k v m.entries, nodup_placed k v m.nodup⟩

def erase (m : OrderedMap κ ν) (k : κ) : OrderedMap κ ν :=
  m.filter fun k' _ => k' ≠ k

/-- Insert entries one after the other. -/
def insertAll (m : OrderedMap κ ν) (entries : List (κ × ν)) : OrderedMap κ ν :=
  entries.foldl (fun m entry => m.insert entry.1 entry.2) m

/-- The second map's entries over those of the first. -/
def overlay (m n : OrderedMap κ ν) : OrderedMap κ ν := m.insertAll n.entries

/-- A repeated key keeps its first place and takes its last value. -/
def ofList (entries : List (κ × ν)) : OrderedMap κ ν := empty.insertAll entries

/-! ## The view -/

theorem find_placed (k k' : κ) (v : ν) : ∀ entries : List (κ × ν),
    find k' (placed k v entries) = if k = k' then some v else find k' entries
  | [] => by simp [placed, find]
  | (j, w) :: rest => by
      have ih := find_placed k k' v rest
      by_cases same : j = k
      · subst same
        by_cases here : j = k' <;> simp [placed, find, here]
      · by_cases here : j = k'
        · subst here
          have other : k ≠ j := fun h => same h.symm
          simp [placed, find, same, other]
        · simp [placed, find, same, here, ih]

@[simp]
theorem get?_insert (m : OrderedMap κ ν) (k k' : κ) (v : ν) :
    (m.insert k v).get? k' = if k = k' then some v else m.get? k' :=
  find_placed k k' v m.entries

@[simp]
theorem get?_empty (k : κ) : (empty : OrderedMap κ ν).get? k = none := rfl

theorem keys_insert (m : OrderedMap κ ν) (k : κ) (v : ν) :
    (m.insert k v).keys = if k ∈ m.keys then m.keys else m.keys ++ [k] :=
  keys_placed k v m.entries

theorem keys_erase (m : OrderedMap κ ν) (k : κ) :
    (m.erase k).keys = m.keys.filter (· ≠ k) := by
  simp [erase, keys, filter, List.filter_map, Function.comp_def]

theorem find_eq_none_iff {k : κ} : ∀ {entries : List (κ × ν)},
    find k entries = none ↔ k ∉ entries.map Prod.fst
  | [] => by simp [find]
  | (j, w) :: rest => by
      by_cases here : j = k
      · simp [find, here]
      · have other : k ≠ j := fun h => here h.symm
        have ih : find k rest = none ↔ k ∉ rest.map Prod.fst := find_eq_none_iff
        simp only [find, here, if_false, List.map_cons, List.mem_cons, other, false_or]
        exact ih

theorem find_eq_some_of_mem {k : κ} {v : ν} : ∀ {entries : List (κ × ν)},
    (entries.map Prod.fst).Nodup → (k, v) ∈ entries → find k entries = some v
  | [], _, inside => by simp at inside
  | (j, w) :: rest, distinct, inside => by
      have ⟨fresh, tail⟩ := List.nodup_cons.mp distinct
      rcases List.mem_cons.mp inside with here | later
      · cases here
        simp [find]
      · have known : k ∈ rest.map Prod.fst := List.mem_map_of_mem (f := Prod.fst) later
        have other : j ≠ k := fun h => fresh (by simpa [h] using known)
        simp [find, other, find_eq_some_of_mem tail later]

theorem mem_of_find {k : κ} {v : ν} : ∀ {entries : List (κ × ν)},
    find k entries = some v → (k, v) ∈ entries
  | [], found => by simp [find] at found
  | (j, w) :: rest, found => by
      by_cases here : j = k
      · simp only [find, here, if_true, Option.some.injEq] at found
        simp [here, found]
      · simp only [find, here, if_false] at found
        exact List.mem_cons_of_mem _ (mem_of_find found)

theorem get?_eq_some_iff (m : OrderedMap κ ν) (k : κ) (v : ν) :
    m.get? k = some v ↔ (k, v) ∈ m.entries :=
  ⟨mem_of_find, find_eq_some_of_mem m.nodup⟩

theorem get?_eq_none_iff (m : OrderedMap κ ν) (k : κ) : m.get? k = none ↔ k ∉ m.keys :=
  find_eq_none_iff

theorem contains_iff_mem_keys (m : OrderedMap κ ν) (k : κ) :
    m.contains k = true ↔ k ∈ m.keys := by
  have h := get?_eq_none_iff m k
  unfold contains
  cases hk : m.get? k with
  | none => simp [h.mp hk]
  | some v =>
      simp only [hk] at h
      have : k ∈ m.keys := by
        by_cases inside : k ∈ m.keys
        · exact inside
        · exact absurd (h.mpr inside) (by simp)
      simp [this]

theorem get?_filter (m : OrderedMap κ ν) (keep : κ → ν → Bool) (k : κ) :
    (m.filter keep).get? k = (m.get? k).filter (keep k) := by
  apply Option.ext
  intro v
  rw [get?_eq_some_iff, Option.filter_eq_some_iff, get?_eq_some_iff]
  simp [filter]

theorem get?_erase (m : OrderedMap κ ν) (k k' : κ) :
    (m.erase k).get? k' = if k = k' then none else m.get? k' := by
  rw [erase, get?_filter]
  by_cases same : k = k'
  · subst same
    cases m.get? k <;> simp
  · have other : k' ≠ k := fun h => same h.symm
    cases m.get? k' <;> simp [same, other]

end OrderedMap

end TableLake
