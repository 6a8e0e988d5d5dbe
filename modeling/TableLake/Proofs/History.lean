/-
# TableLake.Proofs.History — the history of a table is kept in order

`TableEntry.Orderly` says what the snapshots and tags of a table look like: numbers from
one without a gap, times and schemas that never go back, data that only grow, and tags
that point at snapshots which are there.  A new table is orderly and every step keeps it
so, whatever the clock says; hence so is every table that operations lead to.

The facts stand together: a rollback cuts the list after a number only because the
numbers have no gap (`filter_le_eq_take`), and a snapshot committed afterwards takes up a
number again without a tag pointing at it only because the tags were cut as well.
-/
import Mathlib.Data.List.Chain
import TableLake.Proofs.Lineage
import TableLake.Proofs.SchemaStep

namespace TableLake

open TableLake.Outcome

set_option autoImplicit false

/-- The batches of a snapshot and those of the one behind it: none is lost, and a
compaction adds none. -/
def Snapshot.Grows (s next : Snapshot) : Prop :=
  s.batches <+: next.batches ∧ (next.kind = .compact → next.batches = s.batches)

namespace TableEntry

/-- Snapshots and tags in order. -/
structure Orderly (t : TableEntry) : Prop where
  ids : t.snapshots.map Snapshot.id = List.range' 1 t.snapshots.length
  times : t.snapshots.Pairwise fun s next => s.millis ≤ next.millis
  schemas : t.snapshots.Pairwise fun s next => s.schemaId ≤ next.schemaId
  bound : ∀ s ∈ t.snapshots, s.schemaId ≤ t.schema.id
  growth : t.snapshots.IsChain Snapshot.Grows
  start : ∀ s, t.snapshots.head? = some s → s.kind ≠ .compact
  tags : ∀ tag n, t.tags.get? tag = some n → ∃ s ∈ t.snapshots, s.id = n

variable {t t' : TableEntry} {id : TableId} {now : Int}

theorem orderly_new (schema : Schema) : (new schema).Orderly where
  ids := rfl
  times := .nil
  schemas := .nil
  bound := by intro s inside; cases inside
  growth := .nil
  start := by intro s found; cases found
  tags := by intro tag n found; cases found

/-! ## Commits -/

theorem Orderly.nextId_eq (orderly : t.Orderly) : t.nextId = t.snapshots.length + 1 := by
  have last := congrArg List.getLast? orderly.ids
  rw [List.getLast?_map, List.getLast?_range'] at last
  unfold nextId
  cases found : t.snapshots.getLast? with
  | none => rw [List.getLast?_eq_none_iff.mp found, List.length_nil]
  | some s =>
      have filled : t.snapshots.length ≠ 0 := by
        intro empty
        rw [List.length_eq_zero_iff.mp empty] at found
        cases found
      rw [found, if_neg filled] at last
      simp only [Option.map_some, Option.some.injEq] at last
      show s.id + 1 = t.snapshots.length + 1
      omega

/-- A commit is dated no earlier than any commit before it. -/
theorem Orderly.le_commitTime (orderly : t.Orderly) (now : Int) :
    ∀ s ∈ t.snapshots, s.millis ≤ t.commitTime now := by
  intro s inside
  unfold commitTime
  cases found : t.snapshots.getLast? with
  | none =>
      rw [List.getLast?_eq_none_iff.mp found] at inside
      cases inside
  | some last =>
      obtain ⟨before, parts⟩ := List.getLast?_eq_some_iff.mp found
      have times := orderly.times
      rw [parts] at times inside
      have latest : s.millis ≤ last.millis := by
        rcases List.mem_append.mp inside with earlier | here
        · exact (List.pairwise_append.mp times).2.2 s earlier last List.mem_cons_self
        · exact Int.le_of_eq (congrArg Snapshot.millis (List.mem_singleton.mp here))
      exact Int.le_trans latest (Int.le_max_left _ _)

theorem Orderly.commit (orderly : t.Orderly) {kind : CommitKind} {batches : List Batch}
    (kept : t.latestBatches <+: batches)
    (compacted : kind = .compact → t.snapshots ≠ [] ∧ batches = t.latestBatches) :
    (t.commit (t.nextSnapshot kind now batches)).Orderly where
  ids := by
    show (t.snapshots ++ [_]).map Snapshot.id = List.range' 1 (t.snapshots ++ [_]).length
    rw [List.map_append, orderly.ids, List.length_append, List.length_singleton,
      List.range'_1_concat, Nat.add_comm 1, ← orderly.nextId_eq]
    rfl
  times := by
    refine List.pairwise_append.mpr ⟨orderly.times, List.pairwise_singleton _ _, ?_⟩
    intro s inside next here
    rw [List.mem_singleton.mp here]
    exact orderly.le_commitTime now s inside
  schemas := by
    refine List.pairwise_append.mpr ⟨orderly.schemas, List.pairwise_singleton _ _, ?_⟩
    intro s inside next here
    rw [List.mem_singleton.mp here]
    exact orderly.bound s inside
  bound := by
    intro s inside
    rcases List.mem_append.mp inside with earlier | here
    · exact orderly.bound s earlier
    · rw [List.mem_singleton.mp here]
      exact le_rfl
  growth := by
    refine orderly.growth.append (List.isChain_singleton _) ?_
    intro s last next here
    cases here
    rw [Option.mem_def] at last
    have latest : t.latestBatches = s.batches := by rw [latestBatches, last]
    rw [latest] at kept compacted
    exact ⟨kept, fun compact => (compacted compact).2⟩
  start := by
    intro s found compact
    cases parts : t.snapshots with
    | nil =>
        simp only [TableEntry.commit, parts, List.nil_append, List.head?_cons, Option.some.injEq] at found
        subst found
        exact (compacted compact).1 parts
    | cons first rest =>
        simp only [TableEntry.commit, parts, List.cons_append, List.head?_cons, Option.some.injEq] at found
        exact orderly.start s (by rw [parts, List.head?_cons, found]) compact
  tags := by
    intro tag n found
    obtain ⟨s, inside, number⟩ := orderly.tags tag n found
    exact ⟨s, List.mem_append_left _ inside, number⟩

/-! ## Rollbacks -/

/-- Of members that are numbered without a gap, those up to a number come first. -/
theorem filter_le_eq_take {α : Type} (number : α → Nat) (n : Nat) :
    ∀ {members : List α} {start : Nat},
    members.map number = List.range' start members.length →
      (members.filter fun a => number a ≤ n) = members.take (n + 1 - start)
  | [], _, _ => by simp
  | a :: rest, start, numbered => by
      simp only [List.map_cons, List.length_cons, List.range'_succ, List.cons.injEq] at numbered
      obtain ⟨rfl, later⟩ := numbered
      have tail := filter_le_eq_take number n later
      by_cases inside : number a ≤ n
      · have step : n + 1 - number a = (n + 1 - (number a + 1)) + 1 := by omega
        rw [List.filter_cons_of_pos (by simpa using inside), step, List.take_succ_cons, tail]
      · have ended : n + 1 - number a = 0 := by omega
        have past : n + 1 - (number a + 1) = 0 := by omega
        rw [List.filter_cons_of_neg (by simpa using inside), tail, ended, past]
        rfl

theorem Orderly.snapshots_upTo (orderly : t.Orderly) (n : Nat) :
    (t.upTo n).snapshots = t.snapshots.take n :=
  filter_le_eq_take Snapshot.id n orderly.ids

theorem Orderly.upTo (orderly : t.Orderly) (n : Nat) : (t.upTo n).Orderly where
  ids := by
    rw [orderly.snapshots_upTo, List.map_take, orderly.ids, List.length_take]
    rcases Nat.le_total n t.snapshots.length with short | long
    · rw [List.take_range'_of_length_ge short, Nat.min_eq_left short]
    · rw [List.take_range'_of_length_le long, Nat.min_eq_right long]
  times := orderly.times.filter _
  schemas := orderly.schemas.filter _
  bound := fun s inside => orderly.bound s (List.mem_of_mem_filter inside)
  growth := by
    rw [orderly.snapshots_upTo]
    exact orderly.growth.take n
  start := by
    intro s found
    rw [orderly.snapshots_upTo] at found
    cases n with
    | zero => cases found
    | succ n => exact orderly.start s (by rw [← found, List.head?_take]; rfl)
  tags := by
    intro tag m found
    have cut : (t.tags.filter fun _ m => m ≤ n).get? tag = some m := found
    rw [OrderedMap.get?_filter, Option.filter_eq_some_iff] at cut
    obtain ⟨s, inside, number⟩ := orderly.tags tag m cut.1
    have early : s.id ≤ n := by
      rw [number]
      exact of_decide_eq_true cut.2
    exact ⟨s, List.mem_filter.mpr ⟨inside, decide_eq_true early⟩, number⟩

/-! ## Schemas and tags -/

theorem Orderly.alter (orderly : t.Orderly) {schema : Schema}
    (later : t.schema.id ≤ schema.id) : ({ t with schema } : TableEntry).Orderly where
  ids := orderly.ids
  times := orderly.times
  schemas := orderly.schemas
  bound := fun s inside => (orderly.bound s inside).trans later
  growth := orderly.growth
  start := orderly.start
  tags := orderly.tags

theorem Orderly.tag (orderly : t.Orderly) (tag : String) {n : Nat}
    (kept : ∃ s ∈ t.snapshots, s.id = n) :
    ({ t with tags := t.tags.insert tag n } : TableEntry).Orderly where
  ids := orderly.ids
  times := orderly.times
  schemas := orderly.schemas
  bound := orderly.bound
  growth := orderly.growth
  start := orderly.start
  tags := by
    intro other m found
    rw [OrderedMap.get?_insert] at found
    split at found
    · cases found
      exact kept
    · exact orderly.tags other m found

/-! ## Steps and runs -/

theorem Orderly.step {op : CatalogOp} {answer : Option Snapshot} (orderly : t.Orderly)
    (step : t.Step id now op t' answer) : t'.Orderly := by
  cases step with
  | alter evolved =>
      refine orderly.alter ?_
      rw [Schema.id_of_applyChanges evolved]
      exact Nat.le_succ _
  | write made => exact orderly.commit (List.prefix_append _ _) (by intro other; cases other)
  | compact admitted filled => exact orderly.commit (List.prefix_refl _) fun _ => ⟨filled, rfl⟩
  | compactEmpty => exact orderly
  | rollback means kept => exact orderly.upTo _
  | tag free target =>
      obtain ⟨s, inside, number, _⟩ := exists_of_tagTarget target
      exact orderly.tag _ ⟨s, inside, number⟩

/-! ## Looking up -/

/-- No two snapshots have one number. -/
theorem Orderly.unique (orderly : t.Orderly) {s s' : Snapshot} (inside : s ∈ t.snapshots)
    (inside' : s' ∈ t.snapshots) (same : s.id = s'.id) : s = s' := by
  have distinct : (t.snapshots.map Snapshot.id).Nodup := by
    rw [orderly.ids]
    exact List.nodup_range'
  exact List.inj_on_of_nodup_map distinct inside inside' same

theorem Orderly.snapshot_eq (orderly : t.Orderly) {s : Snapshot} (inside : s ∈ t.snapshots)
    (id : TableId) : (t.view id).snapshot s.id = .ok s := by
  have numbered : (t.snapshots.find? fun s' => s'.id == s.id).isSome = true :=
    List.find?_isSome.mpr ⟨s, inside, beq_self_eq_true s.id⟩
  obtain ⟨s', found⟩ := Option.isSome_iff_exists.mp numbered
  have number : s'.id = s.id := by simpa using List.find?_some found
  obtain rfl : s' = s := orderly.unique (List.mem_of_find?_eq_some found) inside number
  have shown : (t.view id).snapshots = t.snapshots := rfl
  rw [Table.snapshot, shown, found]

theorem Orderly.tagged_eq (orderly : t.Orderly) {tag : String} {s : Snapshot}
    (points : t.tags.get? tag = some s.id) (inside : s ∈ t.snapshots) (id : TableId) :
    (t.view id).tagged tag = .ok s := by
  have shown : (t.view id).tags = t.tags := rfl
  rw [Table.tagged, shown, points]
  exact orderly.snapshot_eq inside id

/-- Looking for a tag ends at a snapshot, or there is no such tag. -/
theorem Orderly.tagged_cases (orderly : t.Orderly) (id : TableId) (tag : String) :
    (∃ s ∈ t.snapshots, t.tags.get? tag = some s.id ∧ (t.view id).tagged tag = .ok s) ∨
      (t.view id).tagged tag = .error (.noTag id tag) := by
  cases points : t.tags.get? tag with
  | none =>
      right
      have shown : (t.view id).tags = t.tags := rfl
      rw [Table.tagged, shown, points]
      rfl
  | some n =>
      left
      obtain ⟨s, inside, rfl⟩ := orderly.tags tag n points
      exact ⟨s, inside, rfl, orderly.tagged_eq points inside id⟩

end TableEntry

/-- Every table that operations lead to is orderly. -/
theorem Reachable.orderly {c : Catalog} (reached : Reachable c) {id : TableId} {t : TableEntry}
    (found : c.entry? id = some t) : t.Orderly :=
  reached.entry TableEntry.orderly_new TableEntry.Orderly.step found

/-- **History is kept in order.**  Whatever operations led to a catalog, accepted or
refused and at whatever readings of the clock: the snapshots of each of its tables are
numbered from one without a gap, their times and schemas never go back, no schema is
ahead of the table's own, each holds the batches of the one before it first and a
compaction just these, and no tag points at a snapshot that is not there. -/
theorem history_in_order {c : Catalog} (reached : Reachable c) {id : TableId} {t : TableEntry}
    (found : c.entry? id = some t) :
    t.Orderly ∧ ∀ tag other n, (t.view id).tagged tag ≠ .error (.noSnapshot other n) := by
  have orderly := reached.orderly found
  refine ⟨orderly, fun tag other n refused => ?_⟩
  rcases orderly.tagged_cases id tag with ⟨s, _, _, given⟩ | missing
  · rw [given] at refused
    cases refused
  · rw [missing] at refused
    cases refused

/-- A run in which the clock goes back, a table moves, and the number of a snapshot is
used again after a rollback. -/
def catchRun : List (CatalogOp × Int) :=
  let here : TableId := ⟨"lake", "catch"⟩
  let there : TableId := ⟨"lake", "landed"⟩
  let weight : Field := ⟨"weight", .int64, true, none⟩
  let schema : Schema := ⟨0, [weight], [], [], ∅, none⟩
  let rows : Batch := ⟨[weight], [⟨.int64, [some (.integer 7)]⟩], 1, rfl, by decide, by decide⟩
  [(.createDatabase "lake" false, 0), (.createTable here schema false, 1),
    (.write here [rows], 50), (.createTag here "first" none, 51), (.write here [rows], 30),
    (.createTag here "second" (some 2), 31), (.rollbackTo here (.tag "first"), 32),
    (.alterTable here [.setOption "deep" "yes"] false, 33), (.renameTable here there false, 34),
    (.compact there ⟨[], none, ∅⟩, 40)]

theorem history_in_order_catchRun :
    ∃ t, Catalog.entry? (CatalogOp.afterAll (.new "sea" ∅) catchRun) ⟨"lake", "landed"⟩ = some t ∧
      (t.snapshots.map fun s => (s.id, s.schemaId, s.millis, s.records)) =
        [(1, 0, 50, 1), (2, 1, 50, 1)] ∧ t.tags.entries = [("first", 1)] ∧ t.Orderly ∧
      ∀ tag other n, (t.view ⟨"lake", "landed"⟩).tagged tag ≠ .error (.noSnapshot other n) := by
  let seen (t : TableEntry) :=
    (t.snapshots.map fun s => (s.id, s.schemaId, s.millis, s.records), t.tags.entries)
  have left : (Catalog.entry? (CatalogOp.afterAll (.new "sea" ∅) catchRun)
      ⟨"lake", "landed"⟩).map seen = some ([(1, 0, 50, 1), (2, 1, 50, 1)], [("first", 1)]) := by
    decide +kernel
  obtain ⟨t, found, same⟩ := Option.map_eq_some_iff.mp left
  have reached := (Reachable.new "sea" ∅).afterAll catchRun
  exact ⟨t, found, congrArg Prod.fst same, congrArg Prod.snd same, history_in_order reached found⟩

end TableLake
