/-
# TableLake.Proofs.Permanence — snapshots do not change and tags do not move

A snapshot stays as it is for as long as the table is followed and no rollback goes below
its number, whatever is done to the table under whatever names.  A tag that stays in the
tags of its table shows the snapshot it was made for to the end: a rollback below that
snapshot takes the tag along, so a number that is used again finds no tag that means the
old snapshot.
-/
import TableLake.Proofs.History

namespace TableLake

open TableLake.Outcome

set_option autoImplicit false

variable {c c' : Catalog} {now : Int} {op : CatalogOp} {answer : Option Snapshot}
variable {id id' : TableId} {t t' : TableEntry} {s : Snapshot} {tag : String}

namespace CatalogOp

/-- A rollback of the table that is accepted and goes below a number. -/
def Undercuts (k : Nat) : CatalogOp → Catalog → TableId → Prop
  | .rollbackTo target version, c, id =>
      target = id ∧ ∃ t, c.entry? id = some t ∧
        ∃ n < k, t.versionId id version = .ok n ∧ t.hasSnapshot n = true
  | _, _, _ => False

/-- The operation does not roll the table back below a number. -/
def Spares (k : Nat) (op : CatalogOp) (c : Catalog) (_ : Int) (id : TableId) : Prop :=
  ¬op.Undercuts k c id

/-- The table, if it is not dropped, has a tag after the operation. -/
def Keeps (tag : String) (op : CatalogOp) (c : Catalog) (now : Int) (id : TableId) : Prop :=
  ∀ t' ∈ (op.follow c now id).bind (Catalog.entry? (op.after c now)),
    t'.tags.contains tag = true

instance (tag : String) (op : CatalogOp) (c : Catalog) (now : Int) (id : TableId) :
    Decidable (op.Keeps tag c now id) :=
  inferInstanceAs (Decidable (∀ t' ∈ (op.follow c now id).bind _, _))

end CatalogOp

/-! ## Steps -/

namespace TableEntry.Step

/-- A step that spares the number of a snapshot keeps the snapshot. -/
theorem keeps_snapshot (step : t.Step id now op t' answer) (found : c.entry? id = some t)
    (inside : s ∈ t.snapshots) (spared : op.Spares s.id c now id) : s ∈ t'.snapshots := by
  cases step with
  | alter => exact inside
  | write => exact List.mem_append_left _ inside
  | compact => exact List.mem_append_left _ inside
  | compactEmpty => exact inside
  | @rollback version n means kept =>
      have above : s.id ≤ n := by
        refine Nat.le_of_not_lt fun below => spared ?_
        exact ⟨rfl, t, found, n, below, means, kept⟩
      exact List.mem_filter.mpr ⟨inside, decide_eq_true above⟩
  | tag => exact inside

/-- A step that leaves a tag keeps what the tag points at: of the steps only a rollback
takes something away, and it takes the tags of what it takes. -/
theorem keeps_tag (step : t.Step id now op t' answer)
    (points : t.tags.get? tag = some s.id ∧ s ∈ t.snapshots)
    (tagged : t'.tags.contains tag = true) :
    t'.tags.get? tag = some s.id ∧ s ∈ t'.snapshots := by
  obtain ⟨points, inside⟩ := points
  cases step with
  | alter => exact ⟨points, inside⟩
  | write => exact ⟨points, List.mem_append_left _ inside⟩
  | compact => exact ⟨points, List.mem_append_left _ inside⟩
  | compactEmpty => exact ⟨points, inside⟩
  | @rollback version n means kept =>
      have cut : (t.upTo n).tags.get? tag = (some s.id).filter fun m => m ≤ n := by
        rw [← points]
        exact OrderedMap.get?_filter _ _ _
      have early : s.id ≤ n := by
        refine Nat.le_of_not_lt fun past => ?_
        have gone : (t.upTo n).tags.get? tag = none := by
          rw [cut, Option.filter_some, if_neg]
          simpa using past
        rw [OrderedMap.contains, gone] at tagged
        cases tagged
      refine ⟨?_, List.mem_filter.mpr ⟨inside, decide_eq_true early⟩⟩
      rw [cut, Option.filter_some, if_pos]
      exact decide_eq_true early
  | @tag other snapshot n free target =>
      refine ⟨?_, inside⟩
      have different : other ≠ tag := by
        rintro rfl
        rw [OrderedMap.contains, points] at free
        cases free
      rw [OrderedMap.get?_insert, if_neg different, points]

end TableEntry.Step

/-! ## Runs -/

/-- The snapshot that a number names; without a number, the last one. -/
def Table.Names (v : Table) (s : Snapshot) : Option Nat → Prop
  | some n => v.snapshot n = .ok s
  | none => v.latest? = some s

theorem TableEntry.Orderly.exists_target (orderly : t.Orderly) {snapshot : Option Nat} {n : Nat}
    (target : t.tagTarget id snapshot = .ok n) :
    ∃ s ∈ t.snapshots, s.id = n ∧ (t.view id).Names s snapshot := by
  obtain ⟨s, inside, rfl, rfl | ⟨rfl, last⟩⟩ := TableEntry.exists_of_tagTarget target
  · exact ⟨s, inside, rfl, orderly.snapshot_eq inside id⟩
  · exact ⟨s, inside, rfl, last⟩

theorem Table.mem_of_snapshot {v : Table} {k : Nat} (shown : v.snapshot k = .ok s) :
    s ∈ v.snapshots ∧ s.id = k := by
  unfold Table.snapshot at shown
  split at shown
  · rename_i s' found
    cases shown
    exact ⟨List.mem_of_find?_eq_some found, by simpa using List.find?_some found⟩
  · cases shown

/-- A tag that is made is in the tags of its table, next to those that are there. -/
theorem CatalogOp.entry?_createTag {snapshot : Option Nat}
    (answered : (CatalogOp.createTag id tag snapshot).answer c now = .ok answer) :
    ∃ t n, c.entry? id = some t ∧ t.tagTarget id snapshot = .ok n ∧
      Catalog.entry? ((CatalogOp.createTag id tag snapshot).after c now) id =
        some { t with tags := t.tags.insert tag n } := by
  rcases (CatalogOp.createTag id tag snapshot).outcome_cases c now with
    ⟨e, left⟩ | ⟨c', answer', left, effect⟩
  · rw [CatalogOp.answer, left] at answered
    cases answered
  · rw [CatalogOp.after, left]
    cases effect with
    | idle idle => exact idle.elim
    | step found step =>
        cases step with
        | tag free target =>
            obtain ⟨db, inside, _⟩ := Catalog.exists_database_of_entry? found
            exact ⟨_, _, found, target, Catalog.entry?_setEntry_self inside _⟩

/-- **History is immutable and tags never move.**  In a catalog that operations led to: a
snapshot that a table shows under a number is the one it shows under that number after
every run that neither drops the table nor rolls it back below the number, and no other
snapshot then has the number.  And a tag that `createTag` accepts is made for the snapshot
that was named, or else the last, and shows just this snapshot after every run that leaves
the tag in the table's tags all the while. -/
theorem history_permanent (reached : Reachable c) {v : Table} (shown : c.getTable id = .ok v) :
    (∀ {k : Nat} {s : Snapshot}, v.snapshot k = .ok s →
      ∀ {c' : Catalog} {id' : TableId}, Follows (CatalogOp.Spares k) c id c' id' →
        ∃ v', c'.getTable id' = .ok v' ∧ v'.snapshot k = .ok s ∧
          ∀ s' ∈ v'.snapshots, s'.id = k → s' = s) ∧
    (∀ {tag : String} {snapshot : Option Nat} {now : Int} {answer : Option Snapshot},
      (CatalogOp.createTag id tag snapshot).answer c now = .ok answer →
      ∃ s, v.Names s snapshot ∧
        ∀ {c' : Catalog} {id' : TableId}, Follows (CatalogOp.Keeps tag)
          ((CatalogOp.createTag id tag snapshot).after c now) id c' id' →
          ∃ v', c'.getTable id' = .ok v' ∧ v'.tagged tag = .ok s) := by
  obtain ⟨t, found, rfl⟩ := Catalog.getTable_ok_iff.mp shown
  constructor
  · intro k s shows c' id' follows
    obtain ⟨inside, rfl⟩ := Table.mem_of_snapshot shows
    obtain ⟨t', left, inside'⟩ := follows.entry
      (fun spared _ there _ step inside => step.keeps_snapshot there inside spared) found inside
    have orderly := (follows.reachable reached).orderly left
    refine ⟨t'.view id', Catalog.getTable_ok_iff.mpr ⟨t', left, rfl⟩, ?_, ?_⟩
    · exact orderly.snapshot_eq inside' id'
    · intro s' here same
      exact orderly.unique here inside' same
  · intro tag snapshot now answer answered
    obtain ⟨t₀, n, there, target, made⟩ := CatalogOp.entry?_createTag answered
    rw [found] at there
    cases there
    obtain ⟨s, inside, rfl, names⟩ := (reached.orderly found).exists_target target
    refine ⟨s, names, fun {c' id'} follows => ?_⟩
    have start : (t.tags.insert tag s.id).get? tag = some s.id := by
      rw [OrderedMap.get?_insert, if_pos rfl]
    obtain ⟨t', left, points, inside'⟩ := follows.entry
      (fun kept followed _ left step points =>
        step.keeps_tag points (kept _ (Option.mem_bind_iff.mpr ⟨_, followed, left⟩)))
      made ⟨start, inside⟩
    have orderly := (follows.reachable (reached.step _ now)).orderly left
    exact ⟨t'.view id', Catalog.getTable_ok_iff.mpr ⟨t', left, rfl⟩,
      orderly.tagged_eq points inside' id'⟩

/-- The number of a snapshot is used again after a rollback, while the first snapshot and
its tag stay. -/
theorem history_permanent_catchRun :
    let here : TableId := ⟨"lake", "catch"⟩
    let c := CatalogOp.afterAll (.new "sea" ∅) (catchRun.take 3)
    let tag := CatalogOp.createTag here "first" none
    let run : List (CatalogOp × Int) :=
      [(.write here [], 30), (.rollbackTo here (.snapshot 1), 32), (.write here [], 60)]
    ∃ v s v', c.getTable here = .ok v ∧ v.snapshot 1 = .ok s ∧ v.latest? = some s ∧
      Catalog.getTable (CatalogOp.afterAll (tag.after c 51) run) here = .ok v' ∧
      v'.snapshot 1 = .ok s ∧ v'.tagged "first" = .ok s := by
  intro here c tag run
  have reached : Reachable c := (Reachable.new "sea" ∅).afterAll (catchRun.take 3)
  have numbers : (c.entry? here).map (fun t => t.snapshots.map Snapshot.id) = some [1] := by
    decide +kernel
  obtain ⟨t, found, single⟩ := Option.map_eq_some_iff.mp numbers
  obtain ⟨s, only, number⟩ := List.map_eq_singleton_iff.mp single
  have shown : c.getTable here = .ok (t.view here) := Catalog.getTable_ok_iff.mpr ⟨t, found, rfl⟩
  have latest : (t.view here).latest? = some s := by
    show t.snapshots.getLast? = some s
    rw [only]
    rfl
  have first : (t.view here).snapshot 1 = .ok s := by
    rw [← number]
    exact (reached.orderly found).snapshot_eq (List.mem_of_getLast? latest) here
  have spared : Follows (CatalogOp.Spares 1) c here
      (CatalogOp.afterAll (tag.after c 51) run) here := by
    refine .step (.step (.step (.step .here tag 51 rfl ?_) _ 30 rfl ?_) _ 32 rfl ?_) _ 60 rfl ?_
    · exact fun under => under
    · exact fun under => under
    · rintro ⟨_, _, _, n, below, means, _⟩
      cases means
      omega
    · exact fun under => under
  have kept : Follows (CatalogOp.Keeps "first") (tag.after c 51) here
      (CatalogOp.afterAll (tag.after c 51) run) here := by
    refine .step (.step (.step .here _ 30 rfl ?_) _ 32 rfl ?_) _ 60 rfl ?_
    all_goals decide +kernel
  have answered : tag.answer c 51 = .ok none := rfl
  obtain ⟨v', left, still, _⟩ := (history_permanent reached shown).1 first spared
  obtain ⟨s', names, tagged⟩ := (history_permanent reached shown).2 answered
  obtain ⟨v'', left', tagged⟩ := tagged kept
  rw [left] at left'
  cases left'
  have same : s = s' := Option.some.inj (latest.symm.trans names)
  rw [← same] at tagged
  exact ⟨t.view here, s, v', shown, first, latest, left, still, tagged⟩

end TableLake
