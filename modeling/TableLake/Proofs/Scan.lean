/-
# TableLake.Proofs.Scan — the snapshots that a reading goes through

Whatever settings lie over a table, the snapshot they select is one of the table
(`Table.mem_of_scanSnapshot`).  In an orderly table what holds along the list holds of every
two snapshots by their numbers (`Orderly.related_of_le`).  So an earlier snapshot holds the first
batches of a later one (`Orderly.prefix_of_le`), a batch is found at one place in every
snapshot that has it, and whatever is read is in the last one (`Orderly.mem_latest_of_scanned`).
-/
import TableLake.Proofs.Alignment
import TableLake.Proofs.Permanence

namespace TableLake

open TableLake.Outcome

set_option autoImplicit false

namespace Table

variable {v : Table} {s : Snapshot}

/-- However a snapshot is selected, it is one of the table. -/
theorem mem_of_scanSnapshot (scan : v.scanSnapshot = .ok (some s)) : s ∈ v.snapshots := by
  unfold scanSnapshot at scan
  split at scan
  · simp only [bind_eq_ok_iff, map_eq_ok_iff, Option.some.injEq] at scan
    obtain ⟨n, -, _, shown, rfl⟩ := scan
    exact (mem_of_snapshot shown).1
  · split at scan
    · simp only [map_eq_ok_iff, Option.some.injEq] at scan
      obtain ⟨_, shown, rfl⟩ := scan
      unfold tagged at shown
      split at shown
      · exact (mem_of_snapshot shown).1
      · cases shown
    · split at scan
      · simp only [bind_eq_ok_iff, map_eq_ok_iff, Option.some.injEq] at scan
        obtain ⟨millis, -, _, shown, rfl⟩ := scan
        unfold atTime at shown
        split at shown
        · rename_i found
          cases shown
          exact List.mem_reverse.mp (List.mem_of_find?_eq_some found)
        · cases shown
      · rw [Except.ok.injEq] at scan
        exact List.mem_of_getLast? scan

end Table

namespace TableEntry

variable {t : TableEntry} {s s' : Snapshot}

/-- What every snapshot has in common with itself and with those behind it, one has in common
with every other of no smaller number. -/
theorem Orderly.related_of_le {R : Snapshot → Snapshot → Prop} (orderly : t.Orderly)
    (refl : ∀ s, R s s) (behind : t.snapshots.Pairwise R) (inside : s ∈ t.snapshots)
    (inside' : s' ∈ t.snapshots) (earlier : s.id ≤ s'.id) : R s s' := by
  have numbered (i : Nat) (bound : i < t.snapshots.length) : t.snapshots[i].id = i + 1 := by
    have at_i := congrArg (fun ids => ids[i]?) orderly.ids
    simp only [List.getElem?_map, List.getElem?_eq_getElem bound, Option.map_some] at at_i
    rw [List.getElem?_range' bound, Option.some.injEq] at at_i
    omega
  obtain ⟨i, bound, rfl⟩ := List.getElem_of_mem inside
  obtain ⟨j, bound', rfl⟩ := List.getElem_of_mem inside'
  rw [numbered i bound, numbered j bound'] at earlier
  rcases Nat.lt_or_eq_of_le (Nat.le_of_succ_le_succ earlier) with before | same
  · exact List.pairwise_iff_getElem.mp behind i j bound bound' before
  · subst same
    exact refl _

/-- An earlier snapshot holds the first batches of a later one. -/
theorem Orderly.prefix_of_le (orderly : t.Orderly) (inside : s ∈ t.snapshots)
    (inside' : s' ∈ t.snapshots) (earlier : s.id ≤ s'.id) : s.batches <+: s'.batches := by
  have chain : t.snapshots.IsChain fun s next => s.batches <+: next.batches :=
    orderly.growth.imp fun _ _ grows => grows.1
  have : IsTrans Snapshot fun s next => s.batches <+: next.batches :=
    ⟨fun _ _ _ => List.IsPrefix.trans⟩
  exact orderly.related_of_le (fun _ => List.prefix_refl _) (List.isChain_iff_pairwise.mp chain)
    inside inside' earlier

/-- An earlier snapshot was not committed after a later one. -/
theorem Orderly.millis_le_of_le (orderly : t.Orderly) (inside : s ∈ t.snapshots)
    (inside' : s' ∈ t.snapshots) (earlier : s.id ≤ s'.id) : s.millis ≤ s'.millis :=
  orderly.related_of_le (R := fun s next => s.millis ≤ next.millis) (fun _ => Int.le_refl _)
    orderly.times
    inside inside' earlier

/-- Snapshots are numbered from one to their count. -/
theorem Orderly.exists_id_iff (orderly : t.Orderly) {n : Nat} :
    (∃ s ∈ t.snapshots, s.id = n) ↔ 1 ≤ n ∧ n ≤ t.snapshots.length := by
  rw [← List.mem_map, orderly.ids, List.mem_range'_1]
  omega

theorem Orderly.id_bounds (orderly : t.Orderly) (inside : s ∈ t.snapshots) :
    1 ≤ s.id ∧ s.id ≤ t.snapshots.length :=
  orderly.exists_id_iff.mp ⟨s, inside, rfl⟩

theorem Orderly.id_latest (orderly : t.Orderly) (last : t.snapshots.getLast? = some s) :
    s.id = t.snapshots.length := by
  have next : t.nextId = s.id + 1 := by rw [nextId, last]
  have counted := orderly.nextId_eq
  omega

theorem Orderly.prefix_latest (orderly : t.Orderly) (inside : s ∈ t.snapshots) :
    s.batches <+: t.latestBatches := by
  unfold latestBatches
  cases last : t.snapshots.getLast? with
  | none =>
      rw [List.getLast?_eq_none_iff.mp last] at inside
      cases inside
  | some latest =>
      refine orderly.prefix_of_le inside (List.mem_of_getLast? last) ?_
      rw [orderly.id_latest last]
      exact (orderly.id_bounds inside).2

/-- Whatever snapshot is selected, its batches are among those of the last one. -/
theorem Orderly.mem_latest_of_scanned (orderly : t.Orderly) {selected : Option Snapshot}
    {x : Batch} (there : ∀ s ∈ selected, s ∈ t.snapshots) (inside : x ∈ Table.scanned selected) :
    x ∈ t.latestBatches := by
  cases selected with
  | none => cases inside
  | some s => exact (orderly.prefix_latest (there s rfl)).mem inside

end TableEntry

end TableLake
