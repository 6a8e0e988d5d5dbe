/-
# TableLake.Proofs.EntryStep — what an accepted operation does to its table

One lemma an operation says when it is accepted and what it leaves behind: a commit
behind the snapshots that are there, or the snapshots and tags up to a number
(`TableEntry.upTo`), or one more tag.  Nothing else ever happens to a table that is
there.
-/
import TableLake.Catalog
import TableLake.Proofs.Outcome

namespace TableLake.TableEntry

open TableLake.Outcome

set_option autoImplicit false

variable {t t' : TableEntry} {id : TableId}

/-- The table without the snapshots after a number and the tags that point at one. -/
def upTo (t : TableEntry) (n : Nat) : TableEntry :=
  { t with
    snapshots := t.snapshots.filter fun s => s.id ≤ n
    tags := t.tags.filter fun _ m => m ≤ n }

theorem hasSnapshot_iff (t : TableEntry) (n : Nat) :
    t.hasSnapshot n = true ↔ ∃ s ∈ t.snapshots, s.id = n := by
  simp [hasSnapshot]

/-- A write commits the batches that are there and behind them the written ones, each
under the fields of the table. -/
theorem write_ok_iff {batches : List Batch} {now : Int} {s : Snapshot} :
    t.write batches now = .ok (t', s) ↔
      ∃ written, (batches.mapM fun b => (Batch.make t.schema.fields b.columns).mapError
          CatalogError.data) = .ok written ∧
        s = t.nextSnapshot .append now (t.latestBatches ++ written) ∧ t' = t.commit s := by
  unfold write
  simp only [bind_eq_ok_iff, pure_eq_ok_iff, Prod.mk.injEq]
  constructor
  · rintro ⟨written, made, rfl, rfl⟩
    exact ⟨written, made, rfl, rfl⟩
  · rintro ⟨written, made, rfl, rfl⟩
    exact ⟨written, made, rfl, rfl⟩

/-- A compaction commits the batches that are there, if there is a snapshot. -/
theorem compact_ok_iff {request : CompactRequest} {now : Int} {done : Option Snapshot} :
    t.compact id request now = .ok (t', done) ↔ t.admitRequest id request = .ok () ∧
      (t.snapshots = [] ∧ t' = t ∧ done = none ∨
        t.snapshots ≠ [] ∧ t' = t.commit (t.nextSnapshot .compact now t.latestBatches) ∧
          done = some (t.nextSnapshot .compact now t.latestBatches)) := by
  unfold compact latestBatches
  simp only [bind_eq_ok_iff]
  constructor
  · rintro ⟨⟨⟩, admitted, made⟩
    refine ⟨admitted, ?_⟩
    cases last : t.snapshots.getLast? with
    | none =>
        simp only [last, pure_eq_ok_iff, Prod.mk.injEq] at made
        exact .inl ⟨List.getLast?_eq_none_iff.mp last, made.1.symm, made.2.symm⟩
    | some latest =>
        simp only [last, pure_eq_ok_iff, Prod.mk.injEq] at made
        refine .inr ⟨fun empty => ?_, made.1.symm, made.2.symm⟩
        rw [empty] at last
        cases last
  · rintro ⟨admitted, ⟨empty, rfl, rfl⟩ | ⟨some_data, rfl, rfl⟩⟩
    · exact ⟨(), admitted, by simp [empty, pure_eq_ok_iff]⟩
    · refine ⟨(), admitted, ?_⟩
      cases last : t.snapshots.getLast? with
      | none => exact absurd (List.getLast?_eq_none_iff.mp last) some_data
      | some latest => rfl

/-- A rollback goes to the snapshot that its version means. -/
theorem rollback_ok_iff {version : Version} :
    t.rollback id version = .ok t' ↔
      ∃ n, t.versionId id version = .ok n ∧ t.hasSnapshot n = true ∧ t' = t.upTo n := by
  unfold rollback
  rw [bind_eq_ok_iff]
  refine exists_congr fun n => and_congr_right fun _ => ?_
  cases t.hasSnapshot n with
  | false => simp
  | true =>
      simp only [if_true, pure_eq_ok_iff, true_and]
      exact ⟨Eq.symm, Eq.symm⟩

/-- A tag gets a name that is free and a snapshot that is there. -/
theorem createTag_ok_iff {tag : String} {snapshot : Option Nat} :
    t.createTag id tag snapshot = .ok t' ↔
      t.tags.contains tag = false ∧ ∃ n, t.tagTarget id snapshot = .ok n ∧
        t' = { t with tags := t.tags.insert tag n } := by
  unfold createTag
  cases t.tags.contains tag with
  | true => simp
  | false =>
      simp only [Bool.false_eq_true, if_false, bind_eq_ok_iff, pure_eq_ok_iff, true_and]
      exact exists_congr fun n => and_congr_right fun _ => ⟨Eq.symm, Eq.symm⟩

/-- A tag is made for the snapshot that is named, or else for the last one. -/
theorem exists_of_tagTarget {snapshot : Option Nat} {n : Nat}
    (target : t.tagTarget id snapshot = .ok n) :
    ∃ s ∈ t.snapshots, s.id = n ∧
      (snapshot = some n ∨ snapshot = none ∧ t.snapshots.getLast? = some s) := by
  unfold tagTarget at target
  cases snapshot with
  | some m =>
      simp only at target
      split at target
      · rename_i kept
        cases target
        obtain ⟨s, inside, number⟩ := (hasSnapshot_iff t _).mp kept
        exact ⟨s, inside, number, .inl rfl⟩
      · cases target
  | none =>
      cases last : t.snapshots.getLast? with
      | none => simp [last] at target
      | some s =>
          simp only [last, Except.ok.injEq] at target
          exact ⟨s, List.mem_of_getLast? last, target, .inr ⟨rfl, rfl⟩⟩

end TableLake.TableEntry
