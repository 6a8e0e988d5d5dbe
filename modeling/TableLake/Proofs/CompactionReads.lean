/-
# TableLake.Proofs.CompactionReads — a compaction is not seen by those who read

A compaction commits the batches of the last snapshot once more.  The new snapshot is the last one
from then on, and whoever reads at a time may come upon it where the one before was found.  In both
cases the batches are the same: a commit is dated no earlier than the one before it, so a time at
which the new snapshot is found is one at which the last one was found (`Repeats.scanned_atTime`).
No number and no tag that meant a snapshot means the new one, for its number was free and tags point
at snapshots that are there.  So the selected batches are the same under whatever settings, unless
these ask for the new number, which could not be read before (`Repeats.readBy_eq`).
-/
import TableLake.Proofs.CommitTime
import TableLake.Proofs.Isolation

namespace TableLake

open TableLake.Outcome TableLake.Text

set_option autoImplicit false

namespace Table

variable {k : Casting} {v v' : Table} {s : Snapshot} {n : Nat}

/-- The second view has one more snapshot, with a number that was free, and with the batches of the
last one, behind which it stands and before which it is not dated. -/
structure Repeats (v v' : Table) (s : Snapshot) : Prop where
  id : v'.id = v.id
  schema : v'.schema = v.schema
  tags : v'.tags = v.tags
  dynamic : v'.dynamic = v.dynamic
  snapshots : v'.snapshots = v.snapshots ++ [s]
  fresh : ∀ earlier ∈ v.snapshots, earlier.id ≠ s.id
  untagged : ∀ tag, v.tags.get? tag ≠ some s.id
  latest : ∃ last, v.latest? = some last ∧ s.batches = last.batches ∧ last.millis ≤ s.millis

/-- The settings ask for the snapshot with a number. -/
def Asks (v : Table) (n : Nat) : Prop :=
  ∃ text, v.options.get? scanSnapshotKey = some text ∧ readUnsigned maxUnsigned64 text = .ok n

namespace Repeats

theorem copy (repeats : v.Repeats v' s) (settings : Options) :
    (v.copy settings).Repeats (v'.copy settings) s where
  id := repeats.id
  schema := repeats.schema
  tags := repeats.tags
  dynamic := congrArg (·.overlay settings) repeats.dynamic
  snapshots := repeats.snapshots
  fresh := repeats.fresh
  untagged := repeats.untagged
  latest := repeats.latest

theorem options_eq (repeats : v.Repeats v' s) : v'.options = v.options := by
  rw [options, options, repeats.schema, repeats.dynamic]

/-! ## Lookups -/

theorem snapshot_eq (repeats : v.Repeats v' s) (other : n ≠ s.id) :
    v'.snapshot n = v.snapshot n := by
  have skipped : [s].find? (fun s => s.id == n) = none := by
    simpa using other.symm
  rw [snapshot, snapshot, repeats.snapshots, repeats.id, List.find?_append, skipped, Option.or_none]

theorem tagged_eq (repeats : v.Repeats v' s) (tag : String) : v'.tagged tag = v.tagged tag := by
  rw [tagged, tagged, repeats.tags, repeats.id]
  cases points : v.tags.get? tag with
  | none => rfl
  | some n =>
      have other : n ≠ s.id := by
        rintro rfl
        exact repeats.untagged tag points
      exact repeats.snapshot_eq other

/-- At any time the same batches are found: where the new snapshot is, the last one was. -/
theorem scanned_atTime (repeats : v.Repeats v' s) (millis : Int) :
    Snapshot.batches <$> v'.atTime millis = Snapshot.batches <$> v.atTime millis := by
  obtain ⟨last, latest, same, dated⟩ := repeats.latest
  rcases Int.lt_or_le millis s.millis with past | found
  · have skipped : v'.atTime millis = v.atTime millis := by
      refine atTime_eq_of_append repeats.id repeats.snapshots fun other inside => ?_
      rw [List.mem_singleton.mp inside]
      exact past
    rw [skipped]
  · obtain ⟨front, parts⟩ := List.getLast?_eq_some_iff.mp latest
    have before : v.atTime millis = .ok last := by
      have early : last.millis ≤ millis := Int.le_trans dated found
      simp [atTime, parts, early]
    have after : v'.atTime millis = .ok s := by
      simp [atTime, repeats.snapshots, found]
    rw [before, after]
    exact congrArg Except.ok same

theorem scanned_latest? (repeats : v.Repeats v' s) : scanned v'.latest? = scanned v.latest? := by
  obtain ⟨last, latest, same, -⟩ := repeats.latest
  have latest' : v'.latest? = some s := by
    rw [latest?, repeats.snapshots, List.getLast?_concat]
  rw [latest, latest']
  exact same

/-! ## Scans and reads -/

theorem scanned_some (found : Except CatalogError Snapshot) :
    scanned <$> (some <$> found) = Snapshot.batches <$> found := by
  cases found <;> rfl

/-- Whatever the settings, the same batches are selected, or none for the same reason. -/
theorem scanned_scanSnapshot (repeats : v.Repeats v' s) (unasked : ¬v.Asks s.id) :
    scanned <$> v'.scanSnapshot = scanned <$> v.scanSnapshot := by
  unfold scanSnapshot
  rw [repeats.options_eq]
  cases numbered : v.options.get? scanSnapshotKey with
  | some text =>
      dsimp only
      cases read : readUnsigned maxUnsigned64 text with
      | error fault => rfl
      | ok n =>
          have other : n ≠ s.id := by
            rintro rfl
            exact unasked ⟨text, numbered, read⟩
          show scanned <$> (some <$> v'.snapshot n) = scanned <$> (some <$> v.snapshot n)
          rw [repeats.snapshot_eq other]
  | none =>
      cases v.options.get? scanTagKey with
      | some tag =>
          show scanned <$> (some <$> v'.tagged tag) = scanned <$> (some <$> v.tagged tag)
          rw [repeats.tagged_eq]
      | none =>
          cases v.options.get? scanTimeKey with
          | some text =>
              dsimp only
              cases readSigned 64 text with
              | error fault => rfl
              | ok millis =>
                  show scanned <$> (some <$> v'.atTime millis) =
                    scanned <$> (some <$> v.atTime millis)
                  rw [scanned_some, scanned_some, repeats.scanned_atTime]
          | none => exact congrArg Except.ok repeats.scanned_latest?

/-- What is read are the selected batches, each through the columns. -/
theorem readBy_eq_of_scanned (k : Casting) (v : Table) :
    v.readBy k = (scanned <$> v.scanSnapshot) >>= fun batches => batches.mapM (v.align k) := by
  rw [v.readBy_eq]
  cases v.scanSnapshot <;> rfl

theorem readBy_eq (repeats : v.Repeats v' s) (unasked : ¬v.Asks s.id) :
    v'.readBy k = v.readBy k := by
  have aligned : v'.align k = v.align k := by
    funext b
    rw [align, align, repeats.schema]
  rw [readBy_eq_of_scanned, readBy_eq_of_scanned, repeats.scanned_scanSnapshot unasked, aligned]

/-- Nothing was read where the number of the new snapshot was asked for. -/
theorem readBy_ne_ok_of_asks (repeats : v.Repeats v' s) (asks : v.Asks s.id)
    (batches : List Batch) : v.readBy k ≠ .ok batches := by
  obtain ⟨text, selected, read⟩ := asks
  intro done
  obtain ⟨chosen, scan, -⟩ := readBy_ok_iff.mp done
  rw [scanSnapshot_of_number selected read] at scan
  obtain ⟨earlier, shown, -⟩ := map_eq_ok_iff.mp scan
  obtain ⟨inside, number⟩ := mem_of_snapshot shown
  exact repeats.fresh earlier inside number

theorem readBy_ok (repeats : v.Repeats v' s) {batches : List Batch}
    (done : v.readBy k = .ok batches) : v'.readBy k = .ok batches := by
  rw [repeats.readBy_eq fun asks => repeats.readBy_ne_ok_of_asks asks batches done, done]

end Repeats

end Table

namespace TableEntry

variable {t : TableEntry} {id : TableId}

/-- Before and after a compaction a view of the table is one that repeats the last snapshot. -/
theorem Orderly.repeats (orderly : t.Orderly) (filled : t.snapshots ≠ []) (id : TableId)
    (now : Int) :
    (t.view id).Repeats ((t.commit (t.nextSnapshot .compact now t.latestBatches)).view id)
      (t.nextSnapshot .compact now t.latestBatches) := by
  have fresh : ∀ earlier ∈ t.snapshots, earlier.id ≠ t.nextId := by
    intro earlier inside same
    have bound := (orderly.id_bounds inside).2
    have next := orderly.nextId_eq
    omega
  obtain ⟨last, latest⟩ := Option.isSome_iff_exists.mp (List.getLast?_isSome.mpr filled)
  refine ⟨rfl, rfl, rfl, rfl, rfl, fresh, ?_, last, latest, ?_, ?_⟩
  · intro tag points
    obtain ⟨earlier, inside, number⟩ := orderly.tags tag _ points
    exact fresh earlier inside number
  · show t.latestBatches = last.batches
    rw [latestBatches, latest]
  · exact orderly.le_commitTime now last (List.mem_of_getLast? latest)

end TableEntry

/-- **A compaction changes nothing for those who read.**  In a catalog that operations led to, let a
compaction that is accepted commit a snapshot, at whatever reading of the clock.  The table has its
schema, its tags and all its snapshots still, and behind them the new one, which is a compaction;
other tables stay as they are.  Under whatever settings and through whatever casting, what was read
before is read afterwards.  Unless the settings ask for the number of the new snapshot, also what
could not be read cannot be read afterwards, for the same reason. -/
theorem compaction_keeps_reads {c c' : Catalog} {id : TableId} {request : CompactRequest}
    {now : Int} {s : Snapshot} (reached : Reachable c) (done : c.compact id request now = .ok (c', some s)) :
    ∃ v v', c.getTable id = .ok v ∧ c'.getTable id = .ok v' ∧
      v'.schema = v.schema ∧ v'.tags = v.tags ∧ v'.snapshots = v.snapshots ++ [s] ∧
      s.kind = .compact ∧ (∀ other, other ≠ id → c'.getTable other = c.getTable other) ∧
      ∀ (k : Casting) (settings : Options),
        (∀ batches, (v.copy settings).readBy k = .ok batches →
          (v'.copy settings).readBy k = .ok batches) ∧
        (¬(v.copy settings).Asks s.id →
          (v'.copy settings).readBy k = (v.copy settings).readBy k) := by
  obtain ⟨t, t', found, compacted, rfl⟩ := Catalog.compact_ok_iff.mp done
  obtain ⟨-, ⟨-, -, ⟨⟩⟩ | ⟨filled, rfl, made⟩⟩ := TableEntry.compact_ok_iff.mp compacted
  cases made
  obtain ⟨db, inside, -⟩ := Catalog.exists_database_of_entry? found
  have repeats := (reached.orderly found).repeats filled id now
  refine ⟨_, _, Catalog.getTable_ok_iff.mpr ⟨t, found, rfl⟩, Catalog.getTable_ok_iff.mpr
    ⟨_, Catalog.entry?_setEntry_self inside _, rfl⟩, rfl, rfl, rfl, rfl, ?_, fun k settings => ?_⟩
  · intro other apart
    refine Catalog.getTable_congr ?_
    rw [Catalog.entry?_setEntry inside, if_neg apart.symm]
  · have copied := repeats.copy settings
    exact ⟨fun batches read => copied.readBy_ok read, copied.readBy_eq⟩

/-- The clock has gone back, so the compaction is dated like the last commit, and a reading at that
time comes upon it. -/
theorem compaction_keeps_reads_tides :
    let here : TableId := ⟨"lake", "catch"⟩
    let settings : Options := OrderedMap.ofList [(scanTimeKey, "50")]
    let c := CatalogOp.afterAll (.new "sea" ∅) (catchRun.take 5)
    let numbers (v : Table) := (v.copy settings).scanSnapshot.toOption.join.map Snapshot.id
    ∃ c' s v v' batches, c.compact here ⟨[], none, ∅⟩ 20 = .ok (c', some s) ∧
      c.getTable here = .ok v ∧ c'.getTable here = .ok v' ∧
      numbers v = some 2 ∧ numbers v' = some 3 ∧
      (v.copy settings).read = .ok batches ∧ (v'.copy settings).read = .ok batches ∧
      batches.flatMap Batch.rowList = [[some (.integer 7)], [some (.integer 7)]] := by
  intro here settings c numbers
  have reached : Reachable c := (Reachable.new "sea" ∅).afterAll _
  have seen : ((c.compact here ⟨[], none, ∅⟩ 20).toOption.bind fun done => done.2.bind fun _ =>
      (c.getTable here).toOption.bind fun v => (done.1.getTable here).toOption.bind fun v' =>
        (v.copy settings).read.toOption.map fun batches =>
          (numbers v, numbers v', batches.flatMap Batch.rowList)) =
      some (some 2, some 3, [[some (.integer 7)], [some (.integer 7)]]) := by
    decide +kernel
  obtain ⟨⟨c', answer⟩, done, seen⟩ := Option.bind_eq_some_iff.mp seen
  obtain ⟨s, rfl, seen⟩ := Option.bind_eq_some_iff.mp seen
  obtain ⟨v, given, seen⟩ := Option.bind_eq_some_iff.mp seen
  obtain ⟨v', given', seen⟩ := Option.bind_eq_some_iff.mp seen
  obtain ⟨batches, read, seen⟩ := Option.map_eq_some_iff.mp seen
  simp only [Prod.mk.injEq] at seen
  obtain ⟨before, after, rows⟩ := seen
  have done := toOption_eq_some_iff.mp done
  have given := toOption_eq_some_iff.mp given
  have given' := toOption_eq_some_iff.mp given'
  have read := toOption_eq_some_iff.mp read
  obtain ⟨w, w', same, same', -, -, -, -, -, reads⟩ := compaction_keeps_reads reached done
  rw [given] at same
  rw [given'] at same'
  cases same
  cases same'
  exact ⟨c', s, v, v', batches, done, given, given', before, after, read,
    (reads .plain settings).1 batches read, rows⟩

end TableLake
