/-
# TableLake.Proofs.RollbackTravel — going back to a version and looking at it

A version can be looked at, or a table can be rolled back to it.  The first writes a setting
and reads it back later; the second looks the version up and cuts the history after it.
Neither knows of the other.  In an orderly table a rollback goes just where the view shows the
version (`Orderly.rollback_eq`), and what it leaves last is that snapshot
(`Orderly.latest_upTo`).  A rollback does not touch the schema, so what is read afterwards is
what could be seen at the version before (`rollback_reads_as_travel`).
-/
import TableLake.Proofs.Scan

namespace TableLake

open TableLake.Outcome TableLake.Text

set_option autoImplicit false

/-- What is read depends on the snapshot that is selected and the columns, and on nothing
else. -/
theorem Table.readBy_congr {v w : Table} (columns : v.schema.fields = w.schema.fields)
    (same : v.scanSnapshot = w.scanSnapshot) (k : Casting) : v.readBy k = w.readBy k := by
  have aligned : v.align k = w.align k := by
    funext b
    rw [Table.align, Table.align, columns]
  rw [Table.readBy_eq, Table.readBy_eq, same, aligned]

/-- A snapshot that a version shows is one of the table's. -/
theorem Table.mem_of_atVersion {v : Table} {version : Version} {s : Snapshot}
    (shows : v.atVersion version = .ok s) : s ∈ v.snapshots := by
  cases version with
  | snapshot n => exact (Table.mem_of_snapshot shows).1
  | tag tag =>
      rw [Table.atVersion, Table.tagged] at shows
      cases points : v.tags.get? tag with
      | none =>
          rw [points] at shows
          cases shows
      | some n =>
          rw [points] at shows
          exact (Table.mem_of_snapshot shows).1

namespace TableEntry

variable {t : TableEntry} {id : TableId} {s : Snapshot} {n : Nat} {tag : String}

/-! ## Rollbacks -/

/-- A rollback to a snapshot leaves this snapshot last. -/
theorem Orderly.latest_upTo (orderly : t.Orderly) (inside : s ∈ t.snapshots) :
    (t.upTo s.id).snapshots.getLast? = some s := by
  have kept : s ∈ (t.upTo s.id).snapshots :=
    List.mem_filter.mpr ⟨inside, decide_eq_true le_rfl⟩
  obtain ⟨last, found⟩ :=
    Option.isSome_iff_exists.mp (List.getLast?_isSome.mpr (List.ne_nil_of_mem kept))
  obtain ⟨there, below⟩ := List.mem_filter.mp (List.mem_of_getLast? found)
  -- the last number is the greatest one that is kept
  have above : s.id ≤ last.id := by
    rw [(orderly.upTo s.id).id_latest found]
    exact ((orderly.upTo s.id).id_bounds kept).2
  have number : last.id = s.id := Nat.le_antisymm (of_decide_eq_true below) above
  rw [found, orderly.unique there inside number]

theorem rollback_of_missing {version : Version} (means : t.versionId id version = .ok n)
    (missing : ∀ s ∈ t.snapshots, s.id ≠ n) :
    t.rollback id version = .error (.noSnapshot id n) := by
  have absent : t.hasSnapshot n = false := by
    rw [Bool.eq_false_iff]
    intro there
    obtain ⟨s, inside, number⟩ := (hasSnapshot_iff t n).mp there
    exact missing s inside number
  unfold rollback
  rw [means]
  show (if t.hasSnapshot n then _ else _) = _
  rw [absent]
  rfl

/-- **A rollback goes to the snapshot that the view shows at the version**, or is refused for
the reason for which nothing is shown there. -/
theorem Orderly.rollback_eq (orderly : t.Orderly) (id : TableId) (version : Version) :
    t.rollback id version = (fun s => t.upTo s.id) <$> (t.view id).atVersion version := by
  have goes {version : Version} {s : Snapshot} (inside : s ∈ t.snapshots)
      (means : t.versionId id version = .ok s.id) :
      t.rollback id version = .ok (t.upTo s.id) :=
    rollback_ok_iff.mpr ⟨s.id, means, (hasSnapshot_iff t s.id).mpr ⟨s, inside, rfl⟩, rfl⟩
  cases version with
  | snapshot n =>
      by_cases there : ∃ s ∈ t.snapshots, s.id = n
      · obtain ⟨s, inside, rfl⟩ := there
        rw [Table.atVersion, orderly.snapshot_eq inside, goes inside rfl]
        rfl
      · have missing : ∀ s ∈ t.snapshots, s.id ≠ n := fun s inside same => there ⟨s, inside, same⟩
        rw [Table.atVersion, snapshot_eq_of_missing missing, rollback_of_missing rfl missing]
        rfl
  | tag tag =>
      cases points : t.tags.get? tag with
      | none =>
          have refused : t.versionId id (.tag tag) = .error (.noTag id tag) := by
            rw [versionId, points]
          rw [Table.atVersion, tagged_eq_of_missing points, rollback, refused]
          rfl
      | some n =>
          obtain ⟨s, inside, rfl⟩ := orderly.tags tag n points
          have means : t.versionId id (.tag tag) = .ok s.id := by rw [versionId, points]
          rw [Table.atVersion, orderly.tagged_eq points inside, goes inside means]
          rfl

/-! ## Looking -/

/-- If the schema stores no number, a table at a version is scanned at the version. -/
theorem scanSnapshot_viewAt_of_unnumbered {version : Version}
    (unnumbered : t.schema.options.get? scanSnapshotKey = none)
    (small : ∀ n, version = .snapshot n → n ≤ maxUnsigned64) :
    (t.viewAt id version).scanSnapshot = some <$> (t.view id).atVersion version := by
  cases version with
  | snapshot n => exact scanSnapshot_at_snapshot t id (small n rfl)
  | tag tag =>
      rw [scanSnapshot_at_tag, unnumbered]
      rfl

/-- Where the schema leaves it open, a table at a version is scanned at the version. -/
theorem scanSnapshot_viewAt (unpinned : t.schema.Unpinned) {version : Version}
    (small : ∀ n, version = .snapshot n → n ≤ maxUnsigned64) :
    (t.viewAt id version).scanSnapshot = some <$> (t.view id).atVersion version :=
  scanSnapshot_viewAt_of_unnumbered (unpinned _ (by simp)) small

/-- Rolled back to a snapshot, a table reads as it did at the snapshot. -/
theorem Orderly.readBy_upTo (orderly : t.Orderly) (unpinned : t.schema.Unpinned)
    (inside : s ∈ t.snapshots) {v : Table} (columns : v.schema = t.schema)
    (scan : v.scanSnapshot = .ok (some s)) (k : Casting) :
    ((t.upTo s.id).view id).readBy k = v.readBy k := by
  have unpinned : (t.upTo s.id).schema.Unpinned := unpinned
  refine Table.readBy_congr (congrArg Schema.fields columns.symm) ?_ k
  rw [scanSnapshot_of_unpinned unpinned, scan, orderly.latest_upTo inside]

end TableEntry

/-! ## Both -/

/-- **Going back to a version agrees with looking at it.**  In a catalog that operations led
to, a table whose settings do not say which snapshot is read is loaded at every version that
can be read.  Rolling it back to the version is accepted just if the loaded table is scanned,
and refused for the same reason otherwise.  Accepted, it leaves last the snapshot that was
scanned, and to read the table through any casting is then what it was to read the loaded one
through it, whether that gave batches or failed. -/
theorem rollback_reads_as_travel {c : Catalog} {r : TableRef} {id : TableId} {t : TableEntry}
    {text : String} {version : Version} (reached : Reachable c)
    (named : Namespace.tableId r = .ok id) (found : c.entry? id = some t)
    (unpinned : t.schema.Unpinned) (read : Version.read text = .ok version) (now : Int) :
    ∃ shown, (Namespace.loadTableAtVersion r text).outcome (.new c now) =
        (.ok shown, .new c now) ∧
      ((∃ c', c.rollbackTo id version = .ok c') ↔ ∃ selected, shown.scanSnapshot = .ok selected) ∧
      (∀ e, c.rollbackTo id version = .error e ↔ shown.scanSnapshot = .error e) ∧
      ∀ c', c.rollbackTo id version = .ok c' →
        ∃ s v, shown.scanSnapshot = .ok (some s) ∧ c'.getTable id = .ok v ∧
          v.latest? = some s ∧ ∀ k, v.readBy k = shown.readBy k := by
  have orderly := reached.orderly found
  have rolled : c.rollbackTo id version =
      (fun s => c.setEntry id (t.upTo s.id)) <$> (t.view id).atVersion version := by
    rw [Catalog.rollbackTo, Catalog.modifyEntry_eq found, orderly.rollback_eq]
    cases (t.view id).atVersion version <;> rfl
  have scan : (t.viewAt id version).scanSnapshot = some <$> (t.view id).atVersion version :=
    TableEntry.scanSnapshot_viewAt unpinned fun n number => Version.le_of_read (number ▸ read)
  refine ⟨_, Namespace.outcome_loadTableAtVersion named found read, ?_⟩
  cases shows : (t.view id).atVersion version with
  | error e =>
      rw [shows] at rolled scan
      rw [rolled, scan]
      refine ⟨iff_of_false (by rintro ⟨c', ⟨⟩⟩) (by rintro ⟨selected, ⟨⟩⟩), fun e' => ?_, ?_⟩
      · show (Except.error e : Except CatalogError Catalog) = .error e' ↔
          (Except.error e : Except CatalogError (Option Snapshot)) = .error e'
        rw [Except.error.injEq, Except.error.injEq]
      · rintro c' ⟨⟩
  | ok s =>
      rw [shows] at rolled scan
      rw [rolled, scan]
      refine ⟨iff_of_true ⟨_, rfl⟩ ⟨_, rfl⟩, ?_, ?_⟩
      · exact fun e => iff_of_false (by rintro ⟨⟩) (by rintro ⟨⟩)
      · rintro c' ⟨⟩
        have inside : s ∈ t.snapshots := Table.mem_of_scanSnapshot scan
        refine ⟨s, (t.upTo s.id).view id, rfl, Catalog.getTable_ok_iff.mpr
          ⟨_, Catalog.entry?_setEntry_of_found found _, rfl⟩, orderly.latest_upTo inside, ?_⟩
        exact orderly.readBy_upTo unpinned inside rfl scan

/-- The first snapshot, by its tag: the second of its number was rolled back, a third came
after it, and then a column for notes. -/
theorem rollback_reads_as_travel_notes :
    let here : TableId := ⟨"lake", "catch"⟩
    let c := CatalogOp.afterAll (.new "sea" ∅) (catchRun.take 8 ++
      [(.write here [weighed], 60),
        (.alterTable here [.addColumn ⟨"note", .utf8, true, none⟩ none] false, 61)])
    ∃ shown c' v batches,
      (Namespace.loadTableAtVersion ⟨["lake"], "catch"⟩ "first").outcome (.new c 62) =
        (.ok shown, .new c 62) ∧
      c.rollbackTo here (.tag "first") = .ok c' ∧ c'.getTable here = .ok v ∧
      v.snapshots.length = 1 ∧ v.read = shown.read ∧ v.read = .ok batches ∧
      batches.flatMap Batch.rowList = [[some (.integer 7), none]] := by
  intro here c
  have reached : Reachable c := (Reachable.new "sea" ∅).afterAll _
  have settings : (c.entry? here).map (fun t => t.schema.options.keys) = some ["deep"] := by
    decide +kernel
  have left : ((c.rollbackTo here (.tag "first")).toOption.bind fun c' =>
      (c'.getTable here).toOption.bind fun v => v.read.toOption.map fun batches =>
        (v.snapshots.length, batches.flatMap Batch.rowList)) =
      some (1, [[some (.integer 7), none]]) := by
    decide +kernel
  obtain ⟨t, found, keys⟩ := Option.map_eq_some_iff.mp settings
  obtain ⟨c', accepted, left⟩ := Option.bind_eq_some_iff.mp left
  obtain ⟨v, given, left⟩ := Option.bind_eq_some_iff.mp left
  obtain ⟨batches, rows, left⟩ := Option.map_eq_some_iff.mp left
  obtain ⟨single, cells⟩ := Prod.mk.inj left
  have accepted := toOption_eq_some_iff.mp accepted
  have given := toOption_eq_some_iff.mp given
  have unpinned : t.schema.Unpinned := by
    intro key inside
    rw [OrderedMap.get?_eq_none_iff, keys]
    revert key
    decide
  have named : Namespace.tableId ⟨["lake"], "catch"⟩ = .ok here := rfl
  have first : Version.read "first" = .ok (.tag "first") := rfl
  obtain ⟨shown, loaded, -, -, agrees⟩ :=
    rollback_reads_as_travel reached named found unpinned first 62
  obtain ⟨s, v', -, given', -, read⟩ := agrees c' accepted
  rw [given] at given'
  cases given'
  exact ⟨shown, c', v, batches, loaded, accepted, given, single, read .plain,
    toOption_eq_some_iff.mp rows, cells⟩

end TableLake
