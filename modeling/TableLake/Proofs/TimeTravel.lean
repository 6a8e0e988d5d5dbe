/-
# TableLake.Proofs.TimeTravel — which snapshot is read at a version

Loading a table at a version lays one setting over those of its schema, the number of a
snapshot or the name of a tag.  `Table.scanSnapshot` asks for a number first.  So a number
always has its say, and what is written is read back as the number it was
(`scanSnapshot_at_snapshot`).  A tag has its say if the schema stores no number under
`scan.snapshot-id`; if it stores one, the tag is not looked at (`scanSnapshot_at_tag`), and
the version is honoured only if the stored number happens to be that of the tag
(`scanSnapshot_at_version`).
-/
import TableLake.Proofs.Decimal
import TableLake.Proofs.History
import TableLake.Proofs.Refusal

namespace TableLake

open TableLake.Outcome TableLake.Text

set_option autoImplicit false

variable {c : Catalog} {now : Int} {id : TableId} {r : TableRef}

/-! ## Settings of a view -/

namespace Table

variable {t : Table} {key text tag : String} {n : Nat}

theorem get?_options (t : Table) (key : String) :
    t.options.get? key = (t.dynamic.get? key).or (t.schema.options.get? key) :=
  OrderedMap.get?_overlay _ _ key

/-- A setting that lies over a view hides the one of its key and no other. -/
theorem get?_options_copy (t : Table) (key text other : String) :
    (t.copy (OrderedMap.ofList [(key, text)])).options.get? other =
      if key = other then some text else t.options.get? other := by
  have single : (OrderedMap.ofList [(key, text)]).get? other =
      if key = other then some text else none :=
    (OrderedMap.get?_insert _ _ _ _).trans (by rw [OrderedMap.get?_empty])
  have dynamic : (t.copy (OrderedMap.ofList [(key, text)])).dynamic.get? other =
      ((OrderedMap.ofList [(key, text)]).get? other).or (t.dynamic.get? other) :=
    OrderedMap.get?_overlay _ _ other
  rw [get?_options, get?_options, dynamic, single]
  split
  · rfl
  · rw [Option.none_or]
    rfl

theorem scanSnapshot_of_number (selected : t.options.get? scanSnapshotKey = some text)
    (read : readUnsigned maxUnsigned64 text = .ok n) : t.scanSnapshot = some <$> t.snapshot n := by
  simp only [scanSnapshot, selected, readOption, read]
  rfl

theorem scanSnapshot_of_tag (unselected : t.options.get? scanSnapshotKey = none)
    (selected : t.options.get? scanTagKey = some tag) : t.scanSnapshot = some <$> t.tagged tag := by
  simp only [scanSnapshot, unselected, selected]

/-- Where a number is stored, a tag is not looked at. -/
theorem scanSnapshot_of_stored (stored : t.options.get? scanSnapshotKey = some text) :
    (t.copy (OrderedMap.ofList [(scanTagKey, tag)])).scanSnapshot = t.scanSnapshot := by
  have hidden : (t.copy (OrderedMap.ofList [(scanTagKey, tag)])).options.get? scanSnapshotKey =
      some text := by
    rw [get?_options_copy, if_neg (by decide), stored]
  simp only [scanSnapshot, hidden, stored]
  rfl

end Table

/-- The settings do not say which snapshot is read. -/
def Schema.Unpinned (s : Schema) : Prop :=
  ∀ key ∈ [scanSnapshotKey, scanTagKey, scanTimeKey], s.options.get? key = none

/-! ## Versions -/

/-- A version that is read is a tag, or a number of at most sixty-four bits. -/
theorem Version.le_of_read {v : String} {n : Nat} (read : Version.read v = .ok (.snapshot n)) :
    n ≤ maxUnsigned64 := by
  unfold Version.read at read
  split at read
  · cases read
  · split at read
    · rename_i n' number
      cases read
      exact le_of_readUnsigned number
    · cases read

namespace TableEntry

variable {t : TableEntry} {tag : String} {n : Nat}

/-- What a version means in a table: the snapshot with the number or behind the tag, or
that there is none. -/
inductive Means (t : TableEntry) (id : TableId) :
    Version → Except CatalogError (Option Snapshot) → Prop
  | snapshot {s : Snapshot} (inside : s ∈ t.snapshots) :
      Means t id (.snapshot s.id) (.ok (some s))
  | noSnapshot {n : Nat} (missing : ∀ s ∈ t.snapshots, s.id ≠ n) :
      Means t id (.snapshot n) (.error (.noSnapshot id n))
  | tag {tag : String} {s : Snapshot} (points : t.tags.get? tag = some s.id)
      (inside : s ∈ t.snapshots) : Means t id (.tag tag) (.ok (some s))
  | noTag {tag : String} (missing : t.tags.get? tag = none) :
      Means t id (.tag tag) (.error (.noTag id tag))

theorem snapshot_eq_of_missing (missing : ∀ s ∈ t.snapshots, s.id ≠ n) :
    (t.view id).snapshot n = .error (.noSnapshot id n) := by
  have none : (t.view id).snapshots.find? (fun s => s.id == n) = none := by
    refine List.find?_eq_none.mpr fun s inside => ?_
    simpa using missing s inside
  rw [Table.snapshot, none]
  rfl

theorem tagged_eq_of_missing (missing : t.tags.get? tag = none) :
    (t.view id).tagged tag = .error (.noTag id tag) := by
  have shown : (t.view id).tags = t.tags := rfl
  rw [Table.tagged, shown, missing]
  rfl

/-- A version means one thing, and the view shows it. -/
theorem Orderly.means_iff (orderly : t.Orderly) {version : Version}
    {result : Except CatalogError (Option Snapshot)} :
    t.Means id version result ↔ result = some <$> (t.view id).atVersion version := by
  constructor
  · rintro (⟨inside⟩ | ⟨missing⟩ | ⟨points, inside⟩ | ⟨missing⟩)
    · rw [Table.atVersion, orderly.snapshot_eq inside]
      rfl
    · rw [Table.atVersion, snapshot_eq_of_missing missing]
      rfl
    · rw [Table.atVersion, orderly.tagged_eq points inside]
      rfl
    · rw [Table.atVersion, tagged_eq_of_missing missing]
      rfl
  · rintro rfl
    cases version with
    | snapshot n =>
        by_cases there : ∃ s ∈ t.snapshots, s.id = n
        · obtain ⟨s, inside, rfl⟩ := there
          rw [Table.atVersion, orderly.snapshot_eq inside]
          exact .snapshot inside
        · have missing : ∀ s ∈ t.snapshots, s.id ≠ n := fun s inside same => there ⟨s, inside, same⟩
          rw [Table.atVersion, snapshot_eq_of_missing missing]
          exact .noSnapshot missing
    | tag tag =>
        cases points : t.tags.get? tag with
        | none =>
            rw [Table.atVersion, tagged_eq_of_missing points]
            exact .noTag points
        | some n =>
            obtain ⟨s, inside, rfl⟩ := orderly.tags tag n points
            rw [Table.atVersion, orderly.tagged_eq points inside]
            exact .tag points inside

/-! ## Tables at a version -/

/-- The table as it is handed out at a version. -/
def viewAt (t : TableEntry) (id : TableId) (version : Version) : Table :=
  (t.view id).copy (Namespace.versionSettings version)

/-- The settings of the schema leave it to the version which snapshot is read: they name
none by number, or the very one that the tag points at. -/
def Yields (t : TableEntry) : Version → Prop
  | .snapshot _ => True
  | .tag tag => ∀ text, t.schema.options.get? scanSnapshotKey = some text →
      ∃ n, readUnsigned maxUnsigned64 text = .ok n ∧ t.tags.get? tag = some n

theorem get?_options_view (t : TableEntry) (id : TableId) (key : String) :
    (t.view id).options.get? key = t.schema.options.get? key := by
  rw [Table.get?_options]
  exact Option.none_or

/-- Without settings of its own a table is read at its last snapshot. -/
theorem scanSnapshot_of_unpinned (unpinned : t.schema.Unpinned) (id : TableId) :
    (t.view id).scanSnapshot = .ok t.snapshots.getLast? := by
  have unset : ∀ key ∈ [scanSnapshotKey, scanTagKey, scanTimeKey],
      (t.view id).options.get? key = none := by
    intro key inside
    rw [get?_options_view]
    exact unpinned key inside
  simp only [Table.scanSnapshot, unset scanSnapshotKey (by simp), unset scanTagKey (by simp),
    unset scanTimeKey (by simp)]
  rfl

/-- A number is written into the settings and read back from them, whatever the schema
stores. -/
theorem scanSnapshot_at_snapshot (t : TableEntry) (id : TableId) (small : n ≤ maxUnsigned64) :
    (t.viewAt id (.snapshot n)).scanSnapshot = some <$> (t.view id).atVersion (.snapshot n) := by
  have selected : (t.viewAt id (.snapshot n)).options.get? scanSnapshotKey = some (decimal n) :=
    (Table.get?_options_copy _ _ _ _).trans (if_pos rfl)
  exact Table.scanSnapshot_of_number selected (readUnsigned_decimal small)

/-- A tag is read if the schema stores no number; if it stores one, that is read. -/
theorem scanSnapshot_at_tag (t : TableEntry) (id : TableId) (tag : String) :
    (t.viewAt id (.tag tag)).scanSnapshot =
      if (t.schema.options.get? scanSnapshotKey).isSome then (t.view id).scanSnapshot
      else some <$> (t.view id).atVersion (.tag tag) := by
  cases stored : t.schema.options.get? scanSnapshotKey with
  | some text =>
      rw [← get?_options_view t id] at stored
      exact Table.scanSnapshot_of_stored stored
  | none =>
      rw [← get?_options_view t id] at stored
      have unselected : (t.viewAt id (.tag tag)).options.get? scanSnapshotKey = none :=
        (Table.get?_options_copy _ _ _ _).trans ((if_neg (by decide)).trans stored)
      have selected : (t.viewAt id (.tag tag)).options.get? scanTagKey = some tag :=
        (Table.get?_options_copy _ _ _ _).trans (if_pos rfl)
      exact Table.scanSnapshot_of_tag unselected selected

/-- What a stored text selects is what a tag means just if the text is the number that the
tag points at. -/
theorem Orderly.stored_means_iff (orderly : t.Orderly) {text : String}
    (stored : t.schema.options.get? scanSnapshotKey = some text) :
    t.Means id (.tag tag) (t.view id).scanSnapshot ↔
      ∃ n, readUnsigned maxUnsigned64 text = .ok n ∧ t.tags.get? tag = some n := by
  rw [← get?_options_view t id] at stored
  cases read : readUnsigned maxUnsigned64 text with
  | error fault =>
      have refused : (t.view id).scanSnapshot =
          .error (.invalidOption scanSnapshotKey fault.message) := by
        simp only [Table.scanSnapshot, stored, Table.readOption, read]
        rfl
      rw [refused]
      constructor
      · rintro ⟨⟩
      · rintro ⟨n, ⟨⟩, _⟩
  | ok n =>
      rw [Table.scanSnapshot_of_number stored read]
      constructor
      · intro means
        refine ⟨n, rfl, ?_⟩
        by_cases there : ∃ s ∈ t.snapshots, s.id = n
        · obtain ⟨s, inside, rfl⟩ := there
          rw [orderly.snapshot_eq inside] at means
          cases means with
          | tag points => exact points
        · have missing : (t.view id).snapshot n = .error (.noSnapshot id n) :=
            snapshot_eq_of_missing fun s inside same => there ⟨s, inside, same⟩
          rw [missing] at means
          cases means
      · rintro ⟨_, ⟨⟩, points⟩
        obtain ⟨s, inside, rfl⟩ := orderly.tags tag n points
        rw [orderly.snapshot_eq inside]
        exact .tag points inside

/-- **A version is honoured just if the stored settings yield to it.** -/
theorem Orderly.scanSnapshot_at_version (orderly : t.Orderly) {version : Version}
    (small : ∀ n, version = .snapshot n → n ≤ maxUnsigned64) :
    t.Means id version (t.viewAt id version).scanSnapshot ↔ t.Yields version := by
  cases version with
  | snapshot n =>
      rw [scanSnapshot_at_snapshot t id (small n rfl)]
      exact iff_of_true (orderly.means_iff.mpr rfl) trivial
  | tag tag =>
      rw [scanSnapshot_at_tag]
      cases stored : t.schema.options.get? scanSnapshotKey with
      | none =>
          refine iff_of_true (orderly.means_iff.mpr rfl) ?_
          intro text inside
          rw [stored] at inside
          cases inside
      | some text =>
          refine (orderly.stored_means_iff stored).trans ⟨?_, fun yields => yields text stored⟩
          intro same text' inside
          rw [stored] at inside
          cases inside
          exact same

end TableEntry

/-! ## Loading -/

namespace Namespace

/-- What is loaded is a table that is there. -/
theorem exists_of_loadTable {shown : Table} {s : Store}
    (loaded : (loadTable r).outcome (.new c now) = (.ok shown, s)) :
    ∃ id t, tableId r = .ok id ∧ c.entry? id = some t ∧ shown = t.view id ∧ s = .new c now := by
  simp only [loadTable, ask, Store.getTable, outcome_bind_ok_iff, outcome_ofExcept_ok_iff,
    outcome_adapt_ok_iff] at loaded
  obtain ⟨id, _, ⟨named, rfl⟩, ⟨⟩, _, ⟨⟩, v, s', asked, _, _, ⟨⟩, ⟨⟩⟩ := loaded
  rw [outcome_ask, Store.catalog_new, Prod.mk.injEq] at asked
  obtain ⟨given, rfl⟩ := asked
  obtain ⟨t, found, rfl⟩ := Catalog.getTable_ok_iff.mp given
  exact ⟨id, t, named, found, rfl, rfl⟩

theorem exists_of_loadTableAtVersion {v : String} {shown : Table} {s : Store}
    (loaded : (loadTableAtVersion r v).outcome (.new c now) = (.ok shown, s)) :
    ∃ id t version, tableId r = .ok id ∧ c.entry? id = some t ∧ Version.read v = .ok version ∧
      shown = t.viewAt id version := by
  simp only [loadTableAtVersion, outcome_bind_ok_iff, outcome_ofExcept_ok_iff] at loaded
  obtain ⟨view, _, found, version, _, ⟨read, rfl⟩, same⟩ := loaded
  obtain ⟨id, t, named, there, rfl, rfl⟩ := exists_of_loadTable found
  cases same
  exact ⟨id, t, version, named, there, mapError_eq_ok_iff.mp read, rfl⟩

/-- A table that is there is loaded at every version that can be read. -/
theorem outcome_loadTableAtVersion {t : TableEntry} {v : String} {version : Version}
    (named : tableId r = .ok id) (found : c.entry? id = some t)
    (read : Version.read v = .ok version) :
    (loadTableAtVersion r v).outcome (.new c now) = (.ok (t.viewAt id version), .new c now) := by
  simp only [loadTableAtVersion, outcome_bind_ok_iff, outcome_ofExcept_ok_iff]
  exact ⟨_, _, outcome_loadTable named found, version, _, ⟨mapError_eq_ok_iff.mpr read, rfl⟩, rfl⟩

end Namespace

/-- **What is read at a version.**  In a catalog that operations led to, a table that is
there is loaded at every version that can be read.  It is then scanned at the snapshot that
the version means, or refused because there is none, just if the settings of its schema
yield to the version.  They always yield to a number.  To a tag they yield unless they store
something else than its number under `scan.snapshot-id`; then the tag changes nothing, and
the table is scanned as it is without a version. -/
theorem scan_at_version (reached : Reachable c) (r : TableRef) (v : String) (now : Int) :
    (∀ {id : TableId} {t : TableEntry} {version : Version}, Namespace.tableId r = .ok id →
      c.entry? id = some t → Version.read v = .ok version →
        ∃ shown, (Namespace.loadTableAtVersion r v).outcome (.new c now) =
          (.ok shown, .new c now)) ∧
    ∀ {shown : Table} {s : Store},
      (Namespace.loadTableAtVersion r v).outcome (.new c now) = (.ok shown, s) →
        ∃ id t version, Namespace.tableId r = .ok id ∧ c.entry? id = some t ∧
          Version.read v = .ok version ∧
          (t.Means id version shown.scanSnapshot ↔ t.Yields version) ∧
          (¬t.Yields version → shown.scanSnapshot = (t.view id).scanSnapshot) := by
  refine ⟨fun named found read => ⟨_, Namespace.outcome_loadTableAtVersion named found read⟩, ?_⟩
  intro shown s loaded
  obtain ⟨id, t, version, named, found, read, rfl⟩ := Namespace.exists_of_loadTableAtVersion loaded
  refine ⟨id, t, version, named, found, read, ?_, ?_⟩
  · refine (reached.orderly found).scanSnapshot_at_version fun n number => ?_
    exact Version.le_of_read (number ▸ read)
  · intro stored
    cases version with
    | snapshot n => exact absurd trivial stored
    | tag tag =>
        rw [TableEntry.scanSnapshot_at_tag, if_pos]
        -- without a stored number the settings would yield
        refine Option.isSome_iff_ne_none.mpr fun none => stored fun text inside => ?_
        rw [none] at inside
        cases inside

/-- A batch of one weight. -/
def weighed : Batch :=
  ⟨[⟨"weight", .int64, true, none⟩], [⟨.int64, [some (.integer 8)]⟩], 1, rfl, by decide, by decide⟩

/-- A run that leaves a table with two snapshots and a tag at the second, while the schema
stores the number of the first. -/
def pinnedRun : List (CatalogOp × Int) :=
  let here : TableId := ⟨"lake", "catch"⟩
  let weight : Field := ⟨"weight", .int64, true, none⟩
  let settings : Options := OrderedMap.ofList [(scanSnapshotKey, "1")]
  let schema : Schema := ⟨0, [weight], [], [], settings, none⟩
  [(.createDatabase "lake" false, 0), (.createTable here schema false, 1),
    (.write here [weighed], 2), (.write here [weighed], 3),
    (.createTag here "second" (some 2), 4)]

/-- The table that `pinnedRun` leaves, at a version. -/
def pinnedAt (version : String) : Except NamespaceError Table :=
  ((Namespace.loadTableAtVersion ⟨["lake"], "catch"⟩ version).outcome
    (.new (CatalogOp.afterAll (.new "sea" ∅) pinnedRun) 5)).1

theorem scan_at_version_pinned :
    ∃ t shown, Catalog.entry? (CatalogOp.afterAll (.new "sea" ∅) pinnedRun) ⟨"lake", "catch"⟩ =
        some t ∧ pinnedAt "2" = .ok shown ∧
      t.Means ⟨"lake", "catch"⟩ (.snapshot 2) shown.scanSnapshot := by
  have reached : Reachable (CatalogOp.afterAll (.new "sea" ∅) pinnedRun) :=
    (Reachable.new "sea" ∅).afterAll pinnedRun
  have there : (Catalog.entry? (CatalogOp.afterAll (.new "sea" ∅) pinnedRun)
      ⟨"lake", "catch"⟩).isSome = true := by
    decide +kernel
  have number : Version.read "2" = .ok (.snapshot 2) := rfl
  obtain ⟨loads, scans⟩ := scan_at_version reached ⟨["lake"], "catch"⟩ "2" 5
  obtain ⟨t, found⟩ := Option.isSome_iff_exists.mp there
  obtain ⟨shown, loaded⟩ := loads rfl found number
  obtain ⟨id, t', version, named, found', read, honoured, -⟩ := scans loaded
  rw [number] at read
  cases named
  cases read
  exact ⟨t', shown, found', congrArg Prod.fst loaded, honoured.mpr trivial⟩

/-- The stored number hides the tag: at `second`, the first snapshot is read. -/
theorem pinned_hides_tag :
    ∃ t shown, Reachable (CatalogOp.afterAll (.new "sea" ∅) pinnedRun) ∧
      Catalog.entry? (CatalogOp.afterAll (.new "sea" ∅) pinnedRun) ⟨"lake", "catch"⟩ = some t ∧
      Version.read "second" = .ok (.tag "second") ∧ t.tags.get? "second" = some 2 ∧
      pinnedAt "second" = .ok shown ∧
      (∃ s, shown.scanSnapshot = .ok (some s) ∧ s.id = 1) ∧
      ¬t.Means ⟨"lake", "catch"⟩ (.tag "second") shown.scanSnapshot := by
  have reached : Reachable (CatalogOp.afterAll (.new "sea" ∅) pinnedRun) :=
    (Reachable.new "sea" ∅).afterAll pinnedRun
  have points : (Catalog.entry? (CatalogOp.afterAll (.new "sea" ∅) pinnedRun)
      ⟨"lake", "catch"⟩).map (fun t => t.tags.get? "second") = some (some 2) := by
    decide +kernel
  have scanned : (pinnedAt "second").toOption.bind (fun shown => shown.scanSnapshot.toOption.map
      fun s => s.map Snapshot.id) = some (some 1) := by
    decide +kernel
  obtain ⟨t, found, points⟩ := Option.map_eq_some_iff.mp points
  obtain ⟨shown, loaded, scanned⟩ := Option.bind_eq_some_iff.mp scanned
  obtain ⟨scan, selected, scanned⟩ := Option.map_eq_some_iff.mp scanned
  obtain ⟨s, rfl, first⟩ := Option.map_eq_some_iff.mp scanned
  have loaded : pinnedAt "second" = .ok shown := toOption_eq_some_iff.mp loaded
  have selected : shown.scanSnapshot = .ok (some s) := toOption_eq_some_iff.mp selected
  refine ⟨t, shown, reached, found, rfl, points, loaded, ⟨s, selected, first⟩, ?_⟩
  rw [selected]
  rintro (_ | _ | ⟨pointed, -⟩)
  rw [points, first] at pointed
  cases pointed

end TableLake
