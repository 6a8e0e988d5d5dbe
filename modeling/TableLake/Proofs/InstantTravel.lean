/-
# TableLake.Proofs.InstantTravel — which snapshot is read at an instant in microseconds

Commits are dated in whole milliseconds.  A table that is loaded at an instant is read at the
whole millisecond towards zero, which is laid over its settings in decimal and read back from
there as the number it was (`TableEntry.scanSnapshot_at_instant`).

From the epoch on this is the millisecond that the instant lies in, and the scan gives the last
snapshot committed by then.  Before the epoch it is the next one.  It makes a difference only
to what was committed in that very millisecond (`le_tdiv_iff`): such a snapshot is read although
the instant is before it (`scan_at_instant`, `epoch_read_early`).
-/
import TableLake.Proofs.CommitTime

namespace TableLake

open TableLake.Outcome TableLake.Text

set_option autoImplicit false

variable {c : Catalog} {now millis micros : Int} {id : TableId} {r : TableRef} {t : TableEntry}

/-! ## Instants and milliseconds -/

/-- The instant is before a millisecond and taken to it all the same. -/
def TakenForward (micros millis : Int) : Prop :=
  millis = micros.tdiv 1000 ∧ micros < millis * 1000

/-- The whole milliseconds of an instant, counted from the epoch in either direction. -/
theorem tdiv_cases (micros : Int) :
    0 ≤ micros ∧ micros.tdiv 1000 = micros / 1000 ∨
      micros < 0 ∧ micros.tdiv 1000 = -(-micros / 1000) := by
  by_cases later : 0 ≤ micros
  · exact .inl ⟨later, Int.tdiv_eq_ediv_of_nonneg later⟩
  · have opposite : (-micros).tdiv 1000 = -micros / 1000 :=
      Int.tdiv_eq_ediv_of_nonneg (by omega)
    exact .inr ⟨Int.not_le.mp later, by rw [← opposite, Int.neg_tdiv, Int.neg_neg]⟩

/-- A commit counts as past if it is past, or if the instant is taken forward to it. -/
theorem le_tdiv_iff :
    millis ≤ micros.tdiv 1000 ↔ millis * 1000 ≤ micros ∨ TakenForward micros millis := by
  unfold TakenForward
  rcases tdiv_cases micros with ⟨_, whole⟩ | ⟨_, whole⟩ <;> rw [whole] <;> omega

theorem not_takenForward (whole : 0 ≤ micros ∨ 1000 ∣ micros) : ¬TakenForward micros millis := by
  unfold TakenForward
  rcases tdiv_cases micros with ⟨_, whole'⟩ | ⟨_, whole'⟩ <;> rw [whole'] <;> omega

/-! ## Tables at an instant -/

/-- What a table shows as of an instant: of the snapshots committed by then the one with the
greatest number, or that there is none. -/
inductive Table.AsOf (v : Table) (micros : Int) : Except CatalogError (Option Snapshot) → Prop
  | last {s : Snapshot} (inside : s ∈ v.snapshots) (past : s.millis * 1000 ≤ micros)
      (greatest : ∀ other ∈ v.snapshots, other.millis * 1000 ≤ micros → other.id ≤ s.id) :
      AsOf v micros (.ok (some s))
  | none {millis : Int} (early : ∀ s ∈ v.snapshots, micros < s.millis * 1000) :
      AsOf v micros (.error (.noSnapshotBefore v.id millis))

namespace TableEntry

/-- The table as it is handed out at an instant. -/
def viewAtInstant (t : TableEntry) (id : TableId) (micros : Int) : Table :=
  (t.view id).copy (OrderedMap.ofList [(scanTimeKey, signedDecimal (micros.tdiv 1000))])

/-- The milliseconds are written into the settings and read back from them. -/
theorem scanSnapshot_at_instant (unnumbered : t.schema.options.get? scanSnapshotKey = none)
    (untagged : t.schema.options.get? scanTagKey = none)
    (low : -9223372036854775808 ≤ micros) (high : micros ≤ 9223372036854775807) :
    (t.viewAtInstant id micros).scanSnapshot = some <$> (t.view id).atTime (micros.tdiv 1000) := by
  have other {key : String} (differs : scanTimeKey ≠ key)
      (unset : t.schema.options.get? key = none) :
      (t.viewAtInstant id micros).options.get? key = none := by
    rw [viewAtInstant, Table.get?_options_copy, if_neg differs, get?_options_view, unset]
  have timed : (t.viewAtInstant id micros).options.get? scanTimeKey =
      some (signedDecimal (micros.tdiv 1000)) := by
    rw [viewAtInstant, Table.get?_options_copy, if_pos rfl]
  have held : -Int.ofNat (Nat.pow 2 63) ≤ micros.tdiv 1000 ∧
      micros.tdiv 1000 < Int.ofNat (Nat.pow 2 63) := by
    have bound : Int.ofNat (Nat.pow 2 63) = 9223372036854775808 := rfl
    rw [bound]
    rcases tdiv_cases micros with ⟨_, whole⟩ | ⟨_, whole⟩ <;> rw [whole] <;> omega
  have reads : (t.viewAtInstant id micros).ReadsAt (micros.tdiv 1000) :=
    { unnumbered := other (by decide) unnumbered
      untagged := other (by decide) untagged
      timed := ⟨_, timed, readSigned_signedDecimal held.1 held.2⟩ }
  exact Table.scanSnapshot_of_time reads

/-- If an instant is taken forward to a commit, the last commit of that millisecond is read. -/
theorem Orderly.atTime_of_takenForward (orderly : t.Orderly) {s : Snapshot}
    (inside : s ∈ t.snapshots) (forward : TakenForward micros s.millis) (id : TableId) :
    ∃ s' ∈ t.snapshots, (t.view id).atTime (micros.tdiv 1000) = .ok s' ∧ s'.millis = s.millis ∧
      s.id ≤ s'.id := by
  have counts : s.millis ≤ micros.tdiv 1000 := le_tdiv_iff.mpr (.inr forward)
  have there : (t.snapshots.reverse.find? fun s => s.millis ≤ micros.tdiv 1000).isSome = true :=
    List.find?_isSome.mpr ⟨s, List.mem_reverse.mpr inside, decide_eq_true counts⟩
  obtain ⟨s', found⟩ := Option.isSome_iff_exists.mp there
  obtain ⟨inside', counts', above⟩ := orderly.find_last_iff.mp found
  have later : s.id ≤ s'.id := above s inside (decide_eq_true counts)
  have dated : s.millis ≤ s'.millis := orderly.millis_le_of_le inside inside' later
  have same : s'.millis = s.millis :=
    Int.le_antisymm (forward.1 ▸ of_decide_eq_true counts') dated
  refine ⟨s', inside', ?_, same, later⟩
  refine orderly.atTime_ok_iff.mpr ⟨inside', of_decide_eq_true counts', ?_⟩
  exact fun other here past => above other here (decide_eq_true past)

/-- **What is read at an instant is what the table shows as of then, unless the instant is taken
forward to a commit.** -/
theorem Orderly.asOf_iff (orderly : t.Orderly) {v : Table} (named : v.id = id)
    (snapshots : v.snapshots = t.snapshots) :
    v.AsOf micros (some <$> (t.view id).atTime (micros.tdiv 1000)) ↔
      ∀ s ∈ t.snapshots, ¬TakenForward micros s.millis := by
  constructor
  · intro shows s inside forward
    obtain ⟨s', -, read, same, -⟩ := orderly.atTime_of_takenForward inside forward id
    rw [read] at shows
    cases shows with
    | last inside past greatest =>
        have early := forward.2
        rw [← same] at early
        exact absurd past (Int.not_le.mpr early)
  · intro still
    have past_iff {s : Snapshot} (inside : s ∈ t.snapshots) :
        s.millis ≤ micros.tdiv 1000 ↔ s.millis * 1000 ≤ micros :=
      le_tdiv_iff.trans (or_iff_left (still s inside))
    cases read : (t.view id).atTime (micros.tdiv 1000) with
    | ok s =>
        obtain ⟨inside, counts, above⟩ := orderly.atTime_ok_iff.mp read
        refine .last (snapshots ▸ inside) ((past_iff inside).mp counts) ?_
        rw [snapshots]
        exact fun other here past => above other here ((past_iff here).mpr past)
    | error e =>
        have refused : e = .noSnapshotBefore id (micros.tdiv 1000) := by
          unfold Table.atTime at read
          split at read
          · cases read
          · cases read
            rfl
        subst refused
        have early := atTime_error_iff.mp read
        subst named
        refine .none ?_
        rw [snapshots]
        exact fun s inside => Int.not_le.mp fun past =>
          Int.not_le.mpr (early s inside) ((past_iff inside).mpr past)

end TableEntry

/-- A table that is there is loaded at every instant. -/
theorem Namespace.outcome_loadTableAtTime (named : tableId r = .ok id)
    (found : c.entry? id = some t) (micros now : Int) :
    (loadTableAtTime r micros).outcome (.new c now) =
      (.ok (t.viewAtInstant id micros), .new c now) := by
  unfold loadTableAtTime
  rw [outcome_bind, outcome_loadTable named found]
  rfl

/-- **What is read at an instant.**  In a catalog that operations led to, at whatever readings of
the clock, let the settings of a table name neither a number nor a tag.  At every instant of
sixty-four bits it is loaded.  The scan then gives the snapshot with the greatest number of those
committed by the instant, or is refused because there is none, just if the instant is not taken
forward to a commit; from the epoch on, and at whole milliseconds, it never is.  If it is taken
forward to one, the scan gives the last snapshot committed in that millisecond. -/
theorem scan_at_instant (reached : Reachable c) (named : Namespace.tableId r = .ok id)
    (found : c.entry? id = some t) (unnumbered : t.schema.options.get? scanSnapshotKey = none)
    (untagged : t.schema.options.get? scanTagKey = none) (low : -9223372036854775808 ≤ micros)
    (high : micros ≤ 9223372036854775807) (now : Int) :
    ∃ shown, (Namespace.loadTableAtTime r micros).outcome (.new c now) = (.ok shown, .new c now) ∧
      shown.id = id ∧ shown.snapshots = t.snapshots ∧
      (shown.AsOf micros shown.scanSnapshot ↔ ∀ s ∈ t.snapshots, ¬TakenForward micros s.millis) ∧
      (0 ≤ micros ∨ 1000 ∣ micros → shown.AsOf micros shown.scanSnapshot) ∧
      ∀ s ∈ t.snapshots, TakenForward micros s.millis →
        ∃ s' ∈ t.snapshots, shown.scanSnapshot = .ok (some s') ∧ s'.millis = s.millis ∧
          s.id ≤ s'.id := by
  have orderly := reached.orderly found
  have scan : (t.viewAtInstant id micros).scanSnapshot =
      some <$> (t.view id).atTime (micros.tdiv 1000) :=
    TableEntry.scanSnapshot_at_instant unnumbered untagged low high
  have shows_iff : (t.viewAtInstant id micros).AsOf micros
      (t.viewAtInstant id micros).scanSnapshot ↔
        ∀ s ∈ t.snapshots, ¬TakenForward micros s.millis := by
    rw [scan]
    exact orderly.asOf_iff rfl rfl
  refine ⟨t.viewAtInstant id micros, Namespace.outcome_loadTableAtTime named found micros now,
    rfl, rfl, shows_iff, ?_, ?_⟩
  · exact fun whole => shows_iff.mpr fun s _ => not_takenForward whole
  · intro s inside forward
    obtain ⟨s', inside', read, same, later⟩ := orderly.atTime_of_takenForward inside forward id
    exact ⟨s', inside', by rw [scan, read]; rfl, same, later⟩

/-- A run that leaves a table with a snapshot before the epoch and two at it, the clock having
gone back before the last one. -/
def epochRun : List (CatalogOp × Int) :=
  let here : TableId := ⟨"lake", "catch"⟩
  catchRun.take 2 ++
    [(.write here [weighed], -2), (.write here [weighed], 0), (.write here [weighed], -5)]

/-- The table that `epochRun` leaves, at an instant. -/
def epochAt (micros : Int) : Except NamespaceError Table :=
  ((Namespace.loadTableAtTime ⟨["lake"], "catch"⟩ micros).outcome
    (.new (CatalogOp.afterAll (.new "sea" ∅) epochRun) 7)).1

theorem epochRun_unset :
    ∃ t, Catalog.entry? (CatalogOp.afterAll (.new "sea" ∅) epochRun) ⟨"lake", "catch"⟩ = some t ∧
      t.snapshots.map Snapshot.millis = [-2, 0, 0] ∧
      t.schema.options.get? scanSnapshotKey = none ∧ t.schema.options.get? scanTagKey = none := by
  have seen : (Catalog.entry? (CatalogOp.afterAll (.new "sea" ∅) epochRun)
      ⟨"lake", "catch"⟩).map (fun t => (t.snapshots.map Snapshot.millis,
        t.schema.options.get? scanSnapshotKey, t.schema.options.get? scanTagKey)) =
      some ([-2, 0, 0], none, none) := by
    decide +kernel
  obtain ⟨t, found, seen⟩ := Option.map_eq_some_iff.mp seen
  simp only [Prod.mk.injEq] at seen
  exact ⟨t, found, seen.1, seen.2.1, seen.2.2⟩

/-- A millisecond and a half before the epoch nothing but the first snapshot was committed. -/
theorem scan_at_instant_epoch :
    ∃ shown s, epochAt (-1500) = .ok shown ∧ shown.AsOf (-1500) shown.scanSnapshot ∧
      shown.scanSnapshot = .ok (some s) ∧ s.id = 1 := by
  obtain ⟨t, found, dated, unnumbered, untagged⟩ := epochRun_unset
  have reached : Reachable (CatalogOp.afterAll (.new "sea" ∅) epochRun) :=
    (Reachable.new "sea" ∅).afterAll epochRun
  have named : Namespace.tableId ⟨["lake"], "catch"⟩ = .ok ⟨"lake", "catch"⟩ := rfl
  obtain ⟨shown, loaded, -, -, shows_iff, -⟩ :=
    scan_at_instant reached named found unnumbered untagged
      (show -9223372036854775808 ≤ (-1500 : Int) by decide) (by decide) 7
  have still : ∀ s ∈ t.snapshots, ¬TakenForward (-1500) s.millis := by
    intro s inside forward
    have there : (-1500 : Int).tdiv 1000 ∈ t.snapshots.map Snapshot.millis :=
      forward.1 ▸ List.mem_map_of_mem inside
    rw [dated] at there
    exact absurd there (by decide)
  have loaded : epochAt (-1500) = .ok shown := congrArg Prod.fst loaded
  have first : (epochAt (-1500)).toOption.bind (fun shown => shown.scanSnapshot.toOption.map
      fun s => s.map Snapshot.id) = some (some 1) := by
    decide +kernel
  rw [loaded] at first
  obtain ⟨scan, selected, first⟩ := Option.map_eq_some_iff.mp first
  obtain ⟨s, rfl, first⟩ := Option.map_eq_some_iff.mp first
  exact ⟨shown, s, loaded, shows_iff.mpr still, toOption_eq_some_iff.mp selected,
    Option.some.inj first⟩

/-- A microsecond before the epoch, what is committed at the epoch is read. -/
theorem epoch_read_early :
    ∃ t shown, Reachable (CatalogOp.afterAll (.new "sea" ∅) epochRun) ∧
      Catalog.entry? (CatalogOp.afterAll (.new "sea" ∅) epochRun) ⟨"lake", "catch"⟩ = some t ∧
      t.schema.options.get? scanSnapshotKey = none ∧ t.schema.options.get? scanTagKey = none ∧
      epochAt (-1) = .ok shown ∧
      (∃ s, shown.scanSnapshot = .ok (some s) ∧ s.id = 3 ∧ -1 < s.millis * 1000) ∧
      ¬shown.AsOf (-1) shown.scanSnapshot := by
  obtain ⟨t, found, -, unnumbered, untagged⟩ := epochRun_unset
  have reached : Reachable (CatalogOp.afterAll (.new "sea" ∅) epochRun) :=
    (Reachable.new "sea" ∅).afterAll epochRun
  have scanned : (epochAt (-1)).toOption.bind (fun shown => shown.scanSnapshot.toOption.map
      fun s => s.map fun s => (s.id, s.millis)) = some (some (3, 0)) := by
    decide +kernel
  obtain ⟨shown, loaded, scanned⟩ := Option.bind_eq_some_iff.mp scanned
  obtain ⟨scan, selected, scanned⟩ := Option.map_eq_some_iff.mp scanned
  obtain ⟨s, rfl, third⟩ := Option.map_eq_some_iff.mp scanned
  obtain ⟨number, dated⟩ := Prod.mk.inj third
  have selected : shown.scanSnapshot = .ok (some s) := toOption_eq_some_iff.mp selected
  have early : -1 < s.millis * 1000 := by rw [dated]; decide
  refine ⟨t, shown, reached, found, unnumbered, untagged, toOption_eq_some_iff.mp loaded,
    ⟨s, selected, number, early⟩, ?_⟩
  rw [selected]
  rintro (⟨-, past, -⟩ | -)
  exact absurd past (Int.not_le.mpr early)

end TableLake
