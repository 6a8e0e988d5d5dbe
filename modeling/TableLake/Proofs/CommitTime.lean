/-
# TableLake.Proofs.CommitTime — which snapshot is read at a time

A table is read at a time if its settings name one and neither a number nor a tag
(`Table.ReadsAt`).  The scan goes through the snapshots from the last one back and takes the
first that was committed by then.  Numbers grow along the list, so this is the one with the
greatest number (`Orderly.find_last_iff`), also where several were committed at one time.

A later commit is dated no earlier than the last one, whatever the clock says.  So what was
read at a time before the last commit is read at that time ever after, as long as nothing
takes the table back or gives it other settings (`CatalogOp.Leaves`): every snapshot that is
added is past it (`GrownPast.step`).
-/
import TableLake.Proofs.Scan

namespace TableLake

open TableLake.Outcome TableLake.Text

set_option autoImplicit false

/-! ## Looking for the last one -/

namespace Table

variable {v w : Table} {millis : Int}

/-- The settings say that the table is read at a time. -/
structure ReadsAt (v : Table) (millis : Int) : Prop where
  unnumbered : v.options.get? scanSnapshotKey = none
  untagged : v.options.get? scanTagKey = none
  timed : ∃ text, v.options.get? scanTimeKey = some text ∧ readSigned 64 text = .ok millis

/-- Of the snapshots committed by a time, the one with the greatest number. -/
def LastBy (v : Table) (millis : Int) (s : Snapshot) : Prop :=
  s ∈ v.snapshots ∧ s.millis ≤ millis ∧
    ∀ other ∈ v.snapshots, other.millis ≤ millis → other.id ≤ s.id

theorem scanSnapshot_of_time (reads : v.ReadsAt millis) :
    v.scanSnapshot = some <$> v.atTime millis := by
  obtain ⟨text, selected, read⟩ := reads.timed
  simp only [scanSnapshot, reads.unnumbered, reads.untagged, selected, readOption, read]
  rfl

/-- Snapshots committed after a time do not change what is read at it. -/
theorem atTime_eq_of_append {later : List Snapshot} (same : w.id = v.id)
    (grown : w.snapshots = v.snapshots ++ later) (past : ∀ s ∈ later, millis < s.millis) :
    w.atTime millis = v.atTime millis := by
  have skipped : later.reverse.find? (fun s => s.millis ≤ millis) = none := by
    refine List.find?_eq_none.mpr fun s inside => ?_
    simpa using past s (List.mem_reverse.mp inside)
  rw [atTime, atTime, grown, same, List.reverse_append, List.find?_append, skipped, Option.none_or]

end Table

namespace TableEntry

variable {t t' : TableEntry} {id : TableId} {s : Snapshot} {millis now : Int}

/-- Numbers grow along the snapshots. -/
theorem Orderly.increasing (orderly : t.Orderly) :
    t.snapshots.Pairwise fun s next => s.id < next.id := by
  have numbers : (t.snapshots.map Snapshot.id).Pairwise (· < ·) := by
    rw [orderly.ids]
    exact List.pairwise_lt_range'
  exact List.pairwise_map.mp numbers

/-- From the last snapshot back, the first one that passes a test is the one with the
greatest number that does. -/
theorem Orderly.find_last_iff (orderly : t.Orderly) {test : Snapshot → Bool} :
    t.snapshots.reverse.find? test = some s ↔
      s ∈ t.snapshots ∧ test s = true ∧
        ∀ other ∈ t.snapshots, test other = true → other.id ≤ s.id := by
  have greatest {s : Snapshot} (found : t.snapshots.reverse.find? test = some s) :
      s ∈ t.snapshots ∧ test s = true ∧
        ∀ other ∈ t.snapshots, test other = true → other.id ≤ s.id := by
    obtain ⟨passes, behind, before, parts, failing⟩ := List.find?_eq_some_iff_append.mp found
    have order : t.snapshots = before.reverse ++ s :: behind.reverse := by
      rw [← List.reverse_reverse t.snapshots, parts]
      simp
    have increasing := orderly.increasing
    rw [order, List.pairwise_append] at increasing
    rw [order]
    refine ⟨by simp, passes, fun other inside passing => ?_⟩
    rcases List.mem_append.mp inside with earlier | later
    · exact Nat.le_of_lt (increasing.2.2 other earlier s List.mem_cons_self)
    · rcases List.mem_cons.mp later with rfl | later
      · exact le_rfl
      · -- what stands behind the one that was found was passed over
        have failed := failing other (List.mem_reverse.mp later)
        rw [passing] at failed
        cases failed
  refine ⟨greatest, ?_⟩
  rintro ⟨inside, passes, above⟩
  obtain ⟨s', found⟩ := Option.isSome_iff_exists.mp
    (List.find?_isSome.mpr ⟨s, List.mem_reverse.mpr inside, passes⟩)
  obtain ⟨inside', passes', above'⟩ := greatest found
  have same : s'.id = s.id := Nat.le_antisymm (above s' inside' passes') (above' s inside passes)
  rw [found, orderly.unique inside' inside same]

theorem Orderly.atTime_ok_iff (orderly : t.Orderly) :
    (t.view id).atTime millis = .ok s ↔ (t.view id).LastBy millis s := by
  have shown : (t.view id).snapshots = t.snapshots := rfl
  have last : (t.snapshots.reverse.find? fun s => s.millis ≤ millis) = some s ↔
      s ∈ t.snapshots ∧ decide (s.millis ≤ millis) = true ∧
        ∀ other ∈ t.snapshots, decide (other.millis ≤ millis) = true → other.id ≤ s.id :=
    orderly.find_last_iff
  simp only [decide_eq_true_eq] at last
  rw [Table.LastBy, shown, ← last, Table.atTime, shown]
  cases t.snapshots.reverse.find? fun s => s.millis ≤ millis <;> simp

/-- Nothing is read at a time just if every commit is after it. -/
theorem atTime_error_iff :
    (t.view id).atTime millis = .error (.noSnapshotBefore id millis) ↔
      ∀ s ∈ t.snapshots, millis < s.millis := by
  have shown : (t.view id).snapshots = t.snapshots := rfl
  have none : (t.snapshots.reverse.find? fun s => s.millis ≤ millis) = none ↔
      ∀ s ∈ t.snapshots, millis < s.millis := by
    simp [List.find?_eq_none]
  have named : (t.view id).id = id := rfl
  rw [← none, Table.atTime, shown, named]
  cases t.snapshots.reverse.find? fun s => s.millis ≤ millis <;> simp

/-! ## Commits that come later -/

/-- The table has its columns and settings still, and behind the snapshots that were there
only such as were committed after a time. -/
structure GrownPast (t : TableEntry) (millis : Int) (t' : TableEntry) : Prop where
  schema : t'.schema = t.schema
  snapshots : ∃ later, t'.snapshots = t.snapshots ++ later ∧ ∀ s ∈ later, millis < s.millis

theorem GrownPast.refl (t : TableEntry) (millis : Int) : t.GrownPast millis t :=
  ⟨rfl, [], (List.append_nil _).symm, by intro s none; cases none⟩

/-- A commit is dated after every time that one of the snapshots was committed after. -/
theorem GrownPast.commit {kind : CommitKind} {batches : List Batch} {last : Snapshot}
    (grown : t.GrownPast millis t') (orderly : t'.Orderly) (there : last ∈ t.snapshots)
    (past : millis < last.millis) :
    t.GrownPast millis (t'.commit (t'.nextSnapshot kind now batches)) := by
  obtain ⟨later, snapshots, after⟩ := grown.snapshots
  refine ⟨grown.schema, later ++ [t'.nextSnapshot kind now batches], ?_, ?_⟩
  · rw [← List.append_assoc, ← snapshots]
    rfl
  · intro s inside
    rcases List.mem_append.mp inside with earlier | here
    · exact after s earlier
    · have kept : last ∈ t'.snapshots := snapshots ▸ List.mem_append_left _ there
      rw [List.mem_singleton.mp here]
      exact Int.lt_of_lt_of_le past (orderly.le_commitTime now last kept)

end TableEntry

namespace CatalogOp

/-- The operation does not alter the table with a name, roll it back, rename or drop it.  A
write, a compaction and a tag leave every table. -/
def Leaves (id : TableId) : CatalogOp → Prop
  | .dropDatabase name _ _ => name ≠ id.database
  | .dropTable other _ | .renameTable other _ _ | .alterTable other _ _ | .rollbackTo other _ =>
      other ≠ id
  | _ => True

variable {op : CatalogOp} {c : Catalog} {now : Int} {id : TableId}

theorem follow_of_leaves (leaves : op.Leaves id) : op.follow c now id = some id := by
  unfold follow
  split
  · exact if_neg leaves
  · exact if_neg leaves
  · exact if_neg leaves
  · rfl

/-- What every step keeps of a table that is left where it is, the table has to the end of a
run. -/
theorem entry_of_leaves (property : TableEntry → Prop)
    (step : ∀ {op : CatalogOp} {now : Int} {t t' : TableEntry} {answer : Option Snapshot},
      op.Leaves id → t.Step id now op t' answer → property t → property t')
    {run : List (CatalogOp × Int)} (leaves : ∀ done ∈ run, done.1.Leaves id) {t : TableEntry}
    (found : c.entry? id = some t) (start : property t) :
    ∃ t', Catalog.entry? (afterAll c run) id = some t' ∧ property t' := by
  induction run generalizing c t with
  | nil => exact ⟨t, found, start⟩
  | cons first rest ih =>
      have here : first.1.Leaves id := leaves first List.mem_cons_self
      have later := fun done inside => leaves done (List.mem_cons_of_mem first inside)
      obtain ⟨t', left, rfl | ⟨answer, made⟩⟩ := entry?_follow found (follow_of_leaves here)
      · exact ih later left start
      · exact ih later left (step here made start)

end CatalogOp

theorem TableEntry.GrownPast.step {t t' t'' : TableEntry} {id : TableId} {now millis : Int}
    {op : CatalogOp} {answer : Option Snapshot} {last : Snapshot} (there : last ∈ t.snapshots)
    (past : millis < last.millis) (leaves : op.Leaves id)
    (step : t'.Step id now op t'' answer) (orderly : t'.Orderly) (grown : t.GrownPast millis t') :
    t.GrownPast millis t'' := by
  cases step with
  | alter => exact absurd rfl leaves
  | write => exact grown.commit orderly there past
  | compact => exact grown.commit orderly there past
  | compactEmpty => exact grown
  | rollback => exact absurd rfl leaves
  | tag => exact ⟨grown.schema, grown.snapshots⟩

/-! ## All of it -/

/-- **What is read at a time.**  In a catalog that operations led to, let the settings of a
table say that it is read at a time, those of its schema or others laid over them.  The scan
gives the snapshot with the greatest number of those committed by then, and is refused just if
there is none.  At a later time it gives no smaller number.  And if the last commit is after
the time, the scan gives what it gives now whatever is written, compacted and tagged
afterwards, in this table or elsewhere and at whatever readings of the clock. -/
theorem scan_at_time {c : Catalog} {id : TableId} {shown : Table} {settings : Options}
    {millis : Int} (reached : Reachable c) (given : c.getTable id = .ok shown)
    (reads : (shown.copy settings).ReadsAt millis) :
    ((∀ s, (shown.copy settings).scanSnapshot = .ok (some s) ↔ shown.LastBy millis s) ∧
      ((shown.copy settings).scanSnapshot = .error (.noSnapshotBefore id millis) ↔
        ∀ s ∈ shown.snapshots, millis < s.millis)) ∧
    (∀ {settings' : Options} {millis' : Int}, (shown.copy settings').ReadsAt millis' →
      millis ≤ millis' → ∀ s, (shown.copy settings).scanSnapshot = .ok (some s) →
        ∃ s', (shown.copy settings').scanSnapshot = .ok (some s') ∧ s.id ≤ s'.id) ∧
    ∀ last, shown.latest? = some last → millis < last.millis →
      ∀ run : List (CatalogOp × Int), (∀ done ∈ run, done.1.Leaves id) →
        ∃ shown', (CatalogOp.afterAll c run).getTable id = .ok shown' ∧
          (shown'.copy settings).scanSnapshot = (shown.copy settings).scanSnapshot := by
  obtain ⟨t, found, rfl⟩ := Catalog.getTable_ok_iff.mp given
  have orderly := reached.orderly found
  have scan {settings : Options} {millis : Int} (reads : ((t.view id).copy settings).ReadsAt millis) :
      ((t.view id).copy settings).scanSnapshot = some <$> (t.view id).atTime millis :=
    Table.scanSnapshot_of_time reads
  have scanned {settings : Options} {millis : Int}
      (reads : ((t.view id).copy settings).ReadsAt millis) (s : Snapshot) :
      ((t.view id).copy settings).scanSnapshot = .ok (some s) ↔ (t.view id).LastBy millis s := by
    rw [scan reads, ← orderly.atTime_ok_iff]
    cases (t.view id).atTime millis <;> simp
  refine ⟨⟨scanned reads, ?_⟩, ?_, ?_⟩
  · have refused_iff : (t.view id).atTime millis = .error (.noSnapshotBefore id millis) ↔
        ∀ s ∈ t.snapshots, millis < s.millis := TableEntry.atTime_error_iff
    rw [scan reads]
    refine Iff.trans ?_ refused_iff
    cases (t.view id).atTime millis <;> simp
  · intro settings' millis' reads' later s selected
    obtain ⟨inside, early, -⟩ := (scanned reads s).mp selected
    have there : (t.snapshots.reverse.find? fun s => s.millis ≤ millis').isSome = true :=
      List.find?_isSome.mpr ⟨s, List.mem_reverse.mpr inside, decide_eq_true (Int.le_trans early later)⟩
    obtain ⟨s', last⟩ := Option.isSome_iff_exists.mp there
    obtain ⟨inside', early', above⟩ := orderly.find_last_iff.mp last
    refine ⟨s', (scanned reads' s').mpr ⟨inside', of_decide_eq_true early', ?_⟩, ?_⟩
    · exact fun other here early => above other here (decide_eq_true early)
    · exact above s inside (decide_eq_true (Int.le_trans early later))
  · intro last latest past run leaves
    have there : last ∈ t.snapshots := List.mem_of_getLast? latest
    obtain ⟨t', left, -, grown⟩ := CatalogOp.entry_of_leaves
      (fun t' => t'.Orderly ∧ t.GrownPast millis t')
      (fun leaves step kept => ⟨kept.1.step step, kept.2.step there past leaves step kept.1⟩)
      leaves found ⟨orderly, .refl t millis⟩
    refine ⟨t'.view id, Catalog.getTable_ok_iff.mpr ⟨t', left, rfl⟩, ?_⟩
    obtain ⟨later, snapshots, after⟩ := grown.snapshots
    have options : ((t'.view id).copy settings).options = ((t.view id).copy settings).options := by
      show t'.schema.options.overlay _ = t.schema.options.overlay _
      rw [grown.schema]
      rfl
    have reads' : ((t'.view id).copy settings).ReadsAt millis :=
      ⟨options ▸ reads.unnumbered, options ▸ reads.untagged, options ▸ reads.timed⟩
    rw [scan reads, Table.scanSnapshot_of_time reads']
    exact congrArg (some <$> ·) (Table.atTime_eq_of_append rfl snapshots after)

/-- Two commits at one time, since the clock went back, and one after it; then the clock goes
back again while the table is written, compacted and tagged. -/
theorem scan_at_time_tides :
    let here : TableId := ⟨"lake", "catch"⟩
    let settings : Options := OrderedMap.ofList [(scanTimeKey, "50")]
    let c := CatalogOp.afterAll (.new "sea" ∅) (catchRun.take 2 ++
      [(.write here [weighed], 50), (.write here [weighed], 30), (.write here [weighed], 70)])
    let run : List (CatalogOp × Int) :=
      [(.write here [weighed], 10), (.compact here ⟨[], none, ∅⟩, 20), (.createTag here "low" none, 5)]
    ∃ shown shown' s, c.getTable here = .ok shown ∧ shown.latest?.map Snapshot.millis = some 70 ∧
      (CatalogOp.afterAll c run).getTable here = .ok shown' ∧ s.id = 2 ∧ s.millis = 50 ∧
      (shown.copy settings).scanSnapshot = .ok (some s) ∧
      (shown'.copy settings).scanSnapshot = .ok (some s) := by
  intro here settings c run
  have reached : Reachable c := (Reachable.new "sea" ∅).afterAll _
  let chosen (v : Table) := [scanSnapshotKey, scanTagKey, scanTimeKey].map (v.copy settings).options.get?
  have seen : ((c.getTable here).toOption.bind fun v =>
      (v.copy settings).scanSnapshot.toOption.join.map fun s =>
        (chosen v, v.latest?.map Snapshot.millis, s.id, s.millis)) =
      some ([none, none, some "50"], some 70, 2, 50) := by
    decide +kernel
  obtain ⟨shown, given, seen⟩ := Option.bind_eq_some_iff.mp seen
  obtain ⟨s, selected, seen⟩ := Option.map_eq_some_iff.mp seen
  simp only [Prod.mk.injEq] at seen
  obtain ⟨keys, latest, number, time⟩ := seen
  have given := toOption_eq_some_iff.mp given
  have selected := toOption_eq_some_iff.mp (Option.join_eq_some_iff.mp selected)
  simp only [chosen, List.map_cons, List.map_nil, List.cons.injEq] at keys
  have reads : (shown.copy settings).ReadsAt 50 := ⟨keys.1, keys.2.1, "50", keys.2.2.1, rfl⟩
  obtain ⟨last, latest', dated⟩ := Option.map_eq_some_iff.mp latest
  have leaves : ∀ done ∈ run, done.1.Leaves here := by simp [run, CatalogOp.Leaves]
  obtain ⟨-, -, repeats⟩ := scan_at_time reached given reads
  obtain ⟨shown', left, same⟩ := repeats last latest' (by rw [dated]; decide) run leaves
  exact ⟨shown, shown', s, given, latest, left, number, time, selected, same.trans selected⟩

end TableLake
