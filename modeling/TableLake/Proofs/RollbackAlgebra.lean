/-
# TableLake.Proofs.RollbackAlgebra — what rollbacks have to do with each other

A rollback keeps the snapshots up to a number and the tags that point at them, so one that goes to a
snapshot that is kept goes where it went before: a version that meant it means it still
(`versionId_upTo`), and what two cuts leave is what the lower one leaves (`upTo_upTo`).  Hence a
rollback made again changes nothing, and of two rollbacks the second, if it goes further back,
leaves what it would have left alone.

A version that meant a later snapshot means nothing any more: its number is free again, or its tag
is gone (`lacks_upTo`).  It stays so, whatever else is done to the table and under whatever name,
until an operation gives it a meaning (`CatalogOp.Defines`, `Lacks.step`): a commit that takes the
number, or a tag that is made under the name.  The next commit takes the number behind the one that
was gone back to.
-/
import TableLake.Proofs.Isolation
import TableLake.Proofs.RollbackTravel
import TableLake.Proofs.RunRecord

namespace TableLake

open TableLake.Outcome

set_option autoImplicit false

/-- Why a table has nothing at a version. -/
def Version.missing (id : TableId) : Version → CatalogError
  | .snapshot n => .noSnapshot id n
  | .tag name => .noTag id name

namespace TableEntry

variable {t t' : TableEntry} {id : TableId} {s : Snapshot} {version : Version} {j k n : Nat}

/-! ## Cuts -/

/-- What two cuts leave, the lower one leaves. -/
theorem upTo_upTo (t : TableEntry) (below : j ≤ k) : (t.upTo k).upTo j = t.upTo j := by
  have snapshots : (t.snapshots.filter fun s => s.id ≤ k).filter (fun s => s.id ≤ j) =
      t.snapshots.filter fun s => s.id ≤ j := by
    rw [List.filter_filter]
    refine List.filter_congr fun s _ => ?_
    by_cases early : s.id ≤ j
    · simp [early, early.trans below]
    · simp [early]
  have tags : (t.tags.filter fun _ m => m ≤ k).filter (fun _ m => m ≤ j) =
      t.tags.filter fun _ m => m ≤ j := by
    refine OrderedMap.ext ?_
    show (t.tags.entries.filter _).filter _ = t.tags.entries.filter _
    rw [List.filter_filter]
    refine List.filter_congr fun entry _ => ?_
    by_cases early : entry.2 ≤ j
    · simp [early, early.trans below]
    · simp [early]
  unfold upTo
  rw [snapshots, tags]

theorem mem_upTo_iff : s ∈ (t.upTo k).snapshots ↔ s ∈ t.snapshots ∧ s.id ≤ k := by
  simp [upTo]

theorem get?_tags_upTo (t : TableEntry) (k : Nat) (name : String) :
    (t.upTo k).tags.get? name = (t.tags.get? name).filter fun n => n ≤ k :=
  OrderedMap.get?_filter _ _ _

/-! ## Versions -/

/-- A version shows the snapshot whose number it means. -/
theorem Orderly.atVersion_ok_iff (orderly : t.Orderly) : (t.view id).atVersion version = .ok s ↔
    s ∈ t.snapshots ∧ t.versionId id version = .ok s.id := by
  cases version with
  | snapshot n =>
      constructor
      · intro shows
        obtain ⟨inside, rfl⟩ := Table.mem_of_snapshot shows
        exact ⟨inside, rfl⟩
      · rintro ⟨inside, means⟩
        cases means
        exact orderly.snapshot_eq inside id
  | tag name =>
      rw [Table.atVersion, versionId]
      cases points : t.tags.get? name with
      | none => simp [tagged_eq_of_missing points]
      | some n =>
          obtain ⟨other, there, rfl⟩ := orderly.tags name n points
          rw [orderly.tagged_eq points there]
          simp only [Except.ok.injEq]
          constructor
          · rintro rfl
            exact ⟨there, rfl⟩
          · rintro ⟨inside, same⟩
            exact orderly.unique there inside same

/-- What a version meant it means still, if a rollback keeps it. -/
theorem versionId_upTo (means : t.versionId id version = .ok n) (kept : n ≤ k) :
    (t.upTo k).versionId id version = .ok n := by
  cases version with
  | snapshot m => exact means
  | tag name =>
      rw [versionId] at means ⊢
      rw [get?_tags_upTo]
      cases points : t.tags.get? name with
      | none =>
          rw [points] at means
          cases means
      | some m =>
          rw [points] at means
          cases means
          rw [Option.filter_some, if_pos (decide_eq_true kept)]

theorem Orderly.atVersion_upTo (orderly : t.Orderly) (shows : (t.view id).atVersion version = .ok s)
    (kept : s.id ≤ k) : ((t.upTo k).view id).atVersion version = .ok s := by
  obtain ⟨inside, means⟩ := orderly.atVersion_ok_iff.mp shows
  exact (orderly.upTo k).atVersion_ok_iff.mpr
    ⟨mem_upTo_iff.mpr ⟨inside, kept⟩, versionId_upTo means kept⟩

/-- A version that means nothing: no snapshot has the number, or there is no tag of the name. -/
def Lacks (t : TableEntry) : Version → Prop
  | .snapshot n => ∀ s ∈ t.snapshots, s.id ≠ n
  | .tag name => t.tags.get? name = none

/-- What a version meant is gone after a rollback below it. -/
theorem lacks_upTo (means : t.versionId id version = .ok n) (later : k < n) :
    (t.upTo k).Lacks version := by
  cases version with
  | snapshot m =>
      cases means
      intro s inside
      have early := (mem_upTo_iff.mp inside).2
      omega
  | tag name =>
      show (t.upTo k).tags.get? name = none
      rw [get?_tags_upTo]
      rw [versionId] at means
      cases points : t.tags.get? name with
      | none => rfl
      | some m =>
          rw [points] at means
          cases means
          rw [Option.filter_some, if_neg]
          simpa using later

/-- A version that means nothing is not shown. -/
theorem Lacks.atVersion_eq (lacks : t.Lacks version) (id : TableId) :
    (t.view id).atVersion version = .error (version.missing id) := by
  cases version with
  | snapshot n => exact snapshot_eq_of_missing lacks
  | tag name => exact tagged_eq_of_missing lacks

end TableEntry

/-! ## Operations that give a version a meaning -/

namespace CatalogOp

/-- The operation with its answer gives a version a meaning: it commits a snapshot of the number, or
makes a tag of the name. -/
def Gives (op : CatalogOp) (answer : Option Snapshot) : Version → Prop
  | .snapshot n => ∃ s ∈ answer, s.id = n
  | .tag name => ∃ id snapshot, op = .createTag id name snapshot

/-- The operation is accepted for the table and gives a version a meaning. -/
def Defines (version : Version) (op : CatalogOp) (c : Catalog) (now : Int) (id : TableId) : Prop :=
  op.target? = some id ∧ ∃ answer, op.answer c now = .ok answer ∧ op.Gives answer version

/-- The operation is accepted, and rolls the table back or commits a snapshot to it. -/
def Recounts (op : CatalogOp) (c : Catalog) (now : Int) (id : TableId) : Prop :=
  op.target? = some id ∧ ∃ answer, op.answer c now = .ok answer ∧
    ((∃ version, op = .rollbackTo id version) ∨ answer.isSome)

end CatalogOp

namespace TableEntry

variable {t t' : TableEntry} {id : TableId} {now : Int} {op : CatalogOp} {answer : Option Snapshot}
variable {version : Version}

/-- A version that means nothing means nothing after a step that does not give it a meaning. -/
theorem Lacks.step (step : t.Step id now op t' answer) (ungiven : ¬op.Gives answer version)
    (lacks : t.Lacks version) : t'.Lacks version := by
  have committed {kind : CommitKind} {batches : List Batch}
      (other : ∀ n, version = .snapshot n → (t.nextSnapshot kind now batches).id ≠ n) :
      (t.commit (t.nextSnapshot kind now batches)).Lacks version := by
    cases version with
    | snapshot n =>
        intro s inside
        rcases List.mem_append.mp inside with earlier | here
        · exact lacks s earlier
        · rw [List.mem_singleton.mp here]
          exact other n rfl
    | tag name => exact lacks
  cases step with
  | alter =>
      cases version with
      | snapshot n => exact lacks
      | tag name => exact lacks
  | write =>
      refine committed ?_
      rintro n rfl same
      exact ungiven ⟨_, rfl, same⟩
  | compact =>
      refine committed ?_
      rintro n rfl same
      exact ungiven ⟨_, rfl, same⟩
  | compactEmpty => exact lacks
  | @rollback _ k =>
      cases version with
      | snapshot n => exact fun s inside => lacks s (mem_upTo_iff.mp inside).1
      | tag name =>
          have none : t.tags.get? name = none := lacks
          show (t.upTo k).tags.get? name = Option.none
          rw [get?_tags_upTo, none]
          rfl
  | @tag other snapshot n free target =>
      cases version with
      | snapshot n => exact lacks
      | tag name =>
          have different : other ≠ name := by
            rintro rfl
            exact ungiven ⟨id, snapshot, rfl⟩
          show (t.tags.insert other n).get? name = none
          rw [OrderedMap.get?_insert, if_neg different]
          exact lacks

/-- A version that a step gives a meaning to is shown. -/
theorem Orderly.exists_atVersion_of_gives (orderly : t.Orderly) (step : t.Step id now op t' answer)
    (gives : op.Gives answer version) : ∃ s, (t'.view id).atVersion version = .ok s := by
  have orderly' := orderly.step step
  cases version with
  | snapshot n =>
      obtain ⟨s, committed, rfl⟩ := gives
      have inside : s ∈ t'.snapshots := by
        cases step with
        | write => cases committed; exact List.mem_append_right _ List.mem_cons_self
        | compact => cases committed; exact List.mem_append_right _ List.mem_cons_self
        | _ => cases committed
      exact ⟨s, orderly'.snapshot_eq inside id⟩
  | tag name =>
      obtain ⟨other, snapshot, rfl⟩ := gives
      cases step with
      | @tag _ _ n free target =>
          have points : (t.tags.insert name n).get? name = some n := by
            rw [OrderedMap.get?_insert, if_pos rfl]
          obtain ⟨s, inside, rfl⟩ := orderly'.tags name n points
          exact ⟨s, orderly'.tagged_eq points inside id⟩

/-- A step that commits nothing and is no rollback leaves the number of the next snapshot. -/
theorem Step.nextId_eq (step : t.Step id now op t' answer) (uncommitted : answer = none)
    (unrolled : ∀ version, op ≠ .rollbackTo id version) : t'.nextId = t.nextId := by
  cases step with
  | alter => rfl
  | write => cases uncommitted
  | compact => cases uncommitted
  | compactEmpty => rfl
  | rollback => exact absurd rfl (unrolled _)
  | tag => rfl

/-- After a rollback the number behind the one it went to is next. -/
theorem Orderly.nextId_upTo {s : Snapshot} (orderly : t.Orderly) (inside : s ∈ t.snapshots) :
    (t.upTo s.id).nextId = s.id + 1 := by
  rw [nextId, orderly.latest_upTo inside]

/-- A snapshot that a step commits has the next number. -/
theorem Step.id_of_committed {s : Snapshot} (step : t.Step id now op t' (some s)) :
    s.id = t.nextId := by
  cases step <;> rfl

end TableEntry

/-! ## Runs -/

variable {c c' : Catalog} {id id' : TableId} {t : TableEntry} {s : Snapshot} {version : Version}

/-- A rollback goes to the snapshot that is shown at the version, or is refused for the reason for
which none is. -/
theorem Catalog.rollbackTo_eq (found : c.entry? id = some t) (orderly : t.Orderly)
    (version : Version) : c.rollbackTo id version =
      (fun s => c.setEntry id (t.upTo s.id)) <$> (t.view id).atVersion version := by
  rw [Catalog.rollbackTo, Catalog.modifyEntry_eq found, orderly.rollback_eq]
  cases (t.view id).atVersion version <;> rfl

/-- A version that means nothing is refused, and nothing changes. -/
theorem outcome_rollbackTo_of_lacks (found : c.entry? id = some t) (orderly : t.Orderly)
    (lacks : t.Lacks version) (now : Int) :
    (CatalogOp.rollbackTo id version).run.outcome (.new c now) =
      (.error (version.missing id), .new c now) := by
  have refused : c.rollbackTo id version = .error (version.missing id) := by
    rw [Catalog.rollbackTo_eq found orderly, lacks.atVersion_eq]
    rfl
  have applied : (CatalogOp.rollbackTo id version).apply c now = .error (version.missing id) := by
    rw [CatalogOp.apply, refused]
    rfl
  rw [CatalogOp.outcome_run, applied]
  rfl

/-- A version that means nothing is refused to the end of a run in which no operation gives it a
meaning, and is accepted after the first one that does. -/
theorem lacks_until_defined (orderly : t.Orderly) (lacks : t.Lacks version)
    (found : c.entry? id = some t)
    (run : Follows (fun op c now id => ¬op.Defines version c now id) c id c' id') (now : Int) :
    (∃ v, c'.getTable id' = .ok v ∧ v.atVersion version = .error (version.missing id')) ∧
      (CatalogOp.rollbackTo id' version).run.outcome (.new c' now) =
        (.error (version.missing id'), .new c' now) ∧
      ∀ op : CatalogOp, op.Defines version c' now id' →
        ∃ c'', Catalog.rollbackTo (op.after c' now) id' version = .ok c'' := by
  let nothing (t : TableEntry) := t.Orderly ∧ t.Lacks version
  have start : nothing t := ⟨orderly, lacks⟩
  obtain ⟨t', there, orderly', lacks'⟩ := run.entry_answered
    (fun undefined target answered step kept => ⟨kept.1.step step,
      kept.2.step step fun gives => undefined ⟨target, _, answered, gives⟩⟩)
    found start
  refine ⟨⟨_, Catalog.getTable_ok_iff.mpr ⟨t', there, rfl⟩, lacks'.atVersion_eq id'⟩,
    outcome_rollbackTo_of_lacks there orderly' lacks' now, ?_⟩
  rintro op ⟨target, answer, answered, gives⟩
  obtain ⟨t'', left, step⟩ := CatalogOp.step_of_answer there target answered
  obtain ⟨s, shows⟩ := orderly'.exists_atVersion_of_gives step gives
  refine ⟨Catalog.setEntry (op.after c' now) id' (t''.upTo s.id), ?_⟩
  rw [Catalog.rollbackTo_eq left (orderly'.step step), shows]
  rfl

/-- The first snapshot that is committed in a run in which no rollback is accepted has the number
that was next. -/
theorem id_of_next_commit (found : c.entry? id = some t)
    (run : Follows (fun op c now id => ¬op.Recounts c now id) c id c' id') {op : CatalogOp}
    {now : Int} (target : op.target? = some id') (committed : op.answer c' now = .ok (some s)) :
    s.id = t.nextId := by
  let waiting (t' : TableEntry) := t'.nextId = t.nextId
  have start : waiting t := rfl
  obtain ⟨t', there, same⟩ := run.entry_answered (fun {op _ _ id _ _ answer} still target answered
      step waits => by
    have uncommitted : answer = none := by
      cases answer with
      | none => rfl
      | some s => exact absurd ⟨target, _, answered, .inr rfl⟩ still
    have unrolled : ∀ version, op ≠ .rollbackTo id version := by
      intro version rolled
      exact still ⟨target, _, answered, .inl ⟨version, rolled⟩⟩
    exact (step.nextId_eq uncommitted unrolled).trans waits) found start
  obtain ⟨t'', -, step⟩ := CatalogOp.step_of_answer there target committed
  exact step.id_of_committed.trans same

/-- **Rollbacks go together.**  In a catalog that operations led to, let a table show a snapshot at
a version.  A rollback to the version is accepted.  It keeps just the snapshots up to the number of
that one and the tags that point at them, in their order, the version and the schema among what
stays.  The same rollback again, or one to the number, changes nothing.  A rollback further back
leaves what it would have left before.  A version that showed a later snapshot shows none and is
refused, and nothing changes, for as long as no operation gives it a meaning; after the first one
that does, it is accepted.  And the next commit takes the next number. -/
theorem rollbacks_go_together {v : Table} (reached : Reachable c) (given : c.getTable id = .ok v)
    (shows : v.atVersion version = .ok s) :
    ∃ c' v', c.rollbackTo id version = .ok c' ∧ c'.getTable id = .ok v' ∧
      (v'.schema = v.schema ∧ v'.snapshots = v.snapshots.filter (fun kept => kept.id ≤ s.id) ∧
        v'.tags.entries = v.tags.entries.filter (fun tag => tag.2 ≤ s.id) ∧
        v'.atVersion version = .ok s ∧
        ∀ other, other ≠ id → c'.getTable other = c.getTable other) ∧
      (c'.rollbackTo id version = .ok c' ∧ c'.rollbackTo id (.snapshot s.id) = .ok c') ∧
      (∀ version' s', v.atVersion version' = .ok s' → s'.id ≤ s.id →
        ∃ c'', c.rollbackTo id version' = .ok c'' ∧ c'.rollbackTo id version' = .ok c'') ∧
      (∀ version' s', v.atVersion version' = .ok s' → s.id < s'.id → ∀ c'' id'',
        Follows (fun op c now id => ¬op.Defines version' c now id) c' id c'' id'' → ∀ now,
          (∃ v'', c''.getTable id'' = .ok v'' ∧
            v''.atVersion version' = .error (version'.missing id'')) ∧
          (CatalogOp.rollbackTo id'' version').run.outcome (.new c'' now) =
            (.error (version'.missing id''), .new c'' now) ∧
          ∀ op : CatalogOp, op.Defines version' c'' now id'' →
            ∃ c₃, Catalog.rollbackTo (op.after c'' now) id'' version' = .ok c₃) ∧
      ∀ c'' id'', Follows (fun op c now id => ¬op.Recounts c now id) c' id c'' id'' →
        ∀ (op : CatalogOp) (now : Int) (s' : Snapshot), op.target? = some id'' →
          op.answer c'' now = .ok (some s') → s'.id = s.id + 1 := by
  obtain ⟨t, found, rfl⟩ := Catalog.getTable_ok_iff.mp given
  have orderly := reached.orderly found
  obtain ⟨db, housed, -⟩ := Catalog.exists_database_of_entry? found
  have left : Catalog.entry? (c.setEntry id (t.upTo s.id)) id = some (t.upTo s.id) :=
    Catalog.entry?_setEntry_of_found found _
  -- both catalogs go where the version shows, and the later cut alone is left
  have goes {version' : Version} {s' : Snapshot} (there : (t.view id).atVersion version' = .ok s') :
      c.rollbackTo id version' = .ok (c.setEntry id (t.upTo s'.id)) := by
    rw [Catalog.rollbackTo_eq found orderly, there]
    rfl
  have again {version' : Version} {s' : Snapshot} (there : (t.view id).atVersion version' = .ok s')
      (kept : s'.id ≤ s.id) : Catalog.rollbackTo (c.setEntry id (t.upTo s.id)) id version' =
        .ok (c.setEntry id (t.upTo s'.id)) := by
    rw [Catalog.rollbackTo_eq left (orderly.upTo s.id), orderly.atVersion_upTo there kept]
    show Except.ok ((c.setEntry id (t.upTo s.id)).setEntry id ((t.upTo s.id).upTo s'.id)) = _
    rw [Catalog.setEntry_setEntry, TableEntry.upTo_upTo t kept]
  obtain ⟨inside, means⟩ := orderly.atVersion_ok_iff.mp shows
  refine ⟨_, _, goes shows, Catalog.getTable_ok_iff.mpr ⟨_, left, rfl⟩,
    ⟨rfl, rfl, rfl, orderly.atVersion_upTo shows le_rfl, ?_⟩, ⟨again shows le_rfl, ?_⟩, ?_, ?_, ?_⟩
  · intro other apart
    refine Catalog.getTable_congr ?_
    rw [Catalog.entry?_setEntry housed, if_neg apart.symm]
  · exact again (orderly.snapshot_eq inside id) le_rfl
  · intro version' s' there kept
    exact ⟨_, goes there, again there kept⟩
  · intro version' s' there later c'' id'' run now
    obtain ⟨-, meant⟩ := orderly.atVersion_ok_iff.mp there
    exact lacks_until_defined (orderly.upTo s.id) (TableEntry.lacks_upTo meant later) left run now
  · intro c'' id'' run op now s' target committed
    rw [id_of_next_commit left run target committed, orderly.nextId_upTo inside]

/-- The number of the second snapshot is used again after the rollback, while its tag is gone until
it is made anew. -/
theorem rollbacks_go_together_second :
    let here : TableId := ⟨"lake", "catch"⟩
    let c := CatalogOp.afterAll (.new "sea" ∅) (catchRun.take 6)
    let write := CatalogOp.write here [weighed]
    let tag := CatalogOp.createTag here "second" none
    ∃ c' again, c.rollbackTo here (.tag "first") = .ok c' ∧
      c'.rollbackTo here (.tag "first") = .ok c' ∧
      write.answer c' 60 = .ok (some again) ∧ again.id = 2 ∧
      (CatalogOp.rollbackTo here (.tag "second")).run.outcome (.new (write.after c' 60) 61) =
        (.error (.noTag here "second"), .new (write.after c' 60) 61) ∧
      ∃ c'', Catalog.rollbackTo (tag.after (write.after c' 60) 61) here (.tag "second") =
        .ok c'' := by
  intro here c write tag
  have reached : Reachable c := (Reachable.new "sea" ∅).afterAll _
  have seen : ((c.getTable here).toOption.bind fun v =>
      (v.atVersion (.tag "first")).toOption.bind fun s =>
        (v.atVersion (.tag "second")).toOption.map fun s' => (s.id, s'.id)) = some (1, 2) := by
    decide +kernel
  obtain ⟨v, given, seen⟩ := Option.bind_eq_some_iff.mp seen
  obtain ⟨s, shows, seen⟩ := Option.bind_eq_some_iff.mp seen
  obtain ⟨s', shows', seen⟩ := Option.map_eq_some_iff.mp seen
  obtain ⟨first, last⟩ := Prod.mk.inj seen
  have given := toOption_eq_some_iff.mp given
  have shows := toOption_eq_some_iff.mp shows
  have shows' := toOption_eq_some_iff.mp shows'
  obtain ⟨c', v', gone, -, -, ⟨repeated, -⟩, -, lost, next⟩ :=
    rollbacks_go_together reached given shows
  have written : (c.rollbackTo here (.tag "first")).toOption.any (fun c' =>
      (write.answer c' 60).toOption.join.isSome &&
        (tag.answer (write.after c' 60) 61).toOption.isSome) := by
    decide +kernel
  rw [gone] at written
  obtain ⟨committed, tagged⟩ := Bool.and_eq_true_iff.mp written
  obtain ⟨again, made⟩ := Option.isSome_iff_exists.mp committed
  obtain ⟨answer, answered⟩ := Option.isSome_iff_exists.mp tagged
  have made := toOption_eq_some_iff.mp (Option.join_eq_some_iff.mp made)
  have answered := toOption_eq_some_iff.mp answered
  have undefined : ¬write.Defines (.tag "second") c' 60 here := by
    rintro ⟨-, _, -, _, _, same⟩
    exact nomatch (same : CatalogOp.write here [weighed] = _)
  obtain ⟨-, refused, defined⟩ := lost (.tag "second") s' shows' (by omega) _ here
    (.step .here write 60 rfl undefined) 61
  obtain ⟨c'', accepted⟩ := defined tag ⟨rfl, answer, answered, here, none, rfl⟩
  have second := next c' here .here write 60 again rfl made
  rw [first] at second
  exact ⟨c', again, gone, repeated, made, second, refused, c'', accepted⟩

end TableLake
