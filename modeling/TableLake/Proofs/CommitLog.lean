/-
# TableLake.Proofs.CommitLog — a table is the log of its commits

A table keeps with every snapshot all batches it had then.  `CommitLog` keeps them once:
each commit with what it added, a write its batches and a compaction nothing, and the tags
with the number of the commit they were made for.  A rollback cuts the log after a commit.

`CommitLog.note` writes the log down from the operations that were accepted, without a look
at the table.  Each of them keeps the log and the table together (`Shows.step`): a snapshot
holds, in order, what the log has up to its number.  So what is read in the end is what the
log holds (`read_commit_log`), although a number is used again after a rollback.
-/
import TableLake.Proofs.RunRecord
import TableLake.Proofs.Scan

namespace TableLake

open TableLake.Outcome

set_option autoImplicit false

/-- What each commit of a table added, and the number of the commit that a tag means. -/
structure CommitLog where
  commits : List (List Batch)
  tags : OrderedMap String Nat

/-- A batch has the columns and rows of another one, under some fields. -/
def Batch.PutUnder (fields : List Field) (b y : Batch) : Prop :=
  y.fields = fields ∧ y.columns = b.columns ∧ y.rows = b.rows

theorem Batch.putUnder_of_make {fields : List Field} {b y : Batch}
    (made : Batch.make fields b.columns = .ok y) : Batch.PutUnder fields b y := by
  obtain ⟨filled, own, columns⟩ := Batch.make_ok_iff.mp made
  refine ⟨own, columns, Batch.rows_eq filled fun c inside => ?_⟩
  exact y.full c (columns ▸ inside)

/-- The operation is an alteration of the table with a name. -/
def CatalogOp.Alters (id : TableId) : CatalogOp → Prop
  | .alterTable altered _ _ => altered = id
  | _ => False

namespace CommitLog

/-- The log of a new table. -/
def empty : CommitLog := ⟨[], ∅⟩

/-- The batches of all commits in order. -/
def contents (log : CommitLog) : List Batch := log.commits.flatten

/-- The log up to a commit. -/
def truncate (log : CommitLog) (n : Nat) : CommitLog where
  commits := log.commits.take n
  tags := log.tags.filter fun _ m => m ≤ n

/-- The number of the commit that a version means. -/
def number? (log : CommitLog) : Version → Option Nat
  | .snapshot n => some n
  | .tag tag => log.tags.get? tag

/-- The log after an operation on its table that was accepted. -/
def note (op : CatalogOp) (log : CommitLog) : CommitLog :=
  match op with
  | .write _ batches => { log with commits := log.commits ++ [batches] }
  | .compact _ _ => if log.commits = [] then log else { log with commits := log.commits ++ [[]] }
  | .rollbackTo _ version =>
      match log.number? version with
      | some n => log.truncate n
      | none => log
  | .createTag _ tag snapshot =>
      { log with tags := log.tags.insert tag (snapshot.getD log.commits.length) }
  | _ => log

/-- The log has a commit for each snapshot of a table, and the snapshot holds what was
committed until then, put under the fields of the schema. -/
structure Shows (schema : Schema) (log : CommitLog) (t : TableEntry) : Prop where
  made : t.schema = schema
  count : t.snapshots.length = log.commits.length
  data : ∀ s ∈ t.snapshots,
    List.Forall₂ (Batch.PutUnder schema.fields) (log.commits.take s.id).flatten s.batches
  tags : t.tags = log.tags

variable {schema : Schema} {log : CommitLog} {t t' : TableEntry} {id : TableId} {now : Int}

/-- What is written is put under the fields of the table. -/
theorem put_of_made {batches written : List Batch}
    (made : (batches.mapM fun b =>
      (Batch.make schema.fields b.columns).mapError CatalogError.data) = .ok written) :
    List.Forall₂ (Batch.PutUnder schema.fields) batches written :=
  (mapM_eq_ok_iff.mp made).imp fun _ _ here => Batch.putUnder_of_make (mapError_eq_ok_iff.mp here)

theorem shows_new (schema : Schema) : Shows schema .empty (.new schema) where
  made := rfl
  count := rfl
  data := by intro s inside; cases inside
  tags := rfl

namespace Shows

variable (shows : Shows schema log t) (orderly : t.Orderly)

include shows orderly

/-- The last snapshot holds the whole log. -/
theorem latest :
    List.Forall₂ (Batch.PutUnder schema.fields) log.contents t.latestBatches := by
  unfold contents TableEntry.latestBatches
  cases last : t.snapshots.getLast? with
  | none =>
      have empty : log.commits.length = 0 := by
        rw [← shows.count, List.getLast?_eq_none_iff.mp last, List.length_nil]
      rw [List.length_eq_zero_iff.mp empty]
      exact .nil
  | some s =>
      have whole : log.commits.take s.id = log.commits := by
        rw [orderly.id_latest last, shows.count, List.take_length]
      have held := shows.data s (List.mem_of_getLast? last)
      rw [whole] at held
      exact held

/-- One more commit, of what was put under the fields. -/
theorem commit {kind : CommitKind} {added written : List Batch}
    (put : List.Forall₂ (Batch.PutUnder schema.fields) added written) :
    Shows schema { log with commits := log.commits ++ [added] }
      (t.commit (t.nextSnapshot kind now (t.latestBatches ++ written))) where
  made := shows.made
  count := by simp [TableEntry.commit, shows.count]
  data := by
    intro s inside
    rcases List.mem_append.mp inside with earlier | here
    · have within : s.id ≤ log.commits.length := by
        rw [← shows.count]
        exact (orderly.id_bounds earlier).2
      rw [List.take_append_of_le_length within]
      exact shows.data s earlier
    · rw [List.mem_singleton.mp here]
      have whole : (log.commits ++ [added]).take t.nextId = log.commits ++ [added] := by
        refine List.take_of_length_le ?_
        rw [orderly.nextId_eq, shows.count, List.length_append, List.length_singleton]
      show List.Forall₂ _ ((log.commits ++ [added]).take t.nextId).flatten _
      rw [whole, List.flatten_append, List.flatten_singleton]
      exact List.rel_append (shows.latest orderly) put
  tags := shows.tags

/-- A rollback cuts the table and the log at the same place. -/
theorem upTo (n : Nat) : Shows schema (log.truncate n) (t.upTo n) where
  made := shows.made
  count := by
    rw [orderly.snapshots_upTo, truncate, List.length_take, List.length_take, shows.count]
  data := by
    intro s inside
    obtain ⟨earlier, early⟩ := List.mem_filter.mp inside
    have below : s.id ≤ n := of_decide_eq_true early
    have same : ((log.truncate n).commits).take s.id = log.commits.take s.id := by
      rw [truncate, List.take_take, Nat.min_eq_left below]
    rw [same]
    exact shows.data s earlier
  tags := congrArg (·.filter fun _ m => m ≤ n) shows.tags

omit orderly in
/-- A version means the same for the log and the table. -/
theorem number?_eq_some_iff {version : Version} {n : Nat} :
    log.number? version = some n ↔ t.versionId id version = .ok n := by
  cases version with
  | snapshot m => simp [number?, TableEntry.versionId]
  | tag tag =>
      rw [number?, TableEntry.versionId, shows.tags]
      cases log.tags.get? tag <;> simp

/-- A tag is made for the commit that is named, or else for the last one. -/
theorem tag {tag : String} {snapshot : Option Nat} {n : Nat}
    (target : t.tagTarget id snapshot = .ok n) :
    Shows schema { log with tags := log.tags.insert tag (snapshot.getD log.commits.length) }
      { t with tags := t.tags.insert tag n } where
  made := shows.made
  count := shows.count
  data := shows.data
  tags := by
    have number : snapshot.getD log.commits.length = n := by
      obtain ⟨s, -, rfl, rfl | ⟨rfl, last⟩⟩ := TableEntry.exists_of_tagTarget target
      · rfl
      · rw [Option.getD_none, orderly.id_latest last, shows.count]
    rw [number]
    exact congrArg (·.insert tag n) shows.tags

/-- **An operation that is accepted keeps the log and the table together.** -/
theorem step {op : CatalogOp} {answer : Option Snapshot} (step : t.Step id now op t' answer)
    (unaltered : ¬op.Alters id) : Shows schema (log.note op) t' := by
  cases step with
  | alter => exact absurd rfl unaltered
  | write made => exact shows.commit orderly (put_of_made (shows.made ▸ made))
  | compact admitted filled =>
      have noted : log.commits ≠ [] := by
        intro none
        have count := shows.count
        rw [none, List.length_nil] at count
        exact filled (List.length_eq_zero_iff.mp count)
      -- a compaction commits the batches that are there and no others
      have committed : Shows schema { log with commits := log.commits ++ [[]] }
          (t.commit (t.nextSnapshot .compact now (t.latestBatches ++ []))) :=
        shows.commit orderly .nil
      rw [List.append_nil] at committed
      rw [note, if_neg noted]
      exact committed
  | compactEmpty admitted empty =>
      have none : log.commits = [] := by
        rw [← List.length_eq_zero_iff, ← shows.count, empty, List.length_nil]
      rw [note, if_pos none]
      exact shows
  | @rollback version n means kept =>
      rw [note, shows.number?_eq_some_iff.mpr means]
      exact shows.upTo orderly n
  | tag free target => exact shows.tag orderly target

/-- A rollback is accepted just if its version means a commit of the log. -/
theorem rollback_iff {version : Version} : (∃ t', t.rollback id version = .ok t') ↔
    ∃ n, log.number? version = some n ∧ 1 ≤ n ∧ n ≤ log.commits.length := by
  have numbered {n : Nat} : t.hasSnapshot n = true ↔ 1 ≤ n ∧ n ≤ log.commits.length := by
    rw [t.hasSnapshot_iff, orderly.exists_id_iff, shows.count]
  constructor
  · rintro ⟨t', done⟩
    obtain ⟨n, means, kept, -⟩ := TableEntry.rollback_ok_iff.mp done
    exact ⟨n, shows.number?_eq_some_iff.mpr means, numbered.mp kept⟩
  · rintro ⟨n, means, kept⟩
    exact ⟨_, TableEntry.rollback_ok_iff.mpr
      ⟨n, shows.number?_eq_some_iff.mp means, numbered.mpr kept, rfl⟩⟩

omit orderly in
/-- What is read is what the last snapshot holds: the batches are under the fields already. -/
theorem readBy_eq (unpinned : schema.Unpinned)
    (latest : List.Forall₂ (Batch.PutUnder schema.fields) log.contents t.latestBatches)
    (k : Casting) : (t.view id).readBy k = .ok t.latestBatches := by
  refine (TableEntry.readBy_ok_iff (shows.made ▸ unpinned)).mpr (List.forall₂_same.mpr ?_)
  intro x inside
  obtain ⟨b, -, fields, -⟩ := related_of_mem latest.flip inside
  rw [shows.made]
  exact if_pos fields

end Shows

end CommitLog

/-- **A table is read as the log of its commits.**  A table that was made without settings
for which snapshot is read, and is never altered, is followed through any run of operations,
accepted or refused, and the accepted ones on it are written down in a log: a write adds its
batches, a compaction adds none, and a rollback cuts the log after the commit it means.
Then the table is read, through whatever casting, and what is read are the batches of the log
in order, each with the columns it was written with, under the fields of the schema.  And a rollback is accepted
just if the log has a commit that it means. -/
theorem read_commit_log {c₀ c₁ c : Catalog} {id₀ id : TableId} {schema : Schema}
    {ignoreIfExists : Bool} {log : CommitLog} (free : c₀.entry? id₀ = none)
    (made : c₀.createTable id₀ schema ignoreIfExists = .ok c₁) (unpinned : schema.Unpinned)
    (run : Recorded CommitLog.note (fun op _ _ id => ¬op.Alters id) .empty c₁ id₀ c id log) :
    ∃ v batches, c.getTable id = .ok v ∧ (∀ k, v.readBy k = .ok batches) ∧
      List.Forall₂ (Batch.PutUnder schema.fields) log.contents batches ∧
      ∀ version, (∃ c', c.rollbackTo id version = .ok c') ↔
        ∃ n, log.number? version = some n ∧ 1 ≤ n ∧ n ≤ log.commits.length := by
  let together (log : CommitLog) (t : TableEntry) := t.Orderly ∧ CommitLog.Shows schema log t
  have begun : together .empty (.new schema) :=
    ⟨TableEntry.orderly_new schema, CommitLog.shows_new schema⟩
  obtain ⟨t, found, orderly, shows⟩ := run.entry
    (fun unaltered _ step kept => ⟨kept.1.step step, kept.2.step kept.1 step unaltered⟩)
    (Catalog.entry?_createTable_of_free free made) begun
  have latest := shows.latest orderly
  refine ⟨t.view id, t.latestBatches, Catalog.getTable_ok_iff.mpr ⟨t, found, rfl⟩,
    shows.readBy_eq unpinned latest, latest, fun version => ?_⟩
  rw [← shows.rollback_iff orderly]
  constructor
  · rintro ⟨c', done⟩
    obtain ⟨t₀, t', there, rolled, -⟩ := Catalog.modifyEntry_ok_iff.mp done
    rw [found] at there
    cases there
    exact ⟨t', rolled⟩
  · rintro ⟨t', rolled⟩
    exact ⟨_, Catalog.modifyEntry_ok_iff.mpr ⟨t, t', found, rolled, rfl⟩⟩

/-- A batch of one weight. -/
def weighing (tons : Int) : Batch :=
  ⟨[⟨"weight", .int64, true, none⟩], [⟨.int64, [some (.integer tons)]⟩], 1, rfl,
    by simp [Column.length], by simp⟩

/-- A run with rollbacks by number and by tag, a compaction, and a rollback that is refused. -/
theorem read_commit_log_weighings :
    let here : TableId := ⟨"lake", "catch"⟩
    let c₀ := (CatalogOp.createDatabase "lake" false).after (.new "sea" ∅) 0
    let schema : Schema := ⟨0, [⟨"weight", .int64, true, none⟩], [], [], ∅, none⟩
    let run : List (CatalogOp × Int) :=
      [(.createTable here schema false, 1), (.write here [weighing 1], 2),
        (.createTag here "first" none, 3), (.write here [weighing 2, weighing 3], 4),
        (.compact here ⟨[], none, ∅⟩, 5), (.rollbackTo here (.snapshot 7), 6),
        (.rollbackTo here (.snapshot 2), 7), (.rollbackTo here (.tag "first"), 8),
        (.compact here ⟨[], none, ∅⟩, 9), (.write here [weighing 4], 10)]
    ∃ v batches, Catalog.getTable (CatalogOp.afterAll c₀ run) here = .ok v ∧
      v.read = .ok batches ∧
      List.Forall₂ (Batch.PutUnder schema.fields) [weighing 1, weighing 4] batches := by
  intro here c₀ schema run
  have recorded : ∃ log, log.contents = [weighing 1, weighing 4] ∧
      Recorded CommitLog.note (fun op _ _ id => ¬op.Alters id) .empty
        (CatalogOp.afterAll c₀ (run.take 1)) here (CatalogOp.afterAll c₀ run) here log := by
    refine ⟨_, ?_, .step (.step (.step (.step (.step (.step (.step (.step (.step .here
      _ 2 rfl id) _ 3 rfl id) _ 4 rfl id) _ 5 rfl id) _ 6 rfl id) _ 7 rfl id) _ 8 rfl id)
      _ 9 rfl id) _ 10 rfl id⟩
    decide +kernel
  obtain ⟨log, contents, recorded⟩ := recorded
  have made : c₀.createTable here schema false = .ok (CatalogOp.afterAll c₀ (run.take 1)) := rfl
  obtain ⟨v, batches, shown, read, put, -⟩ :=
    read_commit_log rfl made (fun _ _ => rfl) recorded
  rw [contents] at put
  exact ⟨v, batches, shown, read .plain, put⟩

end TableLake
