/-
# TableLake.Proofs.ProcedureEffect — what a procedure does, and what it says that it did

A procedure first reads its arguments and then asks the catalog once.  So it is refused
before anything has changed, or it has done what `Procedure.Does` says and answers with one
message (`Procedure.effects_call`).  Nothing is changed but the one table (`Does.sameBut`).

The messages can be relied upon (`Does.faithful`).  A compaction reports no snapshot just if
the catalog is what it was, and a number just if the table's new last snapshot has it
(`answer_of_compact`).  A rollback leaves last the snapshot that the version showed before
(`latest_of_rollback`).
-/
import TableLake.Procedure
import TableLake.Proofs.RollbackTravel
import TableLake.Proofs.Decimal

namespace TableLake

open TableLake.Text TableLake.Outcome

set_option autoImplicit false

/-! ## What is left alone -/

/-- The store has the clock of the other, and has no gate if the other has none. -/
structure Store.Alike (s s' : Store) : Prop where
  now : s'.now = s.now
  ungated : s.gate = none → s'.gate = none

theorem Store.Alike.refl (s : Store) : s.Alike s := ⟨rfl, id⟩

/-- Without gates, stores with one catalog are one store. -/
theorem Store.Alike.eq {s s' : Store} (alike : s.Alike s') (ungated : s.gate = none)
    (same : s'.catalog = s.catalog) : s' = s := by
  obtain ⟨c, now, gate⟩ := s
  obtain ⟨c', now', gate'⟩ := s'
  cases same
  cases alike.now
  cases ungated
  cases alike.ungated rfl
  rfl

theorem Store.alike_logged (s : Store) (request : CompactRequest) (c : Catalog) :
    s.Alike { s.logged request with catalog := c } where
  now := rfl
  ungated := fun none_there => by simp [Store.logged, none_there]

/-- Refused, the operation leaves the catalog of the store as it was; else what it answers goes
with the catalog that it leaves. -/
def InStore.Effects {ε α : Type} (act : InStore ε α) (s : Store) (done : α → Catalog → Prop) :
    Prop :=
  ∃ s', s.Alike s' ∧
    ((∃ e, act.outcome s = (.error e, s') ∧ s'.catalog = s.catalog) ∨
      ∃ a, act.outcome s = (.ok a, s') ∧ done a s'.catalog)

namespace InStore.Effects

variable {ε ε' α β : Type} {s : Store}

theorem adapt {act : InStore ε α} {done : α → Catalog → Prop} (words : ε → ε')
    (effects : act.Effects s done) : Effects (act.adapt words : InStore ε' α) s done := by
  obtain ⟨s', alike, ⟨e, refused, kept⟩ | ⟨a, answered, left⟩⟩ := effects
  · exact ⟨s', alike, .inl ⟨words e, by rw [outcome_adapt, refused]; rfl, kept⟩⟩
  · exact ⟨s', alike, .inr ⟨a, by rw [outcome_adapt, answered]; rfl, left⟩⟩

/-- What is read beforehand touches nothing. -/
theorem ofExcept_bind {result : Except ε α} {next : α → InStore ε β} {done : β → Catalog → Prop}
    (rest : ∀ a, result = .ok a → (next a).Effects s done) :
    Effects (ofExcept result >>= next) s done := by
  cases result with
  | error e => exact ⟨s, .refl s, .inl ⟨e, rfl, rfl⟩⟩
  | ok a => exact rest a rfl

/-- What is said afterwards touches nothing and cannot go wrong. -/
theorem tell {act : InStore ε α} {done : α → Catalog → Prop} {say : α → β}
    {told : β → Catalog → Prop} (effects : act.Effects s done)
    (holds : ∀ a c, done a c → told (say a) c) :
    Effects (do let a ← act; return say a) s told := by
  obtain ⟨s', alike, ⟨e, refused, kept⟩ | ⟨a, answered, left⟩⟩ := effects
  · exact ⟨s', alike, .inl ⟨e, by rw [outcome_bind, refused], kept⟩⟩
  · exact ⟨s', alike, .inr ⟨say a, by rw [outcome_bind, answered]; rfl, holds a s'.catalog left⟩⟩

theorem compact (id : TableId) (request : CompactRequest) (s : Store) :
    (Store.compact id request).Effects s fun answer c' =>
      s.catalog.compact id request s.now = .ok (c', answer) := by
  have logged : (Store.compact id request).outcome s =
      InStore.outcome (do Store.enter .compact; Store.commit fun c now => c.compact id request now)
        (s.logged request) := rfl
  unfold Effects
  rw [logged, outcome_gate_bind, outcome_commit]
  have catalog : (s.logged request).catalog = s.catalog := rfl
  have reading : (s.logged request).now = s.now := rfl
  rw [catalog, reading]
  split
  · exact ⟨_, s.alike_logged request s.catalog, .inl ⟨_, rfl, rfl⟩⟩
  · cases done : s.catalog.compact id request s.now with
    | error e => exact ⟨_, s.alike_logged request s.catalog, .inl ⟨e, rfl, rfl⟩⟩
    | ok made => exact ⟨_, s.alike_logged request made.1, .inr ⟨made.2, rfl, rfl⟩⟩

theorem rollbackTo (id : TableId) (version : Version) (s : Store) :
    (Store.rollbackTo id version).Effects s fun _ c' =>
      s.catalog.rollbackTo id version = .ok c' := by
  unfold Effects Store.rollbackTo
  rw [outcome_gate_bind, outcome_update]
  split
  · exact ⟨s, .refl s, .inl ⟨_, rfl, rfl⟩⟩
  · cases done : s.catalog.rollbackTo id version with
    | error e => exact ⟨s, .refl s, .inl ⟨e, rfl, rfl⟩⟩
    | ok c' => exact ⟨{ s with catalog := c' }, ⟨rfl, fun same => same⟩, .inr ⟨(), rfl, rfl⟩⟩

end InStore.Effects

/-- The catalog holds what the other does, but for one table. -/
structure Catalog.SameBut (id : TableId) (c c' : Catalog) : Prop where
  warehouse : c'.warehouse = c.warehouse
  options : c'.options = c.options
  databases : c'.listDatabases = c.listDatabases
  tables : ∀ database, c'.listTables database = c.listTables database
  others : ∀ other, other ≠ id → c'.entry? other = c.entry? other

/-- Another entry for a table that is there changes nothing else. -/
theorem Catalog.sameBut_setEntry {c : Catalog} {id : TableId} {t : TableEntry}
    (found : c.entry? id = some t) (t' : TableEntry) : c.SameBut id (c.setEntry id t') := by
  obtain ⟨db, inside, here⟩ := Catalog.exists_database_of_entry? found
  have known : id.object ∈ db.keys := by
    rw [← OrderedMap.contains_iff_mem_keys, OrderedMap.contains, here]
    rfl
  have home : id.database ∈ c.databases.keys := by
    rw [← OrderedMap.contains_iff_mem_keys, OrderedMap.contains, inside]
    rfl
  have replaced : c.setEntry id t' = c.setDatabase id.database (db.insert id.object t') := by
    simp only [Catalog.setEntry, inside]
  refine ⟨by rw [replaced]; rfl, by rw [replaced]; rfl, ?_, fun database => ?_, ?_⟩
  · rw [replaced, Catalog.listDatabases, Catalog.setDatabase, OrderedMap.keys_insert, if_pos home]
    rfl
  · rw [replaced, Catalog.listTables, Catalog.listTables, Catalog.database, Catalog.database,
      Catalog.setDatabase, OrderedMap.get?_insert]
    by_cases same : id.database = database
    · subst same
      rw [if_pos rfl, inside]
      show Except.ok (db.insert id.object t').keys = Except.ok db.keys
      rw [OrderedMap.keys_insert, if_pos known]
    · rw [if_neg same]
  · intro other different
    rw [Catalog.entry?_setEntry inside, if_neg different.symm]

/-! ## What is done -/

/-- The request that the arguments of a compaction make. -/
def BoundArguments.compactRequest (args : BoundArguments) :
    Except ProcedureError CompactRequest := do
  readCompactRequest (← args.textOrEmpty "partitions") (← args.textOrEmpty "order_strategy")
    (← args.textOrEmpty "order_by") (← args.textOrEmpty "options")

/-- The table that the arguments of a call name. -/
def BoundArguments.tableId (args : BoundArguments) : Except ProcedureError TableId := do
  fromCatalog (TableId.read (← args.requiredText "table"))

/-- The version that the arguments of a rollback name. -/
def BoundArguments.version (args : BoundArguments) : Except ProcedureError Version := do
  fromCatalog (Version.read (trim (← args.requiredText "version")))

/-- What a compaction reports. -/
def CompactRequest.report (request : CompactRequest) : Option Snapshot → String
  | some s => request.jobName ++ ": snapshot " ++ decimal s.id
  | none => request.jobName ++ ": nothing to compact"

/-- What a call does to a catalog, and its message: one operation on the table that the
arguments name. -/
inductive Procedure.Does (args : BoundArguments) (c : Catalog) (now : Int) :
    Procedure → TableId → Catalog → String → Prop
  | compact {id : TableId} {request : CompactRequest} {c' : Catalog} {answer : Option Snapshot}
      (named : args.tableId = .ok id) (asked : args.compactRequest = .ok request)
      (done : c.compact id request now = .ok (c', answer)) :
      Does args c now .compact id c' (request.report answer)
  | rollbackTo {id : TableId} {version : Version} {c' : Catalog}
      (named : args.tableId = .ok id) (wanted : args.version = .ok version)
      (done : c.rollbackTo id version = .ok c') :
      Does args c now .rollbackTo id c' ("Rolled back " ++ id.text ++ " to " ++ version.text)

namespace Procedure

variable {args : BoundArguments} {c c' : Catalog} {now : Int} {id : TableId} {message : String}

/-- The arguments of a compaction are read, then the store is asked once, and then nothing can
go wrong any more. -/
theorem callCompact_eq (args : BoundArguments) : callCompact args = (do
    let id ← ofExcept args.tableId
    let request ← ofExcept args.compactRequest
    let answer ← inCatalog (Store.compact id request)
    return [request.report answer]) := by
  refine bind_congr fun id => bind_congr fun request => bind_congr fun answer => ?_
  cases answer <;> rfl

theorem callRollback_eq (args : BoundArguments) : callRollback args = (do
    let id ← ofExcept args.tableId
    let version ← ofExcept args.version
    inCatalog (Store.rollbackTo id version)
    return ["Rolled back " ++ id.text ++ " to " ++ version.text]) := rfl

/-- **A call is refused, with the catalog as it was, or it does one thing and says so.** -/
theorem effects_call (p : Procedure) (args : BoundArguments) (s : Store) :
    (p.call args).Effects s fun messages c' =>
      ∃ id message, messages = [message] ∧ p.Does args s.catalog s.now id c' message := by
  cases p with
  | compact =>
      show (callCompact args).Effects s _
      rw [callCompact_eq]
      refine .ofExcept_bind fun id named => .ofExcept_bind fun request asked => ?_
      have effects := (InStore.Effects.compact id request s).adapt ProcedureError.catalog
      refine effects.tell fun answer c' done => ?_
      exact ⟨id, _, rfl, .compact named asked done⟩
  | rollbackTo =>
      show (callRollback args).Effects s _
      rw [callRollback_eq]
      refine .ofExcept_bind fun id named => .ofExcept_bind fun version wanted => ?_
      have effects := (InStore.Effects.rollbackTo id version s).adapt ProcedureError.catalog
      refine effects.tell fun _ c' done => ?_
      exact ⟨id, _, rfl, .rollbackTo named wanted done⟩

end Procedure

/-! ## What is said -/

namespace CompactRequest

variable {request : CompactRequest} {answer : Option Snapshot} {n : Nat}

/-- Nobody takes a number for the lack of one. -/
theorem snapshot_ne_nothing (request : CompactRequest) (n : Nat) :
    request.jobName ++ ": snapshot " ++ decimal n ≠ request.jobName ++ ": nothing to compact" := by
  intro same
  rw [String.append_assoc, String.append_right_inj] at same
  have third := congrArg (fun w => w.toList[2]?) same
  simp [String.toList_append] at third

theorem report_eq_nothing_iff :
    request.report answer = request.jobName ++ ": nothing to compact" ↔ answer = none := by
  cases answer with
  | none => exact iff_of_true rfl rfl
  | some s => exact iff_of_false (request.snapshot_ne_nothing s.id) (by rintro ⟨⟩)

theorem report_eq_snapshot_iff :
    request.report answer = request.jobName ++ ": snapshot " ++ decimal n ↔
      ∃ s, answer = some s ∧ s.id = n := by
  cases answer with
  | none => exact iff_of_false (request.snapshot_ne_nothing n).symm (by rintro ⟨s, ⟨⟩, -⟩)
  | some s =>
      constructor
      · intro same
        exact ⟨s, rfl, decimal_inj ((String.append_right_inj _).mp same)⟩
      · rintro ⟨_, ⟨⟩, rfl⟩
        rfl

end CompactRequest

namespace Procedure

variable {p : Procedure} {args : BoundArguments} {c c' : Catalog} {now : Int} {id : TableId}
variable {t : TableEntry} {message : String}

/-- The table that a call is about is there, before and after, under the same schema. -/
theorem Does.exists_entry (does : p.Does args c now id c' message) :
    ∃ t t', c.entry? id = some t ∧ c'.entry? id = some t' ∧ t'.schema = t.schema ∧
      c' = c.setEntry id t' := by
  cases does with
  | compact _ _ done =>
      obtain ⟨t, t', found, compacted, rfl⟩ := Catalog.compact_ok_iff.mp done
      refine ⟨t, t', found, Catalog.entry?_setEntry_of_found found t', ?_, rfl⟩
      obtain ⟨-, ⟨-, rfl, -⟩ | ⟨-, rfl, -⟩⟩ := TableEntry.compact_ok_iff.mp compacted <;> rfl
  | rollbackTo _ _ done =>
      obtain ⟨t, t', found, rolled, rfl⟩ := Catalog.modifyEntry_ok_iff.mp done
      refine ⟨t, t', found, Catalog.entry?_setEntry_of_found found t', ?_, rfl⟩
      obtain ⟨n, -, -, rfl⟩ := TableEntry.rollback_ok_iff.mp rolled
      rfl

theorem Does.sameBut (does : p.Does args c now id c' message) : c.SameBut id c' := by
  obtain ⟨t, t', found, -, -, rfl⟩ := does.exists_entry
  exact Catalog.sameBut_setEntry found t'

/-- **A compaction answers with the new last snapshot, or has changed nothing.** -/
theorem answer_of_compact {request : CompactRequest} {answer : Option Snapshot}
    (found : c.entry? id = some t) (done : c.compact id request now = .ok (c', answer)) :
    (answer = none ↔ c' = c) ∧
      ∀ s, answer = some s → ∃ t', c'.entry? id = some t' ∧ t'.snapshots = t.snapshots ++ [s] := by
  obtain ⟨t₀, t', found', compacted, rfl⟩ := Catalog.compact_ok_iff.mp done
  rw [found] at found'
  cases found'
  obtain ⟨-, ⟨-, rfl, rfl⟩ | ⟨-, rfl, rfl⟩⟩ := TableEntry.compact_ok_iff.mp compacted
  · exact ⟨iff_of_true rfl (Catalog.setEntry_self found), by rintro s ⟨⟩⟩
  · refine ⟨iff_of_false (by rintro ⟨⟩) fun same => ?_, ?_⟩
    · have there := Catalog.entry?_setEntry_of_found found
        (t.commit (t.nextSnapshot .compact now t.latestBatches))
      rw [same, found] at there
      have longer := congrArg List.length (congrArg TableEntry.snapshots (Option.some.inj there))
      simp [TableEntry.commit] at longer
    · rintro s ⟨⟩
      exact ⟨_, Catalog.entry?_setEntry_of_found found _, rfl⟩

/-- **A rollback leaves last what the version showed.** -/
theorem latest_of_rollback {version : Version} (orderly : t.Orderly)
    (found : c.entry? id = some t) (done : c.rollbackTo id version = .ok c') :
    ∃ s t', (t.view id).atVersion version = .ok s ∧ c'.entry? id = some t' ∧
      t'.snapshots.getLast? = some s := by
  rw [Catalog.rollbackTo, Catalog.modifyEntry_eq found, orderly.rollback_eq] at done
  obtain ⟨t', rolled, rfl⟩ := map_eq_ok_iff.mp done
  obtain ⟨s, shows, rfl⟩ := map_eq_ok_iff.mp rolled
  exact ⟨s, _, shows, Catalog.entry?_setEntry_of_found found _,
    orderly.latest_upTo (Table.mem_of_atVersion shows)⟩

/-- What the message of a call says of the table is so: `t` is the table before, `t'` the table
afterwards. -/
def Faithful (args : BoundArguments) (id : TableId) (c c' : Catalog) (t t' : TableEntry)
    (message : String) : Procedure → Prop
  | .compact => ∃ request, args.compactRequest = .ok request ∧
      (message = request.jobName ++ ": nothing to compact" ↔ c' = c) ∧
      ∀ n, message = request.jobName ++ ": snapshot " ++ decimal n ↔
        ∃ s, t'.snapshots = t.snapshots ++ [s] ∧ s.id = n
  | .rollbackTo => ∃ version s, args.version = .ok version ∧
      (t.view id).atVersion version = .ok s ∧ t'.snapshots.getLast? = some s

theorem Does.faithful {t' : TableEntry} (does : p.Does args c now id c' message)
    (orderly : t.Orderly) (found : c.entry? id = some t) (left : c'.entry? id = some t') :
    p.Faithful args id c c' t t' message := by
  cases does with
  | @compact _ request _ answer _ asked done =>
      obtain ⟨idle, added⟩ := answer_of_compact found done
      refine ⟨request, asked, CompactRequest.report_eq_nothing_iff.trans idle, fun n => ?_⟩
      refine CompactRequest.report_eq_snapshot_iff.trans (exists_congr fun s => ?_)
      refine and_congr_left fun _ => ⟨fun answered => ?_, fun grown => ?_⟩
      · obtain ⟨t₁, left', grown⟩ := added s answered
        rw [left] at left'
        cases left'
        exact grown
      · cases answer with
        | none =>
            -- nothing was added, so there is no more of the table than there was
            rw [idle.mp rfl, found] at left
            cases left
            simp at grown
        | some s' =>
            obtain ⟨t₁, left', grown'⟩ := added s' rfl
            rw [left] at left'
            cases left'
            rw [grown] at grown'
            simpa using grown'.symm
  | rollbackTo _ wanted done =>
      obtain ⟨s, t₁, shows, left', last⟩ := latest_of_rollback orderly found done
      rw [left] at left'
      cases left'
      exact ⟨_, s, wanted, shows, last⟩

end Procedure

end TableLake
