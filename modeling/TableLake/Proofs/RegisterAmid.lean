/-
# TableLake.Proofs.RegisterAmid — registering a table while others work on the catalog

Registering a table takes up to three operations of the catalog: the table is made, its rows are
written, and where they are refused the table is dropped.  Each of them is done at once, but
others may do theirs in between.  `registerAmid` leaves room for them; with nothing in between it
is `register` (`registerAmid_nil`).

The table is taken back by its name.  So a refusal leaves everything that others did, but for
what has the name by then (`refused_register_spares_others`): if others stayed away from the
name, that is the empty table that was made.  If they did not, it may be a table of theirs with
rows of theirs, and it is dropped all the same (`catch_of_others_dropped`).
-/
import TableLake.Proofs.HostRun
import TableLake.Proofs.Isolation
import TableLake.Proofs.SchemaKeys

namespace TableLake

open TableLake.Outcome

set_option autoImplicit false

variable {c : Catalog} {now : Int} {id : TableId}

/-! ## Others at work -/

namespace CatalogOp

theorem afterAll_append (c : Catalog) (first second : List (CatalogOp × Int)) :
    afterAll c (first ++ second) = afterAll (afterAll c first) second := by
  induction first generalizing c with
  | nil => rfl
  | cons step rest ih => exact ih _

/-- A table that none of the operations concerns is what it was. -/
theorem entry?_afterAll_of_spared : ∀ {work : List (CatalogOp × Int)} {c : Catalog},
    (∀ step ∈ work, ¬step.1.Concerns id) → Catalog.entry? (afterAll c work) id = c.entry? id
  | [], _, _ => rfl
  | (op, now) :: rest, c, spared => by
      have later := entry?_afterAll_of_spared (c := op.after c now)
        fun step inside => spared step (List.mem_cons_of_mem _ inside)
      rw [afterAll, later]
      rcases op.after_cases c now with ⟨_, same⟩ | ⟨_, _, effect⟩
      · rw [same]
      · exact effect.entry?_of_spared (spared _ List.mem_cons_self)

end CatalogOp

namespace LakeSchema

/-- Others do their operations, each at its own reading of the clock. -/
def others (work : List (CatalogOp × Int)) : InStore EngineError Unit :=
  modify fun s => { s with catalog := CatalogOp.afterAll s.catalog work }

/-- Make a table with the fields and the rows of a table in memory, while others work on the
catalog after the table is made and after its rows are refused. -/
def registerAmid (schema name : String) (t : HostTable) (first second : List (CatalogOp × Int)) :
    InStore EngineError Unit := do
  unless t.inMemory do throw (.notOffered (.memoryTablesOnly schema))
  let made ← ofExcept ((tableSchema t.fields [] ∅).mapError .space)
  create ⟨schema, name⟩ made
  others first
  tryCatch (fill ⟨schema, name⟩ t.batches) fun refusal => do
    others second
    takeBack ⟨schema, name⟩ refusal

theorem registerAmid_nil (schema name : String) (t : HostTable) :
    registerAmid schema name t [] [] = register schema name t := rfl

variable {schema name : String} {t : HostTable} {first second : List (CatalogOp × Int)}

theorem outcome_others (work : List (CatalogOp × Int)) (c : Catalog) (now : Int) :
    (others work).outcome (.new c now) = (.ok (), .new (CatalogOp.afterAll c work) now) := rfl

/-- Registering is refused before it does anything, or the table is made, others do their work
and its rows are written, or else the table is taken back after more work of others. -/
theorem outcome_registerAmid (schema name : String) (t : HostTable)
    (first second : List (CatalogOp × Int)) (c : Catalog) (now : Int) :
    (∃ e, (registerAmid schema name t first second).outcome (.new c now) = (.error e, .new c now)) ∨
      ∃ made c', tableSchema t.fields [] ∅ = .ok made ∧
        c.createTable ⟨schema, name⟩ made false = .ok c' ∧
        (registerAmid schema name t first second).outcome (.new c now) =
          InStore.outcome (tryCatch (fill ⟨schema, name⟩ t.batches) fun refusal => do
            others second
            takeBack ⟨schema, name⟩ refusal) (.new (CatalogOp.afterAll c' first) now) := by
  let rest : InStore EngineError Unit := do
    others first
    tryCatch (fill ⟨schema, name⟩ t.batches) fun refusal => do
      others second
      takeBack ⟨schema, name⟩ refusal
  exact outcome_make_bind schema name t rest c now

/-- What is left behind: nothing new, or the table, or the table with its rows, or the work of
others without what has the name. -/
theorem registerAmid_cases (schema name : String) (t : HostTable)
    (first second : List (CatalogOp × Int)) (c : Catalog) (now : Int) :
    let id : TableId := ⟨schema, name⟩
    let outcome := (registerAmid schema name t first second).outcome (.new c now)
    (∃ e, outcome = (.error e, .new c now)) ∨
      ∃ made c' met, tableSchema t.fields [] ∅ = .ok made ∧ c.createTable id made false = .ok c' ∧
        CatalogOp.afterAll c' first = met ∧
        ((∃ refusal e, (fill id t.batches).outcome (.new met now) = (.error refusal, .new met now) ∧
            outcome = (.error e, .new ((CatalogOp.afterAll met second).eraseEntry id) now)) ∨
          outcome = (.ok (), .new met now) ∨
          outcome = (.ok (), .new ((CatalogOp.write id t.batches).after met now) now)) := by
  intro id outcome
  rcases outcome_registerAmid schema name t first second c now with
    untouched | ⟨made, c', settled, created, left⟩
  · exact .inl untouched
  · refine .inr ⟨made, c', _, settled, created, rfl, ?_⟩
    rw [show outcome = _ from left, outcome_tryCatch]
    rcases outcome_fill id t.batches (CatalogOp.afterAll c' first) now with
      ⟨refusal, filled⟩ | filled | filled
    · obtain ⟨e, taken⟩ := outcome_takeBack id refusal
        (CatalogOp.afterAll (CatalogOp.afterAll c' first) second) now
      rw [CatalogOp.after_dropTable] at taken
      refine .inl ⟨refusal, e, filled, ?_⟩
      rw [filled]
      simp only [outcome_bind, outcome_others]
      exact taken
    · rw [filled]
      exact .inr (.inl rfl)
    · rw [filled]
      exact .inr (.inr rfl)

/-- With nothing in between: the table is taken back as it was made. -/
theorem register_cases (schema name : String) (t : HostTable) (c : Catalog) (now : Int) :
    let id : TableId := ⟨schema, name⟩
    let outcome := (register schema name t).outcome (.new c now)
    (∃ e, outcome = (.error e, .new c now)) ∨
      ∃ made c', tableSchema t.fields [] ∅ = .ok made ∧ c.createTable id made false = .ok c' ∧
        ((∃ e, outcome = (.error e, .new (c'.eraseEntry id) now)) ∨ outcome = (.ok (), .new c' now) ∨
          outcome = (.ok (), .new ((CatalogOp.write id t.batches).after c' now) now)) := by
  intro id outcome
  rcases registerAmid_cases schema name t [] [] c now with
    untouched | ⟨made, c', met, settled, created, rfl, left⟩
  · exact .inl untouched
  · exact .inr ⟨made, c', settled, created, left.imp_left fun ⟨_, e, _, taken⟩ => ⟨e, taken⟩⟩

/-! ## Rows that fit -/

theorem fields_of_plainSchema {fields : List Field} {made : Schema}
    (settled : tableSchema fields [] ∅ = .ok made) : made.fields = fields := by
  unfold tableSchema at settled
  obtain ⟨-, rfl⟩ := Schema.build_ok_iff.mp (mapError_eq_ok_iff.mp settled)
  exact List.map_id fields

/-- Rows that fit the fields of a table are written to it. -/
theorem fill_of_fits {batches : List Batch} {entry : TableEntry}
    (found : c.entry? id = some entry)
    (fits : ∀ b ∈ batches, ∃ y, Batch.make entry.schema.fields b.columns = .ok y) (now : Int) :
    ∃ s, (fill id batches).outcome (.new c now) = (.ok (), s) := by
  obtain ⟨written, all⟩ : ∃ written, (batches.mapM fun b =>
      (Batch.make entry.schema.fields b.columns).mapError CatalogError.data) = .ok written :=
    exists_mapM_eq_ok fun b inside =>
      (fits b inside).imp fun _ made => mapError_eq_ok_iff.mpr made
  let s := entry.nextSnapshot .append now (entry.latestBatches ++ written)
  have accepted : c.write id batches now = .ok (c.setEntry id (entry.commit s), s) := by
    simp only [Catalog.write, bind_eq_ok_iff, pure_eq_ok_iff]
    exact ⟨entry, Catalog.entry_ok_iff.mpr found, _,
      TableEntry.write_ok_iff.mpr ⟨written, all, rfl, rfl⟩, rfl⟩
  have reading : (Store.new c now).now = now := rfl
  unfold fill ask Store.write
  split
  · rw [outcome_bind, outcome_adapt, outcome_enter_bind, outcome_commit, Store.catalog_new, reading,
      accepted]
    exact ⟨_, rfl⟩
  · exact ⟨_, rfl⟩

/-- The rows of the table fit its fields. -/
def Fits (t : HostTable) : Prop :=
  ∀ b ∈ t.batches, ∃ y, Batch.make t.fields b.columns = .ok y

/-- Rows that fit are refused only after others have touched the name. -/
theorem exists_concerned {made : Schema} {c' : Catalog} {refusal : EngineError} {s : Store}
    (settled : tableSchema t.fields [] ∅ = .ok made)
    (created : c.createTable id made false = .ok c') (fits : Fits t)
    (refused : (fill id t.batches).outcome (.new (CatalogOp.afterAll c' first) now) =
      (.error refusal, s)) : ∃ step ∈ first, step.1.Concerns id := by
  refine Classical.byContradiction fun spared => ?_
  have there : Catalog.entry? (CatalogOp.afterAll c' first) id = some (.new made) := by
    rw [CatalogOp.entry?_afterAll_of_spared fun step inside concerned =>
      spared ⟨step, inside, concerned⟩, Catalog.entry?_createTable created]
  obtain ⟨s', filled⟩ := fill_of_fits there
    (fun b inside => (fields_of_plainSchema settled).symm ▸ fits b inside) now
  rw [refused] at filled
  cases filled

/-- **A refused registration takes back what has its name, and nothing else.**  It has done
nothing at all, or it has made the table; then the catalog is left as others made it from there,
without what has the name by then.  So every other table is there with all its rows.  If nobody
else touched the name, the table that is taken back is the empty one that was made; but then it
is not taken back if its rows fit. -/
theorem refused_register_spares_others {e : EngineError} {s : Store}
    (refused : (registerAmid schema name t first second).outcome (.new c now) = (.error e, s)) :
    let id : TableId := ⟨schema, name⟩
    s = .new c now ∨
      ∃ made c' others, tableSchema t.fields [] ∅ = .ok made ∧
        c.createTable id made false = .ok c' ∧ CatalogOp.afterAll c' (first ++ second) = others ∧
        s = .new (others.eraseEntry id) now ∧
        (∀ other ≠ id, s.catalog.entry? other = others.entry? other) ∧
        ((∀ step ∈ first ++ second, ¬step.1.Concerns id) → others.entry? id = some (.new made)) ∧
        (Fits t → ∃ step ∈ first, step.1.Concerns id) := by
  intro id
  rcases registerAmid_cases schema name t first second c now with
    ⟨e', left⟩ | ⟨made, c', _, settled, created, rfl, ⟨refusal, e', filled, left⟩ | left | left⟩
  · cases left.symm.trans refused
    exact .inl rfl
  · cases left.symm.trans refused
    rw [← CatalogOp.afterAll_append]
    refine .inr ⟨made, c', _, settled, created, rfl, rfl, ?_, ?_, ?_⟩
    · intro other differs
      rw [Store.catalog_new, Catalog.entry?_eraseEntry, if_neg differs.symm]
    · intro spared
      rw [CatalogOp.entry?_afterAll_of_spared spared, Catalog.entry?_createTable created]
    · exact fun fits => exists_concerned settled created fits filled
  · cases left.symm.trans refused
  · cases left.symm.trans refused

/-! ## Others at the name -/

/-- A table with one weight, to be registered. -/
def oneWeight : HostTable :=
  let weight : Field := ⟨"weight", .int64, true, none⟩
  ⟨[weight], [⟨[weight], [⟨.int64, [some (.integer 12)]⟩], 1, rfl, by decide, by decide⟩], true⟩

/-- Others make a table of their own under a name and write a row into it; what has the name
goes. -/
def landed (id : TableId) : List (CatalogOp × Int) :=
  let boat : Field := ⟨"boat", .utf8, true, none⟩
  let weight : Field := ⟨"weight", .int64, true, none⟩
  let row : Batch := ⟨[boat, weight],
    [⟨.utf8, [some (.text "Anna")]⟩, ⟨.int64, [some (.integer 9)]⟩], 1, rfl, by decide, by decide⟩
  [(.dropTable id true, 11), (.createTable id ⟨0, [boat, weight], [], [], ∅, none⟩ false, 12),
    (.write id [row], 13)]

/-- The lake without tables. -/
def emptyLake : Catalog := CatalogOp.afterAll (.new "sea" ∅) [(.createDatabase "lake" false, 0)]

/-- Others add a column, so the weight is refused; their row of the nets is there. -/
theorem refused_register_spares_others_nets :
    let here : TableId := ⟨"lake", "catch"⟩
    let nets : TableId := ⟨"lake", "nets"⟩
    let first := landed nets ++
      [(.alterTable here [.addColumn ⟨"boat", .utf8, true, none⟩ none] false, 14)]
    ∃ s made c', (registerAmid "lake" "catch" oneWeight first []).outcome (.new emptyLake 10) =
        (.error (.catalog (.data (.columnCount 1 2))), s) ∧
      emptyLake.createTable here made false = .ok c' ∧
      s = .new ((CatalogOp.afterAll c' first).eraseEntry here) 10 ∧
      (s.catalog.entry? nets).map (fun t => t.snapshots.map Snapshot.records) = some [1] := by
  intro here nets first
  let outcome := (registerAmid "lake" "catch" oneWeight first []).outcome (.new emptyLake 10)
  have refused : outcome.1 = .error (.catalog (.data (.columnCount 1 2))) := by decide +kernel
  have rows : (outcome.2.catalog.entry? nets).map (fun t => t.snapshots.map Snapshot.records) =
      some [1] := by decide +kernel
  have whole : outcome = (.error (.catalog (.data (.columnCount 1 2))), outcome.2) := by
    rw [← refused]
  rcases refused_register_spares_others whole with
    untouched | ⟨made, c', others, -, done, worked, left, -⟩
  · rw [untouched] at rows
    exact absurd rows (by decide +kernel)
  · rw [List.append_nil] at worked
    exact ⟨outcome.2, made, c', whole, done, worked ▸ left, rows⟩

/-- **The table of others is dropped with their row.**  It has the name that was to be
registered, since they dropped the empty table before. -/
theorem catch_of_others_dropped :
    let here : TableId := ⟨"lake", "catch"⟩
    let made := CatalogOp.createTable here ⟨0, oneWeight.fields, [], [], ∅, none⟩ false
    let before := CatalogOp.afterAll (made.after emptyLake 10) (landed here)
    let left := (registerAmid "lake" "catch" oneWeight (landed here) []).outcome (.new emptyLake 10)
    (before.entry? here).map (fun t => (t.schema.fieldNames, t.snapshots.map Snapshot.records)) =
        some (["boat", "weight"], [1]) ∧
      left.1 = .error (.catalog (.data (.columnCount 1 2))) ∧
      left.2.catalog.entry? here = none := by
  decide +kernel

end LakeSchema

end TableLake
