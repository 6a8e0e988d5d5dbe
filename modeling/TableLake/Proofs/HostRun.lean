/-
# TableLake.Proofs.HostRun — what hosts do to a catalog, catalogs do themselves

Each operation of a host leaves behind what one operation of the catalog leaves behind,
or nothing where its words mean none (`HostOp.left_run`); registering a table in memory
leaves what a few of them do (`LakeSchema.left_register`).  A host makes tables only with
schemas that `tableSchema` admits.  So what every such schema has and every step of a
table keeps, all tables have that hosts lead to (`Hosted.entry`).
-/
import TableLake.Proofs.Refusal

namespace TableLake

open TableLake.Outcome

set_option autoImplicit false

variable {ε α β : Type} {c : Catalog} {now : Int}

/-! ## What only looks -/

/-- The operation leaves every store as it is. -/
def InStore.Looks (act : InStore ε α) : Prop :=
  ∀ s : Store, (act.outcome s).2 = s

namespace InStore.Looks

theorem bind {act : InStore ε α} {next : α → InStore ε β} (first : act.Looks)
    (rest : ∀ a, (next a).Looks) : Looks (act >>= next) := by
  intro s
  have unchanged := first s
  rw [outcome_bind]
  rcases left : act.outcome s with ⟨e | a, s'⟩
  · rw [left] at unchanged
    exact unchanged
  · rw [left] at unchanged
    exact (rest a s').trans unchanged

theorem result (result : Except ε α) : Looks (ofExcept result : InStore ε α) := by
  intro s
  rw [outcome_ofExcept]

theorem enter (action : StoreAction) : (Store.enter action).Looks := by
  intro s
  unfold Store.enter
  rw [outcome_bind, outcome_get]
  simp only
  split <;> rfl

theorem ask (question : Catalog → Except CatalogError α) : (Store.ask question).Looks := by
  intro s
  rw [outcome_ask]

theorem getTable (id : TableId) : (Store.getTable id).Looks :=
  bind (enter _) fun _ => bind (ask _) fun _ => bind (fun _ => rfl) fun _ _ => rfl

theorem loadTable (r : TableRef) : (Namespace.loadTable r).Looks :=
  bind (result _) fun _ s => by
    unfold Namespace.ask
    rw [outcome_adapt]
    exact getTable _ s

end InStore.Looks

namespace Namespace

variable {r : TableRef} {shown : Table} {s : Store}

/-- A host's table is made by the catalog, with a schema that is admitted. -/
theorem of_createTable {fields : List Field} {partitionKeys : List String} {properties : Options}
    (done : (createTable r fields partitionKeys properties).outcome (.new c now) = (.ok shown, s)) :
    ∃ id schema c', tableId r = .ok id ∧ tableSchema fields partitionKeys properties = .ok schema ∧
      c.createTable id schema false = .ok c' ∧ s = .new c' now := by
  simp only [createTable, outcome_bind_ok_iff, outcome_ofExcept_ok_iff] at done
  obtain ⟨id, _, ⟨named, rfl⟩, schema, _, ⟨settled, rfl⟩, ⟨⟩, _, asked, loaded⟩ := done
  obtain ⟨c', made, rfl⟩ := made_of_ask asked
  have left := InStore.Looks.loadTable r (.new c' now)
  rw [loaded] at left
  exact ⟨id, schema, c', named, settled, made, left⟩

/-- A host's table is altered by the catalog, by what the changes mean. -/
theorem of_alterTable {changes : List TableChange}
    (done : (alterTable r changes).outcome (.new c now) = (.ok shown, s)) :
    ∃ id made c', tableId r = .ok id ∧ changes.mapM TableChange.toSchemaChange = .ok made ∧
      c.alterTable id made false = .ok c' ∧ s = .new c' now := by
  simp only [alterTable, outcome_bind_ok_iff, outcome_ofExcept_ok_iff] at done
  obtain ⟨id, _, ⟨named, rfl⟩, made, _, ⟨meant, rfl⟩, ⟨⟩, _, asked, loaded⟩ := done
  obtain ⟨c', altered, rfl⟩ := made_of_ask asked
  have left := InStore.Looks.loadTable r (.new c' now)
  rw [loaded] at left
  exact ⟨id, made, c', named, meant, altered, left⟩

end Namespace

/-! ## What is left behind -/

theorem left_bind_of_looks {act : InStore ε α} {next : α → InStore ε β}
    (rest : ∀ a, (next a).Looks) (s : Store) :
    (InStore.outcome (act >>= next) s).2 = (act.outcome s).2 := by
  rw [outcome_bind]
  rcases act.outcome s with ⟨e | a, s'⟩
  · rfl
  · exact rest a s'

theorem left_ofExcept_bind (result : Except ε α) (next : α → InStore ε β) (s : Store) :
    (InStore.outcome (ofExcept result >>= next) s).2 =
      match result with
      | .ok a => ((next a).outcome s).2
      | .error _ => s := by
  rw [outcome_bind, outcome_ofExcept]
  cases result <;> rfl

theorem CatalogOp.left_run (op : CatalogOp) (c : Catalog) (now : Int) :
    (op.run.outcome (.new c now)).2 = .new (op.after c now) now := by
  rw [after, outcome_run]
  cases op.apply c now <;> rfl

theorem left_tryCatch_of_looks {act : InStore ε α} {handle : ε → InStore ε α}
    (rest : ∀ e, (handle e).Looks) (s : Store) :
    (InStore.outcome (tryCatch act handle) s).2 = (act.outcome s).2 := by
  rw [outcome_tryCatch]
  rcases act.outcome s with ⟨e | a, s'⟩
  · exact rest e s'
  · rfl

/-- What the catalog is asked to do in other words, it does. -/
theorem left_adapt (op : CatalogOp) {words : CatalogError → ε} {act : InStore CatalogError Unit}
    (same : op.run = do act; return none) (c : Catalog) (now : Int) :
    (InStore.outcome (act.adapt words) (.new c now)).2 = .new (op.after c now) now := by
  have answered : (InStore.outcome (do act; return (none : Option Snapshot)) (.new c now)).2 =
      (act.outcome (.new c now)).2 := left_bind_of_looks (fun _ _ => rfl) _
  rw [outcome_adapt, ← op.left_run, same, answered]

/-! ## Operations of a host -/

namespace HostOp

/-- The operation of the catalog that the operation of a host amounts to; none if its
names or what it asks for mean none. -/
def amounts? : HostOp ε α → Option CatalogOp
  | .createNamespace space => do
      let name ← (Namespace.database space).toOption
      return .createDatabase name false
  | .dropNamespace space cascade => do
      let name ← (Namespace.database space).toOption
      return .dropDatabase name false cascade
  | .createTable r fields partitionKeys properties => do
      let id ← (Namespace.tableId r).toOption
      let schema ← (tableSchema fields partitionKeys properties).toOption
      return .createTable id schema false
  | .dropTable r => do
      let id ← (Namespace.tableId r).toOption
      return .dropTable id false
  | .renameTable source target => do
      let source ← (Namespace.tableId source).toOption
      let target ← (Namespace.tableId target).toOption
      return .renameTable source target false
  | .alterTable r changes => do
      let id ← (Namespace.tableId r).toOption
      let changes ← (changes.mapM TableChange.toSchemaChange).toOption
      return .alterTable id changes false
  | .registerSchema schema => some (.createDatabase schema true)
  | .deregisterSchema schema cascade => some (.dropDatabase schema true cascade)

/-- The fields of the table that the operation makes, if it makes one. -/
def fields? : HostOp ε α → Option (List Field)
  | .createTable _ fields _ _ => some fields
  | _ => none

/-- The catalog that the operation leaves behind, also when it is refused. -/
def after (op : HostOp ε α) (c : Catalog) (now : Int) : Catalog :=
  (op.run.outcome (.new c now)).2.catalog

/-- What is done under a name is done if there is the name, and else nothing. -/
theorem left_of_named {result : Except ε β} {next : β → InStore ε α}
    {amount : β → Option CatalogOp}
    (rest : ∀ b, ((next b).outcome (.new c now)).2 =
      .new ((amount b).elim c fun op => op.after c now) now) :
    (InStore.outcome (ofExcept result >>= next) (.new c now)).2 =
      .new ((result.toOption >>= amount).elim c fun op => op.after c now) now := by
  rw [left_ofExcept_bind]
  cases result with
  | error e => rfl
  | ok b => exact rest b

/-- For a database that is there it does not matter whether one that is missing is let pass. -/
theorem after_dropDatabase {name : String} (there : c.databaseExists name = true)
    (ignoreIfMissing cascade : Bool) :
    (CatalogOp.dropDatabase name ignoreIfMissing cascade).after c now =
      (CatalogOp.dropDatabase name false cascade).after c now := by
  obtain ⟨db, found⟩ := Option.isSome_iff_exists.mp there
  have same : c.dropDatabase name ignoreIfMissing cascade = c.dropDatabase name false cascade := by
    simp only [Catalog.dropDatabase, found]
  unfold CatalogOp.after
  rw [CatalogOp.outcome_run, CatalogOp.outcome_run]
  simp only [CatalogOp.apply, same]

/-- **A host does to a catalog what one operation of the catalog does, or nothing.** -/
theorem left_run (op : HostOp ε α) (c : Catalog) (now : Int) :
    (op.run.outcome (.new c now)).2 =
      .new (op.amounts?.elim c fun amount => amount.after c now) now := by
  cases op with
  | createNamespace space =>
      exact left_of_named fun name => left_adapt (.createDatabase name false) rfl c now
  | dropNamespace space cascade =>
      exact left_of_named fun name => left_adapt (.dropDatabase name false cascade) rfl c now
  | createTable r fields partitionKeys properties =>
      refine left_of_named fun id => left_of_named fun schema => ?_
      rw [left_bind_of_looks fun _ => .loadTable r]
      exact left_adapt (.createTable id schema false) rfl c now
  | dropTable r =>
      simp only [run, Namespace.dropTable, amounts?]
      cases Namespace.tableId r with
      | error e => rfl
      | ok id =>
          simp only
          rw [left_tryCatch_of_looks, left_bind_of_looks fun _ _ => rfl]
          · exact left_adapt (.dropTable id false) rfl c now
          · -- what the handler answers or passes on, it leaves the store alone
            intro e s
            split <;> rfl
  | renameTable source target =>
      exact left_of_named fun sourceId => left_of_named fun targetId =>
        left_adapt (.renameTable sourceId targetId false) rfl c now
  | alterTable r changes =>
      refine left_of_named fun id => left_of_named fun changes => ?_
      rw [left_bind_of_looks fun _ => .loadTable r]
      exact left_adapt (.alterTable id changes false) rfl c now
  | registerSchema schema => exact left_adapt (.createDatabase schema true) rfl c now
  | deregisterSchema schema cascade =>
      simp only [run, amounts?]
      rw [LakeSchema.outcome_deregisterSchema]
      cases there : c.databaseExists schema with
      | false =>
          have idle : (CatalogOp.dropDatabase schema true cascade).Idle c := ⟨rfl, there⟩
          show Store.new c now = .new (CatalogOp.after _ c now) now
          rw [CatalogOp.after, CatalogOp.outcome_of_idle idle]
          rfl
      | true =>
          show _ = Store.new (CatalogOp.after _ c now) now
          rw [after_dropDatabase there]
          exact @left_adapt _ (.dropDatabase schema false cascade) (Namespace.drop.words [schema]) _
            rfl c now

/-- A host makes tables only with the schema of the fields that it gives. -/
theorem of_made? {op : HostOp ε α} {amount : CatalogOp} {schema : Schema}
    (amounts : op.amounts? = some amount) (made : schema ∈ amount.made?) :
    ∃ fields partitionKeys properties, fields ∈ op.fields? ∧
      tableSchema fields partitionKeys properties = .ok schema := by
  cases op with
  | createTable r fields partitionKeys properties =>
      obtain ⟨id, -, rest⟩ := Option.bind_eq_some_iff.mp amounts
      obtain ⟨given, settled, ⟨⟩⟩ := Option.bind_eq_some_iff.mp rest
      cases made
      exact ⟨fields, partitionKeys, properties, rfl, toOption_eq_some_iff.mp settled⟩
  | createNamespace space =>
      obtain ⟨name, -, ⟨⟩⟩ := Option.bind_eq_some_iff.mp amounts
      cases made
  | dropNamespace space cascade =>
      obtain ⟨name, -, ⟨⟩⟩ := Option.bind_eq_some_iff.mp amounts
      cases made
  | dropTable r =>
      obtain ⟨id, -, ⟨⟩⟩ := Option.bind_eq_some_iff.mp amounts
      cases made
  | renameTable source target =>
      obtain ⟨sourceId, -, rest⟩ := Option.bind_eq_some_iff.mp amounts
      obtain ⟨targetId, -, ⟨⟩⟩ := Option.bind_eq_some_iff.mp rest
      cases made
  | alterTable r changes =>
      obtain ⟨id, -, rest⟩ := Option.bind_eq_some_iff.mp amounts
      obtain ⟨changes, -, ⟨⟩⟩ := Option.bind_eq_some_iff.mp rest
      cases made
  | registerSchema schema =>
      cases amounts
      cases made
  | deregisterSchema schema cascade =>
      cases amounts
      cases made

end HostOp

/-! ## Registering a table in memory -/

namespace LakeSchema

variable {schema name : String} {id : TableId}

theorem outcome_create (id : TableId) (made : Schema) (c : Catalog) (now : Int) :
    (∃ e, (create id made).outcome (.new c now) = (.error e, .new c now)) ∨
      ∃ c', c.createTable id made false = .ok c' ∧
        (create id made).outcome (.new c now) = (.ok (), .new c' now) := by
  unfold create Store.createTable
  rw [outcome_adapt, outcome_enter_update]
  cases c.createTable id made false with
  | error e => exact .inl ⟨_, rfl⟩
  | ok c' => exact .inr ⟨c', rfl, rfl⟩

/-- Before the table is made everything is asked that could stop it; what comes after starts from
the catalog with the table. -/
theorem outcome_make_bind (schema name : String) (t : HostTable) (rest : InStore EngineError Unit)
    (c : Catalog) (now : Int) :
    let act : InStore EngineError Unit := do
      unless t.inMemory do throw (.notOffered (.memoryTablesOnly schema))
      let made ← ofExcept ((tableSchema t.fields [] ∅).mapError .space)
      create ⟨schema, name⟩ made
      rest
    (∃ e, act.outcome (.new c now) = (.error e, .new c now)) ∨
      ∃ made c', tableSchema t.fields [] ∅ = .ok made ∧
        c.createTable ⟨schema, name⟩ made false = .ok c' ∧
        act.outcome (.new c now) = rest.outcome (.new c' now) := by
  intro act
  cases inMemory : t.inMemory with
  | false =>
      unfold act
      rw [inMemory]
      exact .inl ⟨_, rfl⟩
  | true =>
      cases settled : tableSchema t.fields [] ∅ with
      | error e =>
          unfold act
          rw [inMemory, settled]
          exact .inl ⟨_, rfl⟩
      | ok made =>
          have entered : act.outcome (.new c now) =
              InStore.outcome (do create ⟨schema, name⟩ made; rest) (.new c now) := by
            unfold act
            rw [inMemory, settled]
            rfl
          rw [entered, outcome_bind]
          rcases outcome_create ⟨schema, name⟩ made c now with ⟨e, left⟩ | ⟨c', done, left⟩
          · rw [left]
            exact .inl ⟨e, rfl⟩
          · rw [left]
            exact .inr ⟨made, c', rfl, done, rfl⟩

/-- Registering is refused before it does anything, or the table is made and its rows are
written, or else the table is taken back. -/
theorem outcome_register (schema name : String) (t : HostTable) (c : Catalog) (now : Int) :
    (∃ e, (register schema name t).outcome (.new c now) = (.error e, .new c now)) ∨
      ∃ made c', tableSchema t.fields [] ∅ = .ok made ∧
        c.createTable ⟨schema, name⟩ made false = .ok c' ∧
        (register schema name t).outcome (.new c now) =
          InStore.outcome (tryCatch (fill ⟨schema, name⟩ t.batches) (takeBack ⟨schema, name⟩))
            (.new c' now) :=
  outcome_make_bind schema name t _ c now

theorem after_createTable {made : Schema} {c' : Catalog}
    (done : c.createTable id made false = .ok c') (now : Int) :
    (CatalogOp.createTable id made false).after c now = c' := by
  rw [CatalogOp.after, CatalogOp.outcome_run]
  simp only [CatalogOp.apply, done]
  rfl

/-- Rows are written if there are some; where they are refused nothing happens. -/
theorem outcome_fill (id : TableId) (batches : List Batch) (c : Catalog) (now : Int) :
    (∃ e, (fill id batches).outcome (.new c now) = (.error e, .new c now)) ∨
      (fill id batches).outcome (.new c now) = (.ok (), .new c now) ∨
      (fill id batches).outcome (.new c now) =
        (.ok (), .new ((CatalogOp.write id batches).after c now) now) := by
  unfold fill
  split
  · have written : (CatalogOp.write id batches).run.outcome (.new c now) =
        (some <$> ((Store.write id batches).outcome (.new c now)).1,
          ((Store.write id batches).outcome (.new c now)).2) := outcome_map _ _ _
    rw [CatalogOp.after, written, outcome_bind]
    unfold ask
    rw [outcome_adapt]
    rcases wrote : (Store.write id batches).outcome (.new c now) with ⟨e | snapshot, s⟩
    · rw [wrote] at written
      have unchanged := (CatalogOp.write id batches).allOrNothing_run c now _ _ written
      exact .inl ⟨.catalog e, by rw [unchanged]; rfl⟩
    · have kept := (CatalogOp.write id batches).left_run c now
      rw [written, wrote] at kept
      exact .inr (.inr (by rw [kept]; rfl))
  · exact .inr (.inl rfl)

theorem outcome_takeBack (id : TableId) (refusal : EngineError) (c : Catalog) (now : Int) :
    ∃ e, (takeBack id refusal).outcome (.new c now) =
      (.error e, .new ((CatalogOp.dropTable id true).after c now) now) := by
  have dropped := @left_adapt _ (.dropTable id true) EngineError.catalog _ rfl c now
  unfold takeBack ask
  rw [outcome_bind]
  rcases left : InStore.outcome ((Store.dropTable id true).adapt EngineError.catalog) (.new c now)
    with ⟨e | done, s⟩
  · rw [left] at dropped
    exact ⟨e, by rw [← dropped]⟩
  · rw [left] at dropped
    exact ⟨refusal, by rw [← dropped]; rfl⟩

/-- **Registering a table does what a few operations of the catalog do**, and makes no
table but with the fields of the one that is registered. -/
theorem left_register (schema name : String) (t : HostTable) (c : Catalog) (now : Int) :
    ∃ ops : List CatalogOp,
      ((register schema name t).outcome (.new c now)).2 =
        .new (CatalogOp.afterAll c (ops.map fun op => (op, now))) now ∧
      ∀ op ∈ ops, ∀ made ∈ op.made?, tableSchema t.fields [] ∅ = .ok made := by
  let id : TableId := ⟨schema, name⟩
  rcases outcome_register schema name t c now with ⟨e, left⟩ | ⟨made, c', settled, done, left⟩
  · exact ⟨[], by rw [left]; rfl, by intro op none; cases none⟩
  · have first : (CatalogOp.createTable id made false).after c now = c' :=
      after_createTable done now
    have only (op : CatalogOp) (none : op.made? = none) :
        ∀ op' ∈ [CatalogOp.createTable id made false, op], ∀ other ∈ op'.made?,
          tableSchema t.fields [] ∅ = .ok other := by
      intro op' inside other there
      rcases List.mem_pair.mp inside with rfl | rfl
      · cases there
        exact settled
      · rw [none] at there
        cases there
    rw [left, outcome_tryCatch]
    rcases outcome_fill id t.batches c' now with ⟨e, filled⟩ | filled | filled
    · obtain ⟨e', taken⟩ := outcome_takeBack id e c' now
      refine ⟨[.createTable id made false, .dropTable id true], ?_, only _ rfl⟩
      rw [filled]
      simp only [List.map_cons, List.map_nil, CatalogOp.afterAll, first]
      exact congrArg Prod.snd taken
    · refine ⟨[.createTable id made false], ?_, ?_⟩
      · rw [filled]
        simp only [List.map_cons, List.map_nil, CatalogOp.afterAll, first]
      · intro op inside
        exact only (.dropTable id true) rfl op (by rw [List.mem_singleton.mp inside]; simp)
    · refine ⟨[.createTable id made false, .write id t.batches], ?_, only _ rfl⟩
      rw [filled]
      simp only [List.map_cons, List.map_nil, CatalogOp.afterAll, first]

/-- A table that was registered is there, with the schema of the one it was made of. -/
theorem entry?_register {t : HostTable} {s : Store}
    (done : (register schema name t).outcome (.new c now) = (.ok (), s)) :
    ∃ made entry, tableSchema t.fields [] ∅ = .ok made ∧
      s.catalog.entry? ⟨schema, name⟩ = some entry ∧ entry.schema = made := by
  rcases outcome_register schema name t c now with ⟨e, left⟩ | ⟨made, c', settled, made', left⟩
  · rw [left] at done
    cases done
  · have new : c'.entry? ⟨schema, name⟩ = some (.new made) :=
      Catalog.entry?_createTable made'
    rw [left, outcome_tryCatch] at done
    rcases outcome_fill ⟨schema, name⟩ t.batches c' now with ⟨e, filled⟩ | filled | filled
    · obtain ⟨e', taken⟩ := outcome_takeBack ⟨schema, name⟩ e c' now
      rw [filled] at done
      simp only [taken] at done
      cases done
    · rw [filled] at done
      cases done
      exact ⟨made, _, settled, new, rfl⟩
    · rw [filled] at done
      cases done
      have followed : (CatalogOp.write ⟨schema, name⟩ t.batches).follow c' now ⟨schema, name⟩ =
          some ⟨schema, name⟩ := rfl
      obtain ⟨entry, left, same | ⟨answer, step⟩⟩ := CatalogOp.entry?_follow new followed
      · exact ⟨made, entry, settled, left, by rw [same]; rfl⟩
      · cases step
        exact ⟨made, _, settled, left, rfl⟩

end LakeSchema

/-! ## Runs -/

theorem CatalogOp.entry_afterAll {property : TableEntry → Prop}
    (step : ∀ {id : TableId} {now : Int} {t t' : TableEntry} {op : CatalogOp}
      {answer : Option Snapshot}, property t → t.Step id now op t' answer → property t')
    (ops : List CatalogOp) (made : ∀ op ∈ ops, ∀ schema ∈ op.made?, property (.new schema)) :
    ∀ {c : Catalog}, (∀ {id : TableId} {t : TableEntry}, c.entry? id = some t → property t) →
      ∀ {id : TableId} {t : TableEntry},
        Catalog.entry? (CatalogOp.afterAll c (ops.map fun op => (op, now))) id = some t →
          property t := by
  induction ops with
  | nil => exact fun before _ _ found => before found
  | cons op rest ih =>
      intro c before id t found
      refine ih (fun op inside => made op (List.mem_cons_of_mem _ inside)) ?_ found
      exact fun there => op.entry_after step (made op List.mem_cons_self) before there

/-- The catalogs that hosts and those who work on the catalog itself lead to, in any
order, if the fields of every table that a host makes are admitted and nobody else makes
tables. -/
inductive Hosted (admits : List Field → Prop) : Catalog → Prop
  | new (warehouse : String) (options : Options) : Hosted admits (.new warehouse options)
  | host {ε α : Type} {c : Catalog} (before : Hosted admits c) (op : HostOp ε α) (now : Int)
      (admitted : ∀ fields ∈ op.fields?, admits fields) : Hosted admits (op.after c now)
  | register {c : Catalog} (before : Hosted admits c) (schema name : String) (t : HostTable)
      (now : Int) (admitted : admits t.fields) :
      Hosted admits ((LakeSchema.register schema name t).outcome (.new c now)).2.catalog
  | work {c : Catalog} (before : Hosted admits c) (op : CatalogOp) (now : Int)
      (other : op.made? = none) : Hosted admits (op.after c now)

namespace Hosted

variable {admits : List Field → Prop}

/-- What every table has that a host makes, and every step keeps, all tables have. -/
theorem entry {property : TableEntry → Prop}
    (new : ∀ {fields : List Field} {partitionKeys : List String} {properties : Options}
      {schema : Schema}, admits fields →
        tableSchema fields partitionKeys properties = .ok schema → property (.new schema))
    (step : ∀ {id : TableId} {now : Int} {t t' : TableEntry} {op : CatalogOp}
      {answer : Option Snapshot}, property t → t.Step id now op t' answer → property t')
    (hosted : Hosted admits c) :
    ∀ {id : TableId} {t : TableEntry}, c.entry? id = some t → property t := by
  induction hosted with
  | new warehouse options =>
      intro id t found
      cases found
  | @host ε α c before op now admitted earlier =>
      intro id t found
      rw [HostOp.after, op.left_run] at found
      cases amount : op.amounts? with
      | none =>
          rw [amount] at found
          exact earlier found
      | some catalogOp =>
          rw [amount] at found
          refine catalogOp.entry_after step (fun schema made => ?_) earlier found
          obtain ⟨fields, _, _, given, settled⟩ := HostOp.of_made? amount made
          exact new (admitted fields given) settled
  | @register c before schema name t now admitted earlier =>
      intro id t' found
      obtain ⟨ops, left, only⟩ := LakeSchema.left_register schema name t c now
      rw [left] at found
      exact CatalogOp.entry_afterAll step ops
        (fun op inside made there => new admitted (only op inside made there)) earlier found
  | work before op now other earlier =>
      intro id t found
      refine op.entry_after step (fun schema made => ?_) earlier found
      rw [other] at made
      cases made

end Hosted

end TableLake
