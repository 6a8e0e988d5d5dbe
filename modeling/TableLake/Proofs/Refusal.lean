/-
# TableLake.Proofs.Refusal — a refused operation changes nothing

An operation is all or nothing if the store it leaves behind a refusal is the one it was
given (`InStore.AllOrNothing`).  Every operation of a store without a gate is, and so is
every operation of a host: what it reads and translates beforehand touches nothing, and
what it looks up after the store has done its work is there
(`InStore.AllOrNothing.then_succeeds`).
-/
import TableLake.Mount.LakeSchema
import TableLake.Proofs.Lineage

namespace TableLake

open TableLake.Outcome

set_option autoImplicit false

variable {ε ε' α β : Type}

namespace InStore

/-- Where the operation refuses, the store is what it was. -/
def AllOrNothing (act : InStore ε α) : Prop :=
  ∀ (c : Catalog) (now : Int) (e : ε) (s : Store),
    act.outcome (.new c now) = (.error e, s) → s = .new c now

namespace AllOrNothing

theorem adapt {act : InStore ε α} (first : act.AllOrNothing) (words : ε → ε') :
    AllOrNothing (act.adapt words : InStore ε' α) := by
  intro c now e s refused
  rw [outcome_adapt] at refused
  rcases left : act.outcome (.new c now) with ⟨e' | a, s'⟩
  · rw [left] at refused
    cases refused
    exact first c now e' _ left
  · rw [left] at refused
    cases refused

theorem ofExcept_bind {result : Except ε α} {next : α → InStore ε β}
    (rest : ∀ a, result = .ok a → AllOrNothing (next a)) :
    AllOrNothing (ofExcept result >>= next : InStore ε β) := by
  intro c now e s refused
  rw [outcome_bind, outcome_ofExcept] at refused
  cases result with
  | error e' =>
      cases refused
      rfl
  | ok a => exact rest a rfl c now e s refused

/-- What comes after a success may do anything but refuse. -/
theorem then_succeeds {act : InStore ε α} {next : α → InStore ε β} (first : act.AllOrNothing)
    (succeeds : ∀ c now a s, act.outcome (.new c now) = (.ok a, s) →
      ∃ b s', (next a).outcome s = (.ok b, s')) :
    AllOrNothing (act >>= next : InStore ε β) := by
  intro c now e s refused
  rw [outcome_bind] at refused
  rcases left : act.outcome (.new c now) with ⟨e' | a, s'⟩
  · rw [left] at refused
    cases refused
    exact first c now e _ left
  · obtain ⟨b, s'', done⟩ := succeeds c now a s' left
    rw [left] at refused
    change (next a).outcome s' = (.error e, s) at refused
    rw [done] at refused
    cases refused

theorem update (action : StoreAction) (operation : Catalog → Except CatalogError Catalog) :
    AllOrNothing (do Store.enter action; Store.update operation) := by
  intro c now e s refused
  rw [outcome_enter_update] at refused
  cases made : operation c with
  | error e' =>
      rw [made] at refused
      cases refused
      rfl
  | ok c' =>
      rw [made] at refused
      cases refused

end AllOrNothing

end InStore

/-! ## The operations on a store -/

variable {c : Catalog} {now : Int} {op : CatalogOp}

/-- Where the store does what it is asked to, its catalog made another one. -/
theorem InStore.made_of_update {action : StoreAction}
    {operation : Catalog → Except CatalogError Catalog} {s : Store}
    (done : InStore.outcome (do Store.enter action; Store.update operation) (.new c now) =
      (.ok (), s)) : ∃ c', operation c = .ok c' ∧ s = .new c' now := by
  rw [outcome_enter_update] at done
  cases made : operation c with
  | error e =>
      rw [made] at done
      cases done
  | ok c' =>
      rw [made] at done
      cases done
      exact ⟨c', rfl, rfl⟩

theorem CatalogOp.allOrNothing_run (op : CatalogOp) : op.run.AllOrNothing := by
  intro c now e s refused
  rcases op.outcome_cases c now with ⟨e', left⟩ | ⟨c', answer, left, _⟩
  · rw [left] at refused
    cases refused
    rfl
  · rw [left] at refused
    cases refused

theorem Catalog.createDatabase_existing {name : String} (there : c.databaseExists name = true) :
    c.createDatabase name true = .ok c := by
  rw [createDatabase, if_pos there, if_pos rfl]

theorem CatalogOp.apply_of_idle (idle : op.Idle c) : op.apply c now = .ok (c, none) := by
  have unchanged {result : Except CatalogError Catalog} (same : result = .ok c) :
      (·, (none : Option Snapshot)) <$> result = .ok (c, none) := by
    rw [same]
    rfl
  cases op with
  | createDatabase name ignoreIfExists =>
      obtain ⟨rfl, there⟩ := idle
      exact unchanged (Catalog.createDatabase_existing there)
  | dropDatabase name ignoreIfMissing cascade =>
      obtain ⟨rfl, missing⟩ := idle
      refine unchanged ?_
      rw [Catalog.dropDatabase, Catalog.databaseExists_eq_false_iff.mp missing]
      rfl
  | createTable id schema ignoreIfExists =>
      obtain ⟨rfl, there⟩ := idle
      obtain ⟨t, found⟩ := Option.isSome_iff_exists.mp there
      obtain ⟨db, inside, here⟩ := Catalog.exists_database_of_entry? found
      refine unchanged ?_
      unfold Catalog.createTable Catalog.database
      simp [inside, OrderedMap.contains, here, bind, Except.bind, pure, Except.pure]
  | dropTable id ignoreIfMissing =>
      obtain ⟨rfl, missing⟩ := idle
      refine unchanged ?_
      rw [Catalog.dropTable, missing]
      rfl
  | renameTable source target ignoreIfMissing =>
      obtain ⟨rfl, missing⟩ := idle
      refine unchanged ?_
      rw [Catalog.renameTable, Catalog.tableExists_eq_false_iff.mp missing]
      rfl
  | alterTable id changes ignoreIfMissing =>
      obtain ⟨rfl, missing⟩ := idle
      refine unchanged ?_
      rw [Catalog.alterTable, missing]
      rfl
  | write id batches => exact idle.elim
  | compact id request => exact idle.elim
  | rollbackTo id version => exact idle.elim
  | createTag id tag snapshot => exact idle.elim

/-- Where there is nothing to do and that is fine, nothing is done. -/
theorem CatalogOp.outcome_of_idle (idle : op.Idle c) :
    op.run.outcome (.new c now) = (.ok none, .new c now) := by
  rw [CatalogOp.outcome_run, apply_of_idle idle]
  rfl

namespace Namespace

open InStore

theorem allOrNothing_create (space : Namespace) : AllOrNothing (create space) :=
  .ofExcept_bind fun name _ =>
    (AllOrNothing.update .createDatabase (·.createDatabase name false)).adapt (create.words space)

theorem allOrNothing_drop (space : Namespace) (cascade : Bool) :
    AllOrNothing (drop space cascade) :=
  .ofExcept_bind fun name _ =>
    (AllOrNothing.update .dropDatabase (·.dropDatabase name false cascade)).adapt (drop.words space)

theorem allOrNothing_renameTable (source target : TableRef) :
    AllOrNothing (renameTable source target) :=
  .ofExcept_bind fun sourceId _ => .ofExcept_bind fun targetId _ =>
    (AllOrNothing.update .renameTable (·.renameTable sourceId targetId false)).adapt
      (renameTable.words source target)

/-- A table that is there is handed out. -/
theorem outcome_loadTable {r : TableRef} {id : TableId} {t : TableEntry}
    (named : tableId r = .ok id) (found : c.entry? id = some t) :
    (loadTable r).outcome (.new c now) = (.ok (t.view id), .new c now) := by
  have given : c.getTable id = .ok (t.view id) := Catalog.getTable_ok_iff.mpr ⟨t, found, rfl⟩
  unfold loadTable ask Store.getTable
  rw [outcome_bind, outcome_ofExcept, named]
  show InStore.outcome (ExceptT.adapt _ _) _ = _
  rw [outcome_adapt, outcome_enter_bind, outcome_bind, outcome_ask, Store.catalog_new, given]
  rfl

theorem made_of_ask {words : CatalogError → NamespaceError} {action : StoreAction}
    {operation : Catalog → Except CatalogError Catalog} {s : Store}
    (done : InStore.outcome (ask words (do Store.enter action; Store.update operation))
      (.new c now) = (.ok (), s)) : ∃ c', operation c = .ok c' ∧ s = .new c' now :=
  made_of_update (outcome_adapt_ok_iff.mp done)

theorem allOrNothing_createTable (r : TableRef) (fields : List Field)
    (partitionKeys : List String) (properties : Options) :
    AllOrNothing (createTable r fields partitionKeys properties) := by
  refine .ofExcept_bind fun id named => .ofExcept_bind fun schema _ => ?_
  refine .then_succeeds ((AllOrNothing.update _ _).adapt _) ?_
  intro c now a s done
  obtain ⟨c', made, rfl⟩ := made_of_ask done
  exact ⟨_, _, outcome_loadTable named (Catalog.entry?_createTable made)⟩

theorem allOrNothing_alterTable (r : TableRef) (changes : List TableChange) :
    AllOrNothing (alterTable r changes) := by
  refine .ofExcept_bind fun id named => .ofExcept_bind fun changes _ => ?_
  refine .then_succeeds ((AllOrNothing.update _ _).adapt _) ?_
  intro c now a s done
  obtain ⟨c', made, rfl⟩ := made_of_ask done
  rcases Catalog.entry?_alterTable made with ⟨⟨⟩, -, -⟩ | ⟨t, schema, -, -, left⟩
  exact ⟨_, _, outcome_loadTable named left⟩

/-- Dropping a table never fails: it is dropped, or the answer says that there was none
and nothing happened. -/
theorem outcome_dropTable (r : TableRef) (c : Catalog) (now : Int) :
    (∃ id c', tableId r = .ok id ∧ c.dropTable id false = .ok c' ∧
        (dropTable r).outcome (.new c now) = (.ok true, .new c' now)) ∨
      (dropTable r).outcome (.new c now) = (.ok false, .new c now) := by
  unfold dropTable
  cases named : tableId r with
  | error e => exact .inr rfl
  | ok id =>
      simp only
      rw [outcome_tryCatch, outcome_bind]
      unfold ask Store.dropTable
      rw [outcome_adapt, outcome_enter_update]
      cases made : c.dropTable id false with
      | ok c' => exact .inl ⟨id, c', rfl, made, rfl⟩
      | error e =>
          -- the only refusal there is says that the table is not there
          have missing : e = .noTable id := by
            unfold Catalog.dropTable at made
            split at made
            · cases made
            · cases made
              rfl
          subst missing
          exact .inr rfl

theorem outcome_dropTable_missing {r : TableRef}
    (missing : ∀ id, tableId r = .ok id → c.tableExists id = false) :
    (dropTable r).outcome (.new c now) = (.ok false, .new c now) := by
  rcases outcome_dropTable r c now with ⟨id, c', named, dropped, _⟩ | unchanged
  · rw [Catalog.dropTable, missing id named] at dropped
    cases dropped
  · exact unchanged

theorem allOrNothing_dropTable (r : TableRef) : AllOrNothing (dropTable r) := by
  intro c now e s refused
  rcases outcome_dropTable r c now with ⟨_, _, _, _, dropped⟩ | unchanged
  · rw [dropped] at refused
    cases refused
  · rw [unchanged] at refused
    cases refused

end Namespace

namespace LakeSchema

open InStore

theorem allOrNothing_registerSchema (schema : String) : AllOrNothing (registerSchema schema) :=
  (AllOrNothing.update .createDatabase (·.createDatabase schema true)).adapt EngineError.catalog

/-- A schema is looked for before it is dropped. -/
theorem outcome_deregisterSchema (schema : String) (cascade : Bool) (c : Catalog) (now : Int) :
    (deregisterSchema schema cascade).outcome (.new c now) =
      if c.databaseExists schema then
        InStore.outcome ((Namespace.drop [schema] cascade).adapt EngineError.space) (.new c now)
      else (.ok (), .new c now) := by
  unfold deregisterSchema
  rw [outcome_bind]
  show InStore.outcome (if c.databaseExists schema then _ else _) _ = _
  split <;> rfl

theorem allOrNothing_deregisterSchema (schema : String) (cascade : Bool) :
    AllOrNothing (deregisterSchema schema cascade) := by
  intro c now e s refused
  rw [outcome_deregisterSchema] at refused
  split at refused
  · exact (Namespace.allOrNothing_drop [schema] cascade).adapt .space c now e s refused
  · cases refused

end LakeSchema

/-- The operations of a host that change a store, by their refusals and answers. -/
inductive HostOp : Type → Type → Type where
  | createNamespace (space : Namespace) : HostOp NamespaceError Unit
  | dropNamespace (space : Namespace) (cascade : Bool) : HostOp NamespaceError Unit
  | createTable (r : TableRef) (fields : List Field) (partitionKeys : List String)
      (properties : Options) : HostOp NamespaceError Table
  | dropTable (r : TableRef) : HostOp NamespaceError Bool
  | renameTable (source target : TableRef) : HostOp NamespaceError Unit
  | alterTable (r : TableRef) (changes : List TableChange) : HostOp NamespaceError Table
  | registerSchema (schema : String) : HostOp EngineError Unit
  | deregisterSchema (schema : String) (cascade : Bool) : HostOp EngineError Unit

namespace HostOp

def run : HostOp ε α → InStore ε α
  | .createNamespace space => Namespace.create space
  | .dropNamespace space cascade => Namespace.drop space cascade
  | .createTable r fields partitionKeys properties =>
      Namespace.createTable r fields partitionKeys properties
  | .dropTable r => Namespace.dropTable r
  | .renameTable source target => Namespace.renameTable source target
  | .alterTable r changes => Namespace.alterTable r changes
  | .registerSchema schema => LakeSchema.registerSchema schema
  | .deregisterSchema schema cascade => LakeSchema.deregisterSchema schema cascade

/-- There is no table to drop, or a schema to make is there, or one to drop is not. -/
def Idle (c : Catalog) : HostOp ε α → Prop
  | .dropTable r => ∀ id, Namespace.tableId r = .ok id → c.tableExists id = false
  | .registerSchema schema => c.databaseExists schema = true
  | .deregisterSchema schema _ => c.databaseExists schema = false
  | _ => False

theorem allOrNothing_run (op : HostOp ε α) : op.run.AllOrNothing := by
  cases op with
  | createNamespace space => exact Namespace.allOrNothing_create space
  | dropNamespace space cascade => exact Namespace.allOrNothing_drop space cascade
  | createTable r fields partitionKeys properties =>
      exact Namespace.allOrNothing_createTable r fields partitionKeys properties
  | dropTable r => exact Namespace.allOrNothing_dropTable r
  | renameTable source target => exact Namespace.allOrNothing_renameTable source target
  | alterTable r changes => exact Namespace.allOrNothing_alterTable r changes
  | registerSchema schema => exact LakeSchema.allOrNothing_registerSchema schema
  | deregisterSchema schema cascade => exact LakeSchema.allOrNothing_deregisterSchema schema cascade

theorem outcome_of_idle {op : HostOp ε α} (idle : op.Idle c) :
    ∃ answer, op.run.outcome (.new c now) = (.ok answer, .new c now) := by
  cases op with
  | dropTable r => exact ⟨false, Namespace.outcome_dropTable_missing idle⟩
  | registerSchema schema =>
      refine ⟨(), ?_⟩
      unfold run LakeSchema.registerSchema LakeSchema.ask Store.createDatabase
      rw [outcome_adapt, outcome_enter_update, Catalog.createDatabase_existing idle]
      rfl
  | deregisterSchema schema cascade =>
      have absent : c.databaseExists schema = false := idle
      refine ⟨(), ?_⟩
      unfold run
      rw [LakeSchema.outcome_deregisterSchema, absent]
      rfl
  | createNamespace space => exact idle.elim
  | dropNamespace space cascade => exact idle.elim
  | createTable r fields partitionKeys properties => exact idle.elim
  | renameTable source target => exact idle.elim
  | alterTable r changes => exact idle.elim

end HostOp

/-! ## All of them -/

end TableLake
