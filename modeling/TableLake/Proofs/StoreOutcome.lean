/-
# TableLake.Proofs.StoreOutcome — what an operation on a store gives and leaves behind

`InStore.outcome` runs an operation on a store.  Of a chain of operations the second
starts from the store that the first one left, and only if the first gave a result
(`outcome_bind`).  A store without a gate lets every operation through, so replacing
its catalog and making a commit do what the catalog says, and a refusal of the catalog
leaves the store as it was.
-/
import TableLake.Store
import TableLake.Proofs.Outcome

namespace TableLake

open TableLake.Outcome

set_option autoImplicit false

variable {ε ε' α β : Type}

/-- The result of an operation and the store it leaves behind. -/
def InStore.outcome (act : InStore ε α) (s : Store) : Except ε α × Store := act.run s

/-! ## Chains -/

theorem outcome_get (s : Store) :
    InStore.outcome (get : InStore ε Store) s = (.ok s, s) := rfl

theorem outcome_ofExcept (result : Except ε α) (s : Store) :
    InStore.outcome (ofExcept result : InStore ε α) s = (result, s) := by
  cases result <;> rfl

theorem outcome_bind (act : InStore ε α) (next : α → InStore ε β) (s : Store) :
    InStore.outcome (act >>= next) s =
      match act.outcome s with
      | (.ok a, s') => (next a).outcome s'
      | (.error e, s') => (.error e, s') := by
  have chained : InStore.outcome (act >>= next) s =
      ExceptT.bindCont next (act.outcome s).1 (act.outcome s).2 := rfl
  rw [chained]
  rcases act.outcome s with ⟨e | a, s'⟩ <;> rfl

theorem outcome_map (f : α → β) (act : InStore ε α) (s : Store) :
    InStore.outcome (f <$> act) s = (f <$> (act.outcome s).1, (act.outcome s).2) := by
  rw [map_eq_pure_bind, outcome_bind]
  rcases act.outcome s with ⟨e | a, s'⟩ <;> rfl

theorem outcome_adapt (act : InStore ε α) (words : ε → ε') (s : Store) :
    InStore.outcome (act.adapt words) s = ((act.outcome s).1.mapError words, (act.outcome s).2) :=
  rfl

theorem outcome_tryCatch (act : InStore ε α) (handle : ε → InStore ε α) (s : Store) :
    InStore.outcome (tryCatch act handle) s =
      match act.outcome s with
      | (.ok a, s') => (.ok a, s')
      | (.error e, s') => (handle e).outcome s' := by
  have unfolded : InStore.outcome (tryCatch act handle) s =
      (match (act.outcome s).1 with
        | .ok a => (pure (Except.ok a) : StateM Store (Except ε α))
        | .error e => handle e) (act.outcome s).2 := rfl
  rw [unfolded]
  rcases act.outcome s with ⟨e | a, s'⟩ <;> rfl

/-! ## Chains that give a result -/

theorem outcome_bind_ok_iff {act : InStore ε α} {next : α → InStore ε β} {b : β} {s s' : Store} :
    InStore.outcome (act >>= next) s = (.ok b, s') ↔
      ∃ a between, act.outcome s = (.ok a, between) ∧ (next a).outcome between = (.ok b, s') := by
  rw [outcome_bind]
  rcases act.outcome s with ⟨e | a, between⟩
  · simp
  · constructor
    · exact fun done => ⟨a, between, rfl, done⟩
    · rintro ⟨_, _, ⟨⟩, done⟩
      exact done

theorem outcome_ofExcept_ok_iff {result : Except ε α} {a : α} {s s' : Store} :
    InStore.outcome (ofExcept result : InStore ε α) s = (.ok a, s') ↔ result = .ok a ∧ s = s' := by
  rw [outcome_ofExcept, Prod.mk.injEq]

theorem outcome_adapt_ok_iff {act : InStore ε α} {words : ε → ε'} {a : α} {s s' : Store} :
    InStore.outcome (act.adapt words) s = (.ok a, s') ↔ act.outcome s = (.ok a, s') := by
  rw [outcome_adapt, Prod.mk.injEq, mapError_eq_ok_iff, ← Prod.mk.injEq]

/-! ## A store -/

theorem outcome_ask (question : Catalog → Except CatalogError α) (s : Store) :
    (Store.ask question).outcome s = (question s.catalog, s) := by
  unfold Store.ask
  rw [outcome_bind, outcome_get]
  exact outcome_ofExcept (question s.catalog) s

theorem outcome_update (operation : Catalog → Except CatalogError Catalog) (s : Store) :
    (Store.update operation).outcome s =
      match operation s.catalog with
      | .ok c => (.ok (), { s with catalog := c })
      | .error e => (.error e, s) := by
  unfold Store.update
  rw [outcome_bind, outcome_ask]
  cases operation s.catalog <;> rfl

theorem outcome_commit (operation : Catalog → Int → Except CatalogError (Catalog × α))
    (s : Store) :
    (Store.commit operation).outcome s =
      match operation s.catalog s.now with
      | .ok (c, a) => (.ok a, { s with catalog := c })
      | .error e => (.error e, s) := by
  unfold Store.commit
  rw [outcome_bind, outcome_get]
  simp only
  rw [outcome_bind, outcome_ask]
  cases operation s.catalog s.now <;> rfl

/-- A gate refuses an operation before it begins, or lets it through. -/
theorem outcome_gate_bind (action : StoreAction) (next : Unit → InStore CatalogError α)
    (s : Store) :
    InStore.outcome (Store.enter action >>= next) s =
      if s.refuses action then (.error (.unsupported action.name), s)
      else (next ()).outcome s := by
  have entered : (Store.enter action).outcome s =
      if s.refuses action then (.error (.unsupported action.name), s) else (.ok (), s) := by
    unfold Store.enter
    rw [outcome_bind, outcome_get]
    simp only
    split <;> rfl
  rw [outcome_bind, entered]
  cases s.refuses action <;> rfl

/-! ## A store without a gate -/

theorem Store.catalog_new (c : Catalog) (now : Int) : (Store.new c now).catalog = c := rfl

theorem outcome_enter_bind (action : StoreAction) (next : Unit → InStore CatalogError α)
    (c : Catalog) (now : Int) :
    InStore.outcome (Store.enter action >>= next) (.new c now) =
      (next ()).outcome (.new c now) := by
  rw [outcome_bind]
  rfl

theorem outcome_enter_update (action : StoreAction)
    (operation : Catalog → Except CatalogError Catalog) (c : Catalog) (now : Int) :
    InStore.outcome (do Store.enter action; Store.update operation) (.new c now) =
      match operation c with
      | .ok c' => (.ok (), .new c' now)
      | .error e => (.error e, .new c now) := by
  rw [outcome_enter_bind, outcome_update, Store.catalog_new]
  rfl

end TableLake
