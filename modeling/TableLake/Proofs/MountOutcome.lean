/-
# TableLake.Proofs.MountOutcome — what an operation on what is mounted gives and leaves behind

Work on the store leaves the host alone, and work on the host leaves the store alone
(`outcome_onLake`, `outcome_changeHost`).  Of a chain of the two the second starts from what
the first one left, and what the first has done stands also when the second is refused: there
is nothing in `InMount` that takes it back.  Asking either side changes neither.
-/
import TableLake.Mount
import TableLake.Proofs.Refusal

namespace TableLake

set_option autoImplicit false

variable {α β : Type}

/-- The result of an operation and what is mounted after it. -/
def InMount.outcome (act : InMount α) (m : Mounted) : Except EngineError α × Mounted := act.run m

namespace InMount

/-! ## Chains -/

theorem outcome_bind (act : InMount α) (next : α → InMount β) (m : Mounted) :
    InMount.outcome (act >>= next) m =
      match act.outcome m with
      | (.ok a, m') => (next a).outcome m'
      | (.error e, m') => (.error e, m') := by
  have chained : InMount.outcome (act >>= next) m =
      ExceptT.bindCont next (act.outcome m).1 (act.outcome m).2 := rfl
  rw [chained]
  rcases act.outcome m with ⟨e | a, m'⟩ <;> rfl

/-- Of a chain that begins with a question only the rest counts. -/
theorem outcome_bind_of_answer {act : InMount α} {a : α} {m : Mounted}
    (answered : act.outcome m = (.ok a, m)) (next : α → InMount β) :
    InMount.outcome (act >>= next) m = (next a).outcome m := by
  rw [outcome_bind, answered]

theorem outcome_map_of_answer {act : InMount α} {a : α} {m : Mounted}
    (answered : act.outcome m = (.ok a, m)) (f : α → β) :
    InMount.outcome (return f (← act)) m = (.ok (f a), m) := by
  rw [outcome_bind_of_answer answered]
  rfl

/-! ## One side -/

theorem outcome_onLake (absent : α) (operation : InStore EngineError α) (s : Store)
    (host : Option HostCatalog) :
    (Mounted.onLake absent operation).outcome ⟨some s, host⟩ =
      ((operation.outcome s).1, ⟨some (operation.outcome s).2, host⟩) := by
  have inside : (Mounted.onLake absent operation).outcome ⟨some s, host⟩ =
      InMount.outcome (ofExcept (operation.outcome s).1)
        ⟨some (operation.outcome s).2, host⟩ := rfl
  rw [inside]
  cases (operation.outcome s).1 <;> rfl

theorem outcome_onHost (absent : α) (question : HostCatalog → α) (lake : Option Store)
    (h : HostCatalog) :
    (Mounted.onHost absent question).outcome ⟨lake, some h⟩ = (.ok (question h), ⟨lake, some h⟩) :=
  rfl

theorem outcome_changeHost (change : HostCatalog → Except EngineError HostCatalog)
    (lake : Option Store) (h : HostCatalog) :
    (Mounted.changeHost change).outcome ⟨lake, some h⟩ =
      match change h with
      | .ok h' => (.ok (), ⟨lake, some h'⟩)
      | .error e => (.error e, ⟨lake, some h⟩) := by
  have inside : (Mounted.changeHost change).outcome ⟨lake, some h⟩ =
      InMount.outcome (ofExcept (change h) >>= fun h' =>
        modify fun m => { m with host := some h' }) ⟨lake, some h⟩ := rfl
  rw [inside, outcome_bind]
  cases change h <;> rfl

end InMount

namespace Mounted

/-! ## Schemas -/

/-- Whether the store has a schema. -/
def lakeHasSchema (m : Mounted) (schema : String) : Bool :=
  m.lake.any fun s => s.catalog.databaseExists schema

/-- Whether the host has a schema. -/
def hostHasSchema (m : Mounted) (schema : String) : Bool :=
  m.host.any fun h => h.contains schema

theorem outcome_side? (schema : String) (m : Mounted) :
    (side? schema).outcome m =
      (.ok (match m.lakeHasSchema schema, m.hostHasSchema schema with
        | true, true => some .both
        | true, false => some .lake
        | false, true => some .host
        | false, false => none), m) := by
  rcases m with ⟨_ | s, _ | h⟩ <;> rfl

theorem outcome_hasSchema (schema : String) (m : Mounted) :
    (hasSchema schema).outcome m = (.ok (m.lakeHasSchema schema || m.hostHasSchema schema), m) := by
  unfold hasSchema
  rw [InMount.outcome_map_of_answer (outcome_side? schema m)]
  cases m.lakeHasSchema schema <;> cases m.hostHasSchema schema <;> rfl

/-- A catalog without a gate next to the catalog of a host. -/
def combined (c : Catalog) (now : Int) (h : HostCatalog) : Mounted := ⟨some (.new c now), some h⟩

/-- A question that the store answers is answered, and neither side has changed. -/
theorem answer_onLake {absent a : α} {operation : InStore EngineError α} {c : Catalog} {now : Int}
    {h : HostCatalog} (answered : operation.outcome (.new c now) = (.ok a, .new c now)) :
    (onLake absent operation).outcome (combined c now h) = (.ok a, combined c now h) := by
  rw [combined, InMount.outcome_onLake, answered]

end Mounted

end TableLake
