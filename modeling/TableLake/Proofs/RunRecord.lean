/-
# TableLake.Proofs.RunRecord — what is written down about a table along a run

An operation is about one table or about none (`CatalogOp.target?`).  Accepted, it takes
its table a step further (`CatalogOp.step_of_answer`); every other table, and its own if
it is refused, it leaves as it was (`CatalogOp.entry?_of_not_settles`).  So whoever writes
down the accepted operations on a table, and nothing else, knows all that happened to it:
what each step keeps between the record and the table, holds between them at the end of
the run (`Recorded.entry`).

`Recorded` is `Follows` with such a record.  What is written down for an operation depends
on the operation alone and on what is written already; it cannot look at the catalog.
-/
import TableLake.Proofs.Lineage

namespace TableLake

set_option autoImplicit false

variable {c c' : Catalog} {now : Int} {op : CatalogOp} {answer : Option Snapshot}
variable {id id' : TableId} {t t' : TableEntry}

/-! ## Operations on one table -/

namespace CatalogOp

/-- The table that is changed, where the operation changes one that is there. -/
def target? : CatalogOp → Option TableId
  | .alterTable id _ _ | .write id _ | .compact id _ | .rollbackTo id _ | .createTag id _ _ =>
      some id
  | _ => none

/-- The operation is about the table with a name, and accepted. -/
def settles (op : CatalogOp) (c : Catalog) (now : Int) (id : TableId) : Bool :=
  op.target? = some id && (op.answer c now).isOk

theorem target?_of_step (step : t.Step id now op t' answer) : op.target? = some id := by
  cases step <;> rfl

/-- An operation that finds nothing to do is not about a table that is there. -/
theorem target?_of_idle (idle : op.Idle c) (found : c.entry? id = some t) :
    op.target? ≠ some id := by
  intro target
  cases op with
  | alterTable altered changes ignoreIfMissing =>
      cases target
      have missing : c.tableExists id = false := idle.2
      rw [Catalog.tableExists, found] at missing
      cases missing
  | write => exact idle
  | compact => exact idle
  | rollbackTo => exact idle
  | createTag => exact idle
  | _ => cases target

/-- An accepted operation takes its table a step further. -/
theorem step_of_answer (found : c.entry? id = some t) (target : op.target? = some id)
    (answered : op.answer c now = .ok answer) :
    ∃ t', Catalog.entry? (op.after c now) id = some t' ∧ t.Step id now op t' answer := by
  rcases op.outcome_cases c now with ⟨e, left⟩ | ⟨c', answer', left, effect⟩
  · rw [CatalogOp.answer, left] at answered
    cases answered
  · rw [CatalogOp.answer, left] at answered
    cases answered
    rw [after, left]
    cases effect with
    | idle idle => exact absurd target (target?_of_idle idle found)
    | @step _ changed t₀ t' answer there step =>
        have same := target?_of_step step
        rw [target] at same
        cases same
        rw [found] at there
        cases there
        obtain ⟨db, inside, -⟩ := Catalog.exists_database_of_entry? found
        exact ⟨t', Catalog.entry?_setEntry_self inside t', step⟩
    | _ => cases target

theorem answered_of_settles (settled : op.settles c now id = true) :
    op.target? = some id ∧ ∃ answer, op.answer c now = .ok answer := by
  rw [settles, Bool.and_eq_true, decide_eq_true_eq] at settled
  obtain ⟨target, accepted⟩ := settled
  cases answered : op.answer c now with
  | error e =>
      rw [answered] at accepted
      cases accepted
  | ok answer => exact ⟨target, answer, rfl⟩

theorem step_of_settles (found : c.entry? id = some t) (settled : op.settles c now id = true) :
    ∃ t' answer, Catalog.entry? (op.after c now) id = some t' ∧ t.Step id now op t' answer := by
  obtain ⟨target, answer, answered⟩ := answered_of_settles settled
  obtain ⟨t', left, step⟩ := step_of_answer found target answered
  exact ⟨t', answer, left, step⟩

/-- A table that is followed is left as it was, if the operation is about another one or
refused. -/
theorem entry?_of_not_settles (found : c.entry? id = some t)
    (followed : op.follow c now id = some id') (spared : op.settles c now id = false) :
    Catalog.entry? (op.after c now) id' = some t := by
  rcases op.outcome_cases c now with ⟨e, left⟩ | ⟨c', answer, left, effect⟩
  · have refused : op.answer c now = .error e := by rw [CatalogOp.answer, left]
    rw [follow_of_error refused] at followed
    cases followed
    rw [after, left]
    exact found
  · have answered : op.answer c now = .ok answer := by rw [CatalogOp.answer, left]
    rw [after, left]
    obtain ⟨t', there, rfl | step⟩ := effect.entry?_follow answered found followed
    · exact there
    · have settled : op.settles c now id = true := by
        rw [settles, target?_of_step step, answered]
        simp [Except.isOk, Except.toBool]
      rw [settled] at spared
      cases spared

end CatalogOp

/-- What every accepted operation on a table keeps, which may depend on its answer, a table that is
followed has to the end. -/
theorem Follows.entry_answered {admits : CatalogOp → Catalog → Int → TableId → Prop}
    {property : TableEntry → Prop}
    (step : ∀ {op : CatalogOp} {c : Catalog} {now : Int} {id : TableId} {t t' : TableEntry}
      {answer : Option Snapshot}, admits op c now id → op.target? = some id →
        op.answer c now = .ok answer → t.Step id now op t' answer → property t → property t')
    (found : c.entry? id = some t) (start : property t) (follows : Follows admits c id c' id') :
    ∃ t', c'.entry? id' = some t' ∧ property t' := by
  induction follows with
  | here => exact ⟨t, found, start⟩
  | @step c₁ id₁ id₂ before op now followed admitted earlier =>
      obtain ⟨t₁, there, kept⟩ := earlier
      cases settled : op.settles c₁ now id₁ with
      | false => exact ⟨t₁, CatalogOp.entry?_of_not_settles there followed settled, kept⟩
      | true =>
          obtain ⟨target, answer, answered⟩ := CatalogOp.answered_of_settles settled
          obtain ⟨t₂, left, made⟩ := CatalogOp.step_of_answer there target answered
          -- an operation on the table does not give it another name
          have stays : op.follow c₁ now id₁ = some id₁ := CatalogOp.follow_of_step made
          rw [followed] at stays
          cases stays
          exact ⟨t₂, left, step admitted target answered made kept⟩

/-! ## Records -/

variable {α : Type} {note : CatalogOp → α → α} {start a : α}
variable {admits : CatalogOp → Catalog → Int → TableId → Prop}

/-- A table along a run in which it is never dropped and every operation is admitted, and
what is written down about it: for each accepted operation on the table, a note. -/
inductive Recorded (note : CatalogOp → α → α) (admits : CatalogOp → Catalog → Int → TableId → Prop)
    (start : α) (c : Catalog) (id : TableId) : Catalog → TableId → α → Prop
  | here : Recorded note admits start c id c id start
  | step {c' : Catalog} {id' id'' : TableId} {a : α}
      (before : Recorded note admits start c id c' id' a) (op : CatalogOp) (now : Int)
      (followed : op.follow c' now id' = some id'') (admitted : admits op c' now id') :
      Recorded note admits start c id (op.after c' now) id''
        (if op.settles c' now id' then note op a else a)

namespace Recorded

theorem follows (recorded : Recorded note admits start c id c' id' a) :
    Follows admits c id c' id' := by
  induction recorded with
  | here => exact .here
  | step before op now followed admitted earlier => exact earlier.step op now followed admitted

/-- What every admitted step keeps between the record and the table, holds to the end. -/
theorem entry {property : α → TableEntry → Prop}
    (step : ∀ {op : CatalogOp} {c : Catalog} {now : Int} {id : TableId} {t t' : TableEntry}
      {answer : Option Snapshot} {a : α}, admits op c now id → c.entry? id = some t →
        t.Step id now op t' answer → property a t → property (note op a) t')
    (found : c.entry? id = some t) (begun : property start t)
    (recorded : Recorded note admits start c id c' id' a) :
    ∃ t', c'.entry? id' = some t' ∧ property a t' := by
  induction recorded with
  | here => exact ⟨t, found, begun⟩
  | @step c₁ id₁ id₂ a₁ before op now followed admitted earlier =>
      obtain ⟨t₁, there, kept⟩ := earlier
      cases settled : op.settles c₁ now id₁ with
      | false => exact ⟨t₁, CatalogOp.entry?_of_not_settles there followed settled, kept⟩
      | true =>
          obtain ⟨t₂, answer, left, made⟩ := CatalogOp.step_of_settles there settled
          -- an operation on the table does not give it another name
          have stays : op.follow c₁ now id₁ = some id₁ := CatalogOp.follow_of_step made
          rw [followed] at stays
          cases stays
          exact ⟨t₂, left, step admitted there made kept⟩

end Recorded

end TableLake
