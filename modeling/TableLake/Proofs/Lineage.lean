/-
# TableLake.Proofs.Lineage — the tables of a catalog from one moment to the next

Every table after an operation is new or comes from a table before it
(`CatalogOp.Effect.origin`), and every table before it is found again under the name
that `CatalogOp.follow` gives, unless it was dropped (`CatalogOp.entry?_follow`).  So
what is true of a new table and kept by each `TableEntry.Step` is true of every table
of every catalog that operations lead to (`Reachable.entry`), and what each step keeps
is kept as long as a table is followed (`Follows`).
-/
import TableLake.Proofs.Operation

namespace TableLake

set_option autoImplicit false

variable {c c' : Catalog} {now : Int} {op : CatalogOp} {answer : Option Snapshot}
variable {id id' : TableId} {t t' : TableEntry}

/-! ## Backwards -/

theorem Catalog.entry?_eraseDatabase (c : Catalog) (name : String) (id : TableId) :
    Catalog.entry? { c with databases := c.databases.erase name } id =
      if name = id.database then none else c.entry? id := by
  unfold entry?
  rw [OrderedMap.get?_erase]
  split <;> rfl

/-- A table after an operation is the new one that was asked for, or it was there before
and nothing happened to it or one step. -/
theorem CatalogOp.Effect.origin (effect : Effect c now op c' answer)
    (found : c'.entry? id' = some t') :
    (∃ schema ignoreIfExists, op = .createTable id' schema ignoreIfExists ∧ t' = .new schema) ∨
      ∃ id t, c.entry? id = some t ∧ (t' = t ∨ t.Step id now op t' answer) := by
  cases effect with
  | idle => exact .inr ⟨id', t', found, .inl rfl⟩
  | createDatabase free =>
      rw [Catalog.entry?_setDatabase] at found
      split at found
      · cases found
      · exact .inr ⟨id', t', found, .inl rfl⟩
  | dropDatabase =>
      rw [Catalog.entry?_eraseDatabase] at found
      split at found
      · cases found
      · exact .inr ⟨id', t', found, .inl rfl⟩
  | createTable inside free =>
      rw [Catalog.entry?_setEntry inside] at found
      split at found
      · rename_i here
        cases found
        exact .inl ⟨_, _, by rw [here], rfl⟩
      · exact .inr ⟨id', t', found, .inl rfl⟩
  | dropTable =>
      rw [Catalog.entry?_eraseEntry] at found
      split at found
      · cases found
      · exact .inr ⟨id', t', found, .inl rfl⟩
  | @renameTable source target _ moved db there inside free =>
      obtain ⟨_, inside⟩ := Catalog.exists_database_eraseEntry inside source
      rw [Catalog.entry?_setEntry inside, Catalog.entry?_eraseEntry] at found
      split at found
      · cases found
        exact .inr ⟨_, _, there, .inl rfl⟩
      · split at found
        · cases found
        · exact .inr ⟨id', t', found, .inl rfl⟩
  | step there step =>
      obtain ⟨db, inside, -⟩ := Catalog.exists_database_of_entry? there
      rw [Catalog.entry?_setEntry inside] at found
      split at found
      · cases found
        exact .inr ⟨_, _, there, .inr step⟩
      · exact .inr ⟨id', t', found, .inl rfl⟩

/-- The catalogs that operations lead to, each at its own reading of the clock and
accepted or not, from one without databases. -/
inductive Reachable : Catalog → Prop
  | new (warehouse : String) (options : Options) : Reachable (.new warehouse options)
  | step {c : Catalog} (reached : Reachable c) (op : CatalogOp) (now : Int) :
      Reachable (op.after c now)

/-- The catalog that a run leaves behind: operations, each with a reading of the clock. -/
def CatalogOp.afterAll (c : Catalog) : List (CatalogOp × Int) → Catalog
  | [] => c
  | (op, now) :: rest => afterAll (op.after c now) rest

theorem Reachable.afterAll : ∀ {c : Catalog}, Reachable c → ∀ run : List (CatalogOp × Int),
    Reachable (CatalogOp.afterAll c run)
  | _, reached, [] => reached
  | _, reached, (op, now) :: rest => (reached.step op now).afterAll rest

/-- The schema of the table that the operation makes, if it makes one. -/
def CatalogOp.made? : CatalogOp → Option Schema
  | .createTable _ schema _ => some schema
  | _ => none

/-- What the table has that is made, and the tables before, and what every step keeps, the
tables have afterwards. -/
theorem CatalogOp.entry_after {property : TableEntry → Prop}
    (step : ∀ {id : TableId} {now : Int} {t t' : TableEntry} {op : CatalogOp}
      {answer : Option Snapshot}, property t → t.Step id now op t' answer → property t')
    (made : ∀ schema ∈ op.made?, property (.new schema))
    (before : ∀ {id : TableId} {t : TableEntry}, c.entry? id = some t → property t)
    (found : Catalog.entry? (op.after c now) id = some t) : property t := by
  rcases op.outcome_cases c now with ⟨e, left⟩ | ⟨c', answer, left, effect⟩
  · rw [CatalogOp.after, left] at found
    exact before found
  · rw [CatalogOp.after, left] at found
    rcases effect.origin found with ⟨schema, _, rfl, rfl⟩ | ⟨id, t₀, there, rfl | taken⟩
    · exact made schema rfl
    · exact before there
    · exact step (before there) taken

/-- What a new table has and every step keeps, all tables have. -/
theorem Reachable.entry {property : TableEntry → Prop}
    (new : ∀ schema, property (.new schema))
    (step : ∀ {id : TableId} {now : Int} {t t' : TableEntry} {op : CatalogOp}
      {answer : Option Snapshot}, property t → t.Step id now op t' answer → property t')
    (reached : Reachable c) : ∀ {id : TableId} {t : TableEntry},
    c.entry? id = some t → property t := by
  induction reached with
  | new warehouse options =>
      intro id t found
      cases found
  | step reached op now before =>
      intro id t found
      exact op.entry_after step (fun schema _ => new schema) before found

/-! ## Forwards -/

namespace CatalogOp

/-- The name of a table after an operation; none if the operation dropped it.  The table
is there before: an accepted drop of its name is a drop of the table. -/
def follow (op : CatalogOp) (c : Catalog) (now : Int) (id : TableId) : Option TableId :=
  match op, op.answer c now with
  | .dropDatabase name _ _, .ok _ => if name = id.database then none else some id
  | .dropTable dropped _, .ok _ => if dropped = id then none else some id
  | .renameTable source target _, .ok _ => if source = id then some target else some id
  | _, _ => some id

theorem follow_of_error {e : CatalogError} (refused : op.answer c now = .error e) :
    op.follow c now id = some id := by
  unfold follow
  rw [refused]
  cases op <;> rfl

theorem follow_of_step (step : t.Step id' now op t' answer) : op.follow c now id = some id := by
  cases step <;> rfl

theorem follow_of_idle (idle : op.Idle c) (found : c.entry? id = some t) :
    op.follow c now id = some id := by
  have there : c.tableExists id = true := by
    rw [Catalog.tableExists, found]
    rfl
  have missing : ∀ {other : TableId}, c.tableExists other = false → other ≠ id := by
    rintro other absent rfl
    rw [there] at absent
    cases absent
  unfold follow
  split
  · obtain ⟨db, inside, -⟩ := Catalog.exists_database_of_entry? found
    refine if_neg fun same => ?_
    have absent := idle.2
    rw [same, Catalog.databaseExists, OrderedMap.contains, inside] at absent
    cases absent
  · exact if_neg (missing idle.2)
  · exact if_neg (missing idle.2)
  · rfl

/-- A table that is followed is there, and nothing happened to it or one step. -/
theorem Effect.entry?_follow (effect : Effect c now op c' answer)
    (answered : op.answer c now = .ok answer) (found : c.entry? id = some t)
    (followed : op.follow c now id = some id') :
    ∃ t', c'.entry? id' = some t' ∧ (t' = t ∨ t.Step id now op t' answer) := by
  obtain ⟨home, housed, -⟩ := Catalog.exists_database_of_entry? found
  cases effect with
  | idle idle =>
      rw [follow_of_idle idle found] at followed
      cases followed
      exact ⟨t, found, .inl rfl⟩
  | createDatabase free =>
      cases followed
      refine ⟨t, ?_, .inl rfl⟩
      rw [Catalog.entry?_setDatabase, if_neg, found]
      rintro rfl
      rw [housed] at free
      cases free
  | dropDatabase there =>
      simp only [follow, answered] at followed
      split at followed
      · cases followed
      · rename_i other
        cases followed
        exact ⟨t, by rw [Catalog.entry?_eraseDatabase, if_neg other, found], .inl rfl⟩
  | createTable inside free =>
      cases followed
      exact ⟨t, Catalog.entry?_setEntry_of_free inside free found, .inl rfl⟩
  | dropTable =>
      simp only [follow, answered] at followed
      split at followed
      · cases followed
      · rename_i other
        cases followed
        exact ⟨t, by rw [Catalog.entry?_eraseEntry, if_neg other, found], .inl rfl⟩
  | @renameTable source target _ moved db there inside free =>
      obtain ⟨_, inside⟩ := Catalog.exists_database_eraseEntry inside source
      simp only [follow, answered] at followed
      split at followed
      · rename_i same
        cases followed
        rw [same, found] at there
        cases there
        exact ⟨t, Catalog.entry?_setEntry_self inside t, .inl rfl⟩
      · rename_i other
        cases followed
        have free : Catalog.entry? (c.eraseEntry source) target = none := by
          rw [Catalog.entry?_eraseEntry, free, ite_self]
        have found : Catalog.entry? (c.eraseEntry source) id = some t := by
          rw [Catalog.entry?_eraseEntry, if_neg other, found]
        exact ⟨t, Catalog.entry?_setEntry_of_free inside free found, .inl rfl⟩
  | @step op changed t₀ t' answer there step =>
      rw [follow_of_step step] at followed
      cases followed
      obtain ⟨db, inside, -⟩ := Catalog.exists_database_of_entry? there
      rw [Catalog.entry?_setEntry inside]
      by_cases same : changed = id
      · subst same
        rw [found] at there
        cases there
        exact ⟨t', if_pos rfl, .inr step⟩
      · exact ⟨t, by rw [if_neg same, found], .inl rfl⟩

theorem entry?_follow (found : c.entry? id = some t)
    (followed : op.follow c now id = some id') :
    ∃ t', Catalog.entry? (op.after c now) id' = some t' ∧
      (t' = t ∨ ∃ answer, t.Step id now op t' answer) := by
  rcases op.outcome_cases c now with ⟨e, left⟩ | ⟨c', answer, left, effect⟩
  · have refused : op.answer c now = .error e := by rw [answer, left]
    rw [follow_of_error refused] at followed
    cases followed
    exact ⟨t, by rw [after, left]; exact found, .inl rfl⟩
  · have answered : op.answer c now = .ok answer := by rw [CatalogOp.answer, left]
    rw [after, left]
    obtain ⟨t', there, same | step⟩ := effect.entry?_follow answered found followed
    · exact ⟨t', there, .inl same⟩
    · exact ⟨t', there, .inr ⟨answer, step⟩⟩

end CatalogOp

/-! ## Runs -/

/-- A table along a run: where it is found at the end under the name it has then, if it
was never dropped and every operation was admitted. -/
inductive Follows (admits : CatalogOp → Catalog → Int → TableId → Prop) (c : Catalog)
    (id : TableId) : Catalog → TableId → Prop
  | here : Follows admits c id c id
  | step {c' : Catalog} {id' id'' : TableId} (before : Follows admits c id c' id')
      (op : CatalogOp) (now : Int) (followed : op.follow c' now id' = some id'')
      (admitted : admits op c' now id') : Follows admits c id (op.after c' now) id''

namespace Follows

variable {admits : CatalogOp → Catalog → Int → TableId → Prop}

theorem reachable (reached : Reachable c) (follows : Follows admits c id c' id') :
    Reachable c' := by
  induction follows with
  | here => exact reached
  | step before op now followed admitted earlier => exact earlier.step op now

/-- What every admitted step keeps, a table that is followed has to the end. -/
theorem entry {property : TableEntry → Prop}
    (step : ∀ {op : CatalogOp} {c : Catalog} {now : Int} {id id' : TableId} {t t' : TableEntry}
      {answer : Option Snapshot}, admits op c now id → op.follow c now id = some id' →
        c.entry? id = some t → Catalog.entry? (op.after c now) id' = some t' →
        t.Step id now op t' answer → property t → property t')
    (found : c.entry? id = some t) (start : property t) (follows : Follows admits c id c' id') :
    ∃ t', c'.entry? id' = some t' ∧ property t' := by
  induction follows with
  | here => exact ⟨t, found, start⟩
  | step before op now followed admitted earlier =>
      obtain ⟨t₁, there, kept⟩ := earlier
      obtain ⟨t₂, left, rfl | ⟨answer, made⟩⟩ := CatalogOp.entry?_follow there followed
      · exact ⟨t₂, left, kept⟩
      · exact ⟨t₂, left, step admitted followed there left made kept⟩

end Follows

end TableLake
