/-
# TableLake.Proofs.SchemaKeys — the keys of a schema name its columns

`Schema.Keyed` says that every partition key and every primary key names a column and that
the columns of the primary key forbid missing values.  `SchemaDraft.build` refuses a key
without a column and settles the columns of the primary key; afterwards every step keeps
the three facts together: a column that is added or renamed takes a name that was free, so
it comes under no key by chance, a column under a key is not dropped, and a rename takes
the primary key along.  Columns of one name do no harm, since a step touches the first of
them and the facts are about all.
-/
import TableLake.Proofs.SchemaStep

namespace TableLake

open TableLake.Outcome

set_option autoImplicit false

namespace Schema

variable {s s' : Schema} {change : SchemaChange} {before after : List Field} {f g : Field}

/-- Keys name columns, and those of the primary key forbid missing values. -/
structure Keyed (s : Schema) : Prop where
  partitions : ∀ key ∈ s.partitionKeys, key ∈ s.fieldNames
  primaries : ∀ key ∈ s.primaryKeys, key ∈ s.fieldNames
  mandatory : ∀ f ∈ s.fields, f.name ∈ s.primaryKeys → f.nullable = false

namespace Keyed

/-- A column is replaced by one of its name that is as strict as its key demands. -/
theorem replace (keyed : s.Keyed) (parts : s.fields = before ++ f :: after)
    (named : g.name = f.name) (strict : f.name ∈ s.primaryKeys → g.nullable = false) :
    Keyed { s with fields := before ++ g :: after } := by
  have names : Schema.fieldNames { s with fields := before ++ g :: after } = s.fieldNames := by
    simp [fieldNames, parts, named]
  refine ⟨?_, ?_, ?_⟩
  · rw [names]
    exact keyed.partitions
  · rw [names]
    exact keyed.primaries
  · intro h inside key
    have old : ∀ h ∈ before ++ after, h ∈ s.fields := by
      intro h there
      rw [parts]
      simp only [List.mem_append, List.mem_cons] at there ⊢
      tauto
    rcases List.mem_append.mp inside with there | there
    · exact keyed.mandatory h (old h (List.mem_append_left _ there)) key
    · rcases List.mem_cons.mp there with rfl | there
      · rw [named] at key
        exact strict key
      · exact keyed.mandatory h (old h (List.mem_append_right _ there)) key

theorem add (keyed : s.Keyed) (parts : s.fields = before ++ after) (fresh : f.name ∉ s.fieldNames) :
    Keyed { s with fields := before ++ f :: after } := by
  have more : ∀ name ∈ s.fieldNames,
      name ∈ Schema.fieldNames { s with fields := before ++ f :: after } := by
    intro name inside
    simp only [fieldNames, parts, List.map_append, List.map_cons, List.mem_append,
      List.mem_cons] at inside ⊢
    tauto
  refine ⟨fun key inside => more key (keyed.partitions key inside),
    fun key inside => more key (keyed.primaries key inside), ?_⟩
  intro h inside key
  rcases List.mem_append.mp inside with there | there
  · exact keyed.mandatory h (by rw [parts]; exact List.mem_append_left _ there) key
  · rcases List.mem_cons.mp there with rfl | there
    · exact absurd (keyed.primaries _ key) fresh
    · exact keyed.mandatory h (by rw [parts]; exact List.mem_append_right _ there) key

theorem drop (keyed : s.Keyed) (parts : s.fields = before ++ f :: after)
    (free : f.name ∉ s.partitionKeys) (optional : f.name ∉ s.primaryKeys) :
    Keyed { s with fields := before ++ after } := by
  have others : ∀ name ∈ s.fieldNames, name ≠ f.name →
      name ∈ Schema.fieldNames { s with fields := before ++ after } := by
    intro name inside other
    simp only [fieldNames, parts, List.map_append, List.map_cons, List.mem_append,
      List.mem_cons] at inside ⊢
    tauto
  refine ⟨?_, ?_, ?_⟩
  · intro key inside
    exact others key (keyed.partitions key inside) fun same => free (same ▸ inside)
  · intro key inside
    exact others key (keyed.primaries key inside) fun same => optional (same ▸ inside)
  · intro h inside key
    refine keyed.mandatory h ?_ key
    rw [parts]
    simp only [List.mem_append, List.mem_cons] at inside ⊢
    tauto

/-- A key that a rename leaves is the new name, or it is a key still and another name. -/
theorem mem_renamedKeys {keys : List String} {old new key : String} :
    (key ∈ keys.map fun key => if key = old then new else key) ↔
      key = new ∧ old ∈ keys ∨ key ∈ keys ∧ key ≠ old := by
  simp only [List.mem_map]
  constructor
  · rintro ⟨k, inside, rfl⟩
    split
    · rename_i same
      exact .inl ⟨rfl, same ▸ inside⟩
    · rename_i other
      exact .inr ⟨inside, other⟩
  · rintro (⟨rfl, inside⟩ | ⟨inside, other⟩)
    · exact ⟨old, inside, if_pos rfl⟩
    · exact ⟨key, inside, if_neg other⟩

theorem rename {newName : String} (keyed : s.Keyed) (parts : s.fields = before ++ f :: after)
    (fresh : newName ∉ s.fieldNames) (free : f.name ∉ s.partitionKeys) :
    Keyed { s with
      fields := before ++ { f with name := newName } :: after
      primaryKeys := s.primaryKeys.map fun key => if key = f.name then newName else key } := by
  have others : ∀ name ∈ s.fieldNames, name ≠ f.name →
      name ∈ (before ++ { f with name := newName } :: after).map Field.name := by
    intro name inside other
    simp only [fieldNames, parts, List.map_append, List.map_cons, List.mem_append,
      List.mem_cons] at inside ⊢
    tauto
  have old : ∀ h ∈ before ++ after, h ∈ s.fields := by
    intro h there
    rw [parts]
    simp only [List.mem_append, List.mem_cons] at there ⊢
    tauto
  -- a column that keeps its name is under a key if it was before: the new name was free
  have kept : ∀ h ∈ before ++ after, h.name ∈ s.primaryKeys.map (fun key =>
      if key = f.name then newName else key) → h.nullable = false := by
    intro h there key
    rcases mem_renamedKeys.mp key with ⟨same, -⟩ | ⟨inside, -⟩
    · exact absurd (List.mem_map.mpr ⟨h, old h there, same⟩) fresh
    · exact keyed.mandatory h (old h there) inside
  refine ⟨?_, ?_, ?_⟩
  · intro key inside
    exact others key (keyed.partitions key inside) fun same => free (same ▸ inside)
  · intro key inside
    rcases mem_renamedKeys.mp inside with ⟨rfl, -⟩ | ⟨inside, other⟩
    · simp [fieldNames]
    · exact others key (keyed.primaries key inside) other
  · intro h inside key
    rcases List.mem_append.mp inside with there | there
    · exact kept h (List.mem_append_left _ there) key
    · rcases List.mem_cons.mp there with rfl | there
      · rcases mem_renamedKeys.mp key with ⟨-, inside⟩ | ⟨inside, -⟩
        · exact keyed.mandatory f (by rw [parts]; simp) inside
        · exact absurd (keyed.primaries _ inside) fresh
      · exact kept h (List.mem_append_right _ there) key

theorem move {front back : List Field} (keyed : s.Keyed) (parts : s.fields = before ++ f :: after)
    (others : before ++ after = front ++ back) :
    Keyed { s with fields := front ++ f :: back } := by
  have same : ∀ h, h ∈ front ++ f :: back ↔ h ∈ s.fields := by
    intro h
    have rest : h ∈ before ++ after ↔ h ∈ front ++ back := by rw [others]
    rw [parts]
    simp only [List.mem_append, List.mem_cons] at rest ⊢
    tauto
  have names : ∀ name ∈ s.fieldNames,
      name ∈ Schema.fieldNames { s with fields := front ++ f :: back } := by
    intro name inside
    obtain ⟨h, there, rfl⟩ := List.mem_map.mp inside
    exact List.mem_map_of_mem ((same h).mpr there)
  exact ⟨fun key inside => names key (keyed.partitions key inside),
    fun key inside => names key (keyed.primaries key inside),
    fun h inside key => keyed.mandatory h ((same h).mp inside) key⟩

/-- Every step keeps the keys in order. -/
theorem step (keyed : s.Keyed) (step : s.Step change s') : s'.Keyed := by
  cases step with
  | setOption => exact ⟨keyed.partitions, keyed.primaries, keyed.mandatory⟩
  | removeOption => exact ⟨keyed.partitions, keyed.primaries, keyed.mandatory⟩
  | addColumn parts fresh => exact keyed.add parts fresh
  | renameColumn parts first fresh free => exact keyed.rename parts fresh free
  | dropColumn parts first free optional => exact keyed.drop parts free optional
  | @updateType f _ _ _ parts =>
      exact keyed.replace parts rfl (keyed.mandatory f (by rw [parts]; simp))
  | @updateNullability f nullable _ _ parts first allowed =>
      refine keyed.replace parts rfl fun key => ?_
      cases nullable with
      | false => rfl
      | true => exact absurd key (allowed rfl)
  | @updateComment f _ _ _ parts =>
      exact keyed.replace parts rfl (keyed.mandatory f (by rw [parts]; simp))
  | moveColumn parts first others => exact keyed.move parts others

end Keyed

/-! ## Schemas as they are built -/

theorem name_settleKey (keys : List String) (f : Field) :
    (SchemaDraft.settleKey keys f).name = f.name := by
  unfold SchemaDraft.settleKey
  split <;> rfl

variable {d : SchemaDraft} {built : Schema}

/-- A schema is built if every key has a column. -/
theorem build_ok_iff : d.build = .ok built ↔
    (∀ key ∈ d.partitionKeys ++ d.primaryKeys, key ∈ d.fields.map Field.name) ∧
      built =
        { id := 0
          fields := d.fields.map (SchemaDraft.settleKey d.primaryKeys)
          partitionKeys := d.partitionKeys
          primaryKeys := d.primaryKeys
          options := d.options
          comment := d.comment.filter fun c => !c.isEmpty } := by
  have complete : d.undefinedKey = none ↔
      ∀ key ∈ d.partitionKeys ++ d.primaryKeys, key ∈ d.fields.map Field.name := by
    simp [SchemaDraft.undefinedKey, or_imp, forall_and]
  unfold SchemaDraft.build
  cases undefined : d.undefinedKey with
  | none =>
      rw [undefined, eq_self_iff_true, true_iff] at complete
      simp only [Except.ok.injEq]
      exact ⟨fun same => ⟨complete, same.symm⟩, fun given => given.2.symm⟩
  | some key =>
      rw [undefined] at complete
      refine iff_of_false (by rintro ⟨⟩) fun given => ?_
      cases complete.mpr given.1

theorem fieldNames_of_build (made : d.build = .ok built) :
    built.fieldNames = d.fields.map Field.name := by
  obtain ⟨-, rfl⟩ := build_ok_iff.mp made
  rw [fieldNames, List.map_map]
  exact List.map_congr_left fun f _ => name_settleKey d.primaryKeys f

theorem keyed_of_build (made : d.build = .ok built) : built.Keyed := by
  have names := fieldNames_of_build made
  obtain ⟨defined, rfl⟩ := build_ok_iff.mp made
  refine ⟨?_, ?_, ?_⟩
  · rw [names]
    exact fun key inside => defined key (List.mem_append_left _ inside)
  · rw [names]
    exact fun key inside => defined key (List.mem_append_right _ inside)
  · intro g inside key
    obtain ⟨f, -, rfl⟩ := List.mem_map.mp inside
    rw [name_settleKey] at key
    exact congrArg Field.nullable (if_pos key)

/-! ## Schemas as they evolve -/

/-- No step touches the partition keys. -/
theorem Step.partitionKeys_eq (step : s.Step change s') : s'.partitionKeys = s.partitionKeys := by
  cases step <;> rfl

/-- The last column stays. -/
theorem Step.fields_ne_nil (step : s.Step change s') (some : s.fields ≠ []) : s'.fields ≠ [] := by
  cases step with
  | setOption => exact some
  | removeOption => exact some
  | dropColumn parts first free optional others => exact others
  | _ => exact List.append_ne_nil_of_right_ne_nil _ (List.cons_ne_nil _ _)

/-- The schemas that lists of changes lead to, with the number of lists. -/
inductive Evolved (built : Schema) : Nat → Schema → Prop
  | built : Evolved built 0 built
  | changed {n : Nat} {s s' : Schema} {table : TableId} {changes : List SchemaChange}
      (evolved : Evolved built n s) (made : s.applyChanges table changes = .ok s') :
      Evolved built (n + 1) s'

theorem Evolved.keeps {property : Schema → Prop} {n : Nat}
    (step : ∀ {s s' : Schema} {change : SchemaChange}, property s → s.Step change s' → property s')
    (number : ∀ {s : Schema} {id : Nat}, property s → property { s with id })
    (start : property built) (evolved : built.Evolved n s) : property s := by
  induction evolved with
  | built => exact start
  | changed _ made ih => exact keeps_of_applyChanges step number ih made

theorem Evolved.id_eq {n : Nat} (evolved : built.Evolved n s) : s.id = built.id + n := by
  induction evolved with
  | built => rfl
  | changed _ made ih => rw [id_of_applyChanges made, ih, Nat.add_assoc]

/-- **The keys of a schema stay in order.**  However a schema is built and whatever lists
of changes are then made, its keys name columns, its primary key allows no missing
values, its partition keys are those it was built with, it keeps a column if it had one,
and each list of changes counts one up. -/
theorem keys_in_order {n : Nat} (made : d.build = .ok built) (evolved : built.Evolved n s) :
    (∀ key ∈ s.partitionKeys, key ∈ s.fieldNames) ∧
      (∀ key ∈ s.primaryKeys, key ∈ s.fieldNames) ∧
      (∀ f ∈ s.fields, f.name ∈ s.primaryKeys → f.nullable = false) ∧
      s.partitionKeys = d.partitionKeys ∧
      (built.fields ≠ [] → s.fields ≠ []) ∧
      s.id = n ∧
      ∀ {table : TableId} {changes : List SchemaChange} {s' : Schema},
        s.applyChanges table changes = .ok s' → s'.id = s.id + 1 := by
  have keyed : s.Keyed := evolved.keeps Keyed.step
    (fun keyed => ⟨keyed.partitions, keyed.primaries, keyed.mandatory⟩) (keyed_of_build made)
  have partitions : s.partitionKeys = built.partitionKeys :=
    evolved.keeps (fun same step => step.partitionKeys_eq.trans same) (fun same => same) rfl
  have start : built.partitionKeys = d.partitionKeys ∧ built.id = 0 := by
    obtain ⟨-, rfl⟩ := build_ok_iff.mp made
    exact ⟨rfl, rfl⟩
  refine ⟨keyed.partitions, keyed.primaries, keyed.mandatory, partitions.trans start.1,
    fun some => evolved.keeps (fun some step => step.fields_ne_nil some)
      (fun some => some) some, ?_, ?_⟩
  · rw [evolved.id_eq, start.2, Nat.zero_add]
  · exact id_of_applyChanges

/-- A draft with two columns of one name, which is the primary key. -/
def twinDraft : SchemaDraft where
  fields := [⟨"day", .date32, true, none⟩, ⟨"id", .utf8, true, none⟩, ⟨"id", .utf8, true, none⟩]
  partitionKeys := ["day"]
  primaryKeys := ["id"]

/-- What `twinDraft` becomes when a column is put in front and the first twin renamed. -/
def renamedTwin : Schema where
  id := 1
  fields :=
    [⟨"note", .utf8, true, none⟩, ⟨"day", .date32, true, none⟩, ⟨"key", .utf8, false, none⟩,
      ⟨"id", .utf8, false, none⟩]
  partitionKeys := ["day"]
  primaryKeys := ["key"]
  options := ∅
  comment := none

theorem keys_in_order_twins :
    ∃ built, twinDraft.build = .ok built ∧ built.Evolved 1 renamedTwin ∧
      (∀ key ∈ renamedTwin.primaryKeys, key ∈ renamedTwin.fieldNames) := by
  obtain ⟨built, made⟩ : ∃ built, twinDraft.build = .ok built := ⟨_, rfl⟩
  have renamed : built.applyChanges ⟨"default", "t"⟩
      [.addColumn ⟨"note", .utf8, true, none⟩ (some .first), .renameColumn "id" "key"] =
        .ok renamedTwin := by
    cases made
    rfl
  have evolved : built.Evolved 1 renamedTwin := .changed .built renamed
  exact ⟨built, made, evolved, (keys_in_order made evolved).2.1⟩

end Schema

end TableLake
