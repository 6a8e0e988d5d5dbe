/-
# TableLake.Proofs.Resolution — calls under names in small letters

`resolveArguments` checks the signature and binds the arguments after it has put all
names into small letters.  So what `Proofs.Binding` says of names as they are holds of
names up to the case of their letters, and a call is accepted iff its signature is
sound and it is admissible in that sense (`resolveArguments_accepts`).
-/
import TableLake.Proofs.Binding
import TableLake.Sql.Expr

namespace TableLake

open TableLake.Text

set_option autoImplicit false

section

variable {α : Type}

/-! ## Small letters -/

theorem fits_normalized {k i : Nat} {p : Parameter} {a : Argument α} :
    a.normalized.Fits id k i p.normalized ↔ a.Fits lower k i p := by
  cases a <;> rfl

theorem goesTo_normalized {ps : List Parameter} {as : List (Argument α)} {k i : Nat} :
    GoesTo id (normalizeParameters ps) (normalizeArguments as) k i ↔ GoesTo lower ps as k i := by
  simp only [GoesTo, normalizeParameters, normalizeArguments, List.getElem?_map,
    Option.map_eq_some_iff]
  constructor
  · rintro ⟨-, -, ⟨p, declared, rfl⟩, ⟨a, given, rfl⟩, fits⟩
    exact ⟨p, a, declared, given, fits_normalized.mp fits⟩
  · rintro ⟨p, a, declared, given, fits⟩
    exact ⟨_, _, ⟨p, declared, rfl⟩, ⟨a, given, rfl⟩, fits_normalized.mpr fits⟩

theorem isNamed_normalized (a : Argument α) : a.normalized.isNamed = a.isNamed := by
  cases a <;> rfl

theorem forall_isNamed_normalized {as : List (Argument α)} {named : Bool} :
    (∀ a ∈ normalizeArguments as, a.isNamed = named) ↔ ∀ a ∈ as, a.isNamed = named := by
  simp [normalizeArguments, isNamed_normalized]

theorem name?_normalized (a : Argument α) : a.normalized.name? = a.name?.map lower := by
  cases a <;> rfl

theorem value_normalized (a : Argument α) : a.normalized.value = a.value := by
  cases a <;> rfl

theorem attachable_normalized {ps : List Parameter} {as : List (Argument α)} :
    Attachable id (normalizeParameters ps) (normalizeArguments as) ↔ Attachable lower ps as := by
  have names : ((normalizeArguments as).filterMap fun a => a.name?.map id) =
      as.filterMap fun a => a.name?.map lower := by
    rw [normalizeArguments, List.filterMap_map]
    congr 1
    funext a
    simp [name?_normalized]
  have known : (∀ a ∈ normalizeArguments as, ∀ n, a.name? = some n →
        ∃ p ∈ normalizeParameters ps, id p.name = id n) ↔
      ∀ a ∈ as, ∀ n, a.name? = some n → ∃ p ∈ ps, lower p.name = lower n := by
    simp [normalizeArguments, normalizeParameters, name?_normalized, Parameter.normalized]
  have lengths : (normalizeArguments as).length ≤ (normalizeParameters ps).length ↔
      as.length ≤ ps.length := by
    simp [normalizeArguments, normalizeParameters]
  constructor
  · rintro ⟨oneStyle, distinct, declared, few⟩
    rw [forall_isNamed_normalized, forall_isNamed_normalized] at oneStyle
    rw [forall_isNamed_normalized, lengths] at few
    exact ⟨oneStyle, names ▸ distinct, known.mp declared, few⟩
  · rintro ⟨oneStyle, distinct, declared, few⟩
    refine ⟨?_, names.symm ▸ distinct, known.mpr declared, ?_⟩
    · rw [forall_isNamed_normalized, forall_isNamed_normalized]
      exact oneStyle
    · rw [forall_isNamed_normalized, lengths]
      exact few

theorem getElem?_normalizeParameters {ps : List Parameter} {i : Nat} {p : Parameter}
    (declared : ps[i]? = some p) : (normalizeParameters ps)[i]? = some p.normalized := by
  simp [normalizeParameters, declared]

theorem exists_of_normalizeParameters {ps : List Parameter} {i : Nat} {q : Parameter}
    (declared : (normalizeParameters ps)[i]? = some q) :
    ∃ p, ps[i]? = some p ∧ p.normalized = q := by
  simpa [normalizeParameters] using declared

theorem admissible_normalized {fillable : ColumnType → Prop} {ps : List Parameter}
    {as : List (Argument α)} :
    Admissible id fillable (normalizeParameters ps) (normalizeArguments as) ↔
      Admissible lower fillable ps as := by
  constructor
  · rintro ⟨h, complete, fills⟩
    simp only [goesTo_normalized] at complete fills
    refine ⟨attachable_normalized.mp h, fun i p declared => ?_, fun i p declared => ?_⟩
    · exact complete i p.normalized (getElem?_normalizeParameters declared)
    · exact fills i p.normalized (getElem?_normalizeParameters declared)
  · rintro ⟨h, complete, fills⟩
    refine ⟨attachable_normalized.mpr h, fun i q declared => ?_, fun i q declared => ?_⟩
    · obtain ⟨p, at_i, rfl⟩ := exists_of_normalizeParameters declared
      simp only [goesTo_normalized]
      exact complete i p at_i
    · obtain ⟨p, at_i, rfl⟩ := exists_of_normalizeParameters declared
      simp only [goesTo_normalized]
      exact fills i p at_i

theorem placed_normalized {fill : ColumnType → Option α} {ps : List Parameter}
    {as : List (Argument α)} {values : List α}
    (h : Placed id fill (normalizeParameters ps) (normalizeArguments as) values) :
    Placed lower fill ps as values := by
  obtain ⟨length, given, filled, onePlace, oneArgument⟩ := h
  simp only [goesTo_normalized] at given filled onePlace oneArgument
  refine ⟨by simpa [normalizeParameters] using length, ?_, ?_, ?_, oneArgument⟩
  · intro k i a at_k goes
    rw [← value_normalized]
    exact given k i a.normalized (by simp [normalizeArguments, at_k]) goes
  · intro i p declared
    exact filled i p.normalized (getElem?_normalizeParameters declared)
  · intro k inside
    exact onePlace k (by simpa [normalizeArguments] using inside)

/-- Names are distinct in small letters and required parameters come first. -/
structure SoundSignature (ps : List Parameter) : Prop where
  distinct : (ps.map fun p => lower p.name).Nodup
  requiredFirst : RequiredFirst ps

theorem names_normalized (ps : List Parameter) :
    (normalizeParameters ps).map Parameter.name = ps.map fun p => lower p.name := by
  simp [normalizeParameters, Parameter.normalized]

theorem checkSignature_normalized_ok_iff (ps : List Parameter) :
    checkSignature (normalizeParameters ps) = .ok () ↔ SoundSignature ps := by
  have order : RequiredFirst (normalizeParameters ps) ↔ RequiredFirst ps := by
    simp [RequiredFirst, normalizeParameters, List.pairwise_map, Parameter.normalized]
  rw [checkSignature_ok_iff, names_normalized, order]
  constructor
  · rintro ⟨distinct, first⟩
    exact ⟨distinct, first⟩
  · rintro ⟨distinct, first⟩
    exact ⟨distinct, first⟩

theorem resolveArguments_eq_ok_iff {fill : ColumnType → Option α} {ps : List Parameter}
    {as : List (Argument α)} {values : List α} :
    resolveArguments fill ps as = .ok values ↔ SoundSignature ps ∧
      bindArguments fill (normalizeParameters ps) (normalizeArguments as) = .ok values := by
  rw [← checkSignature_normalized_ok_iff]
  simp only [resolveArguments, Outcome.bind_eq_ok_iff]
  exact ⟨fun ⟨_, sound, bound⟩ => ⟨sound, bound⟩, fun ⟨sound, bound⟩ => ⟨(), sound, bound⟩⟩

theorem resolveArguments_ok_iff {fill : ColumnType → Option α} {ps : List Parameter}
    {as : List (Argument α)} :
    (∃ values, resolveArguments fill ps as = .ok values) ↔
      SoundSignature ps ∧ Admissible lower (fun t => ∃ v, fill t = some v) ps as := by
  simp only [resolveArguments_eq_ok_iff, exists_and_left]
  refine and_congr_right fun sound => ?_
  rw [bindArguments_ok_iff (names_normalized ps ▸ sound.distinct), admissible_normalized]

theorem placed_of_resolveArguments {fill : ColumnType → Option α} {ps : List Parameter}
    {as : List (Argument α)} {values : List α}
    (resolved : resolveArguments fill ps as = .ok values) : Placed lower fill ps as values := by
  obtain ⟨sound, bound⟩ := resolveArguments_eq_ok_iff.mp resolved
  exact placed_normalized (placed_of_bindArguments (names_normalized ps ▸ sound.distinct) bound)

end

/-- **A call is accepted iff its signature is sound and it is admissible.**  Then every
parameter has its value: the one of the only argument that is meant for it, or, for an
optional parameter that is left out, the missing value of its type. -/
theorem resolveArguments_accepts (ps : List Parameter) (as : List (Argument Sql.Expr)) :
    ((∃ values, resolveArguments Sql.Expr.typedNull ps as = .ok values) ↔
      SoundSignature ps ∧ Admissible lower (fun t => t.hasTypedNull = true) ps as) ∧
    ∀ values, resolveArguments Sql.Expr.typedNull ps as = .ok values →
      Placed lower (fun t => some (.literal (.missing t))) ps as values := by
  have typed {t : ColumnType} {e : Sql.Expr} : Sql.Expr.typedNull t = some e ↔
      t.hasTypedNull = true ∧ .literal (.missing t) = e := by
    simp [Sql.Expr.typedNull]
  refine ⟨by simp [resolveArguments_ok_iff, typed], fun values resolved => ?_⟩
  have h := placed_of_resolveArguments resolved
  refine { h with filled := fun i p declared unmeant => ?_ }
  obtain ⟨optional, v, filled, at_i⟩ := h.filled i p declared unmeant
  exact ⟨optional, v, congrArg some (typed.mp filled).2, at_i⟩

end TableLake
