/-
# TableLake.Proofs.CallingStyle — one call written in several ways

Values by position are bound as the same values under the names of the first parameters
(`resolveArguments_underNames`).  Arguments by name may stand in any order
(`resolveArguments_of_perm`) and all names be written in letters of any case
(`resolveArguments_of_recased`).  None of it asks that the call is accepted, or that its
signature is sound: what is refused is refused for the same reason.  The order of the arguments
shows only in the order in which an error lists the names at fault (`SameAnswer`).
-/
import TableLake.Proofs.MarkerBinding

namespace TableLake

open TableLake.Text TableLake.Outcome

set_option autoImplicit false

/-! ## Letters of other cases -/

/-- Letter by letter the same text, up to the case of ASCII letters. -/
def Recased (s t : String) : Prop :=
  List.Forall₂ (fun c d => d = c ∨ d = c.toUpper ∨ d = c.toLower) s.toList t.toList

instance (s t : String) : Decidable (Recased s t) :=
  inferInstanceAs (Decidable (List.Forall₂ _ _ _))

/-- Small letters stand thirty-two places behind the capital ones. -/
theorem val_toUpper {c : Char} (small : 'a'.val ≤ c.val ∧ c.val ≤ 'z'.val) :
    c.toUpper.val = c.val - 32 := by
  have raised : c.toUpper = ⟨c.val + ('A'.val - 'a'.val), _⟩ := dif_pos small
  rw [raised]
  grind

theorem val_toLower {c : Char} (capital : 'A'.val ≤ c.val ∧ c.val ≤ 'Z'.val) :
    c.toLower.val = c.val + 32 := by
  have lowered : c.toLower = ⟨c.val + ('a'.val - 'A'.val), _⟩ := dif_pos capital
  rw [lowered]
  rfl

/-- Letters that differ in nothing but their case have the same small letter. -/
theorem toLower_eq_of_recased (c d : Char) :
    d = c ∨ d = c.toUpper ∨ d = c.toLower → d.toLower = c.toLower := by
  rintro (rfl | rfl | rfl)
  · rfl
  · by_cases small : 'a'.val ≤ c.val ∧ c.val ≤ 'z'.val
    · have raised := val_toUpper small
      have lowered := val_toLower (c := c.toUpper) (by grind)
      have itself : c.toLower = c := dif_neg (by grind)
      rw [itself]
      exact Char.ext (by grind)
    · rw [show c.toUpper = c from dif_neg small]
  · by_cases capital : 'A'.val ≤ c.val ∧ c.val ≤ 'Z'.val
    · have lowered := val_toLower capital
      exact dif_neg (by grind)
    · rw [show c.toLower = c from dif_neg capital]
      exact dif_neg capital

theorem lower_eq_of_recased {s t : String} (same : Recased s t) : lower t = lower s := by
  rw [lower, lower, map_eq_of_related toLower_eq_of_recased same]

/-- The parameter under its name in other letters. -/
def Parameter.Recased (p q : Parameter) : Prop :=
  TableLake.Recased p.name q.name ∧ q = { p with name := q.name }

theorem Parameter.normalized_of_recased {p q : Parameter} (same : p.Recased q) :
    q.normalized = p.normalized := by
  obtain ⟨letters, rest⟩ := same
  rw [normalized, lower_eq_of_recased letters, rest]
  rfl

section

variable {α : Type} {ps qs : List Parameter} {as bs : List (Argument α)}

/-- The argument under its name in other letters, if it has one. -/
inductive Argument.Recased : Argument α → Argument α → Prop
  | positional (v : α) : Recased (.positional v) (.positional v)
  | named {m n : String} (same : TableLake.Recased m n) (v : α) :
      Recased (.named m v) (.named n v)

theorem Argument.normalized_of_recased {a b : Argument α} (same : a.Recased b) :
    b.normalized = a.normalized := by
  cases same with
  | positional v => rfl
  | named letters v => rw [normalized, lower_eq_of_recased letters, normalized]

/-- **Names may be written in letters of any case.** -/
theorem resolveArguments_of_recased (fill : ColumnType → Option α)
    (declared : List.Forall₂ Parameter.Recased ps qs)
    (given : List.Forall₂ Argument.Recased as bs) :
    resolveArguments fill qs bs = resolveArguments fill ps as := by
  have signature : qs.map Parameter.normalized = ps.map Parameter.normalized :=
    map_eq_of_related (R := Parameter.Recased) (fun _ _ => Parameter.normalized_of_recased) declared
  have arguments : bs.map Argument.normalized = as.map Argument.normalized :=
    map_eq_of_related (R := Argument.Recased) (fun _ _ => Argument.normalized_of_recased) given
  simp only [resolveArguments, normalizeParameters, normalizeArguments, signature, arguments]

/-! ## By position and by name -/

/-- Values under the names of the first parameters. -/
def underNames (ps : List Parameter) (values : List α) : List (Argument α) :=
  List.zipWith (fun p v => .named p.name v) ps values

theorem named_underNames {values : List α} {a : Argument α} (inside : a ∈ underNames ps values) :
    a.isNamed = true := by
  rw [underNames, ← List.map_uncurry_zip_eq_zipWith] at inside
  obtain ⟨pair, -, rfl⟩ := List.mem_map.mp inside
  rfl

theorem filterMap_pair?_underNames : ∀ (ps : List Parameter) (values : List α),
    (underNames ps values).filterMap Argument.pair? = (ps.map Parameter.name).zip values
  | [], _ => rfl
  | _ :: _, [] => rfl
  | p :: ps, v :: values => congrArg ((p.name, v) :: ·) (filterMap_pair?_underNames ps values)

theorem normalize_underNames (ps : List Parameter) (values : List α) :
    normalizeArguments (underNames ps values) = underNames (normalizeParameters ps) values := by
  simp [normalizeArguments, underNames, normalizeParameters, List.map_zipWith,
    List.zipWith_map_left, Argument.normalized, Parameter.normalized]

theorem pairs_underNames {values : List α} (distinct : (ps.map Parameter.name).Nodup)
    (few : values.length ≤ ps.length) :
    pairs ps (underNames ps values) = pairs ps (values.map .positional) := by
  have names : (underNames ps values).filterMap Argument.name? =
      ((ps.map Parameter.name).zip values).map Prod.fst := by
    rw [← map_fst_pair?, filterMap_pair?_underNames]
  have part := map_fst_zip_sublist (ps.map Parameter.name) values
  have once : repeatedNames (((ps.map Parameter.name).zip values).map Prod.fst) = [] :=
    (repeatedNames_eq_nil_iff _).mpr (distinct.sublist part)
  have known : undeclaredNames ps (((ps.map Parameter.name).zip values).map Prod.fst) = [] :=
    (undeclaredNames_eq_nil_iff ps _).mpr fun n inside => List.mem_map.mp (part.subset inside)
  have byPosition : pairs ps (values.map Argument.positional) =
      .ok ((ps.map Parameter.name).zip values) := by
    have positional : ∀ a ∈ values.map Argument.positional, a.isNamed = false := by
      simp [Argument.isNamed]
    have fits : ¬ps.length < (values.map Argument.positional).length := by
      simpa using few
    have given : (values.map Argument.positional).map Argument.value = values := by
      simp [Function.comp_def, Argument.value]
    rw [pairs_of_positional ps positional, if_neg fits, given]
  rw [byPosition, pairs_of_named ps fun _ => named_underNames, names, once, known,
    filterMap_pair?_underNames]

/-- **Values by position are bound as under the names of the first parameters.** -/
theorem resolveArguments_underNames (fill : ColumnType → Option α) {values : List α}
    (few : values.length ≤ ps.length) :
    resolveArguments fill ps (underNames ps values) =
      resolveArguments fill ps (values.map .positional) := by
  have unnamed : normalizeArguments (values.map Argument.positional) =
      values.map Argument.positional := by
    simp [normalizeArguments, Function.comp_def, Argument.normalized]
  rw [resolveArguments, resolveArguments, normalize_underNames, unnamed]
  cases sound : checkSignature (normalizeParameters ps) with
  | error e => rfl
  | ok _ =>
      have distinct := ((checkSignature_ok_iff _).mp sound).1
      have few : values.length ≤ (normalizeParameters ps).length := by
        simpa [normalizeParameters] using few
      show bindArguments _ _ _ = bindArguments _ _ _
      rw [bindArguments, bindArguments, pairs_underNames distinct few]

/-! ## Arguments in another order -/

/-- The same answer, or errors that list the same names. -/
inductive SameAnswer {β : Type} : Except ProcedureError β → Except ProcedureError β → Prop
  | same (answer : Except ProcedureError β) : SameAnswer answer answer
  | duplicateArguments {names names' : List String} (listed : names.Perm names') :
      SameAnswer (.error (.duplicateArguments names)) (.error (.duplicateArguments names'))
  | unknownArguments {names names' : List String} (listed : names.Perm names') :
      SameAnswer (.error (.unknownArguments names)) (.error (.unknownArguments names'))

theorem perm_firstOccurrences {names names' : List String} (same : names.Perm names') :
    (firstOccurrences names).Perm (firstOccurrences names') := by
  refine (List.perm_ext_iff_of_nodup (nodup_firstOccurrences _) (nodup_firstOccurrences _)).mpr
    fun n => ?_
  rw [mem_firstOccurrences, mem_firstOccurrences, same.mem_iff]

theorem perm_repeatedNames {names names' : List String} (same : names.Perm names') :
    (repeatedNames names).Perm (repeatedNames names') := by
  simp only [repeatedNames, same.count_eq]
  exact (perm_firstOccurrences same).filter _

/-- Arguments in another order get the same names, or are refused for the same reason. -/
theorem pairs_of_perm (ps : List Parameter) (same : as.Perm bs)
    (named : ∀ a ∈ as, a.isNamed = true) :
    (∃ entries entries', pairs ps as = .ok entries ∧ pairs ps bs = .ok entries' ∧
        entries.Perm entries' ∧ (entries.map Prod.fst).Nodup) ∨
      ∃ e e', pairs ps as = .error e ∧ pairs ps bs = .error e' ∧
        ∀ {β : Type}, SameAnswer (.error e : Except ProcedureError β) (.error e') := by
  have named' : ∀ a ∈ bs, a.isNamed = true := fun a inside => named a (same.mem_iff.mpr inside)
  rw [pairs_of_named ps named, pairs_of_named ps named']
  have names := same.filterMap Argument.name?
  have repeats := perm_repeatedNames names
  have strangers : (undeclaredNames ps (as.filterMap Argument.name?)).Perm
      (undeclaredNames ps (bs.filterMap Argument.name?)) :=
    (perm_firstOccurrences names).filter _
  have distinct : repeatedNames (as.filterMap Argument.name?) = [] →
      ((as.filterMap Argument.pair?).map Prod.fst).Nodup := by
    intro once
    rw [map_fst_pair?]
    exact (repeatedNames_eq_nil_iff _).mp once
  generalize repeatedNames (as.filterMap Argument.name?) = twice at *
  generalize repeatedNames (bs.filterMap Argument.name?) = twice' at *
  generalize undeclaredNames ps (as.filterMap Argument.name?) = unknown at *
  generalize undeclaredNames ps (bs.filterMap Argument.name?) = unknown' at *
  cases twice with
  | cons name more =>
      cases twice' with
      | nil => cases List.perm_nil.mp repeats
      | cons name' more' => exact .inr ⟨_, _, rfl, rfl, .duplicateArguments repeats⟩
  | nil =>
      cases List.nil_perm.mp repeats
      cases unknown with
      | cons name more =>
          cases unknown' with
          | nil => cases List.perm_nil.mp strangers
          | cons name' more' => exact .inr ⟨_, _, rfl, rfl, .unknownArguments strangers⟩
      | nil =>
          cases List.nil_perm.mp strangers
          exact .inl ⟨_, _, rfl, rfl, same.filterMap Argument.pair?, distinct rfl⟩

/-- **Arguments by name may stand in any order.** -/
theorem resolveArguments_of_perm (fill : ColumnType → Option α) (same : as.Perm bs)
    (named : ∀ a ∈ as, a.isNamed = true) :
    SameAnswer (resolveArguments fill ps as) (resolveArguments fill ps bs) := by
  have same' : (normalizeArguments as).Perm (normalizeArguments bs) := same.map _
  have named' := forall_isNamed_normalized.mpr named
  rw [resolveArguments, resolveArguments]
  cases checkSignature (normalizeParameters ps) with
  | error e => exact .same _
  | ok _ =>
      show SameAnswer (bindArguments _ _ _) (bindArguments _ _ _)
      rw [bindArguments, bindArguments]
      rcases pairs_of_perm (normalizeParameters ps) same' named' with
        ⟨entries, entries', here, here', perm, distinct⟩ | ⟨e, e', here, here', alike⟩
      · have found (name : String) : (OrderedMap.ofList entries').get? name =
            ((OrderedMap.ofList entries).get? name).map id := by
          rw [Option.map_id, id, OrderedMap.get?_ofList_of_perm distinct perm]
        have values := fillIn_map id found fill (normalizeParameters ps)
        simp only [Option.map_id, id, List.map_id_fun, id_map] at values
        rw [here, here']
        simp only [bind, Except.bind, unbound_map id found, values]
        exact .same _
      · rw [here, here']
        exact alike

/-- **However a call is written, it is the same call.**  As many values as there are parameters,
or fewer, are bound by position as they are under the names of the first parameters, or refused
for the same reason.  Arguments by name in another order get the same answer; only an error lists
the names at fault in another order.  The names of parameters and arguments in letters of other
cases change nothing. -/
theorem calling_styles_agree (fill : ColumnType → Option α) (ps : List Parameter) :
    (∀ values : List α, values.length ≤ ps.length →
      resolveArguments fill ps (underNames ps values) =
        resolveArguments fill ps (values.map .positional)) ∧
    (∀ as bs : List (Argument α), as.Perm bs → (∀ a ∈ as, a.isNamed = true) →
      SameAnswer (resolveArguments fill ps as) (resolveArguments fill ps bs)) ∧
    ∀ (qs : List Parameter) (as bs : List (Argument α)), List.Forall₂ Parameter.Recased ps qs →
      List.Forall₂ Argument.Recased as bs →
      resolveArguments fill qs bs = resolveArguments fill ps as :=
  ⟨fun _ few => resolveArguments_underNames fill few,
    fun _ _ same named => resolveArguments_of_perm fill same named,
    fun _ _ _ declared given => resolveArguments_of_recased fill declared given⟩

end

/-- A berth by position and by name, two unknown names in either order, and a parameter that is
declared and called in capitals. -/
theorem calling_styles_agree_berth :
    let fill : ColumnType → Option Nat := fun _ => some 0
    let ps : List Parameter := [⟨"Berth", .utf8, true, none⟩, ⟨"nights", .uint64, false, none⟩]
    let qs : List Parameter := [⟨"BERTH", .utf8, true, none⟩, ⟨"nights", .uint64, false, none⟩]
    resolveArguments fill ps [.named "Berth" 7] = resolveArguments fill ps [.positional 7] ∧
      SameAnswer (resolveArguments fill ps [.named "harbor" 1, .named "day" 2])
        (resolveArguments fill ps [.named "day" 2, .named "harbor" 1]) ∧
      resolveArguments fill qs [.named "bErTh" 7] = resolveArguments fill ps [.named "berth" 7] := by
  intro fill ps qs
  obtain ⟨byPosition, anyOrder, anyCase⟩ := calling_styles_agree fill ps
  have declared : List.Forall₂ Parameter.Recased ps qs :=
    .cons ⟨by decide, rfl⟩ (.cons ⟨by decide, rfl⟩ .nil)
  have given : List.Forall₂ Argument.Recased [.named "berth" 7] [.named "bErTh" 7] :=
    .cons (.named (by decide) 7) .nil
  exact ⟨byPosition [7] (by decide), anyOrder _ _ (.swap _ _ []) (by decide),
    anyCase qs _ _ declared given⟩

end TableLake
