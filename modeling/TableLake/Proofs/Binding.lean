/-
# TableLake.Proofs.Binding — which calls are accepted, and where their arguments go

`GoesTo` says for which parameter an argument is meant: a positional one for the
parameter at its own place, a named one for the parameter of its name.  A call is
`Admissible` if its arguments are of one style, distinct, declared and few enough, if
every required parameter gets one, and if what is left out can be filled in.  Its
answer is `Placed` if every argument stands at its parameter and nothing else but the
parameters that are left out is filled in.

Both are said for names that are compared under some `spell`.  `bindArguments`
compares them as they are: under distinct names it accepts a call iff it is admissible
(`bindArguments_ok_iff`), and its answer is placed (`placed_of_bindArguments`).
-/
import TableLake.Procedure.Binding
import TableLake.Proofs.Signature
import TableLake.Proofs.OrderedMap
import TableLake.Proofs.Outcome

namespace TableLake

open TableLake.Text

set_option autoImplicit false

section

variable {α : Type} (spell : String → String)

/-- Whether an argument at place `k` fits a parameter at place `i`. -/
def Argument.Fits (k i : Nat) (p : Parameter) : Argument α → Prop
  | .positional _ => k = i
  | .named name _ => spell name = spell p.name

/-- The argument at place `k` is meant for the parameter at place `i`. -/
def GoesTo (ps : List Parameter) (as : List (Argument α)) (k i : Nat) : Prop :=
  ∃ p a, ps[i]? = some p ∧ as[k]? = some a ∧ a.Fits spell k i p

/-- What the arguments of a call have to be for themselves. -/
structure Attachable (ps : List Parameter) (as : List (Argument α)) : Prop where
  oneStyle : (∀ a ∈ as, a.isNamed = true) ∨ (∀ a ∈ as, a.isNamed = false)
  distinct : (as.filterMap fun a => a.name?.map spell).Nodup
  declared : ∀ a ∈ as, ∀ name, a.name? = some name → ∃ p ∈ ps, spell p.name = spell name
  fewEnough : (∀ a ∈ as, a.isNamed = false) → as.length ≤ ps.length

/-- What the arguments of a call have to be for the parameters; `fillable` are the
types that have a missing value. -/
structure Admissible (fillable : ColumnType → Prop) (ps : List Parameter)
    (as : List (Argument α)) : Prop extends Attachable spell ps as where
  complete : ∀ i p, ps[i]? = some p → p.required = true → ∃ k, GoesTo spell ps as k i
  fills : ∀ i p, ps[i]? = some p → p.required = false → (¬∃ k, GoesTo spell ps as k i) →
    fillable p.type

/-- The values of the parameters: what was given for them, else what `fill` makes. -/
structure Placed (fill : ColumnType → Option α) (ps : List Parameter) (as : List (Argument α))
    (values : List α) : Prop where
  length : values.length = ps.length
  given : ∀ k i a, as[k]? = some a → GoesTo spell ps as k i → values[i]? = some a.value
  filled : ∀ i p, ps[i]? = some p → (¬∃ k, GoesTo spell ps as k i) →
    p.required = false ∧ ∃ v, fill p.type = some v ∧ values[i]? = some v
  onePlace : ∀ k < as.length, ∃! i, GoesTo spell ps as k i
  oneArgument : ∀ k k' i, GoesTo spell ps as k i → GoesTo spell ps as k' i → k = k'

end

section

variable {α : Type}

/-! ## Names at fault -/

theorem mem_firstOccurrences {n : String} : ∀ {names : List String},
    n ∈ firstOccurrences names ↔ n ∈ names
  | [] => by simp [firstOccurrences]
  | m :: names => by
      have ih : n ∈ firstOccurrences names ↔ n ∈ names := mem_firstOccurrences
      by_cases same : n = m <;> simp [firstOccurrences, same, ih]

theorem nodup_firstOccurrences : ∀ names : List String, (firstOccurrences names).Nodup
  | [] => List.nodup_nil
  | n :: names => by
      have fresh : n ∉ (firstOccurrences names).filter (· ≠ n) := by simp
      exact List.nodup_cons.mpr ⟨fresh, (nodup_firstOccurrences names).filter _⟩

theorem repeatedNames_eq_nil_iff (names : List String) :
    repeatedNames names = [] ↔ names.Nodup := by
  rw [List.nodup_iff_count_le_one, repeatedNames, List.filter_eq_nil_iff]
  constructor
  · intro once n
    by_cases inside : n ∈ names
    · have := once n (mem_firstOccurrences.mpr inside)
      simpa using this
    · simp [List.count_eq_zero_of_not_mem inside]
  · intro once n _
    simpa using once n

theorem undeclaredNames_eq_nil_iff (ps : List Parameter) (names : List String) :
    undeclaredNames ps names = [] ↔ ∀ n ∈ names, ∃ p ∈ ps, p.name = n := by
  rw [undeclaredNames, List.filter_eq_nil_iff]
  simp [mem_firstOccurrences]

/-! ## Names for the arguments -/

/-- The names and values that `pairs` finds. -/
def attached (ps : List Parameter) (as : List (Argument α)) : List (String × α) :=
  if as.any Argument.isNamed then as.filterMap Argument.pair?
  else (ps.map Parameter.name).zip (as.map Argument.value)

theorem name?_eq_none_of_positional {a : Argument α} (positional : a.isNamed = false) :
    a.name? = none := by
  cases a with
  | positional v => rfl
  | named name v => cases positional

theorem attachable_iff_of_named {ps : List Parameter} {as : List (Argument α)} (given : as ≠ [])
    (named : ∀ a ∈ as, a.isNamed = true) :
    Attachable id ps as ↔ repeatedNames (as.filterMap Argument.name?) = [] ∧
      undeclaredNames ps (as.filterMap Argument.name?) = [] := by
  rw [repeatedNames_eq_nil_iff, undeclaredNames_eq_nil_iff]
  constructor
  · intro h
    refine ⟨by simpa using h.distinct, fun n hn => ?_⟩
    obtain ⟨a, inside, hn⟩ := List.mem_filterMap.mp hn
    exact h.declared a inside n hn
  · rintro ⟨distinct, declared⟩
    refine ⟨.inl named, by simpa using distinct, fun a inside n hn => ?_, fun positional => ?_⟩
    · exact declared n (List.mem_filterMap.mpr ⟨a, inside, hn⟩)
    · obtain ⟨a, inside⟩ := List.exists_mem_of_ne_nil as given
      have := (named a inside).symm.trans (positional a inside)
      cases this

theorem attachable_iff_of_positional {ps : List Parameter} {as : List (Argument α)}
    (positional : ∀ a ∈ as, a.isNamed = false) :
    Attachable id ps as ↔ as.length ≤ ps.length := by
  have noName : ∀ a ∈ as, a.name? = none := fun a inside =>
    name?_eq_none_of_positional (positional a inside)
  constructor
  · intro h; exact h.fewEnough positional
  · intro few
    refine ⟨.inr positional, ?_, fun a inside n hn => ?_, fun _ => few⟩
    · have none_given : (as.filterMap fun a => a.name?.map id) = [] := by
        rw [List.filterMap_eq_nil_iff]
        intro a inside
        simp [noName a inside]
      rw [none_given]
      exact List.nodup_nil
    · rw [noName a inside] at hn; cases hn

/-- What becomes of arguments that all have names. -/
theorem pairs_of_named (ps : List Parameter) {as : List (Argument α)}
    (named : ∀ a ∈ as, a.isNamed = true) :
    pairs ps as =
      match repeatedNames (as.filterMap Argument.name?),
        undeclaredNames ps (as.filterMap Argument.name?) with
      | name :: more, _ => .error (.duplicateArguments (name :: more))
      | [], name :: more => .error (.unknownArguments (name :: more))
      | [], [] => .ok (as.filterMap Argument.pair?) := by
  unfold pairs
  cases as with
  | nil => simp [repeatedNames, undeclaredNames, firstOccurrences]
  | cons a as =>
      have some : (a :: as).any Argument.isNamed = true :=
        List.any_eq_true.mpr ⟨a, List.mem_cons_self, named a List.mem_cons_self⟩
      exact (if_pos some).trans (if_pos (List.all_eq_true.mpr named))

/-- What becomes of arguments none of which has a name. -/
theorem pairs_of_positional (ps : List Parameter) {as : List (Argument α)}
    (positional : ∀ a ∈ as, a.isNamed = false) :
    pairs ps as =
      if ps.length < as.length then .error (.tooManyArguments ps.length as.length)
      else .ok ((ps.map Parameter.name).zip (as.map Argument.value)) := by
  have none : as.any Argument.isNamed = false := by simpa using positional
  rw [pairs, none, if_neg Bool.false_ne_true]

theorem pairs_of_mixed (ps : List Parameter) {as : List (Argument α)} {a b : Argument α}
    (inside : a ∈ as) (named : a.isNamed = true) (inside' : b ∈ as)
    (positional : b.isNamed = false) : pairs ps as = .error .mixedStyles := by
  have some : as.any Argument.isNamed = true := List.any_eq_true.mpr ⟨a, inside, named⟩
  have notAll : ¬as.all Argument.isNamed = true := by
    intro all
    rw [List.all_eq_true.mp all b inside'] at positional
    cases positional
  rw [pairs, if_pos some, if_neg notAll]

/-- Arguments get names iff they are attachable. -/
theorem pairs_ok_iff (ps : List Parameter) (as : List (Argument α)) (entries : List (String × α)) :
    pairs ps as = .ok entries ↔ Attachable id ps as ∧ entries = attached ps as := by
  cases someNamed : as.any Argument.isNamed with
  | true =>
      obtain ⟨a, inside, named⟩ := List.any_eq_true.mp someNamed
      cases allNamed : as.all Argument.isNamed with
      | true =>
          rw [attachable_iff_of_named (List.ne_nil_of_mem inside) (List.all_eq_true.mp allNamed),
            pairs, attached]
          simp only [someNamed, allNamed, if_true]
          cases repeatedNames (as.filterMap Argument.name?) <;>
            cases undeclaredNames ps (as.filterMap Argument.name?) <;> simp [eq_comm]
      | false =>
          have mixed : ¬Attachable id ps as := by
            intro h
            rcases h.oneStyle with style | style
            · rw [List.all_eq_true.mpr style] at allNamed; cases allNamed
            · rw [style a inside] at named; cases named
          simp [pairs, someNamed, allNamed, mixed]
  | false =>
      rw [attachable_iff_of_positional (by simpa using someNamed), pairs, attached]
      simp only [someNamed, Bool.false_eq_true, if_false]
      by_cases many : ps.length < as.length
      · simp [many]
      · simp [many, Nat.le_of_not_lt many, eq_comm]

theorem map_fst_zip_sublist : ∀ (names : List String) (values : List α),
    ((names.zip values).map Prod.fst).Sublist names
  | [], _ => by simp
  | n :: names, [] => by simp
  | n :: names, v :: values => (map_fst_zip_sublist names values).cons_cons n

theorem map_fst_pair? (as : List (Argument α)) :
    (as.filterMap Argument.pair?).map Prod.fst = as.filterMap Argument.name? := by
  rw [List.map_filterMap]
  congr 1
  funext a
  cases a <;> rfl

theorem nodup_attached {ps : List Parameter} {as : List (Argument α)}
    (names : (ps.map Parameter.name).Nodup) (h : Attachable id ps as) :
    ((attached ps as).map Prod.fst).Nodup := by
  unfold attached
  split
  · rw [map_fst_pair?]
    simpa using h.distinct
  · exact names.sublist (map_fst_zip_sublist _ _)

/-! ## Where the arguments go -/

theorem goesTo_iff {spell : String → String} {ps : List Parameter} {as : List (Argument α)}
    {k i : Nat} {p : Parameter} {a : Argument α} (declared : ps[i]? = some p)
    (given : as[k]? = some a) : GoesTo spell ps as k i ↔ a.Fits spell k i p := by
  simp [GoesTo, declared, given]

theorem mem_filterMap_pair?_iff {as : List (Argument α)} {n : String} {v : α} :
    (n, v) ∈ as.filterMap Argument.pair? ↔ Argument.named n v ∈ as := by
  rw [List.mem_filterMap]
  constructor
  · rintro ⟨a, inside, pair⟩
    cases a with
    | positional w => cases pair
    | named m w => cases pair; exact inside
  · intro inside; exact ⟨_, inside, rfl⟩

theorem mem_attached_iff_of_named {ps : List Parameter} {as : List (Argument α)} {i : Nat}
    {p : Parameter} (style : ∀ a ∈ as, a.isNamed = true) (declared : ps[i]? = some p) (v : α) :
    (p.name, v) ∈ as.filterMap Argument.pair? ↔
      ∃ k a, as[k]? = some a ∧ GoesTo id ps as k i ∧ a.value = v := by
  rw [mem_filterMap_pair?_iff, List.mem_iff_getElem?]
  constructor
  · rintro ⟨k, given⟩
    exact ⟨k, _, given, (goesTo_iff declared given).mpr rfl, rfl⟩
  · rintro ⟨k, a, given, goes, rfl⟩
    rw [goesTo_iff declared given] at goes
    refine ⟨k, given.trans ?_⟩
    cases a with
    | positional w => cases style _ (List.mem_of_getElem? given)
    | named n w => rw [show n = p.name from goes]; rfl

theorem mem_attached_iff_of_positional {ps : List Parameter} {as : List (Argument α)} {i : Nat}
    {p : Parameter} (style : ∀ a ∈ as, a.isNamed = false) (names : (ps.map Parameter.name).Nodup)
    (declared : ps[i]? = some p) (v : α) :
    (p.name, v) ∈ (ps.map Parameter.name).zip (as.map Argument.value) ↔
      ∃ k a, as[k]? = some a ∧ GoesTo id ps as k i ∧ a.value = v := by
  have atName : (ps.map Parameter.name)[i]? = some p.name := by simp [declared]
  rw [List.mem_iff_getElem?]
  constructor
  · rintro ⟨k, place⟩
    obtain ⟨sameName, sameValue⟩ := List.getElem?_zip_eq_some.mp place
    have same : i = k := (List.getElem?_inj (List.getElem?_eq_some_iff.mp atName).1 names).mp
      (atName.trans sameName.symm)
    rw [List.getElem?_map, Option.map_eq_some_iff] at sameValue
    obtain ⟨a, given, rfl⟩ := sameValue
    refine ⟨k, a, given, (goesTo_iff declared given).mpr ?_, rfl⟩
    cases a with
    | positional w => exact same.symm
    | named n w => cases style _ (List.mem_of_getElem? given)
  · rintro ⟨k, a, given, goes, rfl⟩
    rw [goesTo_iff declared given] at goes
    cases a with
    | positional w =>
        have same : k = i := goes
        subst same
        exact ⟨k, List.getElem?_zip_eq_some.mpr ⟨atName, by simp [given]⟩⟩
    | named n w => cases style _ (List.mem_of_getElem? given)

/-- Under distinct names the value that stands with a parameter's name is that of the
argument that is meant for the parameter. -/
theorem mem_attached_iff {ps : List Parameter} {as : List (Argument α)}
    (names : (ps.map Parameter.name).Nodup) (h : Attachable id ps as) {i : Nat} {p : Parameter}
    (declared : ps[i]? = some p) (v : α) :
    (p.name, v) ∈ attached ps as ↔ ∃ k a, as[k]? = some a ∧ GoesTo id ps as k i ∧ a.value = v := by
  unfold attached
  split
  · rename_i someNamed
    obtain ⟨b, inside, named⟩ := List.any_eq_true.mp someNamed
    refine mem_attached_iff_of_named (h.oneStyle.resolve_right fun style => ?_) declared v
    have := (style b inside).symm.trans named
    cases this
  · rename_i noneNamed
    exact mem_attached_iff_of_positional (by simpa using noneNamed) names declared v

theorem get?_attached_iff {ps : List Parameter} {as : List (Argument α)}
    (names : (ps.map Parameter.name).Nodup) (h : Attachable id ps as) {i : Nat} {p : Parameter}
    (declared : ps[i]? = some p) (v : α) :
    (OrderedMap.ofList (attached ps as)).get? p.name = some v ↔
      ∃ k a, as[k]? = some a ∧ GoesTo id ps as k i ∧ a.value = v := by
  rw [OrderedMap.get?_ofList_eq_some_iff (nodup_attached names h), mem_attached_iff names h declared]

theorem get?_attached_eq_none_iff {ps : List Parameter} {as : List (Argument α)}
    (names : (ps.map Parameter.name).Nodup) (h : Attachable id ps as) {i : Nat} {p : Parameter}
    (declared : ps[i]? = some p) :
    (OrderedMap.ofList (attached ps as)).get? p.name = none ↔ ¬∃ k, GoesTo id ps as k i := by
  rw [Option.eq_none_iff_forall_ne_some]
  constructor
  · rintro unbound ⟨k, q, a, atPlace, given, fits⟩
    exact unbound a.value ((get?_attached_iff names h declared _).mpr
      ⟨k, a, given, ⟨q, a, atPlace, given, fits⟩, rfl⟩)
  · intro unmeant v bound
    obtain ⟨k, a, -, goes, -⟩ := (get?_attached_iff names h declared v).mp bound
    exact unmeant ⟨k, goes⟩

/-! ## The answer -/

/-- The value of a parameter, found by its name or filled in. -/
def slot (fill : ColumnType → Option α) (bound : OrderedMap String α) (p : Parameter) :
    Except ProcedureError α :=
  match bound.get? p.name with
  | some v => .ok v
  | none =>
      match fill p.type with
      | some v => .ok v
      | none => .error (.noTypedNull p.type)

theorem slot_ok_iff {fill : ColumnType → Option α} {bound : OrderedMap String α} {p : Parameter}
    {v : α} : slot fill bound p = .ok v ↔
      bound.get? p.name = some v ∨ bound.get? p.name = none ∧ fill p.type = some v := by
  unfold slot
  cases bound.get? p.name <;> cases fill p.type <;> simp

/-- Under distinct names every parameter is looked up by itself. -/
theorem fillIn_eq_mapM (fill : ColumnType → Option α) (bound : OrderedMap String α) :
    ∀ {ps : List Parameter}, (ps.map Parameter.name).Nodup →
      fillIn fill bound ps = ps.mapM (slot fill bound)
  | [], _ => rfl
  | p :: ps, names => by
      obtain ⟨fresh, names⟩ := List.nodup_cons.mp names
      have last : boundValue bound p ps = bound.get? p.name := by
        have : ¬(ps.any fun q => q.name == p.name) = true := by
          intro later
          obtain ⟨q, inside, same⟩ := List.any_eq_true.mp later
          exact fresh (List.mem_map.mpr ⟨q, inside, by simpa using same⟩)
        simp [boundValue, this]
      rw [List.mapM_cons, ← fillIn_eq_mapM fill bound names, fillIn, last, slot]
      cases bound.get? p.name <;> cases fill p.type <;> rfl

theorem unbound_eq_nil_iff (ps : List Parameter) (bound : OrderedMap String α) :
    unbound ps bound = [] ↔ ∀ p ∈ ps, p.required = true → bound.get? p.name ≠ none := by
  rw [unbound, List.map_eq_nil_iff, List.filter_eq_nil_iff]
  simp [OrderedMap.contains, ← Option.isSome_iff_ne_none]

theorem bindArguments_eq_ok_iff {fill : ColumnType → Option α} {ps : List Parameter}
    {as : List (Argument α)} (names : (ps.map Parameter.name).Nodup) {values : List α} :
    bindArguments fill ps as = .ok values ↔ Attachable id ps as ∧
      (∀ p ∈ ps, p.required = true → (OrderedMap.ofList (attached ps as)).get? p.name ≠ none) ∧
      List.Forall₂ (fun p v => slot fill (OrderedMap.ofList (attached ps as)) p = .ok v)
        ps values := by
  simp only [bindArguments, Outcome.bind_eq_ok_iff, pairs_ok_iff, ← unbound_eq_nil_iff]
  constructor
  · rintro ⟨entries, ⟨h, rfl⟩, found⟩
    refine ⟨h, ?_⟩
    cases missing : unbound ps (OrderedMap.ofList (attached ps as)) with
    | cons name more => simp [missing] at found
    | nil =>
        simp only [missing, fillIn_eq_mapM fill _ names, Outcome.mapM_eq_ok_iff] at found
        exact ⟨rfl, found⟩
  · rintro ⟨h, complete, found⟩
    refine ⟨_, ⟨h, rfl⟩, ?_⟩
    simp only [complete, fillIn_eq_mapM fill _ names, Outcome.mapM_eq_ok_iff]
    exact found

/-- **A call under distinct names is accepted iff it is admissible.** -/
theorem bindArguments_ok_iff {fill : ColumnType → Option α} {ps : List Parameter}
    {as : List (Argument α)} (names : (ps.map Parameter.name).Nodup) :
    (∃ values, bindArguments fill ps as = .ok values) ↔
      Admissible id (fun t => ∃ v, fill t = some v) ps as := by
  simp only [bindArguments_eq_ok_iff names]
  constructor
  · rintro ⟨values, h, complete, found⟩
    refine { toAttachable := h, complete := ?_, fills := ?_ }
    · intro i p declared required
      have bound := complete p (List.mem_of_getElem? declared) required
      by_contra unmeant
      exact bound ((get?_attached_eq_none_iff names h declared).mpr unmeant)
    · intro i p declared _ unmeant
      have unbound := (get?_attached_eq_none_iff names h declared).mpr unmeant
      obtain ⟨v, -, here⟩ := Outcome.related_at found declared
      rw [slot_ok_iff, unbound] at here
      exact ⟨v, by simpa using here⟩
  · intro h
    have complete : ∀ p ∈ ps, p.required = true →
        (OrderedMap.ofList (attached ps as)).get? p.name ≠ none := by
      intro p inside required unbound
      obtain ⟨i, declared⟩ := List.mem_iff_getElem?.mp inside
      exact (get?_attached_eq_none_iff names h.toAttachable declared).mp unbound
        (h.complete i p declared required)
    have fillable : ∀ p ∈ ps,
        ∃ v, slot fill (OrderedMap.ofList (attached ps as)) p = .ok v := by
      intro p inside
      simp only [slot_ok_iff]
      cases bound : (OrderedMap.ofList (attached ps as)).get? p.name with
      | some v => exact ⟨v, .inl rfl⟩
      | none =>
          obtain ⟨i, declared⟩ := List.mem_iff_getElem?.mp inside
          have optional : p.required = false := by
            by_contra required
            exact complete p inside (by simpa using required) bound
          have unmeant := (get?_attached_eq_none_iff names h.toAttachable declared).mp bound
          obtain ⟨v, filled⟩ := h.fills i p declared optional unmeant
          exact ⟨v, .inr ⟨rfl, filled⟩⟩
    obtain ⟨values, done⟩ := Outcome.exists_mapM_eq_ok fillable
    exact ⟨values, h.toAttachable, complete, Outcome.mapM_eq_ok_iff.mp done⟩

/-! ## One place for every argument -/

section

variable {spell : String → String} {ps : List Parameter} {as : List (Argument α)}

theorem place_unique (names : (ps.map fun p => spell p.name).Nodup) {k i j : Nat}
    (first : GoesTo spell ps as k i) (second : GoesTo spell ps as k j) : i = j := by
  obtain ⟨p, a, atI, given, fitsP⟩ := first
  obtain ⟨q, b, atJ, given', fitsQ⟩ := second
  rw [given] at given'
  cases given'
  cases a with
  | positional v =>
      have left : k = i := fitsP
      have right : k = j := fitsQ
      exact left.symm.trans right
  | named n v =>
      have left : spell n = spell p.name := fitsP
      have right : spell n = spell q.name := fitsQ
      have inside : i < (ps.map fun p => spell p.name).length := by
        simpa using (List.getElem?_eq_some_iff.mp atI).1
      refine (List.getElem?_inj inside names).mp ?_
      simp [atI, atJ, ← left, ← right]

theorem exists_place (h : Attachable spell ps as) {k : Nat} (inside : k < as.length) :
    ∃ i, GoesTo spell ps as k i := by
  have given : as[k]? = some as[k] := List.getElem?_eq_getElem inside
  have member : as[k] ∈ as := List.getElem_mem inside
  generalize as[k] = a at given member
  cases a with
  | named n v =>
      obtain ⟨p, known, same⟩ := h.declared _ member n rfl
      obtain ⟨i, declared⟩ := List.mem_iff_getElem?.mp known
      exact ⟨i, (goesTo_iff declared given).mpr same.symm⟩
  | positional v =>
      have style : ∀ a ∈ as, a.isNamed = false :=
        h.oneStyle.resolve_left fun named => by cases named _ member
      have few : k < ps.length := Nat.lt_of_lt_of_le inside (h.fewEnough style)
      exact ⟨k, (goesTo_iff (List.getElem?_eq_getElem few) given).mpr rfl⟩

/-- Two arguments of one name stand at one place. -/
theorem named_unique (h : Attachable spell ps as) {k k' : Nat} {n n' : String} {v v' : α}
    (first : as[k]? = some (.named n v)) (second : as[k']? = some (.named n' v'))
    (same : spell n = spell n') : k = k' := by
  have apart := List.pairwise_filterMap.mp h.distinct
  rw [List.pairwise_iff_getElem] at apart
  obtain ⟨inside, here⟩ := List.getElem?_eq_some_iff.mp first
  obtain ⟨inside', here'⟩ := List.getElem?_eq_some_iff.mp second
  rcases Nat.lt_trichotomy k k' with before | equal | after
  · exact absurd same (apart k k' inside inside' before _ (by rw [here]; rfl) _ (by rw [here']; rfl))
  · exact equal
  · exact absurd same.symm
      (apart k' k inside' inside after _ (by rw [here']; rfl) _ (by rw [here]; rfl))

theorem argument_unique (h : Attachable spell ps as) {k k' i : Nat}
    (first : GoesTo spell ps as k i) (second : GoesTo spell ps as k' i) : k = k' := by
  obtain ⟨p, a, declared, given, fits⟩ := first
  obtain ⟨q, b, declared', given', fits'⟩ := second
  rw [declared] at declared'
  cases declared'
  cases a with
  | positional v =>
      cases b with
      | positional w => exact Eq.trans (b := i) fits (Eq.symm fits')
      | named n w =>
          rcases h.oneStyle with style | style
          · cases style _ (List.mem_of_getElem? given)
          · cases style _ (List.mem_of_getElem? given')
  | named n v =>
      cases b with
      | positional w =>
          rcases h.oneStyle with style | style
          · cases style _ (List.mem_of_getElem? given')
          · cases style _ (List.mem_of_getElem? given)
      | named m w => exact named_unique h given given' (Eq.trans (b := spell p.name) fits (Eq.symm fits'))

end

theorem placed_of_bindArguments {fill : ColumnType → Option α} {ps : List Parameter}
    {as : List (Argument α)} {values : List α} (names : (ps.map Parameter.name).Nodup)
    (bound : bindArguments fill ps as = .ok values) : Placed id fill ps as values := by
  obtain ⟨h, complete, found⟩ := (bindArguments_eq_ok_iff names).mp bound
  refine ⟨found.length_eq.symm, ?_, ?_, fun k inside => ?_, fun _ _ _ => argument_unique h⟩
  · intro k i a given goes
    obtain ⟨p, b, declared, given', fits⟩ := goes
    have here := (get?_attached_iff names h declared a.value).mpr
      ⟨k, a, given, ⟨p, b, declared, given', fits⟩, rfl⟩
    obtain ⟨v, at_i, value⟩ := Outcome.related_at found declared
    rw [slot_ok_iff, here] at value
    rw [at_i]
    simpa [eq_comm] using value
  · intro i p declared unmeant
    have unbound := (get?_attached_eq_none_iff names h declared).mpr unmeant
    obtain ⟨v, at_i, value⟩ := Outcome.related_at found declared
    rw [slot_ok_iff, unbound] at value
    refine ⟨?_, v, by simpa using value, at_i⟩
    by_contra required
    exact complete p (List.mem_of_getElem? declared) (by simpa using required) unbound
  · obtain ⟨i, goes⟩ := exists_place h inside
    exact ⟨i, goes, fun j other => place_unique names other goes⟩

end

end TableLake
