/-
# TableLake.Proofs.MarkerBinding — markers stand for the values of a call

Binding moves values and never looks at them: what `resolveArguments` makes of arguments
whose values have been changed is what it makes of the arguments, changed in the same way
(`resolveArguments_map`), and it refuses both for the same reason.

A call is bound over markers, and over the values themselves it could only be bound after
all of them have been planned.  Both are readings of one binding, over slots: a slot is the
place of an argument, or the missing value of a type.  A slot is not mistaken for another
when it is read as a literal and recognised (`planBound_expr`), whatever the types of the
parameters and the values are.  `markers_stand_for_values` says what follows for a call.
-/
import TableLake.Call
import TableLake.Proofs.Resolution

namespace TableLake

open TableLake.Text TableLake.Outcome TableLake.Sql

set_option autoImplicit false

/-! ## Binding does not look at values -/

section

variable {α β : Type} (f : α → β)

/-- The argument with its value changed. -/
def Argument.map : Argument α → Argument β
  | .positional v => .positional (f v)
  | .named name v => .named name (f v)

@[simp]
theorem isNamed_map (a : Argument α) : (a.map f).isNamed = a.isNamed := by cases a <;> rfl

@[simp]
theorem name?_map (a : Argument α) : (a.map f).name? = a.name? := by cases a <;> rfl

@[simp]
theorem value_map (a : Argument α) : (a.map f).value = f a.value := by cases a <;> rfl

@[simp]
theorem pair?_map (a : Argument α) : (a.map f).pair? = a.pair?.map (Prod.map id f) := by
  cases a <;> rfl

theorem normalized_map (a : Argument α) : (a.map f).normalized = a.normalized.map f := by
  cases a <;> rfl

theorem normalizeArguments_map (as : List (Argument α)) :
    normalizeArguments (as.map (Argument.map f)) = (normalizeArguments as).map (Argument.map f) := by
  simp [normalizeArguments, normalized_map]

theorem pairs_map (ps : List Parameter) (as : List (Argument α)) :
    pairs ps (as.map (Argument.map f)) = List.map (Prod.map id f) <$> pairs ps as := by
  have named : (as.map (Argument.map f)).any Argument.isNamed = as.any Argument.isNamed := by
    simp [Function.comp_def]
  have allNamed : (as.map (Argument.map f)).all Argument.isNamed = as.all Argument.isNamed := by
    simp [Function.comp_def]
  have names : (as.map (Argument.map f)).filterMap Argument.name? =
      as.filterMap Argument.name? := by
    simp [List.filterMap_map]
  have given : (as.map (Argument.map f)).filterMap Argument.pair? =
      (as.filterMap Argument.pair?).map (Prod.map id f) := by
    simp [List.filterMap_map, List.map_filterMap]
  have inOrder : (ps.map Parameter.name).zip ((as.map (Argument.map f)).map Argument.value) =
      ((ps.map Parameter.name).zip (as.map Argument.value)).map (Prod.map id f) := by
    rw [← List.zip_map_right]
    simp [Function.comp_def]
  unfold pairs
  simp only [named, allNamed, names, given, inOrder, List.length_map]
  split
  · split
    · cases repeatedNames (as.filterMap Argument.name?) with
      | cons name more => rfl
      | nil => cases undeclaredNames ps (as.filterMap Argument.name?) <;> rfl
    · rfl
  · split <;> rfl

variable {bound : OrderedMap String α} {bound' : OrderedMap String β}

theorem unbound_map (same : ∀ name, bound'.get? name = (bound.get? name).map f)
    (ps : List Parameter) : unbound ps bound' = unbound ps bound := by
  simp [unbound, OrderedMap.contains, same]

theorem boundValue_map (same : ∀ name, bound'.get? name = (bound.get? name).map f)
    (p : Parameter) (later : List Parameter) :
    boundValue bound' p later = (boundValue bound p later).map f := by
  unfold boundValue
  split
  · rfl
  · exact same p.name

theorem fillIn_map (same : ∀ name, bound'.get? name = (bound.get? name).map f)
    (fill : ColumnType → Option α) : ∀ ps : List Parameter,
      fillIn (fun t => (fill t).map f) bound' ps = List.map f <$> fillIn fill bound ps
  | [] => rfl
  | p :: ps => by
      rw [fillIn, fillIn, boundValue_map f same, fillIn_map same fill ps]
      cases boundValue bound p ps with
      | some v => cases fillIn fill bound ps <;> rfl
      | none =>
          cases fill p.type with
          | none => rfl
          | some v => cases fillIn fill bound ps <;> rfl

theorem bindArguments_map (fill : ColumnType → Option α) (ps : List Parameter)
    (as : List (Argument α)) :
    bindArguments (fun t => (fill t).map f) ps (as.map (Argument.map f)) =
      List.map f <$> bindArguments fill ps as := by
  unfold bindArguments
  rw [pairs_map]
  cases pairs ps as with
  | error e => rfl
  | ok entries =>
      have same := OrderedMap.get?_ofList_map f entries
      have changed : (List.map (Prod.map id f) <$> Except.ok entries : Except ProcedureError _) =
          .ok (entries.map (Prod.map id f)) := rfl
      simp only [changed, bind, Except.bind, unbound_map f same]
      cases unbound ps (OrderedMap.ofList entries) with
      | cons name more => rfl
      | nil => exact fillIn_map f same fill ps

/-- **Changed values are bound as the values are, or refused for the same reason.** -/
theorem resolveArguments_map (fill : ColumnType → Option α) (ps : List Parameter)
    (as : List (Argument α)) :
    resolveArguments (fun t => (fill t).map f) ps (as.map (Argument.map f)) =
      List.map f <$> resolveArguments fill ps as := by
  simp only [resolveArguments, normalizeArguments_map, bindArguments_map]
  cases checkSignature (normalizeParameters ps) <;> rfl

end

/-! ## Slots -/

/-- What can stand at a parameter of a call with so many arguments: the place of one of them,
or the missing value of a type. -/
inductive Slot (n : Nat) where
  | argument (place : Fin n)
  | missing (type : ColumnType)

namespace Slot

variable {n : Nat}

/-- The missing value of a type, where it has one. -/
def blank (type : ColumnType) : Option (Slot n) :=
  if type.hasTypedNull then some (.missing type) else none

/-- The expression at a slot, under expressions for the arguments. -/
def expr (value : Fin n → Expr) : Slot n → Expr
  | .argument place => value place
  | .missing type => .literal (.missing type)

/-- The expression at a slot, where the expressions for the arguments may be refused. -/
def planned (plans : Fin n → Except EngineError Expr) : Slot n → Except EngineError Expr
  | .argument place => plans place
  | .missing type => .ok (.literal (.missing type))

theorem planned_of_ok {plans : Fin n → Except EngineError Expr} {value : Fin n → Expr}
    (accepted : ∀ place, plans place = .ok (value place)) (s : Slot n) :
    s.planned plans = .ok (s.expr value) := by
  cases s with
  | argument place => exact accepted place
  | missing type => rfl

theorem map_blank (value : Fin n → Expr) :
    (fun t => (blank t).map (expr value)) = Expr.typedNull := by
  funext t
  unfold blank Expr.typedNull
  split <;> rfl

end Slot

/-- An argument under a name, or without one. -/
def Argument.under {α : Type} : Option String → α → Argument α
  | none, v => .positional v
  | some name, v => .named name v

theorem map_under {α β : Type} (f : α → β) (name : Option String) (v : α) :
    (Argument.under name v).map f = .under name (f v) := by
  cases name <;> rfl

theorem value_under {α : Type} (name : Option String) (v : α) :
    (Argument.under name v).value = v := by
  cases name <;> rfl

theorem fits_under {α β : Type} {spell : String → String} {k i : Nat} {p : Parameter}
    {name : Option String} (v : α) (w : β) :
    (Argument.under name v).Fits spell k i p ↔ (Argument.under name w).Fits spell k i p := by
  cases name <;> rfl

namespace Call

variable {ρ : Type} {plan : ρ → Except EngineError Expr} {ps : List Parameter}
variable {arguments : List (Option String × ρ)}

/-- The arguments of a call as they are written. -/
def written (arguments : List (Option String × ρ)) : List (Argument ρ) :=
  arguments.map fun a => .under a.1 a.2

/-- The arguments of a call with their places for their values. -/
def slots (arguments : List (Option String × ρ)) : List (Argument (Slot arguments.length)) :=
  List.ofFn fun place => .under arguments[place].1 (.argument place)

/-- The values of the parameters, where all arguments are planned before they are bound. -/
def bindValues (plan : ρ → Except EngineError Expr) (ps : List Parameter)
    (arguments : List (Option String × ρ)) : Except EngineError (List Scalar) := do
  let planned ← arguments.mapM fun a => Argument.under a.1 <$> plan a.2
  let resolved ← (resolveArguments Expr.typedNull ps planned).mapError .procedure
  (ps.zip resolved).mapM fun (p, e) => constant p.name e p.type

theorem slots_map (value : Fin arguments.length → Expr) :
    (slots arguments).map (Argument.map (Slot.expr value)) =
      List.ofFn fun place => Argument.under arguments[place].1 (value place) := by
  simp [slots, List.map_ofFn, Function.comp_def, map_under, Slot.expr]

theorem markers_cons (i : Nat) (a : Option String × ρ) (rest : List (Option String × ρ)) :
    markers i (a :: rest) = .under a.1 (marker i) :: markers (i + 1) rest := by
  obtain ⟨_ | name, v⟩ := a <;> rfl

theorem getElem?_markers : ∀ (i : Nat) (arguments : List (Option String × ρ)) (k : Nat),
    (markers i arguments)[k]? = arguments[k]?.map fun a => .under a.1 (marker (i + k))
  | _, [], _ => by simp [markers]
  | i, a :: rest, 0 => by
      rw [markers_cons]
      rfl
  | i, a :: rest, k + 1 => by
      rw [markers_cons, List.getElem?_cons_succ, getElem?_markers (i + 1) rest k,
        List.getElem?_cons_succ, Nat.add_right_comm, Nat.add_assoc]

theorem markers_eq : markers 0 arguments =
    (slots arguments).map (Argument.map (Slot.expr fun place => marker place)) := by
  rw [slots_map]
  refine List.ext_getElem? fun k => ?_
  rw [getElem?_markers, List.getElem?_ofFn, Nat.zero_add]
  split
  · rename_i inside
    rw [List.getElem?_eq_getElem inside]
    rfl
  · rename_i outside
    rw [List.getElem?_eq_none (Nat.le_of_not_lt outside)]
    rfl

theorem markedPlace?_missing (type : ColumnType) :
    markedPlace? (.literal (.missing type)) = none := by
  simp [markedPlace?, Scalar.missing]

theorem planBound_expr (s : Slot arguments.length) :
    planBound plan arguments (s.expr fun place => marker place) =
      s.planned fun place => plan arguments[place].2 := by
  cases s with
  | argument place =>
      have here : arguments[(place : Nat)]? = some arguments[place] :=
        List.getElem?_eq_getElem place.isLt
      have marked : markedPlace? (marker place) = some (place : Nat) := rfl
      simp only [planBound, Slot.expr, marked, here]
      rfl
  | missing type => simp [planBound, Slot.expr, markedPlace?_missing, Slot.planned]

/-- To bind the expressions for the arguments is to bind their places. -/
theorem resolveArguments_slots (value : Fin arguments.length → Expr) :
    resolveArguments Expr.typedNull ps
        (List.ofFn fun place => Argument.under arguments[place].1 (value place)) =
      List.map (Slot.expr value) <$> resolveArguments Slot.blank ps (slots arguments) := by
  rw [← slots_map, ← Slot.map_blank value, resolveArguments_map]

/-- A call binds the places of its arguments, and then plans what stands at each parameter. -/
theorem bindCall_eq : bindCall plan ps arguments = (do
    let bound ← (resolveArguments Slot.blank ps (slots arguments)).mapError .procedure
    (ps.zip bound).mapM fun (p, s) => do
      constant p.name (← s.planned fun place => plan arguments[place].2) p.type) := by
  unfold bindCall
  rw [markers_eq, slots_map, resolveArguments_slots]
  cases resolveArguments Slot.blank ps (slots arguments) with
  | error e => rfl
  | ok bound =>
      show (ps.zip (bound.map _)).mapM _ = (ps.zip bound).mapM _
      rw [List.zip_map_right, List.mapM_map]
      congr 1
      funext ⟨p, s⟩
      show (do constant p.name (← planBound plan arguments (s.expr _)) p.type) = _
      rw [planBound_expr]

theorem bindValues_eq {value : Fin arguments.length → Expr}
    (accepted : ∀ place, plan arguments[place].2 = .ok (value place)) :
    bindValues plan ps arguments = (do
      let bound ← (resolveArguments Slot.blank ps (slots arguments)).mapError .procedure
      (ps.zip bound).mapM fun (p, s) => constant p.name (s.expr value) p.type) := by
  have planned : (arguments.mapM fun a => Argument.under a.1 <$> plan a.2) =
      .ok (List.ofFn fun place => Argument.under arguments[place].1 (value place)) := by
    refine mapM_eq_ok_iff.mpr (List.forall₂_iff_get.mpr ⟨by simp, fun k inside _ => ?_⟩)
    rw [List.get_eq_getElem, List.get_eq_getElem, List.getElem_ofFn]
    exact map_eq_ok_iff.mpr ⟨_, accepted ⟨k, inside⟩, rfl⟩
  unfold bindValues
  rw [planned]
  show ((resolveArguments _ ps _).mapError _ >>= _) = _
  rw [resolveArguments_slots]
  cases resolveArguments Slot.blank ps (slots arguments) with
  | error e => rfl
  | ok bound =>
      show (ps.zip (bound.map _)).mapM _ = (ps.zip bound).mapM _
      rw [List.zip_map_right, List.mapM_map]
      rfl

theorem goesTo_slots {spell : String → String} {k i : Nat} :
    GoesTo spell ps (slots arguments) k i ↔ GoesTo spell ps (written arguments) k i := by
  unfold GoesTo slots written
  rw [List.getElem?_ofFn, List.getElem?_map]
  split
  · rename_i inside
    rw [List.getElem?_eq_getElem inside]
    simp [fits_under (β := ρ) (Slot.argument _) arguments[k].2]
  · rename_i outside
    rw [List.getElem?_eq_none (Nat.le_of_not_lt outside)]
    simp

/-- At a parameter stands the place of the argument that is meant for it, or, where there is
none, the missing value of its type. -/
theorem slot_at {bound : List (Slot arguments.length)} {i : Nat} {p : Parameter}
    (resolved : resolveArguments Slot.blank ps (slots arguments) = .ok bound)
    (declared : ps[i]? = some p) :
    (∃ place : Fin arguments.length, GoesTo lower ps (written arguments) place i ∧
      bound[i]? = some (.argument place)) ∨
    ((¬∃ k, GoesTo lower ps (written arguments) k i) ∧ p.required = false ∧
      bound[i]? = some (.missing p.type)) := by
  have placed := placed_of_resolveArguments resolved
  by_cases meant : ∃ k, GoesTo lower ps (written arguments) k i
  · obtain ⟨k, goes⟩ := meant
    have goes' := goesTo_slots.mpr goes
    have ⟨_, a, _, given, _⟩ := goes'
    have inside : k < arguments.length := by
      simpa [slots] using (List.getElem?_eq_some_iff.mp given).1
    have value : a.value = .argument ⟨k, inside⟩ := by
      rw [slots, List.getElem?_ofFn, dif_pos inside] at given
      rw [← Option.some.inj given, value_under]
    exact .inl ⟨⟨k, inside⟩, goes, value ▸ placed.given k i a given goes'⟩
  · obtain ⟨optional, s, filled, here⟩ :=
      placed.filled i p declared fun ⟨k, goes⟩ => meant ⟨k, goesTo_slots.mp goes⟩
    have blank : s = .missing p.type := by
      unfold Slot.blank at filled
      split at filled
      · exact (Option.some.inj filled).symm
      · cases filled
    exact .inr ⟨meant, optional, blank ▸ here⟩

end Call

/-- A parameter is found under its name in letters of any case. -/
theorem BoundArguments.value?_of_declared {ps : List Parameter} {values : List Scalar} {i : Nat}
    {p : Parameter} {name : String} (distinct : (ps.map fun p => lower p.name).Nodup)
    (declared : ps[i]? = some p) (same : lower name = lower p.name) :
    (BoundArguments.mk ps values).value? name = values[i]? := by
  obtain ⟨inside, rfl⟩ := List.getElem?_eq_some_iff.mp declared
  have place : (ps.findIdx? fun p => sameLetters p.name name) = some i := by
    refine List.findIdx?_eq_some_iff_getElem.mpr ⟨inside, by simp [sameLetters, same], ?_⟩
    intro j before again
    have earlier : j < ps.length := before.trans inside
    have again : lower ps[j].name = lower ps[i].name := by simpa [sameLetters, same] using again
    have equal : j = i := (List.getElem?_inj (by simpa using earlier) distinct).mp
      (by simp [earlier, inside, again])
    exact absurd equal before.ne
  rw [BoundArguments.value?, place]
  rfl

theorem constant_missing (name : String) (type : ColumnType) :
    constant name (.literal (.missing type)) type = .ok (.missing type) := by
  have folded : fold (.literal (.missing type)) = .ok (.literal (.missing type)) := rfl
  have itself : (Scalar.missing type).cast type = .ok (.missing type) := if_pos rfl
  unfold constant
  rw [folded]
  show ((Scalar.missing type).cast type).mapError _ = _
  rw [itself]
  rfl

/-! ## Markers -/

namespace Call

variable {ρ : Type} {plan : ρ → Except EngineError Expr} {ps : List Parameter}
variable {arguments : List (Option String × ρ)}

/-- If all arguments can be planned, it does not matter whether they are planned before. -/
theorem bindCall_eq_bindValues (plans : ∀ a ∈ arguments, ∃ e, plan a.2 = .ok e) :
    bindCall plan ps arguments = bindValues plan ps arguments := by
  have each (place : Fin arguments.length) : ∃ e, plan arguments[place].2 = .ok e :=
    plans _ (List.getElem_mem place.isLt)
  choose value planned using each
  rw [bindCall_eq, bindValues_eq planned]
  simp only [Slot.planned_of_ok planned]
  rfl

/-- What is refused under some values is refused before any are planned. -/
theorem bindCall_of_refused {value : ρ → Expr} {e : ProcedureError}
    (refused : resolveArguments Expr.typedNull ps
      (arguments.map fun a => .under a.1 (value a.2)) = .error e) :
    bindCall plan ps arguments = .error (.procedure e) := by
  have byPlace : (arguments.map fun a => Argument.under a.1 (value a.2)) =
      List.ofFn fun place => Argument.under arguments[place].1 (value arguments[place].2) :=
    List.ext_getElem (by simp) (by simp)
  rw [byPlace, resolveArguments_slots] at refused
  cases resolved : resolveArguments Slot.blank ps (slots arguments) with
  | ok bound =>
      rw [resolved] at refused
      cases refused
  | error e' =>
      rw [resolved] at refused
      cases refused
      rw [bindCall_eq, resolved]
      rfl

/-- Bound over markers, a parameter has the marker of the argument that is meant for it, or the
missing value of its type, which is no marker. -/
theorem marker_at {bound : List Expr} {i : Nat} {p : Parameter}
    (resolved : resolveArguments Expr.typedNull ps (markers 0 arguments) = .ok bound)
    (declared : ps[i]? = some p) :
    ∃ e, bound[i]? = some e ∧
      ((∃ k, k < arguments.length ∧ GoesTo lower ps (written arguments) k i ∧ e = marker k ∧
          markedPlace? e = some k) ∨
        (¬∃ k, GoesTo lower ps (written arguments) k i) ∧ p.required = false ∧
          e = .literal (.missing p.type) ∧ markedPlace? e = none) := by
  rw [markers_eq, slots_map, resolveArguments_slots, map_eq_ok_iff] at resolved
  obtain ⟨slots, resolved, rfl⟩ := resolved
  rw [List.getElem?_map]
  rcases slot_at resolved declared with ⟨place, goes, here⟩ | ⟨unmeant, optional, here⟩
  · rw [here]
    exact ⟨_, rfl, .inl ⟨place, place.isLt, goes, rfl, rfl⟩⟩
  · rw [here]
    exact ⟨_, rfl, .inr ⟨unmeant, optional, rfl, markedPlace?_missing p.type⟩⟩

/-- The answer shows under a parameter's name the value of the argument that is meant for it, or
the missing value of its type. -/
theorem value?_of_bindCall {values : List Scalar} {i : Nat} {p : Parameter} {name : String}
    (accepted : bindCall plan ps arguments = .ok values) (declared : ps[i]? = some p)
    (same : lower name = lower p.name) :
    ∃ v, (BoundArguments.mk ps values).value? name = some v ∧
      ((∃ k a e, arguments[k]? = some a ∧ GoesTo lower ps (written arguments) k i ∧
          plan a.2 = .ok e ∧ constant p.name e p.type = .ok v) ∨
        (¬∃ k, GoesTo lower ps (written arguments) k i) ∧ p.required = false ∧
          v = .missing p.type) := by
  rw [bindCall_eq, bind_eq_ok_iff] at accepted
  obtain ⟨bound, resolved, accepted⟩ := accepted
  have resolved := mapError_eq_ok_iff.mp resolved
  have sound := (resolveArguments_eq_ok_iff.mp resolved).1
  have made := mapM_eq_ok_iff.mp accepted
  rw [BoundArguments.value?_of_declared sound.distinct declared same]
  rcases slot_at resolved declared with ⟨place, goes, here⟩ | ⟨unmeant, optional, here⟩
  · have pair : (ps.zip bound)[i]? = some (p, .argument place) :=
      List.getElem?_zip_eq_some.mpr ⟨declared, here⟩
    obtain ⟨v, there, made⟩ := related_at made pair
    obtain ⟨e, planned, cast⟩ := bind_eq_ok_iff.mp made
    exact ⟨v, there, .inl ⟨place, _, e, List.getElem?_eq_getElem place.isLt, goes, planned, cast⟩⟩
  · have pair : (ps.zip bound)[i]? = some (p, .missing p.type) :=
      List.getElem?_zip_eq_some.mpr ⟨declared, here⟩
    obtain ⟨v, there, made⟩ := related_at made pair
    obtain ⟨e, planned, cast⟩ := bind_eq_ok_iff.mp made
    cases planned
    rw [constant_missing] at cast
    exact ⟨v, there, .inr ⟨unmeant, optional, (Except.ok.inj cast).symm⟩⟩

end Call

/-- **To bind a call over markers is to bind its values.**  If all arguments can be planned,
the call gets what it would get if they were planned first, bound, and what each parameter then
has folded and cast.  What the binding would refuse under any values is refused in the same
words, however the arguments are planned, and so also where none of them can be.  In between,
each parameter has the marker of the argument that is meant for it, which is known for this
place again and for no other, or the missing value of its type, which is not taken for a marker.

So the call's answer shows, under the name of a parameter in letters of any case, the value of
the argument that is meant for the parameter, or the missing value where there is none. -/
theorem markers_stand_for_values {ρ : Type} (plan : ρ → Except EngineError Expr)
    (ps : List Parameter) (arguments : List (Option String × ρ)) :
    ((∀ a ∈ arguments, ∃ e, plan a.2 = .ok e) →
      Call.bindCall plan ps arguments = Call.bindValues plan ps arguments) ∧
    (∀ (value : ρ → Expr) (e : ProcedureError),
      resolveArguments Expr.typedNull ps (arguments.map fun a => .under a.1 (value a.2)) =
        .error e → Call.bindCall plan ps arguments = .error (.procedure e)) ∧
    (∀ bound, resolveArguments Expr.typedNull ps (Call.markers 0 arguments) = .ok bound →
      ∀ i p, ps[i]? = some p → ∃ e, bound[i]? = some e ∧
        ((∃ k, k < arguments.length ∧ GoesTo lower ps (Call.written arguments) k i ∧
            e = Call.marker k ∧ Call.markedPlace? e = some k) ∨
          (¬∃ k, GoesTo lower ps (Call.written arguments) k i) ∧ p.required = false ∧
            e = .literal (.missing p.type) ∧ Call.markedPlace? e = none)) ∧
    ∀ values, Call.bindCall plan ps arguments = .ok values →
      ∀ i p name, ps[i]? = some p → lower name = lower p.name →
        ∃ v, (BoundArguments.mk ps values).value? name = some v ∧
          ((∃ k a e, arguments[k]? = some a ∧ GoesTo lower ps (Call.written arguments) k i ∧
              plan a.2 = .ok e ∧ constant p.name e p.type = .ok v) ∨
            (¬∃ k, GoesTo lower ps (Call.written arguments) k i) ∧ p.required = false ∧
              v = .missing p.type) :=
  ⟨Call.bindCall_eq_bindValues, fun _ _ refused => Call.bindCall_of_refused refused,
    fun _ resolved _ _ declared => Call.marker_at resolved declared,
    fun _ accepted _ _ _ declared same => Call.value?_of_bindCall accepted declared same⟩

/-- Arguments by name in another order; the number to keep looks like a marker for the argument
behind it, and no time is given. -/
theorem markers_stand_for_values_keep :
    let ps : List Parameter := [⟨"table", .utf8, true, none⟩, ⟨"Keep", .uint64, true, none⟩,
      ⟨"since", .uint64, false, none⟩]
    let arguments : List (Option String × Expr) :=
      [(some "KEEP", .literal (.ofUInt64 1)), (some "Table", .literal (.ofText "lake.boats"))]
    let values : List Scalar := [.ofText "lake.boats", .ofUInt64 1, .missing .uint64]
    Call.bindCall .ok ps arguments = .ok values ∧ Call.bindValues .ok ps arguments = .ok values ∧
      ∃ e, constant "Keep" e .uint64 = .ok (.ofUInt64 1) ∧
        (BoundArguments.mk ps values).value? "kEEP" = some (.ofUInt64 1) := by
  intro ps arguments values
  have accepted : (Call.bindCall .ok ps arguments).toOption = some values := by decide +kernel
  have accepted := toOption_eq_some_iff.mp accepted
  obtain ⟨same, -, -, found⟩ := markers_stand_for_values .ok ps arguments
  have planned : ∀ a ∈ arguments, ∃ e, Except.ok a.2 = (.ok e : Except EngineError Expr) :=
    fun a _ => ⟨a.2, rfl⟩
  have meant : GoesTo lower ps (Call.written arguments) 0 1 :=
    ⟨_, _, rfl, rfl, show lower "KEEP" = lower "Keep" by decide⟩
  have looked : (BoundArguments.mk ps values).value? "kEEP" = some (.ofUInt64 1) := by
    decide +kernel
  obtain ⟨v, shown, given | ⟨unmeant, -⟩⟩ := found values accepted 1 _ "kEEP" rfl (by decide)
  · obtain ⟨-, -, e, -, -, -, cast⟩ := given
    rw [looked] at shown
    cases shown
    exact ⟨accepted, (same planned).symm.trans accepted, e, cast, looked⟩
  · exact absurd ⟨0, meant⟩ unmeant

end TableLake
