/-
# TableLake.Proofs.Placement — binding by a table of positions

Binding can be done with a table that has the position of every name and a row with one place a
parameter: a value that was given for a name is put down at the position of the name.  Two things
could go wrong.  A name may not be in the table, and a position may lie beyond the row
(`PlacementFault`).  They do not, and nothing is asked of the signature for it: if several
parameters have one name, the table has the last of them, as `boundValue` has, and the row is at
every time what `fillIn` would start from if nothing more came (`putDown_row`, `putAll_row`).  So
the table binds what `bindArguments` binds, in whatever order the values are put down
(`bindByPosition_eq`).

Where an argument went is seen when the arguments are bound under their numbers (`numbered`): it
stands at a parameter of the name that it is bound under (`BoundUnder`), or nowhere.
`binding_safe` puts both together.
-/
import TableLake.Proofs.MarkerBinding

namespace TableLake

open TableLake.Outcome TableLake.Sql

set_option autoImplicit false

/-! ## A table of positions -/

/-- Why a value cannot be put down. -/
inductive PlacementFault where
  | unknownName (name : String)
  | beyond (position : Nat)
deriving DecidableEq, Repr

/-- The position of every name, counted from a start; of a name that comes again, the last. -/
def positionsFrom (start : Nat) (ps : List Parameter) : OrderedMap String Nat :=
  OrderedMap.ofList ((ps.map Parameter.name).zipIdx start)

/-- The position of every name. -/
def positions (ps : List Parameter) : OrderedMap String Nat := positionsFrom 0 ps

section

variable {α : Type}

/-- Put a value down at the position of its name. -/
def putDown (table : OrderedMap String Nat) (places : List (Option α)) (entry : String × α) :
    Except PlacementFault (List (Option α)) :=
  match table.get? entry.1 with
  | none => .error (.unknownName entry.1)
  | some i =>
      if i < places.length then .ok (places.set i (some entry.2)) else .error (.beyond i)

/-- Put values down one after the other. -/
def putAll (table : OrderedMap String Nat) (places : List (Option α))
    (entries : List (String × α)) : Except PlacementFault (List (Option α)) :=
  entries.foldlM (putDown table) places

/-- What stands at a parameter, or the missing value of its type. -/
def takeUp (fill : ColumnType → Option α) (p : Parameter) : Option α → Except ProcedureError α
  | some v => .ok v
  | none =>
      match fill p.type with
      | some v => .ok v
      | none => .error (.noTypedNull p.type)

/-- Bind the arguments of a call by a table of positions; `listing` is the order in which the
values are put down. -/
def bindByPosition (listing : OrderedMap String α → List (String × α))
    (fill : ColumnType → Option α) (ps : List Parameter) (as : List (Argument α)) :
    Except PlacementFault (Except ProcedureError (List α)) :=
  match pairs ps as with
  | .error e => .ok (.error e)
  | .ok entries =>
      let bound := OrderedMap.ofList entries
      match unbound ps bound with
      | name :: more => .ok (.error (.missingRequired (name :: more)))
      | [] => do
          let places ← putAll (positions ps) (List.replicate ps.length none) (listing bound)
          return (ps.zip places).mapM fun place => takeUp fill place.1 place.2

/-! ## The last parameter of a name -/

/-- At a position stands the last parameter of a name. -/
def LastNamed (ps : List Parameter) (n : String) (i : Nat) : Prop :=
  ∃ p, ps[i]? = some p ∧ p.name = n ∧ ∀ q ∈ ps.drop (i + 1), q.name ≠ n

variable {ps : List Parameter} {p : Parameter} {n : String} {i : Nat}

theorem lastNamed_cons_zero_iff :
    LastNamed (p :: ps) n 0 ↔ p.name = n ∧ ∀ q ∈ ps, q.name ≠ n := by
  simp [LastNamed]

theorem lastNamed_cons_succ_iff : LastNamed (p :: ps) n (i + 1) ↔ LastNamed ps n i := by
  simp [LastNamed]

theorem LastNamed.lt_length (last : LastNamed ps n i) : i < ps.length := by
  obtain ⟨p, here, -⟩ := last
  exact (List.getElem?_eq_some_iff.mp here).1

theorem get?_positionsFrom_eq_none_iff {start : Nat} :
    (positionsFrom start ps).get? n = none ↔ ∀ q ∈ ps, q.name ≠ n := by
  rw [positionsFrom, OrderedMap.get?_ofList_eq_none_iff]
  simp

theorem positionsFrom_cons (start : Nat) (p : Parameter) (ps : List Parameter) (n : String) :
    (positionsFrom start (p :: ps)).get? n =
      ((positionsFrom (start + 1) ps).get? n).or (if p.name = n then some start else none) :=
  OrderedMap.get?_ofList_cons _ _ _ _

/-- **The table has the last position of every name.** -/
theorem get?_positionsFrom_eq_some_iff : ∀ {ps : List Parameter} {start : Nat},
    (positionsFrom start ps).get? n = some i ↔ ∃ j, LastNamed ps n j ∧ i = start + j
  | [], start => by
      refine iff_of_false (by rintro ⟨⟩) ?_
      rintro ⟨j, last, -⟩
      cases last.lt_length
  | p :: ps, start => by
      rw [positionsFrom_cons, Option.or_eq_some_iff, get?_positionsFrom_eq_some_iff,
        get?_positionsFrom_eq_none_iff]
      constructor
      · rintro (⟨j, last, rfl⟩ | ⟨none_later, here⟩)
        · exact ⟨j + 1, lastNamed_cons_succ_iff.mpr last, by omega⟩
        · split at here
          · rename_i same
            cases here
            exact ⟨0, lastNamed_cons_zero_iff.mpr ⟨same, none_later⟩, rfl⟩
          · cases here
      · rintro ⟨_ | j, last, rfl⟩
        · obtain ⟨same, none_later⟩ := lastNamed_cons_zero_iff.mp last
          exact .inr ⟨none_later, if_pos same⟩
        · exact .inl ⟨j, lastNamed_cons_succ_iff.mp last, by omega⟩

theorem get?_positions_eq_some_iff : (positions ps).get? n = some i ↔ LastNamed ps n i := by
  simp [positions, get?_positionsFrom_eq_some_iff]

/-! ## The row -/

/-- What stands at the parameters once the values of a dictionary have been put down. -/
def row (bound : OrderedMap String α) : List Parameter → List (Option α)
  | [] => []
  | p :: ps => boundValue bound p ps :: row bound ps

variable {bound bound' : OrderedMap String α} {v : α}

theorem length_row : ∀ ps : List Parameter, (row bound ps).length = ps.length
  | [] => rfl
  | _ :: ps => congrArg Nat.succ (length_row ps)

theorem getElem?_row : ∀ (ps : List Parameter) (i : Nat),
    (row bound ps)[i]? = ps[i]?.map fun p => boundValue bound p (ps.drop (i + 1))
  | [], _ => by simp [row]
  | p :: ps, 0 => by simp [row]
  | p :: ps, i + 1 => by
      rw [row, List.getElem?_cons_succ, getElem?_row ps i, List.getElem?_cons_succ]
      rfl

theorem row_empty : ∀ ps : List Parameter,
    row (∅ : OrderedMap String α) ps = List.replicate ps.length none
  | [] => rfl
  | p :: ps => by
      have nothing : boundValue (∅ : OrderedMap String α) p ps = none := by
        unfold boundValue
        split <;> rfl
      rw [row, nothing, row_empty ps]
      rfl

theorem row_congr (same : ∀ n, bound'.get? n = bound.get? n) : ∀ ps : List Parameter,
    row bound' ps = row bound ps
  | [] => rfl
  | p :: ps => by
      rw [row, row, row_congr same ps, boundValue, boundValue, same]

/-- A value of another name changes nothing. -/
theorem row_insert_of_absent (bound : OrderedMap String α) (v : α) : ∀ {ps : List Parameter},
    (∀ q ∈ ps, q.name ≠ n) → row (bound.insert n v) ps = row bound ps
  | [], _ => rfl
  | p :: ps, absent => by
      obtain ⟨other, later⟩ := List.forall_mem_cons.mp absent
      rw [row, row, row_insert_of_absent bound v later, boundValue, boundValue,
        OrderedMap.get?_insert, if_neg other.symm]

/-- A value is put down at the last parameter of its name. -/
theorem row_insert (bound : OrderedMap String α) (v : α) : ∀ {ps : List Parameter} {i : Nat},
    LastNamed ps n i → row (bound.insert n v) ps = (row bound ps).set i (some v)
  | [], _, last => by cases last.lt_length
  | p :: ps, 0, last => by
      obtain ⟨rfl, later⟩ := lastNamed_cons_zero_iff.mp last
      have alone : ¬(ps.any fun q => q.name == p.name) = true := by simpa using later
      rw [row, row, row_insert_of_absent bound v later, boundValue, if_neg alone,
        OrderedMap.get?_insert, if_pos rfl]
      rfl
  | p :: ps, i + 1, last => by
      have last := lastNamed_cons_succ_iff.mp last
      have here : boundValue (bound.insert n v) p ps = boundValue bound p ps := by
        rw [boundValue, boundValue, OrderedMap.get?_insert]
        by_cases same : n = p.name
        · -- the name comes again behind `p`
          obtain ⟨q, there, named, -⟩ := last
          have again : (ps.any fun q => q.name == p.name) = true :=
            List.any_eq_true.mpr ⟨q, List.mem_of_getElem? there, by simp [named, same]⟩
          rw [if_pos again, if_pos again]
        · rw [if_neg same]
      rw [row, row, here, row_insert bound v last]
      rfl

/-- **One step.**  A value of a known name is put down, and nothing goes wrong. -/
theorem putDown_row (bound : OrderedMap String α) (v : α) (known : ∃ p ∈ ps, p.name = n) :
    putDown (positions ps) (row bound ps) (n, v) = .ok (row (bound.insert n v) ps) := by
  cases found : (positions ps).get? n with
  | none =>
      obtain ⟨p, inside, same⟩ := known
      exact absurd same (get?_positionsFrom_eq_none_iff.mp found p inside)
  | some i =>
      have last := get?_positions_eq_some_iff.mp found
      have within : i < (row bound ps).length := by
        rw [length_row]
        exact last.lt_length
      simp only [putDown, found, if_pos within, row_insert bound v last]

/-- **All steps.** -/
theorem putAll_row : ∀ (entries : List (String × α)) (bound : OrderedMap String α),
    (∀ entry ∈ entries, ∃ p ∈ ps, p.name = entry.1) →
      putAll (positions ps) (row bound ps) entries = .ok (row (bound.insertAll entries) ps)
  | [], _, _ => rfl
  | (n, v) :: entries, bound, known => by
      obtain ⟨here, later⟩ := List.forall_mem_cons.mp known
      rw [putAll, List.foldlM_cons, putDown_row bound v here]
      exact putAll_row entries (bound.insert n v) later

/-- What `fillIn` makes is taken up from the row. -/
theorem fillIn_eq_row (fill : ColumnType → Option α) (bound : OrderedMap String α) :
    ∀ ps : List Parameter, fillIn fill bound ps =
      (ps.zip (row bound ps)).mapM fun place => takeUp fill place.1 place.2
  | [] => rfl
  | p :: ps => by
      rw [fillIn, fillIn_eq_row fill bound ps, row, List.zip_cons_cons, List.mapM_cons]
      cases boundValue bound p ps with
      | some v => rfl
      | none =>
          simp only [takeUp]
          cases fill p.type <;> rfl

/-! ## Both ways of binding -/

/-- A name that arguments are attached to is that of a parameter. -/
theorem known_of_pairs {as : List (Argument α)} {entries : List (String × α)}
    (attached : pairs ps as = .ok entries) {entry : String × α} (inside : entry ∈ entries) :
    ∃ p ∈ ps, p.name = entry.1 := by
  obtain ⟨h, rfl⟩ := (pairs_ok_iff ps as entries).mp attached
  unfold TableLake.attached at inside
  split at inside
  · obtain ⟨a, given, pair⟩ := List.mem_filterMap.mp inside
    cases a with
    | positional w => cases pair
    | named m w =>
        cases pair
        exact h.declared _ given m rfl
  · exact List.mem_map.mp (List.of_mem_zip inside).1

/-- **The table binds what is bound without it**, in whatever order the values are put down: no
name is missing in it, and no position lies beyond the row. -/
theorem bindByPosition_eq {listing : OrderedMap String α → List (String × α)}
    (complete : ∀ bound, (listing bound).Perm bound.entries) (fill : ColumnType → Option α)
    (ps : List Parameter) (as : List (Argument α)) :
    bindByPosition listing fill ps as = .ok (bindArguments fill ps as) := by
  rw [bindByPosition, bindArguments]
  cases attached : pairs ps as with
  | error e => rfl
  | ok entries =>
      simp only [bind, Except.bind]
      cases unbound ps (OrderedMap.ofList entries) with
      | cons name more => rfl
      | nil =>
          have listed := complete (OrderedMap.ofList entries)
          have known : ∀ entry ∈ listing (OrderedMap.ofList entries),
              ∃ p ∈ ps, p.name = entry.1 := by
            rintro ⟨n, v⟩ inside
            have found := (OrderedMap.get?_eq_some_iff _ n v).mpr (listed.mem_iff.mp inside)
            exact known_of_pairs attached (OrderedMap.mem_of_get?_ofList found)
          have places : row (OrderedMap.ofList (listing (OrderedMap.ofList entries))) ps =
              row (OrderedMap.ofList entries) ps :=
            row_congr (OrderedMap.get?_ofList_of_listed listed) ps
          have run : putAll (positions ps) (List.replicate ps.length none)
              (listing (OrderedMap.ofList entries)) = .ok (row (OrderedMap.ofList entries) ps) := by
            rw [← row_empty, putAll_row _ _ known, ← places]
            rfl
          simp only [run, fillIn_eq_row]
          rfl

/-! ## Where an argument goes -/

/-- An argument is bound under a name: its own, or that of the parameter at its place. -/
inductive BoundUnder (ps : List Parameter) (as : List (Argument α)) (k : Nat) : String → Prop
  | named {n : String} {v : α} (given : as[k]? = some (.named n v)) : BoundUnder ps as k n
  | positional {p : Parameter} {v : α} (given : as[k]? = some (.positional v))
      (declared : ps[k]? = some p) : BoundUnder ps as k p.name

variable {as : List (Argument α)} {k : Nat} {m : String}

theorem BoundUnder.unique (first : BoundUnder ps as k n) (second : BoundUnder ps as k m) :
    n = m := by
  cases first with
  | named given =>
      cases second with
      | named given' =>
          rw [given] at given'
          cases given'
          rfl
      | positional given' =>
          rw [given] at given'
          cases given'
  | positional given declared =>
      cases second with
      | named given' =>
          rw [given] at given'
          cases given'
      | positional _ declared' =>
          rw [declared] at declared'
          cases declared'
          rfl

/-- A name and a value that are attached to each other are those of an argument. -/
theorem exists_boundUnder {entries : List (String × α)} (attached : pairs ps as = .ok entries)
    (inside : (n, v) ∈ entries) :
    ∃ k a, as[k]? = some a ∧ a.value = v ∧ BoundUnder ps as k n := by
  obtain ⟨-, rfl⟩ := (pairs_ok_iff ps as entries).mp attached
  unfold TableLake.attached at inside
  split at inside
  · obtain ⟨k, given⟩ := List.mem_iff_getElem?.mp (mem_filterMap_pair?_iff.mp inside)
    exact ⟨k, _, given, rfl, .named given⟩
  · rename_i unnamed
    obtain ⟨k, here⟩ := List.mem_iff_getElem?.mp inside
    obtain ⟨name, value⟩ := List.getElem?_zip_eq_some.mp here
    rw [List.getElem?_map, Option.map_eq_some_iff] at name value
    obtain ⟨p, declared, rfl⟩ := name
    obtain ⟨a, given, rfl⟩ := value
    cases a with
    | named m w => exact absurd (List.any_eq_true.mpr ⟨_, List.mem_of_getElem? given, rfl⟩) unnamed
    | positional w => exact ⟨k, _, given, rfl, .positional given declared⟩

/-- The values of an accepted call are taken up from the row. -/
theorem taken_of_bindArguments {fill : ColumnType → Option α} {values : List α}
    (done : bindArguments fill ps as = .ok values) :
    ∃ entries, pairs ps as = .ok entries ∧
      List.Forall₂ (fun place v => takeUp fill place.1 place.2 = .ok v)
        (ps.zip (row (OrderedMap.ofList entries) ps)) values := by
  obtain ⟨entries, attached, done⟩ := bind_eq_ok_iff.mp done
  refine ⟨entries, attached, ?_⟩
  simp only at done
  split at done
  · cases done
  · rwa [fillIn_eq_row, mapM_eq_ok_iff] at done

theorem length_of_bindArguments {fill : ColumnType → Option α} {values : List α}
    (done : bindArguments fill ps as = .ok values) : values.length = ps.length := by
  obtain ⟨entries, -, taken⟩ := taken_of_bindArguments done
  rw [← taken.length_eq, List.length_zip, length_row, Nat.min_self]

/-- **What stands at a parameter** was given under its name, or is the missing value of its
type. -/
theorem origin_of_bindArguments {fill : ColumnType → Option α} {values : List α}
    (done : bindArguments fill ps as = .ok values) (declared : ps[i]? = some p) :
    (∃ k a, as[k]? = some a ∧ BoundUnder ps as k p.name ∧ values[i]? = some a.value) ∨
      ∃ v, fill p.type = some v ∧ values[i]? = some v := by
  obtain ⟨entries, attached, taken⟩ := taken_of_bindArguments done
  have place : (ps.zip (row (OrderedMap.ofList entries) ps))[i]? =
      some (p, boundValue (OrderedMap.ofList entries) p (ps.drop (i + 1))) :=
    List.getElem?_zip_eq_some.mpr ⟨declared, by rw [getElem?_row, declared]; rfl⟩
  obtain ⟨v, here, stands⟩ := related_at taken place
  cases kept : boundValue (OrderedMap.ofList entries) p (ps.drop (i + 1)) with
  | some w =>
      rw [kept] at stands
      cases stands
      unfold boundValue at kept
      split at kept
      · cases kept
      · obtain ⟨k, a, given, rfl, under⟩ :=
          exists_boundUnder attached (OrderedMap.mem_of_get?_ofList kept)
        exact .inl ⟨k, a, given, under, here⟩
  | none =>
      simp only [kept, takeUp] at stands
      split at stands
      · rename_i filled
        cases stands
        exact .inr ⟨_, filled, here⟩
      · cases stands

/-! ## Arguments under their numbers -/

/-- The arguments with their places for their values. -/
def numbered (as : List (Argument α)) : List (Argument (Slot as.length)) :=
  List.ofFn fun k => (as[k]).map fun _ => .argument k

theorem exists_of_numbered {a : Argument (Slot as.length)} (given : (numbered as)[k]? = some a) :
    ∃ inside : k < as.length, a = (as[k]).map fun _ => .argument ⟨k, inside⟩ := by
  rw [numbered, List.getElem?_ofFn] at given
  split at given
  · rename_i inside
    cases given
    exact ⟨inside, rfl⟩
  · cases given

theorem BoundUnder.of_numbered (under : BoundUnder ps (numbered as) k n) :
    BoundUnder ps as k n := by
  cases under with
  | named given =>
      obtain ⟨inside, same⟩ := exists_of_numbered given
      have there := List.getElem?_eq_getElem inside
      generalize as[k] = a at same there
      cases a with
      | named m w =>
          cases same
          exact .named there
      | positional w => cases same
  | positional given declared =>
      obtain ⟨inside, same⟩ := exists_of_numbered given
      have there := List.getElem?_eq_getElem inside
      generalize as[k] = a at same there
      cases a with
      | named m w => cases same
      | positional w => exact .positional there declared

theorem map_numbered (as : List (Argument Expr)) :
    (numbered as).map (Argument.map (Slot.expr fun k => as[k].value)) = as := by
  have back (k : Fin as.length) :
      (as[k].map fun _ => Slot.argument k).map (Slot.expr fun k => as[k].value) = as[k] := by
    generalize given : as[k] = a
    cases a <;> simp [Argument.map, Slot.expr, given, Argument.value]
  rw [numbered, List.map_ofFn]
  exact (congrArg List.ofFn (funext back)).trans List.ofFn_getElem

/-- **Binding is safe for itself.**  Whatever the parameters are, their names repeated or out of
order, and whatever the arguments are: a binding by a table of positions finds every name in the
table and every position in the row, in whatever order the values are put down, and comes to the
same answer.  If the answer is a list of values, there is one for every parameter.  Bound under
their numbers, the arguments show where each value is from: it is that of an argument that was bound
under the parameter's own name, or the missing value of the parameter's own type.  So an argument
that was bound under one name does not stand at a parameter of another. -/
theorem binding_safe (ps : List Parameter) (as : List (Argument Expr)) :
    (∀ listing : OrderedMap String Expr → List (String × Expr),
      (∀ bound, (listing bound).Perm bound.entries) →
        bindByPosition listing Expr.typedNull ps as = .ok (bindArguments Expr.typedNull ps as)) ∧
    ∀ values, bindArguments Expr.typedNull ps as = .ok values →
      values.length = ps.length ∧
      ∃ slots : List (Slot as.length), bindArguments Slot.blank ps (numbered as) = .ok slots ∧
        values = slots.map (Slot.expr fun k => as[k].value) ∧
        (∀ (i : Nat) (p : Parameter), ps[i]? = some p →
          (∃ k, slots[i]? = some (.argument k) ∧ BoundUnder ps as k p.name) ∨
            slots[i]? = some (.missing p.type)) ∧
        ∀ (i : Nat) (p : Parameter) (k : Fin as.length) (n : String), ps[i]? = some p →
          BoundUnder ps as k n → p.name ≠ n → slots[i]? ≠ some (.argument k) := by
  refine ⟨fun listing complete => bindByPosition_eq complete _ ps as, fun values done => ?_⟩
  have whole := bindArguments_map (Slot.expr fun k => as[k].value) Slot.blank ps (numbered as)
  rw [Slot.map_blank, map_numbered, done, eq_comm, map_eq_ok_iff] at whole
  obtain ⟨slots, found, rfl⟩ := whole
  have origin (i : Nat) (p : Parameter) (declared : ps[i]? = some p) :
      (∃ k, slots[i]? = some (.argument k) ∧ BoundUnder ps as k p.name) ∨
        slots[i]? = some (.missing p.type) := by
    rcases origin_of_bindArguments found declared with ⟨k, a, given, under, here⟩ | ⟨v, blank, here⟩
    · obtain ⟨inside, rfl⟩ := exists_of_numbered given
      rw [value_map] at here
      exact .inl ⟨⟨k, inside⟩, here, under.of_numbered⟩
    · unfold Slot.blank at blank
      split at blank
      · cases blank
        exact .inr here
      · cases blank
  refine ⟨length_of_bindArguments done, slots, found, rfl, origin, ?_⟩
  intro i p k n declared under other stands
  rcases origin i p declared with ⟨k', here, own⟩ | missing
  · rw [here] at stands
    cases stands
    exact other (own.unique under)
  · rw [missing] at stands
    cases stands

end

/-- Two berths around a day.  The last value that is given for a berth goes to the last one, and the
first berth is left out; the day is not mistaken for either. -/
theorem binding_safe_berths :
    let ps : List Parameter :=
      [⟨"berth", .utf8, true, none⟩, ⟨"day", .int64, false, none⟩, ⟨"berth", .utf8, false, none⟩]
    let as : List (Argument Expr) := [.positional (.literal (.ofText "north")),
      .positional (.literal (.ofInt64 3)), .positional (.literal (.ofText "south"))]
    let values : List Expr :=
      [.literal (.missing .utf8), .literal (.ofInt64 3), .literal (.ofText "south")]
    checkSignature ps = .error (.duplicateParameters ["berth"]) ∧
      bindByPosition (fun bound => bound.entries.reverse) Expr.typedNull ps as =
        .ok (.ok values) ∧
      ∃ slots : List (Slot as.length), values = slots.map (Slot.expr fun k => as[k].value) ∧
        slots[0]? ≠ some (.argument 1) ∧ slots[1]? ≠ some (.argument 2) := by
  intro ps as values
  obtain ⟨byPosition, bound⟩ := binding_safe ps as
  have done : bindArguments Expr.typedNull ps as = .ok values := by decide +kernel
  obtain ⟨-, slots, -, filled, -, apart⟩ := bound values done
  have day : BoundUnder ps as 1 "day" := .positional (p := ⟨"day", .int64, false, none⟩) rfl rfl
  have south : BoundUnder ps as 2 "berth" :=
    .positional (p := ⟨"berth", .utf8, false, none⟩) rfl rfl
  refine ⟨by decide +kernel, ?_, slots, filled, apart 0 _ 1 "day" rfl day (by decide),
    apart 1 _ 2 "berth" rfl south (by decide)⟩
  rw [byPosition _ fun bound => List.reverse_perm _, done]

end TableLake
