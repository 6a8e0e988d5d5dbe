/-
# TableLake.Proofs.BindingFault — what a call is refused for, and in which words

A call can be wrong in several ways at once.  `CallFault` says of an error that it tells one of
them, and all of it: it names whatever is at fault, once each and in order, and nothing else.
There is a turn for each kind of fault (`ProcedureError.turn`), and a call has at most one fault
a turn (`CallFault.unique`).  `resolveArguments` refuses a call for the fault whose turn comes
first (`resolveArguments_refuses`); a call without a fault it can refuse only for a type that
has no missing value.

Names at fault are listed where they come for the first or for the second time.  Both walks
over the names are one, `occurrences`, and `Lists` says what it finds (`lists_occurrences`).
-/
import TableLake.Proofs.Resolution
import Mathlib.Data.List.Perm.Subperm

namespace TableLake

open TableLake.Text TableLake.Outcome

set_option autoImplicit false

/-! ## Names in the order in which they come -/

/-- After some of the names one has come more than `k` times and the other has not. -/
def ComesBefore (k : Nat) (names : List String) (m n : String) : Prop :=
  ∃ i, k < (names.take i).count m ∧ (names.take i).count n ≤ k

/-- The names with a property that come more than `k` times, once each, in the order in which
they come the time after the `k`-th. -/
structure Lists (k : Nat) (names : List String) (property : String → Prop)
    (listed : List String) : Prop where
  mem_iff : ∀ n, n ∈ listed ↔ k < names.count n ∧ property n
  once : listed.Nodup
  inOrder : listed.Pairwise (ComesBefore k names)

/-- The names that come the time after the `k`-th, at that place; `before` are those passed. -/
def occurrences (k : Nat) (before : List String) : List String → List String
  | [] => []
  | n :: ns =>
      if before.count n = k then n :: occurrences k (n :: before) ns
      else occurrences k (n :: before) ns

section

variable {k : Nat} {names listed listed' : List String} {property property' : String → Prop}
variable {m n : String}

theorem ComesBefore.asymm (first : ComesBefore k names m n) : ¬ComesBefore k names n m := by
  rintro ⟨j, many', few'⟩
  obtain ⟨i, many, few⟩ := first
  rcases Nat.le_total i j with le | le
  · have grown : (names.take i).count m ≤ (names.take j).count m :=
      (List.take_sublist_take_left le).count_le m
    omega
  · have grown : (names.take j).count n ≤ (names.take i).count n :=
      (List.take_sublist_take_left le).count_le n
    omega

theorem Lists.unique (lists : Lists k names property listed)
    (lists' : Lists k names property listed') : listed = listed' := by
  have same : listed.Perm listed' :=
    (List.perm_ext_iff_of_nodup lists.once lists'.once).mpr fun n =>
      (lists.mem_iff n).trans (lists'.mem_iff n).symm
  exact same.eq_of_pairwise (fun _ _ _ _ first second => absurd second first.asymm)
    lists.inOrder lists'.inOrder

theorem mem_occurrences : ∀ {before names : List String},
    n ∈ occurrences k before names ↔ before.count n ≤ k ∧ k < before.count n + names.count n
  | before, [] => by simp [occurrences]
  | before, m :: names => by
      have ih : n ∈ occurrences k (m :: before) names ↔ _ := mem_occurrences
      rw [List.count_cons] at ih ⊢
      unfold occurrences
      by_cases same : m = n
      · subst same
        split
        · simp
          omega
        · rw [ih]
          simp
          omega
      · split
        · simp [Ne.symm same, ih, same]
        · simp [ih, same]

/-- What is passed stays in front of what is still to come, so that both make up the same list
at every step. -/
theorem pairwise_occurrences : ∀ {before names : List String},
    (occurrences k before names).Pairwise (ComesBefore k (before.reverse ++ names))
  | before, [] => .nil
  | before, m :: names => by
      have ih : (occurrences k (m :: before) names).Pairwise
          (ComesBefore k ((m :: before).reverse ++ names)) := pairwise_occurrences
      have whole : (m :: before).reverse ++ names = before.reverse ++ m :: names := by simp
      have passed : (before.reverse ++ m :: names).take (before.length + 1) =
          (m :: before).reverse := by
        rw [← whole]
        exact List.take_left' (by simp)
      rw [whole] at ih
      unfold occurrences
      split
      · rename_i here
        refine List.pairwise_cons.mpr ⟨fun n later => ⟨before.length + 1, ?_⟩, ih⟩
        rw [passed, List.count_reverse, List.count_reverse]
        refine ⟨?_, (mem_occurrences.mp later).1⟩
        rw [List.count_cons_self, here]
        exact Nat.lt_succ_self k
      · exact ih

/-- **The walk lists the names.** -/
theorem lists_occurrences (k : Nat) (names : List String) :
    Lists k names (fun _ => True) (occurrences k [] names) := by
  have inOrder : (occurrences k [] names).Pairwise (ComesBefore k names) :=
    @pairwise_occurrences k [] names
  refine ⟨fun n => ?_, inOrder.imp fun before => ?_, inOrder⟩
  · simp [mem_occurrences]
  · rintro rfl
    exact before.asymm before

theorem secondOccurrences_eq : ∀ before names : List String,
    secondOccurrences before names = occurrences 1 before names
  | _, [] => rfl
  | before, n :: ns => by
      rw [secondOccurrences, occurrences, secondOccurrences_eq (n :: before) ns]

theorem filter_firstOccurrences : ∀ before names : List String,
    (firstOccurrences names).filter (· ∉ before) = occurrences 0 before names
  | _, [] => rfl
  | before, n :: ns => by
      have ih := filter_firstOccurrences (n :: before) ns
      have later : ((firstOccurrences ns).filter (· ≠ n)).filter (· ∉ before) =
          occurrences 0 (n :: before) ns := by
        rw [← ih, List.filter_filter]
        refine List.filter_congr fun m _ => ?_
        simp [Bool.and_comm]
      unfold firstOccurrences occurrences
      by_cases known : n ∈ before
      · have some : before.count n ≠ 0 := fun none => List.count_eq_zero.mp none known
        rw [List.filter_cons_of_neg (by simpa using known), later, if_neg some]
      · have none : before.count n = 0 := List.count_eq_zero.mpr known
        rw [List.filter_cons_of_pos (by simpa using known), later, if_pos none]

theorem firstOccurrences_eq (names : List String) :
    firstOccurrences names = occurrences 0 [] names := by
  rw [← filter_firstOccurrences]
  simp

theorem firstOccurrences_of_nodup : ∀ {names : List String}, names.Nodup →
    firstOccurrences names = names
  | [], _ => rfl
  | n :: names, distinct => by
      obtain ⟨fresh, distinct⟩ := List.nodup_cons.mp distinct
      rw [firstOccurrences, firstOccurrences_of_nodup distinct, List.filter_eq_self.mpr]
      intro m inside
      simpa using fun same : m = n => fresh (same ▸ inside)

theorem Lists.sublist (lists : Lists k names (fun _ => True) listed)
    (part : listed'.Sublist listed) (mem : ∀ n, n ∈ listed' ↔ n ∈ listed ∧ property n) :
    Lists k names property listed' := by
  refine ⟨fun n => ?_, lists.once.sublist part, lists.inOrder.sublist part⟩
  rw [mem, lists.mem_iff, and_true]

theorem lists_filter_firstOccurrences {keep : String → Bool}
    (kept : ∀ n, keep n = true ↔ property n) :
    Lists 0 names property ((firstOccurrences names).filter keep) := by
  rw [firstOccurrences_eq]
  exact (lists_occurrences 0 names).sublist List.filter_sublist fun n => by
    rw [List.mem_filter, kept]

/-- Distinct names come in the order in which they stand. -/
theorem lists_of_nodup (distinct : names.Nodup) : Lists 0 names (fun _ => True) names := by
  have itself : occurrences 0 [] names = names := by
    rw [← firstOccurrences_eq]
    exact firstOccurrences_of_nodup distinct
  have lists := lists_occurrences 0 names
  rwa [itself] at lists

end

/-! ## Faults -/

section

variable {α : Type} {ps : List Parameter} {as : List (Argument α)} {e e' : ProcedureError}

/-- The names that the arguments of a call give, in small letters. -/
def givenNames (as : List (Argument α)) : List String :=
  as.filterMap fun a => a.name?.map lower

/-- An error tells a fault of a call, all of it and nothing else. -/
inductive CallFault (ps : List Parameter) (as : List (Argument α)) : ProcedureError → Prop
  | duplicateParameters {names : List String} (nonempty : names ≠ [])
      (lists : Lists 1 (ps.map fun p => lower p.name) (fun _ => True) names) :
      CallFault ps as (.duplicateParameters names)
  | requiredAfterOptional {before after : List Parameter} {p q : Parameter}
      (parts : ps = before ++ p :: q :: after) (optional : p.required = false)
      (required : q.required = true) (first : RequiredFirst (before ++ [p])) :
      CallFault ps as (.requiredAfterOptional (lower p.name) (lower q.name))
  | mixedStyles (named : ∃ a ∈ as, a.isNamed = true) (positional : ∃ a ∈ as, a.isNamed = false) :
      CallFault ps as .mixedStyles
  | duplicateArguments {names : List String} (nonempty : names ≠ [])
      (lists : Lists 0 (givenNames as) (fun n => 1 < (givenNames as).count n) names) :
      CallFault ps as (.duplicateArguments names)
  | unknownArguments {names : List String} (nonempty : names ≠ [])
      (lists : Lists 0 (givenNames as) (fun n => ∀ p ∈ ps, lower p.name ≠ n) names) :
      CallFault ps as (.unknownArguments names)
  | tooManyArguments (many : ps.length < as.length) :
      CallFault ps as (.tooManyArguments ps.length as.length)
  | missingRequired {names : List String} (nonempty : names ≠ [])
      (lists : Lists 0 (ps.map fun p => lower p.name)
        (fun n => ∃ i p, ps[i]? = some p ∧ lower p.name = n ∧ p.required = true ∧
          ¬∃ k, GoesTo lower ps as k i) names) :
      CallFault ps as (.missingRequired names)

/-- The turn of an error among the faults of a call. -/
def ProcedureError.turn : ProcedureError → Nat
  | .duplicateParameters _ => 0
  | .requiredAfterOptional _ _ => 1
  | .mixedStyles => 2
  | .duplicateArguments _ => 3
  | .unknownArguments _ => 4
  | .tooManyArguments _ _ => 5
  | .missingRequired _ => 6
  | _ => 7

/-- The fault of a call whose turn comes first. -/
structure FirstFault (ps : List Parameter) (as : List (Argument α)) (e : ProcedureError) : Prop where
  fault : CallFault ps as e
  first : ∀ e', CallFault ps as e' → e.turn ≤ e'.turn

/-! ## Each fault for itself -/

theorem exists_of_firstInversion {p q : Parameter} : ∀ {ps : List Parameter},
    firstInversion ps = some (p, q) → ∃ before after, ps = before ++ p :: q :: after ∧
      p.required = false ∧ q.required = true ∧ firstInversion (before ++ [p]) = none
  | [], found => by cases found
  | [r], found => by cases found
  | r :: s :: ps, found => by
      rw [firstInversion] at found
      split at found
      · rename_i inverted
        cases found
        have kinds : p.required = false ∧ q.required = true := by simpa using inverted
        exact ⟨[], ps, rfl, kinds.1, kinds.2, rfl⟩
      · rename_i kept
        obtain ⟨before, after, parts, optional, required, first⟩ := exists_of_firstInversion found
        refine ⟨r :: before, after, by rw [parts]; rfl, optional, required, ?_⟩
        -- the member after `r` is `p` itself, or the first of those before it
        cases before with
        | nil =>
            cases parts
            exact (if_neg kept).trans first
        | cons s' before =>
            cases parts
            exact (if_neg kept).trans first

theorem firstInversion_of_parts {p q : Parameter} {after : List Parameter}
    (optional : p.required = false) (required : q.required = true) : ∀ {before : List Parameter},
    firstInversion (before ++ [p]) = none → firstInversion (before ++ p :: q :: after) = some (p, q)
  | [], _ => by simp [firstInversion, optional, required]
  | [r], first => by
      have kept : ¬(!r.required && p.required) = true := by simp [optional]
      rw [List.singleton_append, firstInversion, if_neg kept]
      exact @firstInversion_of_parts p q _ optional required [] rfl
  | r :: s :: before, first => by
      have first : firstInversion (r :: s :: (before ++ [p])) = none := first
      rw [firstInversion] at first
      split at first
      · cases first
      · rename_i kept
        have later := @firstInversion_of_parts p q after optional required (s :: before) first
        exact (if_neg kept).trans later

/-- The first inversion is the first pair of neighbours out of order: up to there the order
is kept. -/
theorem firstInversion_eq_some_iff {p q : Parameter} :
    firstInversion ps = some (p, q) ↔ ∃ before after, ps = before ++ p :: q :: after ∧
      p.required = false ∧ q.required = true ∧ RequiredFirst (before ++ [p]) := by
  simp only [← firstInversion_eq_none_iff]
  constructor
  · exact exists_of_firstInversion
  · rintro ⟨before, after, rfl, optional, required, first⟩
    exact firstInversion_of_parts optional required first

theorem firstInversion_normalized : ∀ ps : List Parameter, firstInversion (normalizeParameters ps) =
    (firstInversion ps).map (Prod.map Parameter.normalized Parameter.normalized)
  | [] => rfl
  | [p] => rfl
  | p :: q :: ps => by
      have later := firstInversion_normalized (q :: ps)
      have kinds : (normalizeParameters (p :: q :: ps)) =
          p.normalized :: q.normalized :: normalizeParameters ps := rfl
      rw [kinds, firstInversion, firstInversion]
      have kind (p : Parameter) : p.normalized.required = p.required := rfl
      rw [kind, kind]
      split
      · rfl
      · exact later

/-- A call has at most one fault a turn. -/
theorem CallFault.unique (fault : CallFault ps as e) (fault' : CallFault ps as e')
    (sameTurn : e.turn = e'.turn) : e = e' := by
  cases fault with
  | duplicateParameters _ lists =>
      cases fault' with
      | duplicateParameters _ lists' => rw [lists.unique lists']
      | _ => cases sameTurn
  | requiredAfterOptional parts optional required first =>
      cases fault' with
      | requiredAfterOptional parts' optional' required' first' =>
          have here := firstInversion_eq_some_iff.mpr ⟨_, _, parts, optional, required, first⟩
          have here' := firstInversion_eq_some_iff.mpr ⟨_, _, parts', optional', required', first'⟩
          rw [here] at here'
          cases here'
          rfl
      | _ => cases sameTurn
  | mixedStyles =>
      cases fault' with
      | mixedStyles => rfl
      | _ => cases sameTurn
  | duplicateArguments _ lists =>
      cases fault' with
      | duplicateArguments _ lists' => rw [lists.unique lists']
      | _ => cases sameTurn
  | unknownArguments _ lists =>
      cases fault' with
      | unknownArguments _ lists' => rw [lists.unique lists']
      | _ => cases sameTurn
  | tooManyArguments =>
      cases fault' with
      | tooManyArguments => rfl
      | _ => cases sameTurn
  | missingRequired _ lists =>
      cases fault' with
      | missingRequired _ lists' => rw [lists.unique lists']
      | _ => cases sameTurn

theorem FirstFault.unique (here : FirstFault ps as e) (here' : FirstFault ps as e') : e = e' :=
  here.fault.unique here'.fault
    (Nat.le_antisymm (here.first e' here'.fault) (here'.first e here.fault))

/-! ## Turn after turn -/

/-- No fault of a call has its turn before a turn. -/
def ClearBefore (turn : Nat) (ps : List Parameter) (as : List (Argument α)) : Prop :=
  ∀ e, CallFault ps as e → turn ≤ e.turn

theorem ClearBefore.next {turn : Nat} (clear : ClearBefore turn ps as)
    (none : ∀ e, CallFault ps as e → e.turn ≠ turn) : ClearBefore (turn + 1) ps as :=
  fun e fault => Nat.lt_of_le_of_ne (clear e fault) (Ne.symm (none e fault))

/-- The signature is refused for the first fault, or the faults of a signature are passed. -/
theorem checkSignature_cases (ps : List Parameter) (as : List (Argument α)) :
    (∃ e, checkSignature (normalizeParameters ps) = .error e ∧ FirstFault ps as e) ∨
      checkSignature (normalizeParameters ps) = .ok () ∧ ClearBefore 2 ps as := by
  have lists : Lists 1 (ps.map fun p => lower p.name) (fun _ => True)
      (secondOccurrences [] (ps.map fun p => lower p.name)) := by
    rw [secondOccurrences_eq]
    exact lists_occurrences 1 _
  unfold checkSignature
  rw [names_normalized, firstInversion_normalized]
  generalize secondOccurrences [] (ps.map fun p => lower p.name) = repeated at lists
  cases repeated with
  | cons name more =>
      exact .inl ⟨_, rfl, .duplicateParameters (List.cons_ne_nil _ _) lists, fun _ _ => Nat.zero_le _⟩
  | nil =>
      have distinct : ClearBefore 1 ps as := by
        refine ClearBefore.next (fun _ _ => Nat.zero_le _) fun e fault => ?_
        cases fault with
        | duplicateParameters nonempty lists' => exact absurd (lists'.unique lists) nonempty
        | _ => exact Nat.succ_ne_zero _
      cases found : firstInversion ps with
      | some pair =>
          obtain ⟨p, q⟩ := pair
          obtain ⟨before, after, parts, optional, required, first⟩ :=
            firstInversion_eq_some_iff.mp found
          exact .inl ⟨_, rfl, .requiredAfterOptional parts optional required first, distinct⟩
      | none =>
          refine .inr ⟨rfl, distinct.next fun e fault => ?_⟩
          cases fault with
          | requiredAfterOptional parts optional required first =>
              have here := firstInversion_eq_some_iff.mpr ⟨_, _, parts, optional, required, first⟩
              rw [found] at here
              cases here
          | duplicateParameters => exact Nat.zero_ne_one
          | _ => exact fun same => by cases same

theorem givenNames_normalized (as : List (Argument α)) :
    (normalizeArguments as).filterMap Argument.name? = givenNames as := by
  rw [normalizeArguments, List.filterMap_map, givenNames]
  congr 1
  funext a
  exact name?_normalized a

theorem lists_repeatedNames (names : List String) :
    Lists 0 names (fun n => 1 < names.count n) (repeatedNames names) :=
  lists_filter_firstOccurrences fun n => by simp

theorem lists_undeclaredNames (ps : List Parameter) (names : List String) :
    Lists 0 names (fun n => ∀ p ∈ ps, lower p.name ≠ n)
      (undeclaredNames (normalizeParameters ps) names) :=
  lists_filter_firstOccurrences fun n => by
    simp [normalizeParameters, Parameter.normalized]

/-- Arguments under declared names that are distinct are not more than the parameters. -/
theorem length_le_of_declared (named : ∀ a ∈ as, a.isNamed = true)
    (distinct : (givenNames as).Nodup)
    (declared : ∀ n ∈ givenNames as, n ∈ ps.map fun p => lower p.name) :
    as.length ≤ ps.length := by
  have all : (givenNames as).length = as.length := by
    refine List.filterMap_length_eq_length.mpr fun a inside => ?_
    have := named a inside
    cases a with
    | positional v => cases this
    | named n v => rfl
  have le := (distinct.subperm declared).length_le
  rwa [all, List.length_map] at le

/-! The faults of arguments, each with what keeps it away. -/

theorem turn_ne_of_oneStyle
    (style : (∀ a ∈ as, a.isNamed = true) ∨ (∀ a ∈ as, a.isNamed = false))
    (fault : CallFault ps as e) : e.turn ≠ 2 := by
  cases fault with
  | mixedStyles named positional =>
      obtain ⟨a, inside, named⟩ := named
      obtain ⟨b, inside', positional⟩ := positional
      rcases style with all | none
      · rw [all b inside'] at positional
        cases positional
      · rw [none a inside] at named
        cases named
  | _ => exact fun same => by cases same

theorem turn_ne_of_distinct (distinct : (givenNames as).Nodup) (fault : CallFault ps as e) :
    e.turn ≠ 3 := by
  cases fault with
  | duplicateArguments nonempty lists =>
      obtain ⟨n, inside⟩ := List.exists_mem_of_ne_nil _ nonempty
      have twice := ((lists.mem_iff n).mp inside).2
      exact absurd twice (Nat.not_lt.mpr (List.nodup_iff_count_le_one.mp distinct n))
  | _ => exact fun same => by cases same

theorem turn_ne_of_declared (declared : ∀ n ∈ givenNames as, ∃ p ∈ ps, lower p.name = n)
    (fault : CallFault ps as e) : e.turn ≠ 4 := by
  cases fault with
  | unknownArguments nonempty lists =>
      obtain ⟨n, inside⟩ := List.exists_mem_of_ne_nil _ nonempty
      obtain ⟨given, stranger⟩ := (lists.mem_iff n).mp inside
      obtain ⟨p, known, same⟩ := declared n (List.count_pos_iff.mp given)
      exact absurd same (stranger p known)
  | _ => exact fun same => by cases same

theorem turn_ne_of_length_le (few : as.length ≤ ps.length) (fault : CallFault ps as e) :
    e.turn ≠ 5 := by
  cases fault with
  | tooManyArguments many => exact absurd many (Nat.not_lt.mpr few)
  | _ => exact fun same => by cases same

theorem clearBefore_of_attachable (clear : ClearBefore 2 ps as) (h : Attachable lower ps as) :
    ClearBefore 6 ps as := by
  have declared : ∀ n ∈ givenNames as, ∃ p ∈ ps, lower p.name = n := by
    intro n inside
    obtain ⟨a, given, name⟩ := List.mem_filterMap.mp inside
    obtain ⟨m, named, rfl⟩ := Option.map_eq_some_iff.mp name
    exact h.declared a given m named
  have few : as.length ≤ ps.length := by
    rcases h.oneStyle with named | positional
    · exact length_le_of_declared named h.distinct fun n inside => by
        simpa using declared n inside
    · exact h.fewEnough positional
  exact (((clear.next fun _ => turn_ne_of_oneStyle h.oneStyle).next
    fun _ => turn_ne_of_distinct h.distinct).next
    fun _ => turn_ne_of_declared declared).next
    fun _ => turn_ne_of_length_le few

theorem firstFault_of_named (clear : ClearBefore 2 ps as) (named : ∀ a ∈ as, a.isNamed = true)
    (refused : pairs (normalizeParameters ps) (normalizeArguments as) = .error e) :
    FirstFault ps as e := by
  have clear : ClearBefore 3 ps as := clear.next fun _ => turn_ne_of_oneStyle (.inl named)
  have repeats := lists_repeatedNames (givenNames as)
  have strangers := lists_undeclaredNames ps (givenNames as)
  rw [pairs_of_named _ (forall_isNamed_normalized.mpr named), givenNames_normalized] at refused
  split at refused
  · rename_i twice
    cases refused
    rw [twice] at repeats
    exact ⟨.duplicateArguments (List.cons_ne_nil _ _) repeats, clear⟩
  · rename_i once stranger
    cases refused
    rw [stranger] at strangers
    have distinct := (repeatedNames_eq_nil_iff _).mp once
    exact ⟨.unknownArguments (List.cons_ne_nil _ _) strangers,
      clear.next fun _ => turn_ne_of_distinct distinct⟩
  · cases refused

theorem firstFault_of_positional (clear : ClearBefore 2 ps as)
    (positional : ∀ a ∈ as, a.isNamed = false)
    (refused : pairs (normalizeParameters ps) (normalizeArguments as) = .error e) :
    FirstFault ps as e := by
  have nameless : givenNames as = [] := by
    refine List.filterMap_eq_nil_iff.mpr fun a inside => ?_
    rw [name?_eq_none_of_positional (positional a inside)]
    rfl
  have distinct : (givenNames as).Nodup := nameless ▸ List.nodup_nil
  have declared : ∀ n ∈ givenNames as, ∃ p ∈ ps, lower p.name = n := by
    rw [nameless]
    exact List.forall_mem_nil _
  have clear : ClearBefore 5 ps as := ((clear.next
    fun _ => turn_ne_of_oneStyle (.inr positional)).next
    fun _ => turn_ne_of_distinct distinct).next
    fun _ => turn_ne_of_declared declared
  rw [pairs_of_positional _ (forall_isNamed_normalized.mpr positional), normalizeParameters,
    normalizeArguments, List.length_map, List.length_map] at refused
  split at refused
  · rename_i many
    cases refused
    exact ⟨.tooManyArguments many, clear⟩
  · cases refused

/-- Arguments that get no names are refused for the first fault. -/
theorem firstFault_of_pairs (clear : ClearBefore 2 ps as)
    (refused : pairs (normalizeParameters ps) (normalizeArguments as) = .error e) :
    FirstFault ps as e := by
  by_cases positional : ∀ a ∈ as, a.isNamed = false
  · exact firstFault_of_positional clear positional refused
  by_cases named : ∀ a ∈ as, a.isNamed = true
  · exact firstFault_of_named clear named refused
  -- one argument has a name and one has none
  simp only [not_forall, Bool.not_eq_false, Bool.not_eq_true, exists_prop] at positional named
  obtain ⟨a, inside, here⟩ := positional
  obtain ⟨b, inside', there⟩ := named
  have mixed : pairs (normalizeParameters ps) (normalizeArguments as) = .error .mixedStyles :=
    pairs_of_mixed _ (List.mem_map_of_mem inside) ((isNamed_normalized a).trans here)
      (List.mem_map_of_mem inside') ((isNamed_normalized b).trans there)
  rw [mixed] at refused
  cases refused
  exact ⟨.mixedStyles ⟨a, inside, here⟩ ⟨b, inside', there⟩, clear⟩

theorem error_of_fillIn {fill : ColumnType → Option α} {bound : OrderedMap String α} :
    ∀ {ps : List Parameter}, fillIn fill bound ps = .error e → ∃ t, e = .noTypedNull t
  | [], refused => by cases refused
  | p :: ps, refused => by
      have later {v : α} (refused : (do
          let v ← (.ok v : Except ProcedureError α)
          return v :: (← fillIn fill bound ps)) = .error e) : ∃ t, e = .noTypedNull t := by
        rcases bind_eq_error_iff.mp refused with none | ⟨v, -, refused⟩
        · cases none
        · rcases bind_eq_error_iff.mp refused with rest | ⟨values, -, done⟩
          · exact error_of_fillIn rest
          · cases done
      rw [fillIn] at refused
      split at refused
      · exact later refused
      · split at refused
        · exact later refused
        · cases refused
          exact ⟨p.type, rfl⟩

/-- The required parameters without a value are those that no argument is meant for. -/
theorem lists_unbound (distinct : (ps.map fun p => lower p.name).Nodup)
    (h : Attachable lower ps as) :
    Lists 0 (ps.map fun p => lower p.name)
      (fun n => ∃ i p, ps[i]? = some p ∧ lower p.name = n ∧ p.required = true ∧
        ¬∃ k, GoesTo lower ps as k i)
      (unbound (normalizeParameters ps)
        (OrderedMap.ofList (attached (normalizeParameters ps) (normalizeArguments as)))) := by
  have names := names_normalized ps
  have h := attachable_normalized.mpr h
  have unmeant {i : Nat} {p : Parameter} (declared : ps[i]? = some p) :
      (OrderedMap.ofList (attached (normalizeParameters ps) (normalizeArguments as))).contains
          p.normalized.name = false ↔ ¬∃ k, GoesTo lower ps as k i := by
    have here := get?_attached_eq_none_iff (names ▸ distinct) h
      (getElem?_normalizeParameters declared)
    simp only [goesTo_normalized] at here
    rw [← here, OrderedMap.contains, Option.isSome_eq_false_iff, Option.isNone_iff_eq_none]
  refine (lists_of_nodup distinct).sublist ?_ fun n => ?_
  · rw [← names]
    exact List.filter_sublist.map Parameter.name
  · simp only [unbound, List.mem_map, List.mem_filter, Bool.and_eq_true, Bool.not_eq_true']
    constructor
    · rintro ⟨q, ⟨inside, required, unbound⟩, rfl⟩
      obtain ⟨i, there⟩ := List.mem_iff_getElem?.mp inside
      obtain ⟨p, declared, rfl⟩ := exists_of_normalizeParameters there
      exact ⟨⟨p, List.mem_of_getElem? declared, rfl⟩, i, p, declared, rfl, required,
        (unmeant declared).mp unbound⟩
    · rintro ⟨-, i, p, declared, rfl, required, none⟩
      exact ⟨p.normalized, ⟨List.mem_of_getElem? (getElem?_normalizeParameters declared), required,
        (unmeant declared).mpr none⟩, rfl⟩

/-- A call is refused for its first fault, or it has none and is refused at most for a type
without a missing value. -/
theorem resolveArguments_cases (fill : ColumnType → Option α) (ps : List Parameter)
    (as : List (Argument α)) :
    (∃ e, resolveArguments fill ps as = .error e ∧ FirstFault ps as e) ∨
      (∀ e, ¬CallFault ps as e) ∧
        ∀ e, resolveArguments fill ps as = .error e → ∃ t, e = .noTypedNull t := by
  rcases checkSignature_cases ps as with ⟨e, refused, first⟩ | ⟨sound, clear⟩
  · exact .inl ⟨e, by rw [resolveArguments, refused]; rfl, first⟩
  have sound' := (checkSignature_normalized_ok_iff ps).mp sound
  have bound : resolveArguments fill ps as =
      bindArguments fill (normalizeParameters ps) (normalizeArguments as) := by
    rw [resolveArguments, sound]
    rfl
  rw [bound, bindArguments]
  cases named : pairs (normalizeParameters ps) (normalizeArguments as) with
  | error e => exact .inl ⟨e, rfl, firstFault_of_pairs clear named⟩
  | ok entries =>
      obtain ⟨h, rfl⟩ := (pairs_ok_iff _ _ _).mp named
      have h := attachable_normalized.mp h
      have clear := clearBefore_of_attachable clear h
      have lists := lists_unbound sound'.distinct h
      simp only [bind, Except.bind]
      generalize OrderedMap.ofList (attached _ _) = bound at lists
      cases missing : unbound (normalizeParameters ps) bound with
      | cons name more =>
          rw [missing] at lists
          exact .inl ⟨_, rfl, .missingRequired (List.cons_ne_nil _ _) lists, clear⟩
      | nil =>
          rw [missing] at lists
          refine .inr ⟨fun e fault => ?_, fun e refused => error_of_fillIn refused⟩
          have late := clear e fault
          cases fault with
          | missingRequired nonempty lists' => exact nonempty (lists'.unique lists)
          | _ => simp [ProcedureError.turn] at late

/-- **A call is refused for its first fault.**  The error of a call is the fault whose turn comes
first, told completely, unless it is that a type has no missing value; and a call that has a fault
is refused. -/
theorem resolveArguments_refuses (fill : ColumnType → Option α) (ps : List Parameter)
    (as : List (Argument α)) (e : ProcedureError) :
    (resolveArguments fill ps as = .error e ∧ ∀ t, e ≠ .noTypedNull t) ↔ FirstFault ps as e := by
  rcases resolveArguments_cases fill ps as with ⟨e', refused, first⟩ | ⟨faultless, unfilled⟩
  · constructor
    · rintro ⟨refused', -⟩
      rw [refused] at refused'
      cases refused'
      exact first
    · intro first'
      cases first'.unique first
      refine ⟨refused, ?_⟩
      rintro t rfl
      cases first.fault
  · constructor
    · rintro ⟨refused, other⟩
      obtain ⟨t, same⟩ := unfilled e refused
      exact absurd same (other t)
    · intro first
      exact absurd first.fault (faultless e)

/-- Two names are given twice and one is unknown: the repeated ones come first, as they were first
given. -/
example :
    resolveArguments (fun _ => some 0) [⟨"berth", .utf8, true, none⟩, ⟨"day", .int64, true, none⟩]
        [.named "Day" 1, .named "harbor" 2, .named "berth" 3, .named "BERTH" 4, .named "day" 5] =
      .error (.duplicateArguments ["day", "berth"]) := by decide

end

end TableLake
