/-
# TableLake.Proofs.Signature — which signatures are sound

`checkSignature` walks over the parameters once for the names and once for pairs of
neighbours.  Both walks say as much as a look at every pair of parameters:
`secondOccurrences_eq_nil_iff` for the names, `firstInversion_eq_none_iff` for the
order.  Together they are `checkSignature_ok_iff`; `signature_accepted_iff` says the same
by positions, and of the list as two blocks.
-/
import TableLake.Procedure.Signature
import Mathlib.Data.List.Chain

namespace TableLake

set_option autoImplicit false

/-- No required parameter stands anywhere after an optional one. -/
def RequiredFirst (ps : List Parameter) : Prop :=
  ps.Pairwise fun p q => q.required = true → p.required = true

/-! ## Names -/

/-- Among names that were passed once each, no further name is a second occurrence
iff the further names are new and distinct. -/
theorem secondOccurrences_eq_nil_iff : ∀ {before names : List String}, before.Nodup →
    (secondOccurrences before names = [] ↔ names.Nodup ∧ ∀ n ∈ names, n ∉ before)
  | _, [], _ => by simp [secondOccurrences]
  | before, n :: ns, distinct => by
      by_cases known : n ∈ before
      · have once : before.count n = 1 := by rw [distinct.count, if_pos known]
        simp [secondOccurrences, once, known]
      · have never : before.count n = 0 := List.count_eq_zero_of_not_mem known
        have ih : secondOccurrences (n :: before) ns = [] ↔ ns.Nodup ∧ ∀ m ∈ ns, m ∉ n :: before :=
          secondOccurrences_eq_nil_iff (List.nodup_cons.mpr ⟨known, distinct⟩)
        simp only [secondOccurrences, never, Nat.zero_ne_one, if_false, ih, List.nodup_cons,
          List.mem_cons, not_or, forall_eq_or_imp]
        constructor
        · rintro ⟨tail, fresh⟩
          exact ⟨⟨fun again => (fresh n again).1 rfl, tail⟩, known, fun m hm => (fresh m hm).2⟩
        · rintro ⟨⟨once, tail⟩, -, fresh⟩
          exact ⟨tail, fun m hm => ⟨fun same => once (same ▸ hm), fresh m hm⟩⟩

/-! ## Order -/

theorem firstInversion_eq_none_iff_chain : ∀ ps : List Parameter,
    firstInversion ps = none ↔ ps.IsChain fun p q => q.required = true → p.required = true
  | [] => by simp [firstInversion]
  | [p] => by simp [firstInversion]
  | p :: q :: ps => by
      rw [firstInversion, List.isChain_cons_cons, ← firstInversion_eq_none_iff_chain (q :: ps)]
      cases p.required <;> cases q.required <;> simp

/-- **Neighbours suffice.**  Without a required parameter right after an optional one
there is none anywhere after one. -/
theorem firstInversion_eq_none_iff (ps : List Parameter) :
    firstInversion ps = none ↔ RequiredFirst ps := by
  rw [firstInversion_eq_none_iff_chain, RequiredFirst]
  have trans : IsTrans Parameter fun p q => q.required = true → p.required = true :=
    ⟨fun _ _ _ first second required => first (second required)⟩
  exact List.isChain_iff_pairwise

/-- **A signature is accepted iff it is sound**: its names are distinct and required
parameters come first. -/
theorem checkSignature_ok_iff (ps : List Parameter) :
    checkSignature ps = .ok () ↔ (ps.map Parameter.name).Nodup ∧ RequiredFirst ps := by
  rw [← firstInversion_eq_none_iff]
  have names : secondOccurrences [] (ps.map Parameter.name) = [] ↔ (ps.map Parameter.name).Nodup := by
    simpa using secondOccurrences_eq_nil_iff List.nodup_nil
  rw [← names, checkSignature]
  cases secondOccurrences [] (ps.map Parameter.name) with
  | cons name more => simp
  | nil => cases firstInversion ps <;> simp

/-! ## Positions and blocks -/

variable {ps : List Parameter}

/-- The parameter at one position is optional and the one at another is required. -/
def Inverted (ps : List Parameter) (i j : Nat) : Prop :=
  ∃ p q, ps[i]? = some p ∧ ps[j]? = some q ∧ p.required = false ∧ q.required = true

theorem not_inverted_iff {i j : Nat} (first : i < ps.length) (second : j < ps.length) :
    ¬Inverted ps i j ↔ (ps[j].required = true → ps[i].required = true) := by
  rw [Inverted]
  cases before : ps[i].required <;> cases behind : ps[j].required <;> simp [*]

theorem requiredFirst_iff_positions : RequiredFirst ps ↔ ∀ i j, i < j → ¬Inverted ps i j := by
  rw [RequiredFirst, List.pairwise_iff_getElem]
  constructor
  · intro ordered i j below inverted
    obtain ⟨p, q, here, there, -⟩ := id inverted
    obtain ⟨first, -⟩ := List.getElem?_eq_some_iff.mp here
    obtain ⟨second, -⟩ := List.getElem?_eq_some_iff.mp there
    exact (not_inverted_iff first second).mpr (ordered i j first second below) inverted
  · intro upright i j first second below
    exact (not_inverted_iff first second).mp (upright i j below)

theorem requiredFirst_iff_neighbours : RequiredFirst ps ↔ ∀ i, ¬Inverted ps i (i + 1) := by
  rw [← firstInversion_eq_none_iff, firstInversion_eq_none_iff_chain, List.isChain_iff_getElem]
  constructor
  · intro chained i inverted
    obtain ⟨p, q, here, there, -⟩ := id inverted
    obtain ⟨second, -⟩ := List.getElem?_eq_some_iff.mp there
    exact (not_inverted_iff (Nat.lt_of_succ_lt second) second).mpr (chained i second) inverted
  · intro upright i second
    exact (not_inverted_iff (Nat.lt_of_succ_lt second) second).mp (upright i)

/-- Required parameters come first just if they make a block and the optional ones another one
behind it. -/
theorem requiredFirst_iff_blocks :
    RequiredFirst ps ↔ ∃ mandatory optional, ps = mandatory ++ optional ∧
      (∀ p ∈ mandatory, p.required = true) ∧ ∀ p ∈ optional, p.required = false := by
  constructor
  · intro ordered
    induction ps with
    | nil => exact ⟨[], [], rfl, by simp, by simp⟩
    | cons p ps ih =>
        obtain ⟨behind, later⟩ := List.pairwise_cons.mp ordered
        cases kind : p.required with
        | true =>
            obtain ⟨mandatory, optional, rfl, required, free⟩ := ih later
            exact ⟨p :: mandatory, optional, rfl, List.forall_mem_cons.mpr ⟨kind, required⟩, free⟩
        | false =>
            -- behind an optional parameter nothing is required
            refine ⟨[], p :: ps, rfl, by simp, List.forall_mem_cons.mpr ⟨kind, fun q inside => ?_⟩⟩
            exact Bool.eq_false_iff.mpr fun required =>
              Bool.false_ne_true (kind.symm.trans (behind q inside required))
  · rintro ⟨mandatory, optional, rfl, required, free⟩
    refine List.pairwise_append.mpr ⟨?_, ?_, fun p inside _ _ _ => required p inside⟩
    · exact List.pairwise_iff_forall_sublist.mpr fun pair _ =>
        required _ (pair.subset List.mem_cons_self)
    · refine List.pairwise_iff_forall_sublist.mpr fun {p q} pair demanded => ?_
      rw [free q (pair.subset (List.mem_cons_of_mem _ List.mem_cons_self))] at demanded
      cases demanded

/-- **Looking at neighbours is enough.**  A list of parameters of any length is accepted iff its
names are pairwise distinct and nowhere a required parameter stands behind an optional one, next to
it or not.  The latter is so iff it is so of neighbours, and iff the list is a block of required
parameters and behind it a block of optional ones. -/
theorem signature_accepted_iff (ps : List Parameter) :
    (checkSignature ps = .ok () ↔
      (ps.map Parameter.name).Nodup ∧ ∀ i j, i < j → ¬Inverted ps i j) ∧
    ((∀ i j, i < j → ¬Inverted ps i j) ↔ ∀ i, ¬Inverted ps i (i + 1)) ∧
    ((∀ i j, i < j → ¬Inverted ps i j) ↔ ∃ mandatory optional, ps = mandatory ++ optional ∧
      (∀ p ∈ mandatory, p.required = true) ∧ ∀ p ∈ optional, p.required = false) := by
  rw [← requiredFirst_iff_positions, ← requiredFirst_iff_neighbours]
  exact ⟨checkSignature_ok_iff ps, Iff.rfl, requiredFirst_iff_blocks⟩

end TableLake
