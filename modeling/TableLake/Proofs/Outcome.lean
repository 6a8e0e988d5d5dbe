/-
# TableLake.Proofs.Outcome — operations that give a result or refuse

A chain of such operations gives a result iff every link does (`bind_eq_ok_iff`) and else
refuses as its first link that does (`bind_eq_error_iff`).  A list of them gives results iff
every member does (`mapM_eq_ok_iff`).
-/
import Mathlib.Data.List.Forall2

namespace TableLake.Outcome

set_option autoImplicit false

variable {ε α β : Type}

theorem bind_eq_ok_iff {first : Except ε α} {next : α → Except ε β} {b : β} :
    (first >>= next) = .ok b ↔ ∃ a, first = .ok a ∧ next a = .ok b := by
  cases first <;> simp [bind, Except.bind]

theorem bind_eq_error_iff {first : Except ε α} {next : α → Except ε β} {e : ε} :
    (first >>= next) = .error e ↔ first = .error e ∨ ∃ a, first = .ok a ∧ next a = .error e := by
  cases first <;> simp [bind, Except.bind]

theorem map_eq_ok_iff {f : α → β} {outcome : Except ε α} {b : β} :
    (f <$> outcome) = .ok b ↔ ∃ a, outcome = .ok a ∧ f a = b := by
  cases outcome <;> simp [Functor.map, Except.map]

theorem pure_eq_ok_iff {a b : α} : (pure a : Except ε α) = .ok b ↔ a = b := by
  simp [pure, Except.pure]

/-- A chain whose last link only makes something of the result gives one if the first link does. -/
theorem exists_bind_pure_eq_ok_iff {first : Except ε α} {make : α → β} :
    (∃ b, (first >>= fun a => pure (make a)) = .ok b) ↔ ∃ a, first = .ok a := by
  cases first <;> simp [bind, Except.bind, pure, Except.pure]

theorem mapError_eq_ok_iff {ε' : Type} {words : ε → ε'} {outcome : Except ε α} {a : α} :
    outcome.mapError words = .ok a ↔ outcome = .ok a := by
  cases outcome with
  | error e => exact iff_of_false (by rintro ⟨⟩) (by rintro ⟨⟩)
  | ok b => exact ⟨fun same => Except.ok.inj same ▸ rfl, fun same => Except.ok.inj same ▸ rfl⟩

theorem toOption_eq_some_iff {outcome : Except ε α} {a : α} :
    outcome.toOption = some a ↔ outcome = .ok a := by
  cases outcome <;> simp [Except.toOption]

theorem exists_ok_of_isSome {outcome : Except ε α} (there : outcome.toOption.isSome = true) :
    ∃ a, outcome = .ok a :=
  (Option.isSome_iff_exists.mp there).imp fun _ => toOption_eq_some_iff.mp

/-- The results of a list are those of its members, in order. -/
theorem mapM_eq_ok_iff {f : α → Except ε β} : ∀ {as : List α} {bs : List β},
    as.mapM f = .ok bs ↔ List.Forall₂ (fun a b => f a = .ok b) as bs
  | [], bs => by cases bs <;> simp [pure, Except.pure]
  | a :: as, bs => by
      rw [List.mapM_cons, bind_eq_ok_iff]
      simp only [bind_eq_ok_iff, pure_eq_ok_iff, @mapM_eq_ok_iff f as]
      constructor
      · rintro ⟨b, head, bs, tail, rfl⟩
        exact .cons head tail
      · rintro (_ | ⟨head, tail⟩)
        exact ⟨_, head, _, tail, rfl⟩

/-- A list of operations is refused by one of them. -/
theorem exists_of_mapM_error {f : α → Except ε β} {e : ε} : ∀ {as : List α},
    as.mapM f = .error e → ∃ a ∈ as, f a = .error e
  | [], refused => by cases refused
  | a :: as, refused => by
      simp only [List.mapM_cons, bind_eq_error_iff] at refused
      rcases refused with here | ⟨b, -, later | ⟨bs, -, ⟨⟩⟩⟩
      · exact ⟨a, List.mem_cons_self, here⟩
      · obtain ⟨a', inside, there⟩ := exists_of_mapM_error later
        exact ⟨a', List.mem_cons_of_mem _ inside, there⟩

/-- A list of operations has results if each of them has one. -/
theorem exists_mapM_eq_ok {f : α → Except ε β} : ∀ {as : List α},
    (∀ a ∈ as, ∃ b, f a = .ok b) → ∃ bs, as.mapM f = .ok bs
  | [], _ => ⟨[], rfl⟩
  | a :: as, all => by
      obtain ⟨b, head⟩ := all a List.mem_cons_self
      obtain ⟨bs, tail⟩ := exists_mapM_eq_ok fun a inside => all a (List.mem_cons_of_mem _ inside)
      exact ⟨b :: bs, mapM_eq_ok_iff.mpr (.cons head (mapM_eq_ok_iff.mp tail))⟩

theorem exists_mapM_eq_ok_iff {f : α → Except ε β} {as : List α} :
    (∃ bs, as.mapM f = .ok bs) ↔ ∀ a ∈ as, ∃ b, f a = .ok b := by
  refine ⟨?_, exists_mapM_eq_ok⟩
  rintro ⟨bs, all⟩ a inside
  rw [mapM_eq_ok_iff] at all
  induction all with
  | nil => cases inside
  | cons head _ ih =>
      rcases List.mem_cons.mp inside with rfl | later
      · exact ⟨_, head⟩
      · exact ih later

/-- Of two lists that are related member by member, each has a member where the other
has one. -/
theorem related_at {R : α → β → Prop} : ∀ {as : List α} {bs : List β}, List.Forall₂ R as bs →
    ∀ {i : Nat} {a : α}, as[i]? = some a → ∃ b, bs[i]? = some b ∧ R a b
  | _, _, .nil, _, _, found => by simp at found
  | _, _, .cons head _, 0, _, found => by
      cases found
      exact ⟨_, rfl, head⟩
  | _, _, .cons _ tail, i + 1, _, found => related_at tail (i := i) found

theorem related_of_mem {R : α → β → Prop} {as : List α} {bs : List β}
    (related : List.Forall₂ R as bs) {a : α} (inside : a ∈ as) :
    ∃ b, (a, b) ∈ as.zip bs ∧ R a b := by
  obtain ⟨i, here⟩ := List.getElem?_of_mem inside
  obtain ⟨b, there, same⟩ := related_at related here
  exact ⟨b, List.mem_of_getElem? (List.getElem?_zip_eq_some.mpr ⟨here, there⟩), same⟩

theorem ne_nil_of_related {R : α → β → Prop} {as : List α} {bs : List β}
    (related : List.Forall₂ R as bs) (solid : as ≠ []) : bs ≠ [] := by
  rintro rfl
  exact solid (List.forall₂_nil_right_iff.mp related)

/-- If related members are related again just where the one on the left has a property,
so are related lists. -/
theorem forall₂_iff_of_related {R S : α → β → Prop} {property : α → Prop} {as : List α}
    {bs : List β} (related : List.Forall₂ R as bs) (same : ∀ {a b}, R a b → (S a b ↔ property a)) :
    List.Forall₂ S as bs ↔ ∀ a ∈ as, property a := by
  induction related with
  | nil => simp
  | cons head _ ih => simp only [List.forall₂_cons, same head, ih, List.forall_mem_cons]

/-- What related members have in common, related lists have in common member by member. -/
theorem map_eq_of_related {γ : Type} {R : α → β → Prop} {f : α → γ} {g : β → γ}
    (same : ∀ a b, R a b → g b = f a) {as : List α} {bs : List β}
    (related : List.Forall₂ R as bs) : bs.map g = as.map f := by
  induction related with
  | nil => rfl
  | cons head _ ih => rw [List.map_cons, List.map_cons, same _ _ head, ih]

/-- Of a list with one member replaced by a related one, each member is related to the one in
its place. -/
theorem related_set {R : α → α → Prop} (refl : ∀ a, R a a) {a b : α} (related : R a b) :
    ∀ {as : List α} {i : Nat}, as[i]? = some a → List.Forall₂ R as (as.set i b)
  | a' :: as, 0, there => by
      cases there
      exact .cons related (List.forall₂_same.mpr fun a _ => refl a)
  | a' :: as, i + 1, there => .cons (refl a') (related_set refl related there)

/-- Lists that are both related to a third are related through its members. -/
theorem related_through {γ : Type} {R : α → β → Prop} {S : α → γ → Prop} {as : List α}
    {bs : List β} (first : List.Forall₂ R as bs) :
    ∀ {cs : List γ}, List.Forall₂ S as cs → List.Forall₂ (fun b c => ∃ a, R a b ∧ S a c) bs cs := by
  induction first with
  | nil =>
      intro cs second
      cases second
      exact .nil
  | @cons a b as bs head _ ih =>
      intro cs second
      cases second with
      | cons head' tail' => exact .cons ⟨a, head, head'⟩ (ih tail')

end TableLake.Outcome
