/-
# TableLake.Proofs.SolidParts — what stands between the separators of a text

A text is cut at every separator, its parts are trimmed, and the blank ones are left out
(`solidParts`).  What is left are trimmed texts that are not blank and do not hold the separator
(`solid_of_mem_solidParts`).  There need not be any, also in a text that is not blank: what it
takes is a character that is neither white space nor the separator (`HasPart`,
`solidParts_ne_nil_iff`).
-/
import TableLake.Proofs.Trimming

namespace TableLake

open TableLake.Text

set_option autoImplicit false

variable {sep c : Char} {s part : String}

/-! ## Characters of trimmed texts and of parts -/

namespace Text

theorem trimmedRight_sublist : ∀ cs : List Char, (trimmedRight cs).Sublist cs
  | [] => .slnil
  | c :: cs => by
      rw [trimmedRight_cons]
      split
      · exact List.nil_sublist _
      · exact (trimmedRight_sublist cs).cons_cons c

theorem trimmed_sublist (cs : List Char) : (trimmed cs).Sublist cs :=
  (trimmedRight_sublist _).trans (List.dropWhile_sublist _)

theorem mem_of_mem_trim (inside : c ∈ (trim s).toList) : c ∈ s.toList := by
  rw [trim, String.toList_ofList] at inside
  exact (trimmed_sublist s.toList).mem inside

theorem trim_trim (s : String) : trim (trim s) = trim s := by
  have again : trimmed (trimmedRight (trimmedLeft s.toList)) = trimmed s.toList := by
    rw [trimmed_trimmedRight, trimmed_trimmedLeft]
  rw [trim, trim, String.toList_ofList]
  exact congrArg String.ofList again

/-- No piece holds the separator. -/
theorem not_mem_of_mem_pieces : ∀ {cs p : List Char}, p ∈ pieces sep cs → sep ∉ p
  | [], p, inside => by
      rw [List.mem_singleton.mp inside]
      exact List.not_mem_nil
  | d :: cs, p, inside => by
      by_cases same : d = sep
      · simp only [pieces, same, if_true, List.mem_cons] at inside
        rcases inside with rfl | later
        · exact List.not_mem_nil
        · exact not_mem_of_mem_pieces later
      · obtain ⟨q, qs, parts, longer⟩ := exists_pieces_cons same cs
        rw [longer, List.mem_cons] at inside
        rcases inside with rfl | later
        · rw [List.mem_cons, not_or]
          exact ⟨fun here => same here.symm, not_mem_of_mem_pieces (parts ▸ List.mem_cons_self)⟩
        · exact not_mem_of_mem_pieces (parts ▸ List.mem_cons_of_mem _ later)

/-- Every character but the separators is in some piece. -/
theorem exists_mem_pieces (other : c ≠ sep) : ∀ {cs : List Char}, c ∈ cs →
    ∃ p ∈ pieces sep cs, c ∈ p
  | d :: cs, inside => by
      rcases List.mem_cons.mp inside with rfl | later
      · obtain ⟨q, qs, -, longer⟩ := exists_pieces_cons other cs
        exact ⟨c :: q, longer ▸ List.mem_cons_self, List.mem_cons_self⟩
      · obtain ⟨p, there, here⟩ := exists_mem_pieces other later
        by_cases same : d = sep
        · refine ⟨p, ?_, here⟩
          rw [pieces, if_pos same]
          exact List.mem_cons_of_mem _ there
        · obtain ⟨q, qs, parts, longer⟩ := exists_pieces_cons same cs
          rw [parts] at there
          rw [longer]
          rcases List.mem_cons.mp there with rfl | back
          · exact ⟨d :: p, List.mem_cons_self, List.mem_cons_of_mem _ here⟩
          · exact ⟨p, List.mem_cons_of_mem _ back, here⟩

end Text

/-! ## Solid parts -/

/-- There is something else in the text than separators and white space. -/
def HasPart (sep : Char) (s : String) : Prop :=
  ∃ c ∈ s.toList, c ≠ sep ∧ isBlank c = false

-- the characters of the text are looked at, not all characters there are
instance (sep : Char) (s : String) : Decidable (HasPart sep s) :=
  decidable_of_iff ((s.toList.any fun c => c != sep && !isBlank c) = true) (by simp [HasPart])

theorem exists_of_not_blank (solid : blank s = false) : ∃ c ∈ s.toList, isBlank c = false := by
  simpa [blank] using solid

/-- Something stands between the separators just if not all parts are blank. -/
theorem hasPart_iff : HasPart sep s ↔ ∃ part ∈ split sep s, blank part = false := by
  constructor
  · rintro ⟨c, inside, other, solid⟩
    obtain ⟨p, there, here⟩ := exists_mem_pieces other inside
    refine ⟨String.ofList p, List.mem_map_of_mem there, Bool.eq_false_iff.mpr fun all => ?_⟩
    have empty := blank_iff.mp all c (by rwa [String.toList_ofList])
    rw [solid] at empty
    cases empty
  · rintro ⟨part, inside, solid⟩
    obtain ⟨p, there, rfl⟩ := List.mem_map.mp inside
    obtain ⟨c, here, solid⟩ := exists_of_not_blank solid
    rw [String.toList_ofList] at here
    refine ⟨c, mem_of_mem_pieces there c here, ?_, solid⟩
    rintro rfl
    exact not_mem_of_mem_pieces there here

theorem mem_solidParts_iff :
    part ∈ solidParts sep s ↔ ∃ piece ∈ split sep s, blank piece = false ∧ trim piece = part := by
  rw [solidParts, List.mem_filter, List.mem_map]
  constructor
  · rintro ⟨⟨piece, cut, rfl⟩, solid⟩
    rw [isEmpty_trim, Bool.not_eq_true'] at solid
    exact ⟨piece, cut, solid, rfl⟩
  · rintro ⟨piece, cut, solid, rfl⟩
    rw [isEmpty_trim, Bool.not_eq_true']
    exact ⟨⟨piece, cut, rfl⟩, solid⟩

/-- **Parts are left just if the text has something else than separators and white space.** -/
theorem solidParts_ne_nil_iff : solidParts sep s ≠ [] ↔ HasPart sep s := by
  rw [hasPart_iff]
  constructor
  · intro left
    obtain ⟨part, inside⟩ := List.exists_mem_of_ne_nil _ left
    obtain ⟨piece, cut, solid, -⟩ := mem_solidParts_iff.mp inside
    exact ⟨piece, cut, solid⟩
  · rintro ⟨piece, cut, solid⟩
    exact List.ne_nil_of_mem (mem_solidParts_iff.mpr ⟨piece, cut, solid, rfl⟩)

example : HasPart ',' ", weight ," ∧ ¬HasPart ',' " , ," := by decide +kernel

/-- What is left is trimmed, and not blank, and does not hold the separator. -/
theorem solid_of_mem_solidParts (inside : part ∈ solidParts sep s) :
    blank part = false ∧ trim part = part ∧ sep ∉ part.toList := by
  obtain ⟨piece, cut, solid, rfl⟩ := mem_solidParts_iff.mp inside
  obtain ⟨p, among, rfl⟩ := List.mem_map.mp cut
  refine ⟨?_, trim_trim _, fun held => ?_⟩
  · rw [← isEmpty_trim, trim_trim, isEmpty_trim, solid]
  · have held := mem_of_mem_trim held
    rw [String.toList_ofList] at held
    exact not_mem_of_mem_pieces among held

end TableLake
