/-
# TableLake.Text.Split — cutting a text at a separator and joining the pieces

`pieces sep cs` cuts at every separator: a text with `n` separators has `n + 1`
pieces, and the empty text has one, the empty one.  `cutOnce` cuts at the first
separator only.  `joined` is the inverse: `joined sep (pieces sep cs) = cs`.
-/

namespace TableLake.Text

set_option autoImplicit false

/-- The parts between the separators, in order. -/
def pieces (sep : Char) : List Char → List (List Char)
  | [] => [[]]
  | c :: cs =>
      if c = sep then [] :: pieces sep cs
      else
        match pieces sep cs with
        | [] => [[c]]
        | p :: ps => (c :: p) :: ps

/-- What stands before and after the first separator; `none` without one. -/
def cutOnce (sep : Char) : List Char → Option (List Char × List Char)
  | [] => none
  | c :: cs =>
      if c = sep then some ([], cs)
      else (cutOnce sep cs).map fun cut => (c :: cut.1, cut.2)

/-- The parts with one separator between neighbours. -/
def joined (sep : Char) : List (List Char) → List Char
  | [] => []
  | [p] => p
  | p :: q :: ps => p ++ sep :: joined sep (q :: ps)

/-- The parts of a text between the separators. -/
def split (sep : Char) (s : String) : List String :=
  (pieces sep s.toList).map String.ofList

/-- What stands before and after the first separator of a text. -/
def splitOnce (sep : Char) (s : String) : Option (String × String) :=
  (cutOnce sep s.toList).map fun cut => (String.ofList cut.1, String.ofList cut.2)

/-- Cutting a text that holds no separator gives the text itself. -/
theorem pieces_of_not_mem {sep : Char} :
    ∀ {cs : List Char}, sep ∉ cs → pieces sep cs = [cs]
  | [], _ => rfl
  | c :: cs, absent => by
      have hc : c ≠ sep := fun same => absent (by simp [same])
      have hcs : sep ∉ cs := fun inside => absent (by simp [inside])
      simp [pieces, hc, pieces_of_not_mem hcs]

/-- The first piece goes up to the first separator; the others are those of what
follows it. -/
theorem pieces_append_cons {sep : Char} (ds : List Char) :
    ∀ {cs : List Char}, sep ∉ cs → pieces sep (cs ++ sep :: ds) = cs :: pieces sep ds
  | [], _ => by simp [pieces]
  | c :: cs, absent => by
      have hc : c ≠ sep := fun same => absent (by simp [same])
      have hcs : sep ∉ cs := fun inside => absent (by simp [inside])
      simp [pieces, hc, pieces_append_cons ds hcs]

/-- There is always a first piece. -/
theorem pieces_ne_nil (sep : Char) : ∀ cs : List Char, pieces sep cs ≠ []
  | [] => by simp [pieces]
  | c :: cs => by
      by_cases hc : c = sep
      · simp [pieces, hc]
      · simp only [pieces, hc, if_false]
        cases pieces sep cs <;> simp

/-- Joining the pieces gives the text back. -/
theorem joined_pieces (sep : Char) : ∀ cs : List Char, joined sep (pieces sep cs) = cs
  | [] => rfl
  | c :: cs => by
      have ih := joined_pieces sep cs
      have some := pieces_ne_nil sep cs
      cases hp : pieces sep cs with
      | nil => exact absurd hp some
      | cons p ps =>
          rw [hp] at ih
          by_cases hc : c = sep
          · subst hc
            simp [pieces, hp, joined, ih]
          · cases ps with
            | nil => simp_all [pieces, joined]
            | cons q qs => simp_all [pieces, joined]

end TableLake.Text
