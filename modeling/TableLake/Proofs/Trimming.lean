/-
# TableLake.Proofs.Trimming — white space around texts and around their parts

Trimming takes white space from both ends, one end after the other in any order
(`trimmedLeft_trimmedRight`), and nothing is left just of a text that is blank
(`trim_eq_empty_iff`).  A separator is no white space, so a text that is cut at its first
separator is cut at the same place when it is trimmed first, and its two parts are the same
once they are trimmed themselves (`cutOnce_trimmed`).  So are all its parts when it is cut at every
separator (`map_split_trim`).

Texts without a separator that are joined by it and cut again are the texts
(`split_intercalate`); so what is read part by part does not depend on whether the parts came
as one text or one by one.
-/
import TableLake.Options
import TableLake.Text.Split
import Mathlib.Data.List.DropRight

namespace TableLake.Text

set_option autoImplicit false

variable {sep c : Char} {cs : List Char} {s : String}

/-! ## White space at the ends -/

theorem trimmedLeft_of_blank (here : isBlank c = true) (cs : List Char) :
    trimmedLeft (c :: cs) = trimmedLeft cs := by
  rw [trimmedLeft, List.dropWhile_cons_of_pos here, trimmedLeft]

theorem trimmedLeft_of_solid (here : isBlank c = false) (cs : List Char) :
    trimmedLeft (c :: cs) = c :: cs := by
  rw [trimmedLeft, List.dropWhile_cons_of_neg (by simp [here])]

/-- The last characters go if they are white space, and with them those before. -/
theorem trimmedRight_cons (c : Char) (cs : List Char) :
    trimmedRight (c :: cs) =
      if isBlank c = true ∧ trimmedRight cs = [] then [] else c :: trimmedRight cs := by
  rw [trimmedRight]
  cases trimmedRight cs with
  | nil => simp
  | cons d ds => simp

theorem trimmedRight_eq_nil_iff : ∀ {cs : List Char},
    trimmedRight cs = [] ↔ ∀ c ∈ cs, isBlank c = true
  | [] => by simp [trimmedRight]
  | c :: cs => by
      rw [trimmedRight_cons, List.forall_mem_cons, ← @trimmedRight_eq_nil_iff cs]
      split
      · rename_i both
        exact iff_of_true rfl both
      · rename_i other
        exact iff_of_false (List.cons_ne_nil _ _) other

/-- It does not matter from which end white space is taken first. -/
theorem trimmedLeft_trimmedRight : ∀ cs : List Char,
    trimmedLeft (trimmedRight cs) = trimmedRight (trimmedLeft cs)
  | [] => rfl
  | c :: cs => by
      have ih := trimmedLeft_trimmedRight cs
      cases here : isBlank c with
      | true =>
          rw [trimmedLeft_of_blank here, ← ih, trimmedRight_cons]
          split
          · rename_i both
            rw [both.2]
          · exact trimmedLeft_of_blank here _
      | false =>
          rw [trimmedLeft_of_solid here, trimmedRight_cons, if_neg (by simp [here]),
            trimmedLeft_of_solid here]

theorem trimmedRight_trimmedRight : ∀ cs : List Char,
    trimmedRight (trimmedRight cs) = trimmedRight cs
  | [] => rfl
  | c :: cs => by
      have ih := trimmedRight_trimmedRight cs
      rw [trimmedRight_cons c cs]
      split
      · rfl
      · rename_i other
        rw [trimmedRight_cons, ih, if_neg other]

theorem trimmed_trimmedLeft (cs : List Char) : trimmed (trimmedLeft cs) = trimmed cs := by
  rw [trimmed, trimmedLeft, trimmedLeft, List.dropWhile_idempotent]
  rfl

theorem trimmed_trimmedRight (cs : List Char) : trimmed (trimmedRight cs) = trimmed cs := by
  rw [trimmed, trimmedLeft_trimmedRight, trimmedRight_trimmedRight, trimmed]

theorem trimmedRight_append_of_blank {back : List Char} (all : ∀ c ∈ back, isBlank c = true) :
    ∀ cs : List Char, trimmedRight (cs ++ back) = trimmedRight cs
  | [] => trimmedRight_eq_nil_iff.mpr all
  | c :: cs => by
      rw [List.cons_append, trimmedRight_cons, trimmedRight_append_of_blank all cs,
        ← trimmedRight_cons]

theorem trimmedRight_of_solid : ∀ {cs : List Char}, (∀ c ∈ cs.getLast?, isBlank c = false) →
    trimmedRight cs = cs
  | [], _ => rfl
  | [c], solid => by
      have here : isBlank c = false := solid c rfl
      simp [trimmedRight, here]
  | c :: d :: cs, solid => by
      have ih : trimmedRight (d :: cs) = d :: cs :=
        trimmedRight_of_solid fun last there => solid last (by rwa [List.getLast?_cons_cons])
      rw [trimmedRight_cons, ih, if_neg fun both => List.cons_ne_nil d cs both.2]

theorem trimmed_eq_nil_iff : trimmed cs = [] ↔ ∀ c ∈ cs, isBlank c = true := by
  rw [trimmed, trimmedRight_eq_nil_iff]
  constructor
  · intro rest c inside
    rw [← List.takeWhile_append_dropWhile (p := isBlank) (l := cs)] at inside
    rcases List.mem_append.mp inside with front | back
    · exact List.mem_takeWhile_imp front
    · exact rest c back
  · exact fun all c inside => all c ((List.dropWhile_sublist _).mem inside)

/-- What stands between white space at both ends is left, if it has none at its own. -/
theorem trimmed_padded {front back : List Char} (first : ∀ c ∈ front, isBlank c = true)
    (last : ∀ c ∈ back, isBlank c = true) (head : ∀ c ∈ cs.head?, isBlank c = false)
    (foot : ∀ c ∈ cs.getLast?, isBlank c = false) : trimmed (front ++ cs ++ back) = cs := by
  rw [trimmed, ← trimmedLeft_trimmedRight, trimmedRight_append_of_blank last,
    trimmedLeft_trimmedRight, trimmedLeft, List.dropWhile_append_of_pos first]
  cases cs with
  | nil => rfl
  | cons c cs =>
      rw [List.dropWhile_cons_of_neg (by simp [head c rfl])]
      exact trimmedRight_of_solid foot

theorem blank_iff : blank s = true ↔ ∀ c ∈ s.toList, isBlank c = true :=
  List.all_eq_true

theorem trim_eq_empty_iff : trim s = "" ↔ blank s = true := by
  rw [blank_iff, ← trimmed_eq_nil_iff, trim, String.ofList_eq_empty_iff]

theorem isEmpty_trim (s : String) : (trim s).isEmpty = blank s := by
  rw [Bool.eq_iff_iff, String.isEmpty_iff, trim_eq_empty_iff]

/-! ## Cutting -/

theorem cutOnce_trimmedLeft (solid : isBlank sep = false) : ∀ cs : List Char,
    cutOnce sep (trimmedLeft cs) =
      (cutOnce sep cs).map fun cut => (trimmedLeft cut.1, cut.2)
  | [] => rfl
  | c :: cs => by
      cases here : isBlank c with
      | true =>
          have other : c ≠ sep := by
            rintro rfl
            rw [here] at solid
            cases solid
          rw [trimmedLeft_of_blank here, cutOnce_trimmedLeft solid cs, cutOnce, if_neg other,
            Option.map_map]
          exact congrArg (Option.map · _) (funext fun cut =>
            Prod.ext (trimmedLeft_of_blank here cut.1).symm rfl)
      | false =>
          rw [trimmedLeft_of_solid here, cutOnce]
          split
          · rfl
          · rw [Option.map_map]
            exact congrArg (Option.map · _) (funext fun cut =>
              Prod.ext (trimmedLeft_of_solid here cut.1).symm rfl)

theorem cutOnce_trimmedRight (solid : isBlank sep = false) : ∀ cs : List Char,
    cutOnce sep (trimmedRight cs) =
      (cutOnce sep cs).map fun cut => (cut.1, trimmedRight cut.2)
  | [] => rfl
  | c :: cs => by
      have ih := cutOnce_trimmedRight solid cs
      rw [trimmedRight_cons, cutOnce]
      by_cases here : c = sep
      · subst here
        rw [if_neg (by simp [solid]), if_pos rfl, cutOnce, if_pos rfl]
        rfl
      · rw [if_neg here, Option.map_map]
        split
        · rename_i both
          -- a text of which nothing is left has no separator either
          rw [both.2] at ih
          rw [Option.map_eq_none_iff.mp ih.symm]
          rfl
        · rw [cutOnce, if_neg here, ih, Option.map_map]
          rfl

/-- A text is cut at the same place when it is trimmed first. -/
theorem cutOnce_trimmed (solid : isBlank sep = false) (cs : List Char) :
    cutOnce sep (trimmed cs) =
      (cutOnce sep cs).map fun cut => (trimmedLeft cut.1, trimmedRight cut.2) := by
  rw [trimmed, cutOnce_trimmedRight solid, cutOnce_trimmedLeft solid, Option.map_map]
  rfl

theorem cutOnce_append_cons (ds : List Char) : ∀ {cs : List Char}, sep ∉ cs →
    cutOnce sep (cs ++ sep :: ds) = some (cs, ds)
  | [], _ => if_pos rfl
  | c :: cs, absent => by
      have other : c ≠ sep := fun same => absent (by simp [same])
      have later : sep ∉ cs := fun inside => absent (by simp [inside])
      rw [List.cons_append, cutOnce, if_neg other, cutOnce_append_cons ds later]
      rfl

/-- A character that does not cut belongs to the first piece. -/
theorem exists_pieces_cons (other : c ≠ sep) (cs : List Char) :
    ∃ p ps, pieces sep cs = p :: ps ∧ pieces sep (c :: cs) = (c :: p) :: ps := by
  obtain ⟨p, ps, parts⟩ := List.exists_cons_of_ne_nil (pieces_ne_nil sep cs)
  exact ⟨p, ps, parts, by simp only [pieces, if_neg other, parts]⟩

/-- White space before a text is white space before its first piece. -/
theorem map_pieces_trimmedLeft (solid : isBlank sep = false) : ∀ cs : List Char,
    (pieces sep (trimmedLeft cs)).map trimmedLeft = (pieces sep cs).map trimmedLeft
  | [] => rfl
  | c :: cs => by
      cases here : isBlank c with
      | false => rw [trimmedLeft_of_solid here]
      | true =>
          have other : c ≠ sep := by
            rintro rfl
            rw [here] at solid
            cases solid
          obtain ⟨p, ps, parts, longer⟩ := exists_pieces_cons other cs
          rw [trimmedLeft_of_blank here, map_pieces_trimmedLeft solid cs, parts, longer,
            List.map_cons, List.map_cons, trimmedLeft_of_blank here]

/-- White space behind a text is white space behind its last piece. -/
theorem map_pieces_trimmedRight (solid : isBlank sep = false) : ∀ cs : List Char,
    (pieces sep (trimmedRight cs)).map trimmedRight = (pieces sep cs).map trimmedRight
  | [] => rfl
  | c :: cs => by
      have ih := map_pieces_trimmedRight solid cs
      by_cases same : c = sep
      · subst same
        rw [trimmedRight_cons, if_neg (by simp [solid])]
        simp only [pieces, if_true, List.map_cons, ih]
      · obtain ⟨p, ps, parts, longer⟩ := exists_pieces_cons same cs
        rw [longer, trimmedRight_cons]
        split
        · rename_i both
          rw [both.2, parts] at ih
          obtain ⟨first, rest⟩ := List.cons.inj ih
          rw [List.map_cons, ← rest, trimmedRight_cons, if_pos ⟨both.1, first.symm⟩]
          rfl
        · obtain ⟨q, qs, parts', longer'⟩ := exists_pieces_cons same (trimmedRight cs)
          rw [parts', parts] at ih
          obtain ⟨first, rest⟩ := List.cons.inj ih
          rw [longer', List.map_cons, List.map_cons, rest, trimmedRight_cons, first,
            ← trimmedRight_cons]

/-- The parts of a text are the same, but for white space, when it is trimmed first. -/
theorem map_split_trim (solid : isBlank sep = false) (s : String) :
    (split sep (trim s)).map trim = (split sep s).map trim := by
  have trims (parts : List (List Char)) : (parts.map String.ofList).map trim =
      (parts.map trimmed).map String.ofList := by
    rw [List.map_map, List.map_map]
    exact List.map_congr_left fun p _ => by simp [trim]
  have left (parts : List (List Char)) : parts.map trimmed =
      (parts.map trimmedLeft).map trimmedRight := by
    rw [List.map_map]
    rfl
  have right (parts : List (List Char)) : parts.map trimmed =
      (parts.map trimmedRight).map trimmedLeft := by
    rw [List.map_map]
    exact List.map_congr_left fun p _ => (trimmedLeft_trimmedRight p).symm
  have same : (pieces sep (trimmed s.toList)).map trimmed = (pieces sep s.toList).map trimmed := by
    rw [right, trimmed, map_pieces_trimmedRight solid, ← right, left,
      map_pieces_trimmedLeft solid, ← left]
  rw [split, split, trims, trims, trim, String.toList_ofList, same]

/-! ## Joining and cutting again -/

theorem mem_of_mem_pieces : ∀ {cs p : List Char}, p ∈ pieces sep cs → ∀ c ∈ p, c ∈ cs
  | [], p, inside, c, here => by
      cases List.mem_singleton.mp inside
      cases here
  | d :: cs, p, inside, c, here => by
      by_cases same : d = sep
      · simp only [pieces, same, if_true, List.mem_cons] at inside
        rcases inside with rfl | later
        · cases here
        · exact List.mem_cons_of_mem _ (mem_of_mem_pieces later c here)
      · simp only [pieces, same, if_false] at inside
        cases parts : pieces sep cs with
        | nil => exact absurd parts (pieces_ne_nil sep cs)
        | cons q qs =>
            simp only [parts, List.mem_cons] at inside
            rcases inside with rfl | later
            · rcases List.mem_cons.mp here with rfl | back
              · exact List.mem_cons_self
              · exact List.mem_cons_of_mem _
                  (mem_of_mem_pieces (parts ▸ List.mem_cons_self) c back)
            · exact List.mem_cons_of_mem _
                (mem_of_mem_pieces (parts ▸ List.mem_cons_of_mem _ later) c here)

/-- Parts without the separator are the pieces of what they are joined to. -/
theorem pieces_intercalate : ∀ {ps : List (List Char)}, ps ≠ [] → (∀ p ∈ ps, sep ∉ p) →
    pieces sep ([sep].intercalate ps) = ps
  | [p], _, free => by
      rw [List.intercalate_singleton]
      exact pieces_of_not_mem (free p List.mem_cons_self)
  | p :: q :: ps, _, free => by
      have rest : pieces sep ([sep].intercalate (q :: ps)) = q :: ps :=
        pieces_intercalate (List.cons_ne_nil _ _) fun r inside =>
          free r (List.mem_cons_of_mem _ inside)
      rw [List.intercalate_cons_cons, List.append_assoc, List.singleton_append,
        pieces_append_cons _ (free p List.mem_cons_self), rest]

theorem split_intercalate {parts : List String} (some : parts ≠ [])
    (free : ∀ p ∈ parts, sep ∉ p.toList) :
    split sep ((String.singleton sep).intercalate parts) = parts := by
  have free' : ∀ p ∈ parts.map String.toList, sep ∉ p := by
    intro p inside
    obtain ⟨part, there, rfl⟩ := List.mem_map.mp inside
    exact free part there
  have solid : parts.map String.toList ≠ [] := by simpa using some
  rw [split, String.toList_intercalate, String.toList_singleton, pieces_intercalate solid free',
    List.map_map]
  simp [Function.comp_def]

/-- Joined parts have no characters but their own and the separator. -/
theorem not_mem_intercalate (other : c ≠ sep) : ∀ {ps : List (List Char)}, (∀ p ∈ ps, c ∉ p) →
    c ∉ [sep].intercalate ps
  | [], _ => List.not_mem_nil
  | [p], free => by
      rw [List.intercalate_singleton]
      exact free p List.mem_cons_self
  | p :: q :: ps, free => by
      have rest : c ∉ [sep].intercalate (q :: ps) :=
        not_mem_intercalate other fun r inside => free r (List.mem_cons_of_mem _ inside)
      rw [List.intercalate_cons_cons, List.mem_append, List.mem_append, List.mem_singleton]
      rintro ((here | here) | here)
      · exact free p List.mem_cons_self here
      · exact other here
      · exact rest here

/-- The parts of a blank text are blank. -/
theorem blank_of_mem_split {part : String} (all : blank s = true) (inside : part ∈ split sep s) :
    blank part = true := by
  obtain ⟨p, there, rfl⟩ := List.mem_map.mp inside
  rw [blank_iff, String.toList_ofList]
  exact fun c here => blank_iff.mp all c (mem_of_mem_pieces there c here)

end TableLake.Text
