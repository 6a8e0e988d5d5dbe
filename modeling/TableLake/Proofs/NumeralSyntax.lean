/-
# TableLake.Proofs.NumeralSyntax — the syntax of numerals

A numeral is a sign or none, and behind it one of three words or digits with at most one point
and an exponent or none.  The reader takes as many digits as there are, then a point if one
follows, and so on, and never goes back.  It need not: what may follow a run of digits is no
digit, and no sign starts what may follow a sign.  So it reads the texts of the syntax and no
others (`isNumeral_iff`).
-/
import TableLake.Text.Numeral
import Mathlib.Data.List.TakeWhile

namespace TableLake.Text

set_option autoImplicit false

/-! ## The syntax -/

/-- Digits only, and perhaps none. -/
def Digits (cs : List Char) : Prop := ∀ c ∈ cs, isDigit c = true

/-- A sign, or nothing. -/
inductive SignText : List Char → Prop
  | none : SignText []
  | plus : SignText ['+']
  | minus : SignText ['-']

/-- The letter e with a whole number behind it, or nothing. -/
inductive ExponentText : List Char → Prop
  | none : ExponentText []
  | some {e : Char} {sign digits : List Char} (letter : e = 'e' ∨ e = 'E') (signed : SignText sign)
      (solid : digits ≠ []) (all : Digits digits) : ExponentText (e :: (sign ++ digits))

/-- Digits without a point, or with a point before, between or behind them. -/
inductive MantissaText : List Char → Prop
  | whole {digits : List Char} (solid : digits ≠ []) (all : Digits digits) : MantissaText digits
  | pointed {whole fraction : List Char} (before : Digits whole) (behind : Digits fraction)
      (solid : whole ≠ [] ∨ fraction ≠ []) : MantissaText (whole ++ '.' :: fraction)

/-- A numeral without its sign. -/
inductive UnsignedText : List Char → Prop
  | word {cs : List Char} (spelled : lower (String.ofList cs) ∈ ["inf", "infinity", "nan"]) :
      UnsignedText cs
  | number {mantissa exponent : List Char} (first : MantissaText mantissa)
      (last : ExponentText exponent) : UnsignedText (mantissa ++ exponent)

/-- The syntax of numerals. -/
def NumeralText (s : String) : Prop :=
  ∃ sign cs, SignText sign ∧ UnsignedText cs ∧ s.toList = sign ++ cs

/-! ## Signs -/

variable {cs sign rest digits : List Char}

theorem exists_sign (cs : List Char) : ∃ sign, SignText sign ∧ cs = sign ++ (takeSign cs).2 := by
  unfold takeSign
  split
  · exact ⟨['-'], .minus, rfl⟩
  · exact ⟨['+'], .plus, rfl⟩
  · exact ⟨[], .none, rfl⟩

/-- A sign is taken off what does not start with another one. -/
theorem takeSign_append (signed : SignText sign) (plain : ∀ c ∈ rest.head?, c ≠ '-' ∧ c ≠ '+') :
    (takeSign (sign ++ rest)).2 = rest := by
  cases signed with
  | plus => rfl
  | minus => rfl
  | none =>
      rw [List.nil_append]
      unfold takeSign
      split
      · exact absurd rfl (plain _ rfl).1
      · exact absurd rfl (plain _ rfl).2
      · rfl

theorem ne_sign_of_isDigit {c : Char} (digit : isDigit c = true) : c ≠ '-' ∧ c ≠ '+' := by
  constructor
  · rintro rfl
    exact absurd digit (by decide)
  · rintro rfl
    exact absurd digit (by decide)

/-! ## Runs of digits -/

theorem digits_takeWhile (cs : List Char) : Digits (cs.takeWhile isDigit) :=
  fun _ inside => List.mem_takeWhile_imp inside

/-- A run of digits is taken whole, and nothing behind it that does not start with a digit. -/
theorem takeWhile_digits (all : Digits digits) (ends : ∀ c ∈ rest.head?, isDigit c = false) :
    (digits ++ rest).takeWhile isDigit = digits ∧ (digits ++ rest).dropWhile isDigit = rest := by
  rw [List.takeWhile_append_of_pos all, List.dropWhile_append_of_pos all]
  cases rest with
  | nil => exact ⟨List.append_nil _, rfl⟩
  | cons c cs =>
      have other : ¬isDigit c = true := Bool.eq_false_iff.mp (ends c rfl)
      rw [List.takeWhile_cons_of_neg other, List.dropWhile_cons_of_neg other, List.append_nil]
      exact ⟨rfl, rfl⟩

/-! ## Exponents -/

theorem readExponent_isSome_iff (cs : List Char) :
    (readExponent cs).isSome = true ↔ ExponentText cs := by
  cases cs with
  | nil => exact iff_of_true rfl .none
  | cons e cs =>
      obtain ⟨sign, signed, parts⟩ := exists_sign cs
      constructor
      · intro read
        simp only [readExponent] at read
        split at read
        · rename_i letter
          rw [Bool.or_eq_true, decide_eq_true_eq, decide_eq_true_eq] at letter
          split at read
          · cases read
          · rename_i allDigits
            simp only [Bool.or_eq_true, Bool.not_eq_true', not_or, Bool.not_eq_false,
              List.isEmpty_iff, List.all_eq_true] at allDigits
            rw [parts]
            exact .some letter signed allDigits.1 allDigits.2
        · cases read
      · intro exponent
        cases exponent with
        | @some _ sign digits letter signed solid all =>
            have starts : ∀ c ∈ digits.head?, c ≠ '-' ∧ c ≠ '+' := fun c here =>
              ne_sign_of_isDigit (all c (List.mem_of_mem_head? here))
            have known : (e = 'e' || e = 'E') = true := by
              rw [Bool.or_eq_true, decide_eq_true_eq, decide_eq_true_eq]
              exact letter
            have read : (digits.isEmpty || !digits.all isDigit) = false := by
              simp only [Bool.or_eq_false_iff, Bool.not_eq_false', List.all_eq_true,
                List.isEmpty_eq_false_iff]
              exact ⟨solid, all⟩
            simp only [readExponent, known, takeSign_append signed starts, read]
            rfl

/-- An exponent starts with neither a digit nor a point. -/
theorem ExponentText.starts (exponent : ExponentText cs) :
    ∀ c ∈ cs.head?, isDigit c = false ∧ c ≠ '.' := by
  intro c here
  cases exponent with
  | none => cases here
  | some letter =>
      cases here
      rcases letter with rfl | rfl <;> decide

/-! ## Numerals -/

/-- The digits before the point, those behind it, and the rest. -/
def cutNumber (cs : List Char) : List Char × List Char × List Char :=
  match cs.dropWhile isDigit with
  | '.' :: ds => (cs.takeWhile isDigit, ds.takeWhile isDigit, ds.dropWhile isDigit)
  | ds => (cs.takeWhile isDigit, [], ds)

/-- What is cut off in front is a mantissa, if there is a digit in it. -/
theorem mantissa_of_cutNumber {whole fraction : List Char}
    (cut : cutNumber cs = (whole, fraction, rest)) (solid : whole ≠ [] ∨ fraction ≠ []) :
    ∃ mantissa, MantissaText mantissa ∧ cs = mantissa ++ rest := by
  have parts := List.takeWhile_append_dropWhile (p := isDigit) (l := cs)
  unfold cutNumber at cut
  split at cut
  · rename_i ds pointed
    cases cut
    refine ⟨_, .pointed (digits_takeWhile cs) (digits_takeWhile ds) solid, ?_⟩
    rw [List.append_assoc, List.cons_append, List.takeWhile_append_dropWhile, ← pointed, parts]
  · cases cut
    exact ⟨_, .whole (solid.resolve_right fun none => none rfl) (digits_takeWhile cs), parts.symm⟩

/-- A mantissa is cut off whole, and nothing of the exponent behind it. -/
theorem cutNumber_append {mantissa exponent : List Char} (first : MantissaText mantissa)
    (last : ExponentText exponent) :
    ∃ whole fraction, cutNumber (mantissa ++ exponent) = (whole, fraction, exponent) ∧
      (whole ≠ [] ∨ fraction ≠ []) := by
  have ends : ∀ c ∈ exponent.head?, isDigit c = false := fun c here => (last.starts c here).1
  cases first with
  | whole solid all =>
      obtain ⟨taken, dropped⟩ := takeWhile_digits all ends
      refine ⟨mantissa, [], ?_, .inl solid⟩
      unfold cutNumber
      rw [taken, dropped]
      split
      · exact absurd rfl (last.starts _ rfl).2
      · rfl
  | @pointed whole fraction before behind solid =>
      have stops : ∀ c ∈ ('.' :: (fraction ++ exponent)).head?, isDigit c = false := by
        rintro _ ⟨⟩
        decide
      obtain ⟨taken, dropped⟩ := takeWhile_digits before stops
      obtain ⟨taken', dropped'⟩ := takeWhile_digits behind ends
      refine ⟨whole, fraction, ?_, solid⟩
      rw [List.append_assoc, List.cons_append]
      unfold cutNumber
      rw [taken, dropped]
      simp only [taken', dropped']

/-- Digits and an exponent make a number, if there is a digit. -/
theorem isSome_of_parts (whole fraction rest : List Char) (make : Int → NumeralValue) :
    (if (whole.isEmpty && fraction.isEmpty) = true then none
      else (readExponent rest).map make).isSome = true ↔
      (whole ≠ [] ∨ fraction ≠ []) ∧ (readExponent rest).isSome = true := by
  cases whole <;> cases fraction <;> simp

/-- The reader looks for a word first, and then for digits and an exponent. -/
theorem isNumeral_iff_cut (s : String) :
    isNumeral s = true ↔
      let cs := (takeSign s.toList).2
      lower (String.ofList cs) ∈ ["inf", "infinity", "nan"] ∨
        ∃ whole fraction rest, cutNumber cs = (whole, fraction, rest) ∧
          (whole ≠ [] ∨ fraction ≠ []) ∧ (readExponent rest).isSome = true := by
  unfold isNumeral readNumeral
  rcases takeSign s.toList with ⟨negative, cs⟩
  simp only [List.mem_cons, List.not_mem_nil, or_false]
  split
  · rename_i word
    rw [Bool.or_eq_true, decide_eq_true_eq, decide_eq_true_eq] at word
    exact iff_of_true rfl (.inl (word.imp_right .inl))
  · rename_i other
    rw [Bool.or_eq_true, decide_eq_true_eq, decide_eq_true_eq, not_or] at other
    split
    · rename_i word
      exact iff_of_true rfl (.inl (.inr (.inr word)))
    · rename_i other'
      have number : ¬(lower (String.ofList cs) = "inf" ∨ lower (String.ofList cs) = "infinity" ∨
          lower (String.ofList cs) = "nan") := by
        rintro (word | word | word)
        exacts [other.1 word, other.2 word, other' word]
      rw [isSome_of_parts, or_iff_right number]
      unfold cutNumber
      by_cases point : ∃ ds, cs.dropWhile isDigit = '.' :: ds
      · obtain ⟨ds, pointed⟩ := point
        simp only [pointed, Prod.mk.injEq, and_assoc, exists_eq_left', exists_and_left]
      · split
        · rename_i pointed
          exact absurd ⟨_, pointed⟩ point
        · simp only [Prod.mk.injEq, and_assoc, exists_eq_left', exists_and_left]

/-- What stands behind a sign starts with no other sign. -/
theorem UnsignedText.starts (unsigned : UnsignedText cs) :
    ∀ c ∈ cs.head?, c ≠ '-' ∧ c ≠ '+' := by
  intro c here
  cases unsigned with
  | word spelled =>
      -- a sign is its own small letter, and none of the words starts with one
      obtain ⟨ds, rfl⟩ : ∃ ds, cs = c :: ds := List.head?_eq_some_iff.mp here
      have first : ∀ word ∈ ["inf", "infinity", "nan"], word.toList.head? ≠ some '-' ∧
          word.toList.head? ≠ some '+' := by decide
      have starts := first _ spelled
      simp only [lower, String.toList_ofList, List.map_cons, List.head?_cons] at starts
      constructor
      · rintro rfl
        exact starts.1 rfl
      · rintro rfl
        exact starts.2 rfl
  | @number mantissa exponent first last =>
      cases first with
      | whole solid all =>
          cases mantissa with
          | nil => exact absurd rfl solid
          | cons d ds =>
              cases here
              exact ne_sign_of_isDigit (all c List.mem_cons_self)
      | @pointed whole fraction before behind solid =>
          cases whole with
          | nil =>
              cases here
              decide
          | cons d ds =>
              cases here
              exact ne_sign_of_isDigit (before c List.mem_cons_self)

/-- **The reader reads the numerals of the syntax and no other texts.** -/
theorem isNumeral_iff (s : String) : isNumeral s = true ↔ NumeralText s := by
  rw [isNumeral_iff_cut]
  constructor
  · intro read
    obtain ⟨sign, signed, parts⟩ := exists_sign s.toList
    refine ⟨sign, _, signed, ?_, parts⟩
    rcases read with word | ⟨whole, fraction, rest, cut, solid, read⟩
    · exact .word word
    · obtain ⟨mantissa, first, same⟩ := mantissa_of_cutNumber cut solid
      rw [same]
      exact .number first ((readExponent_isSome_iff rest).mp read)
  · rintro ⟨sign, cs, signed, unsigned, parts⟩
    rw [parts, takeSign_append signed unsigned.starts]
    cases unsigned with
    | word spelled => exact .inl spelled
    | number first last =>
        obtain ⟨whole, fraction, cut, solid⟩ := cutNumber_append first last
        exact .inr ⟨whole, fraction, _, cut, solid, (readExponent_isSome_iff _).mpr last⟩

end TableLake.Text
