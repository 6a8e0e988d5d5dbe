/-
# TableLake.Proofs.Decimal — what the reader of whole numbers accepts

Digits are read from left to right and the reader stops at the digit that takes the
number past its bound.  The number only grows on the way (`le_ofDigitChars`), so the
reader refuses a run of digits exactly if the number of the whole run is past the bound
(`readUnsigned_of_digits`).  Hence a number within the bound is read as it was written
(`readUnsigned_decimal`), and so is one with a sign that its bits can hold, the lowest
included (`readSigned_signedDecimal`).
-/
import TableLake.Text.Integer

namespace TableLake.Text

set_option autoImplicit false

variable {bound n : Nat} {beyond : IntegerFault} {cs : List Char} {s : String}

theorem le_ofDigitChars (n : Nat) (cs : List Char) : n ≤ Nat.ofDigitChars 10 cs n := by
  induction cs generalizing n with
  | nil => exact Nat.le_refl n
  | cons c cs ih =>
      rw [Nat.ofDigitChars_cons]
      have later := ih (10 * n + (c.toNat - '0'.toNat))
      omega

/-- A run of digits is read as its number, if that is within the bound. -/
theorem readDigits_eq (inside : n ≤ bound) (digits : ∀ c ∈ cs, isDigit c = true) :
    readDigits bound beyond n cs =
      if Nat.ofDigitChars 10 cs n ≤ bound then .ok (Nat.ofDigitChars 10 cs n)
      else .error beyond := by
  induction cs generalizing n with
  | nil => exact (if_pos inside).symm
  | cons c cs ih =>
      have digit : isDigit c = true := digits c List.mem_cons_self
      have later : ∀ d ∈ cs, isDigit d = true :=
        fun d there => digits d (List.mem_cons_of_mem _ there)
      simp only [readDigits, digit, if_true, Nat.ofDigitChars_cons]
      by_cases next : 10 * n + digitValue c ≤ bound
      · rw [if_pos next]
        exact ih next later
      · -- the number is past the bound already and does not get smaller
        have grows := le_ofDigitChars (10 * n + digitValue c) cs
        rw [if_neg next, if_neg]
        intro whole
        exact next (Nat.le_trans grows whole)

theorem le_of_readDigits {m : Nat} (inside : n ≤ bound)
    (read : readDigits bound beyond n cs = .ok m) : m ≤ bound := by
  induction cs generalizing n with
  | nil =>
      cases read
      exact inside
  | cons c cs ih =>
      simp only [readDigits] at read
      split at read
      · split at read
        · rename_i next
          exact ih next read
        · cases read
      · cases read

theorem le_of_readNumber {m : Nat} (read : readNumber bound beyond cs = .ok m) : m ≤ bound := by
  cases cs with
  | nil => cases read
  | cons c cs => exact le_of_readDigits (Nat.zero_le bound) read

/-- Nothing past the bound is read. -/
theorem le_of_readUnsigned (read : readUnsigned bound s = .ok n) : n ≤ bound := by
  unfold readUnsigned at read
  split at read
  · cases read
  · exact le_of_readNumber read
  · exact le_of_readNumber read

/-- A text of digits is read as its number, if that is within the bound. -/
theorem readUnsigned_of_digits (solid : s.toList ≠ [])
    (digits : ∀ c ∈ s.toList, isDigit c = true) :
    readUnsigned bound s =
      if decimalValue s.toList ≤ bound then .ok (decimalValue s.toList)
      else .error .tooLarge := by
  unfold readUnsigned
  split
  · rename_i empty
    exact absurd empty solid
  · rename_i cs signed
    have plus : isDigit '+' = true := digits '+' (by rw [signed]; exact List.mem_cons_self)
    exact absurd plus (by decide)
  · rename_i cs _ _
    cases written : s.toList with
    | nil => exact absurd written solid
    | cons c cs =>
        rw [written] at digits
        exact readDigits_eq (Nat.zero_le bound) digits

theorem isDigit_of_mem_toDigits {c : Char} (inside : c ∈ Nat.toDigits 10 n) : isDigit c = true :=
  Nat.isDigit_of_mem_toDigits (by decide) (by decide) inside

theorem toList_decimal (n : Nat) : (decimal n).toList = Nat.toDigits 10 n := String.toList_ofList

theorem toList_decimal_ne_nil (n : Nat) : (decimal n).toList ≠ [] := by
  rw [toList_decimal]
  exact Nat.toDigits_ne_nil

theorem isDigit_of_mem_decimal {c : Char} (inside : c ∈ (decimal n).toList) : isDigit c = true := by
  rw [toList_decimal] at inside
  exact isDigit_of_mem_toDigits inside

theorem decimalValue_decimal (n : Nat) : decimalValue (decimal n).toList = n := by
  rw [toList_decimal]
  exact Nat.ofDigitChars_toDigits (by decide) (by decide)

/-- **What is written is read**, up to the bound. -/
theorem readUnsigned_decimal (inside : n ≤ bound) : readUnsigned bound (decimal n) = .ok n := by
  rw [readUnsigned_of_digits (toList_decimal_ne_nil n) fun _ => isDigit_of_mem_decimal,
    decimalValue_decimal, if_pos inside]

/-- Different numbers are written differently. -/
theorem decimal_inj {n m : Nat} (same : decimal n = decimal m) : n = m := by
  have read := readUnsigned_decimal (Nat.le_max_left n m)
  rw [same, readUnsigned_decimal (Nat.le_max_right n m)] at read
  exact (Except.ok.inj read).symm

/-! ## Numbers with a sign -/

/-- The digits of a number are read as the number, up to the bound. -/
theorem readNumber_toDigits (inside : n ≤ bound) :
    readNumber bound beyond (Nat.toDigits 10 n) = .ok n := by
  have value : Nat.ofDigitChars 10 (Nat.toDigits 10 n) 0 = n :=
    Nat.ofDigitChars_toDigits (by decide) (by decide)
  have read : readDigits bound beyond 0 (Nat.toDigits 10 n) = .ok n := by
    rw [readDigits_eq (Nat.zero_le bound) fun c there => isDigit_of_mem_toDigits there, value,
      if_pos inside]
  cases written : Nat.toDigits 10 n with
  | nil => exact absurd written Nat.toDigits_ne_nil
  | cons c cs =>
      rw [written] at read
      exact read

/-- **A number with its sign is read as it was written**, if its bits can hold it. -/
theorem readSigned_signedDecimal {bits : Nat} {z : Int}
    (low : -Int.ofNat (Nat.pow 2 (bits - 1)) ≤ z) (high : z < Int.ofNat (Nat.pow 2 (bits - 1))) :
    readSigned bits (signedDecimal z) = .ok z := by
  cases z with
  | ofNat n =>
      have written : (signedDecimal (.ofNat n)).toList = Nat.toDigits 10 n := toList_decimal n
      have within : n ≤ Nat.pow 2 (bits - 1) - 1 := Nat.le_sub_one_of_lt (Int.ofNat_lt.mp high)
      unfold readSigned
      split
      · rename_i empty
        exact absurd (written.symm.trans empty) Nat.toDigits_ne_nil
      · rename_i cs signed
        have plus : isDigit '+' = true :=
          isDigit_of_mem_toDigits (written ▸ signed ▸ List.mem_cons_self)
        exact absurd plus (by decide)
      · rename_i cs signed
        have minus : isDigit '-' = true :=
          isDigit_of_mem_toDigits (written ▸ signed ▸ List.mem_cons_self)
        exact absurd minus (by decide)
      · rw [written, readNumber_toDigits within]
        rfl
  | negSucc n =>
      have written : (signedDecimal (.negSucc n)).toList = '-' :: Nat.toDigits 10 (n + 1) := by
        simp [signedDecimal, decimal]
      have within : n + 1 ≤ Nat.pow 2 (bits - 1) := by
        rw [Int.ofNat_eq_natCast] at low
        omega
      unfold readSigned
      rw [written]
      show (readNumber _ _ _).map _ = _
      rw [readNumber_toDigits within]
      rfl

end TableLake.Text
