/-
# TableLake.Proofs.VersionNumber — numbers of snapshots up to the limit of their bits

A run of digits has a value in positional notation, however long it is and however many zeros stand
at its front (`positionalValue`).  As a version it is a snapshot if this value is a number of
sixty-four bits, and refused if it is not; whatever is no run of digits is a tag
(`Version.read_of_numeric`, `Version.read_of_plain`).

A number goes from one reader to another.  What `Version.read` has read is written into the settings
of a table, and read back by a reader that would accept more: a plus sign, for instance, that no
version has.  On what is written the two agree (`version_numbers`).
-/
import TableLake.Proofs.TagName
import Mathlib.Data.Nat.Digits.Defs

namespace TableLake

open TableLake.Outcome TableLake.Text

set_option autoImplicit false

/-! ## Positional notation -/

namespace Text

/-- The value of a text of digits: its last digit counts ones, the one before it tens, and so on. -/
def positionalValue (s : String) : Nat := Nat.ofDigits 10 (s.toList.reverse.map digitValue)

/-- Going on from the left by the tenfold comes to the same value. -/
theorem decimalValue_eq (s : String) : decimalValue s.toList = positionalValue s := by
  rw [positionalValue, Nat.ofDigits_eq_foldr, List.foldr_map, List.foldr_reverse, decimalValue]
  congr 1
  funext n c
  simp [Nat.add_comm]

/-- Zeros at the front do not count. -/
theorem positionalValue_zeros_append (k : Nat) (s : String) :
    positionalValue (String.ofList (List.replicate k '0') ++ s) = positionalValue s := by
  have digits : ((String.ofList (List.replicate k '0') ++ s).toList.reverse.map digitValue) =
      s.toList.reverse.map digitValue ++ List.replicate k 0 := by
    simp [digitValue]
  rw [positionalValue, digits, Nat.ofDigits_append_replicate_zero, positionalValue]

theorem positionalValue_decimal (n : Nat) : positionalValue (decimal n) = n := by
  rw [← decimalValue_eq, decimalValue_decimal]

end Text

/-! ## Versions -/

namespace Version

variable {v tag : String} {n : Nat} {e : CatalogError}

theorem le_maxUnsigned64_iff : n ≤ maxUnsigned64 ↔ n < 2 ^ 64 :=
  Nat.le_sub_one_iff_lt (by decide)

/-- What is said of a run of digits whose value has too many bits. -/
def outOfRange (v : String) : CatalogError :=
  .invalidOption "version"
    ("snapshot id " ++ v ++ " is out of range: " ++ IntegerFault.tooLarge.message)

/-- A run of digits is read as its value, or refused because its value is too large. -/
theorem read_of_numeric (numeric : Numeric v) :
    read v = if positionalValue v < 2 ^ 64 then .ok (.snapshot (positionalValue v))
      else .error (outOfRange v) := by
  obtain ⟨solid, digits⟩ := id numeric
  have nonempty : v.toList ≠ [] := by simpa using solid
  have number : readUnsigned maxUnsigned64 v = _ := readUnsigned_of_digits nonempty digits
  simp only [decimalValue_eq, le_maxUnsigned64_iff] at number
  rw [read, numeric_iff.mp numeric, if_neg Bool.false_ne_true, number]
  by_cases small : positionalValue v < 2 ^ 64
  · rw [if_pos small, if_pos small]
  · rw [if_neg small, if_neg small]
    rfl

theorem read_eq_snapshot_iff :
    read v = .ok (.snapshot n) ↔ Numeric v ∧ positionalValue v = n ∧ n < 2 ^ 64 := by
  by_cases numeric : Numeric v
  · rw [read_of_numeric numeric]
    split
    · rename_i small
      constructor
      · rintro ⟨⟩
        exact ⟨numeric, rfl, small⟩
      · rintro ⟨-, rfl, -⟩
        rfl
    · rename_i large
      refine iff_of_false (by rintro ⟨⟩) ?_
      rintro ⟨-, rfl, small⟩
      exact large small
  · rw [read_of_plain numeric]
    exact iff_of_false (by rintro ⟨⟩) fun number => numeric number.1

theorem read_eq_error_iff :
    read v = .error e ↔ Numeric v ∧ 2 ^ 64 ≤ positionalValue v ∧ e = outOfRange v := by
  by_cases numeric : Numeric v
  · rw [read_of_numeric numeric]
    split
    · rename_i small
      exact iff_of_false (by rintro ⟨⟩) fun large => absurd small (Nat.not_lt.mpr large.2.1)
    · rename_i large
      constructor
      · rintro ⟨⟩
        exact ⟨numeric, Nat.le_of_not_lt large, rfl⟩
      · rintro ⟨-, -, rfl⟩
        rfl
  · rw [read_of_plain numeric]
    exact iff_of_false (by rintro ⟨⟩) fun refused => numeric refused.1

theorem read_eq_tag_iff : read v = .ok (.tag tag) ↔ ¬Numeric v ∧ tag = v := by
  by_cases numeric : Numeric v
  · rw [read_of_numeric numeric]
    split <;> simp [numeric]
  · simp [read_of_plain numeric, numeric, eq_comm]

theorem numeric_decimal (n : Nat) : Numeric (decimal n) :=
  ⟨fun empty => toList_decimal_ne_nil n (by rw [empty]; rfl), fun _ => isDigit_of_mem_decimal⟩

theorem numeric_zeros_append (k : Nat) (numeric : Numeric v) :
    Numeric (String.ofList (List.replicate k '0') ++ v) := by
  obtain ⟨solid, digits⟩ := numeric
  refine ⟨by simp [solid], fun c inside => ?_⟩
  rw [String.toList_append, String.toList_ofList, List.mem_append] at inside
  rcases inside with zero | back
  · rw [List.eq_of_mem_replicate zero]
    rfl
  · exact digits c back

/-- **What is written of a number is read as this number.** -/
theorem read_decimal (n : UInt64) : read (decimal n.toNat) = .ok (.snapshot n.toNat) :=
  read_eq_snapshot_iff.mpr ⟨numeric_decimal _, positionalValue_decimal _, n.toNat_lt⟩

theorem read_zeros_append (k : Nat) (number : read v = .ok (.snapshot n)) :
    read (String.ofList (List.replicate k '0') ++ v) = .ok (.snapshot n) := by
  obtain ⟨numeric, value, small⟩ := read_eq_snapshot_iff.mp number
  exact read_eq_snapshot_iff.mpr
    ⟨numeric_zeros_append k numeric, (positionalValue_zeros_append k v).trans value, small⟩

end Version

/-- **Versions and numbers.**  A written version is a snapshot just if it is a run of digits whose
value is less than `2 ^ 64`, then the one with this value, however many zeros stand at its front;
it is refused just if it is a run of digits with a greater value; and it is a tag just if it is no
run of digits, then the one with this text.  Every number of sixty-four bits is written as a version
that is read as the number.  A table that is loaded at a version with this number has the text of
the number in its settings, and this text is read back as the number when the table is scanned. -/
theorem version_numbers :
    (∀ v n, Version.read v = .ok (.snapshot n) ↔
      Numeric v ∧ positionalValue v = n ∧ n < 2 ^ 64) ∧
    (∀ k v n, Version.read v = .ok (.snapshot n) →
      Version.read (String.ofList (List.replicate k '0') ++ v) = .ok (.snapshot n)) ∧
    (∀ v e, Version.read v = .error e ↔
      Numeric v ∧ 2 ^ 64 ≤ positionalValue v ∧ e = Version.outOfRange v) ∧
    (∀ v tag, Version.read v = .ok (.tag tag) ↔ ¬Numeric v ∧ tag = v) ∧
    ∀ n : UInt64, Version.read (decimal n.toNat) = .ok (.snapshot n.toNat) ∧
      ∀ (c : Catalog) (now : Int) (r : TableRef) (id : TableId) (t : TableEntry) (v : String),
        Namespace.tableId r = .ok id → c.entry? id = some t →
        Version.read v = .ok (.snapshot n.toNat) →
          ∃ shown, (Namespace.loadTableAtVersion r v).outcome (.new c now) =
              (.ok shown, .new c now) ∧
            shown.options.get? scanSnapshotKey = some (decimal n.toNat) ∧
            readUnsigned maxUnsigned64 (decimal n.toNat) = .ok n.toNat ∧
            shown.scanSnapshot = some <$> shown.snapshot n.toNat := by
  refine ⟨fun v n => Version.read_eq_snapshot_iff, fun k v n => Version.read_zeros_append k,
    fun v e => Version.read_eq_error_iff, fun v tag => Version.read_eq_tag_iff, fun n =>
    ⟨Version.read_decimal n, fun c now r id t v named found read => ?_⟩⟩
  have small : n.toNat ≤ maxUnsigned64 := Version.le_of_read read
  have stored : (t.viewAt id (.snapshot n.toNat)).options.get? scanSnapshotKey =
      some (decimal n.toNat) :=
    (Table.get?_options_copy _ _ _ _).trans (if_pos rfl)
  have back : readUnsigned maxUnsigned64 (decimal n.toNat) = .ok n.toNat :=
    readUnsigned_decimal small
  exact ⟨_, Namespace.outcome_loadTableAtVersion named found read, stored, back,
    Table.scanSnapshot_of_number stored back⟩

/-- The greatest number, written with two zeros too many, goes over the number that the schema
stores. -/
theorem version_numbers_greatest :
    let c := CatalogOp.afterAll (.new "sea" ∅) pinnedRun
    ∃ t shown, c.entry? ⟨"lake", "catch"⟩ = some t ∧
      t.schema.options.get? scanSnapshotKey = some "1" ∧
      (Namespace.loadTableAtVersion ⟨["lake"], "catch"⟩ "0018446744073709551615").outcome
        (.new c 5) = (.ok shown, .new c 5) ∧
      shown.options.get? scanSnapshotKey = some "18446744073709551615" ∧
      shown.scanSnapshot = some <$> shown.snapshot 18446744073709551615 ∧
      Version.read "18446744073709551616" = .error (Version.outOfRange "18446744073709551616") := by
  intro c
  obtain ⟨-, zeros, refused, -, numbers⟩ := version_numbers
  obtain ⟨read, loads⟩ := numbers 18446744073709551615
  have stored : (c.entry? ⟨"lake", "catch"⟩).map
      (fun t => t.schema.options.get? scanSnapshotKey) = some (some "1") := by
    decide +kernel
  obtain ⟨t, found, pinned⟩ := Option.map_eq_some_iff.mp stored
  obtain ⟨shown, loaded, settled, -, scan⟩ :=
    loads c 5 ⟨["lake"], "catch"⟩ _ t _ rfl found (zeros 2 _ _ read)
  exact ⟨t, shown, found, pinned, loaded, settled, scan,
    (refused _ _).mpr ⟨by decide +kernel, by decide +kernel, rfl⟩⟩

end TableLake
