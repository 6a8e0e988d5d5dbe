/-
# TableLake.Proofs.ArgumentGrammar — lists of words read as keys and values

A list of words is a list of groups: a word that gives a key, and perhaps a value behind it.  The
same word can be either, a negative number say or a lone hyphen, so the grammar goes by places.  At
the place of a key stands a word that gives one, or the list is refused; behind it stands its value,
unless the word there is like a key.  `ArgumentReading` is this grammar, read from the left.  Every
list has one outcome by it, the one that the reader gives (`readGroups_eq_iff`), and where that is a
list of groups, each word went into one of them (`words_of_reading`).

What is looked up by a key comes from the groups of that key, in their order (`getAll_ofGroups`,
`has_ofGroups_iff`).  Groups whose values are not like keys are written with two hyphens before each
key, and read back as they were (`reading_written`).
-/
import TableLake.Action.ArgumentList
import TableLake.Proofs.NumeralSyntax
import TableLake.Proofs.Outcome

namespace TableLake

open TableLake.Outcome TableLake.Text

set_option autoImplicit false

/-! ## Words -/

/-- The word gives the key: the key is what stands behind two hyphens, or behind the only one. -/
def GivesKey (word key : String) : Prop :=
  key ≠ "" ∧ (word = "--" ++ key ∨ word = "-" ++ key ∧ key.toList.head? ≠ some '-')

/-- The word is a key where a value might stand: it starts with two hyphens, or it starts with one,
is longer and is no numeral. -/
def KeyLike (word : String) : Prop :=
  (∃ rest, word = "--" ++ rest) ∨ ∃ rest, word = "-" ++ rest ∧ rest ≠ "" ∧ ¬NumeralText word

/-- A word is refused at the place of a key. -/
def ProcedureError.noKey (word : String) : ProcedureError :=
  .invalidArgument word "expected a key starting with '-' or '--'"

/-- A word starts with two hyphens, or with just one, or with none. -/
inductive Hyphens : String → Prop
  | two (rest : String) : Hyphens ("--" ++ rest)
  | one {rest : String} (single : rest.toList.head? ≠ some '-') : Hyphens ("-" ++ rest)
  | none {word : String} (plain : word.toList.head? ≠ some '-') : Hyphens word

theorem hyphens (word : String) : Hyphens word := by
  by_cases first : word.toList.head? = some '-'
  · obtain ⟨rest, chars⟩ := List.head?_eq_some_iff.mp first
    by_cases second : rest.head? = some '-'
    · obtain ⟨tail, rfl⟩ := List.head?_eq_some_iff.mp second
      have parts : word = "--" ++ String.ofList tail := String.toList_inj.mp (by simp [chars])
      exact parts ▸ .two _
    · have parts : word = "-" ++ String.ofList rest := String.toList_inj.mp (by simp [chars])
      exact parts ▸ .one (by rwa [String.toList_ofList])
  · exact .none first

section Words

variable {word key rest rest' : String} {e : ProcedureError}

theorem chars_two (rest : String) : ("--" ++ rest).toList = '-' :: '-' :: rest.toList := by simp

theorem chars_one (rest : String) : ("-" ++ rest).toList = '-' :: rest.toList := by simp

theorem ne_hyphen (plain : word.toList.head? ≠ some '-') : word ≠ "-" ++ rest := by
  rintro rfl
  exact plain (by rw [chars_one]; rfl)

theorem ne_hyphens (plain : word.toList.head? ≠ some '-') : word ≠ "--" ++ rest := by
  rintro rfl
  exact plain (by rw [chars_two]; rfl)

theorem two_ne_one (single : rest'.toList.head? ≠ some '-') : "--" ++ rest ≠ "-" ++ rest' := by
  intro same
  have chars := congrArg String.toList same
  rw [chars_two, chars_one] at chars
  exact single (by rw [← (List.cons.inj chars).2]; rfl)

theorem gives_two_iff : GivesKey ("--" ++ rest) key ↔ rest ≠ "" ∧ rest = key := by
  constructor
  · rintro ⟨solid, two | ⟨one, single⟩⟩
    · have same : rest = key := (String.append_right_inj _).mp two
      exact ⟨same ▸ solid, same⟩
    · exact absurd one (two_ne_one single)
  · rintro ⟨solid, rfl⟩
    exact ⟨solid, .inl rfl⟩

theorem gives_one_iff (single : rest.toList.head? ≠ some '-') :
    GivesKey ("-" ++ rest) key ↔ rest ≠ "" ∧ rest = key := by
  constructor
  · rintro ⟨solid, two | ⟨one, -⟩⟩
    · exact absurd two.symm (two_ne_one single)
    · have same : rest = key := (String.append_right_inj _).mp one
      exact ⟨same ▸ solid, same⟩
  · rintro ⟨solid, rfl⟩
    exact ⟨solid, .inr ⟨rfl, single⟩⟩

theorem not_gives (plain : word.toList.head? ≠ some '-') : ¬GivesKey word key := by
  rintro ⟨-, two | ⟨one, -⟩⟩
  · exact ne_hyphens plain two
  · exact ne_hyphen plain one

theorem readKey_two (rest : String) :
    readKey ("--" ++ rest) = if rest = "" then .error (.noKey ("--" ++ rest)) else .ok rest := by
  unfold readKey
  simp [ProcedureError.noKey]

theorem readKey_one (single : rest.toList.head? ≠ some '-') :
    readKey ("-" ++ rest) = if rest = "" then .error (.noKey ("-" ++ rest)) else .ok rest := by
  unfold readKey
  rw [chars_one]
  generalize same : rest.toList = cs at single
  split
  · rename_i here
    cases here
    exact absurd rfl single
  · rename_i other here
    cases here
    simp [← same, ProcedureError.noKey]
  · rename_i other
    exact absurd rfl (other _)

theorem readKey_none (plain : word.toList.head? ≠ some '-') :
    readKey word = .error (.noKey word) := by
  unfold readKey
  split
  · rename_i here
    exact absurd (by rw [here]; rfl) plain
  · rename_i here
    exact absurd (by rw [here]; rfl) plain
  · rfl

/-- The reader of keys finds the key that a word gives. -/
theorem readKey_ok_iff : readKey word = .ok key ↔ GivesKey word key := by
  cases hyphens word with
  | two rest =>
      rw [readKey_two, gives_two_iff]
      split <;> simp_all
  | one single =>
      rw [readKey_one single, gives_one_iff single]
      split <;> simp_all
  | none plain =>
      rw [readKey_none plain]
      exact iff_of_false (by rintro ⟨⟩) (not_gives plain)

/-- A word that gives no key is refused. -/
theorem readKey_of_no_key (none : ∀ key, ¬GivesKey word key) :
    readKey word = .error (.noKey word) := by
  cases hyphens word with
  | two rest =>
      have empty : rest = "" := by_contra fun solid => none rest (gives_two_iff.mpr ⟨solid, rfl⟩)
      rw [readKey_two, if_pos empty]
  | @one rest single =>
      have empty : rest = "" :=
        by_contra fun solid => none rest ((gives_one_iff single).mpr ⟨solid, rfl⟩)
      rw [readKey_one single, if_pos empty]
  | none plain => exact readKey_none plain

/-- The reader tells the words that are like keys from the others. -/
theorem looksLikeKey_iff : looksLikeKey word = true ↔ KeyLike word := by
  cases hyphens word with
  | two rest =>
      have looks : looksLikeKey ("--" ++ rest) = true := by
        unfold looksLikeKey
        simp
      exact iff_of_true looks (.inl ⟨rest, rfl⟩)
  | @one rest single =>
      have like : KeyLike ("-" ++ rest) ↔ rest ≠ "" ∧ ¬NumeralText ("-" ++ rest) := by
        constructor
        · rintro (⟨tail, two⟩ | ⟨tail, one, solid, other⟩)
          · exact absurd two.symm (two_ne_one single)
          · exact ⟨(String.append_right_inj _).mp one ▸ solid, other⟩
        · rintro ⟨solid, other⟩
          exact .inr ⟨rest, rfl, solid, other⟩
      rw [like, ← isNumeral_iff]
      unfold looksLikeKey
      rw [chars_one]
      generalize same : rest.toList = cs at single
      have empty : rest = "" ↔ cs = [] := by rw [← same, String.toList_eq_nil_iff]
      split
      · rename_i here
        cases here
        exact absurd rfl single
      · rename_i here
        cases here
        simp [empty]
      · rename_i other
        cases cs with
        | nil => simp [empty]
        | cons c cs => exact absurd rfl (other _ _)
  | none plain =>
      have unlike : looksLikeKey word = false := by
        unfold looksLikeKey
        split
        · rename_i here
          exact absurd (by rw [here]; rfl) plain
        · rename_i here
          exact absurd (by rw [here]; rfl) plain
        · rfl
      rw [unlike]
      refine iff_of_false Bool.false_ne_true ?_
      rintro (⟨rest, two⟩ | ⟨rest, one, -⟩)
      · exact ne_hyphens plain two
      · exact ne_hyphen plain one

end Words

/-! ## Lists of words -/

/-- A key, and the value behind it if there is one. -/
abbrev ArgumentGroup := String × Option String

/-- The first group of a list of words, and the words behind it. -/
inductive Takes : List String → ArgumentGroup → List String → Prop
  | flag {word key : String} {rest : List String} (gives : GivesKey word key)
      (alone : ∀ next ∈ rest.head?, KeyLike next) : Takes (word :: rest) (key, none) rest
  | pair {word key value : String} {rest : List String} (gives : GivesKey word key)
      (plain : ¬KeyLike value) : Takes (word :: value :: rest) (key, some value) rest

/-- What a list of words is read as: groups, one after the other, or the refusal of the first word
that stands at the place of a key and gives none. -/
inductive ArgumentReading : List String → Except ProcedureError (List ArgumentGroup) → Prop
  | done : ArgumentReading [] (.ok [])
  | refused {word : String} {rest : List String} (none : ∀ key, ¬GivesKey word key) :
      ArgumentReading (word :: rest) (.error (.noKey word))
  | group {words rest : List String} {g : ArgumentGroup}
      {outcome : Except ProcedureError (List ArgumentGroup)} (first : Takes words g rest)
      (later : ArgumentReading rest outcome) : ArgumentReading words ((g :: ·) <$> outcome)

section Lists

variable {words rest : List String} {g : ArgumentGroup} {groups : List ArgumentGroup}
variable {outcome : Except ProcedureError (List ArgumentGroup)}

theorem readGroups_of_takes (takes : Takes words g rest) :
    readGroups words = (g :: ·) <$> readGroups rest := by
  cases takes with
  | @flag word key _ gives alone =>
      cases rest with
      | nil =>
          simp only [readGroups, readKey_ok_iff.mpr gives]
          rfl
      | cons next rest =>
          simp only [readGroups, readKey_ok_iff.mpr gives, looksLikeKey_iff.mpr (alone next rfl)]
          rw [map_eq_pure_bind]
          rfl
  | @pair word key value _ gives plain =>
      have value : looksLikeKey value = false :=
        Bool.not_eq_true _ ▸ fun like => plain (looksLikeKey_iff.mp like)
      simp only [readGroups, readKey_ok_iff.mpr gives, value]
      rw [map_eq_pure_bind]
      rfl

/-- The reader gives what the grammar says. -/
theorem readGroups_of_reading (reading : ArgumentReading words outcome) :
    readGroups words = outcome := by
  induction reading with
  | done => rfl
  | @refused word rest none =>
      cases rest with
      | nil =>
          rw [readGroups, readKey_of_no_key none]
          rfl
      | cons next rest =>
          rw [readGroups, readKey_of_no_key none]
          rfl
  | group first later ih => rw [readGroups_of_takes first, ih]

/-- By the grammar every list of words is read as something. -/
theorem exists_reading : ∀ words : List String, ∃ outcome, ArgumentReading words outcome
  | [] => ⟨_, .done⟩
  | [word] => by
      by_cases named : ∃ key, GivesKey word key
      · obtain ⟨key, gives⟩ := named
        exact ⟨_, .group (.flag gives (by rintro _ ⟨⟩)) .done⟩
      · exact ⟨_, .refused (not_exists.mp named)⟩
  | word :: next :: rest => by
      by_cases named : ∃ key, GivesKey word key
      · obtain ⟨key, gives⟩ := named
        by_cases like : KeyLike next
        · obtain ⟨outcome, later⟩ := exists_reading (next :: rest)
          exact ⟨_, .group (.flag gives (by rintro _ ⟨⟩; exact like)) later⟩
        · obtain ⟨outcome, later⟩ := exists_reading rest
          exact ⟨_, .group (.pair gives like) later⟩
      · exact ⟨_, .refused (not_exists.mp named)⟩

/-- **The reader gives the outcome that the grammar gives, and there is no other.** -/
theorem readGroups_eq_iff : readGroups words = outcome ↔ ArgumentReading words outcome := by
  constructor
  · rintro rfl
    obtain ⟨outcome, reading⟩ := exists_reading words
    exact readGroups_of_reading reading ▸ reading
  · exact readGroups_of_reading

/-- The words of groups, where each key is given by one of the heads. -/
def wordsOf (heads : List String) (groups : List ArgumentGroup) : List String :=
  (List.zipWith (fun head g => head :: g.2.toList) heads groups).flatten

/-- Each word went into one group, as the one that gives its key or as its value. -/
theorem words_of_reading (reading : ArgumentReading words (.ok groups)) :
    ∃ heads, List.Forall₂ (fun head g => GivesKey head g.1) heads groups ∧
      words = wordsOf heads groups := by
  generalize same : Except.ok groups = outcome at reading
  induction reading generalizing groups with
  | done =>
      cases same
      exact ⟨[], .nil, rfl⟩
  | refused => cases same
  | group first later ih =>
      obtain ⟨behind, rfl, rfl⟩ := map_eq_ok_iff.mp same.symm
      obtain ⟨heads, give, rfl⟩ := ih rfl
      cases first with
      | flag gives => exact ⟨_ :: heads, .cons gives give, rfl⟩
      | pair gives => exact ⟨_ :: heads, .cons gives give, rfl⟩

end Lists

/-! ## Looking up -/

/-- The values of a key, in order. -/
def valuesOf (key : String) (groups : List ArgumentGroup) : List String :=
  (groups.filter fun g => g.1 = key).filterMap Prod.snd

namespace ArgumentList

variable {key : String} {groups : List ArgumentGroup} {words : List String}

/-- Groups that are added put their values behind those that are there. -/
theorem getD_addGroups (key : String) (groups : List ArgumentGroup)
    (values : OrderedMap String (List String)) :
    ((groups.foldl addGroup values).get? key).getD [] =
      (values.get? key).getD [] ++ valuesOf key groups := by
  induction groups generalizing values with
  | nil => exact (List.append_nil _).symm
  | cons g groups ih =>
      have added : ((addGroup values g).get? key).getD [] =
          (values.get? key).getD [] ++ valuesOf key [g] := by
        obtain ⟨k, value⟩ := g
        rw [addGroup, OrderedMap.get?_insert]
        by_cases same : k = key
        · subst same
          cases value <;> simp [valuesOf]
        · simp [valuesOf, same]
      have parts : valuesOf key (g :: groups) = valuesOf key [g] ++ valuesOf key groups := by
        rw [valuesOf, ← List.singleton_append, List.filter_append, List.filterMap_append]
        rfl
      rw [List.foldl_cons, ih, added, parts, List.append_assoc]

theorem getAll_ofGroups (key : String) (groups : List ArgumentGroup) :
    (ofGroups groups).getAll key = valuesOf key groups :=
  getD_addGroups key groups ∅

theorem contains_addGroups (key : String) (groups : List ArgumentGroup)
    (values : OrderedMap String (List String)) :
    (groups.foldl addGroup values).contains key = true ↔
      values.contains key = true ∨ ∃ value, (key, value) ∈ groups := by
  induction groups generalizing values with
  | nil => simp
  | cons g groups ih =>
      have added : (addGroup values g).contains key = true ↔
          values.contains key = true ∨ g.1 = key := by
        rw [addGroup, OrderedMap.contains, OrderedMap.get?_insert]
        by_cases same : g.1 = key
        · simp [same]
        · simp [same, OrderedMap.contains]
      obtain ⟨k, value⟩ := g
      rw [List.foldl_cons, ih, added, or_assoc]
      refine or_congr_right ?_
      constructor
      · rintro (rfl | ⟨value', inside⟩)
        · exact ⟨value, List.mem_cons_self⟩
        · exact ⟨value', List.mem_cons_of_mem _ inside⟩
      · rintro ⟨value', inside⟩
        rcases List.mem_cons.mp inside with same | inside
        · exact .inl (congrArg Prod.fst same).symm
        · exact .inr ⟨value', inside⟩

/-- A key is there if some group has it, with a value or without. -/
theorem has_ofGroups_iff : (ofGroups groups).has key = true ↔ ∃ value, (key, value) ∈ groups :=
  (contains_addGroups key groups ∅).trans (or_iff_right Bool.false_ne_true)

/-- A single value is looked up where there is at most one. -/
theorem get_eq (args : ArgumentList) (key : String) :
    args.get key =
      if 2 ≤ (args.getAll key).length then
        .error (.invalidArgument key
          "expected a single value but the key was given more than once")
      else .ok (args.getAll key).head? := by
  unfold get
  generalize args.getAll key = values
  match values with
  | [] => rfl
  | [value] => rfl
  | first :: second :: rest => rw [if_pos (by simp)]

end ArgumentList

/-! ## Writing -/

/-- Groups as words, with two hyphens before each key. -/
def written (groups : List ArgumentGroup) : List String :=
  groups.flatMap fun g => ("--" ++ g.1) :: g.2.toList

/-- No key is empty, and no value is like a key. -/
def Writable (groups : List ArgumentGroup) : Prop :=
  ∀ g ∈ groups, g.1 ≠ "" ∧ ∀ value ∈ g.2, ¬KeyLike value

/-- What is written is read back. -/
theorem reading_written : ∀ {groups : List ArgumentGroup}, Writable groups →
    ArgumentReading (written groups) (.ok groups)
  | [], _ => .done
  | (key, value) :: groups, writable => by
      obtain ⟨solid, plain⟩ := writable (key, value) List.mem_cons_self
      have later : ArgumentReading (written groups) (.ok groups) :=
        reading_written fun g inside => writable g (List.mem_cons_of_mem _ inside)
      have gives : GivesKey ("--" ++ key) key := ⟨solid, .inl rfl⟩
      cases value with
      | some value => exact .group (.pair gives (plain value rfl)) later
      | none =>
          refine .group (.flag gives ?_) later
          -- what is written next starts with two hyphens again
          intro next here
          cases groups with
          | nil => cases here
          | cons g groups =>
              cases here
              exact .inl ⟨g.1, rfl⟩

/-- **Arguments are read by the grammar.**  Every list of words has one outcome by it, and the
reader of arguments gives it.  Where this is a list of groups, each word went into one of them, and
by each key are found the values of the groups that have it, in order: all of them, whether there is
such a group, and the single one, unless there are several.  Groups with keys that are not empty and
values that are not like keys are read back from what is written of them. -/
theorem arguments_follow_grammar :
    (∀ words : List String, ∃ outcome, ArgumentReading words outcome ∧
      (∀ other, ArgumentReading words other → other = outcome) ∧
      ArgumentList.read words = ArgumentList.ofGroups <$> outcome) ∧
    (∀ {words : List String} {groups : List ArgumentGroup}, ArgumentReading words (.ok groups) →
      ∃ heads, List.Forall₂ (fun head g => GivesKey head g.1) heads groups ∧
        words = wordsOf heads groups) ∧
    (∀ (groups : List ArgumentGroup) (key : String),
      (ArgumentList.ofGroups groups).getAll key = valuesOf key groups ∧
      ((ArgumentList.ofGroups groups).has key = true ↔ ∃ value, (key, value) ∈ groups) ∧
      (ArgumentList.ofGroups groups).get key =
        if 2 ≤ (valuesOf key groups).length then
          .error (.invalidArgument key
            "expected a single value but the key was given more than once")
        else .ok (valuesOf key groups).head?) ∧
    ∀ {groups : List ArgumentGroup}, Writable groups →
      ArgumentReading (written groups) (.ok groups) ∧
        ArgumentList.read (written groups) = .ok (.ofGroups groups) := by
  refine ⟨?_, words_of_reading, ?_, ?_⟩
  · intro words
    have reading : ArgumentReading words (readGroups words) := readGroups_eq_iff.mp rfl
    exact ⟨_, reading, fun other read => (readGroups_of_reading read).symm, rfl⟩
  · intro groups key
    refine ⟨ArgumentList.getAll_ofGroups key groups, ArgumentList.has_ofGroups_iff, ?_⟩
    rw [ArgumentList.get_eq, ArgumentList.getAll_ofGroups]
  · intro groups writable
    have reading := reading_written writable
    refine ⟨reading, ?_⟩
    rw [ArgumentList.read, readGroups_of_reading reading]
    rfl

/-- A lone hyphen and negative numbers are values, a key with a third hyphen is none, and the key of
two numbers has one hyphen and then two. -/
theorem arguments_follow_grammar_nets :
    let words := ["--boat", "-", "-n", "-5", "--dry", "---x", "-1e3", "--n", "-inf"]
    let groups : List ArgumentGroup :=
      [("boat", some "-"), ("n", some "-5"), ("dry", none), ("-x", some "-1e3"),
        ("n", some "-inf")]
    ArgumentReading words (.ok groups) ∧
      (∃ heads, words = wordsOf heads groups) ∧
      (ArgumentList.ofGroups groups).getAll "n" = ["-5", "-inf"] ∧
      Writable groups ∧ ArgumentReading (written groups) (.ok groups) := by
  intro words groups
  have read : readGroups words = .ok groups := by decide +kernel
  have reading : ArgumentReading words (.ok groups) := readGroups_eq_iff.mp read
  have writable : Writable groups := by
    have plain : ∀ g ∈ groups, g.1 ≠ "" ∧ ∀ value ∈ g.2, looksLikeKey value = false := by
      decide +kernel
    intro g inside
    refine ⟨(plain g inside).1, fun value here like => ?_⟩
    have unlike := (plain g inside).2 value here
    rw [looksLikeKey_iff.mpr like] at unlike
    cases unlike
  obtain ⟨-, consumed, found, back⟩ := arguments_follow_grammar
  obtain ⟨heads, -, whole⟩ := consumed reading
  refine ⟨reading, ⟨heads, whole⟩, ?_, writable, (back writable).1⟩
  rw [(found groups "n").1]
  decide +kernel

end TableLake
