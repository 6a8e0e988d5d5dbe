/-
# TableLake.Proofs.TagName — using a tag by its name

Any text can be the name of a tag, but not every text that names a version is taken as it stands.
A run of digits is the number of a snapshot before it is the name of a tag.  A rollback takes the
white space around a version away first, and refuses one that is blank.  So a tag that is called by
its name is found, unless its name is a run of digits that is not the number of its snapshot, or,
for a rollback, has white space at an end (`tag_used_by_name_iff`).  A tag `1` at the second
snapshot is not found: the name shows the first (`tag_hidden_by_number`).
-/
import TableLake.Proofs.CompactionWords
import TableLake.Proofs.MarkerBinding
import TableLake.Proofs.ProcedureEffect
import TableLake.Proofs.RollbackAlgebra
import TableLake.Proofs.TableName

namespace TableLake

open TableLake.Outcome TableLake.Text TableLake.Sql

set_option autoImplicit false

/-! ## Written versions -/

/-- A text is a run of digits. -/
def Numeric (v : String) : Prop := v ≠ "" ∧ ∀ c ∈ v.toList, isDigit c = true

section Versions

variable {v : String} {version : Version}

theorem numeric_iff : Numeric v ↔ (v.isEmpty || !v.toList.all isDigit) = false := by
  simp [Numeric]

-- the characters of the text are looked at, not all characters there are
instance (v : String) : Decidable (Numeric v) :=
  decidable_of_iff _ numeric_iff.symm

/-- What is no run of digits is read as a tag. -/
theorem Version.read_of_plain (plain : ¬Numeric v) : Version.read v = .ok (.tag v) := by
  rw [numeric_iff, Bool.not_eq_false] at plain
  rw [Version.read, plain]
  rfl

/-- A run of digits is read as the number of a snapshot, if its bits can hold it. -/
theorem Version.read_ok_iff_of_numeric (numeric : Numeric v) :
    Version.read v = .ok version ↔
      ∃ n, readUnsigned maxUnsigned64 v = .ok n ∧ .snapshot n = version := by
  rw [numeric_iff] at numeric
  rw [Version.read, numeric]
  cases readUnsigned maxUnsigned64 v <;> simp

end Versions

/-- What a written version shows in a table: a run of digits the snapshot with this number, another
text the snapshot behind this tag. -/
inductive TableEntry.Shows (t : TableEntry) (v : String) (s : Snapshot) : Prop
  | number (numeric : Numeric v) (read : readUnsigned maxUnsigned64 v = .ok s.id)
  | tag (plain : ¬Numeric v) (points : t.tags.get? v = some s.id)

namespace TableEntry

variable {t : TableEntry} {id : TableId} {s : Snapshot} {v : String} {n : Nat}

/-- The name of a tag shows the tag's snapshot, unless it is a run of digits with another
number. -/
theorem shows_iff_of_points (points : t.tags.get? v = some s.id) :
    t.Shows v s ↔ (Numeric v → readUnsigned maxUnsigned64 v = .ok s.id) := by
  constructor
  · rintro (⟨-, read⟩ | ⟨plain, -⟩) numeric
    · exact read
    · exact absurd numeric plain
  · intro own
    by_cases numeric : Numeric v
    · exact .number numeric (own numeric)
    · exact .tag numeric points

theorem Orderly.shows_iff (orderly : t.Orderly) (inside : s ∈ t.snapshots) (id : TableId) :
    t.Shows v s ↔ ∃ version, Version.read v = .ok version ∧
      (t.view id).atVersion version = .ok s := by
  simp only [orderly.atVersion_ok_iff, and_iff_right inside]
  by_cases numeric : Numeric v
  · simp only [Version.read_ok_iff_of_numeric numeric]
    constructor
    · rintro (⟨-, read⟩ | ⟨plain, -⟩)
      · exact ⟨_, ⟨_, read, rfl⟩, rfl⟩
      · exact absurd numeric plain
    · rintro ⟨_, ⟨n, read, rfl⟩, ⟨⟩⟩
      exact .number numeric read
  · simp only [Version.read_of_plain numeric, Except.ok.injEq, exists_eq_left', versionId]
    constructor
    · rintro (⟨digits, -⟩ | ⟨-, points⟩)
      · exact absurd digits numeric
      · rw [points]
    · intro means
      split at means
      · rename_i points
        cases means
        exact .tag numeric points
      · cases means

end TableEntry

/-! ## Rollbacks -/

/-- A rollback by these arguments is accepted and leaves a snapshot last in a table. -/
def RollsBack (args : BoundArguments) (c : Catalog) (now : Int) (id : TableId) (s : Snapshot) :
    Prop :=
  ∃ messages c' t', (Procedure.rollbackTo.call args).outcome (.new c now) =
      (.ok messages, .new c' now) ∧
    c'.entry? id = some t' ∧ t'.snapshots.getLast? = some s

/-- The arguments of a rollback that are given by name, as texts. -/
def rollbackArguments (place version : String) : BoundArguments :=
  ⟨Procedure.rollbackTo.parameters, [.ofText place, .ofText version]⟩

theorem constant_ofText (name text : String) :
    constant name (.literal (.ofText text)) .utf8 = .ok (.ofText text) := by
  have folded : fold (.literal (.ofText text)) = .ok (.literal (.ofText text)) := rfl
  have itself : (Scalar.ofText text).cast .utf8 = .ok (.ofText text) := if_pos rfl
  unfold constant
  rw [folded]
  exact congrArg (Except.mapError EngineError.data) itself

/-- Table and version are bound by their names. -/
theorem Call.bind_rollback {d : Dialect} {call : Call} {a b : Term} {place version : String}
    (arguments : call.arguments = [(some "table", a), (some "version", b)])
    (first : planValue d a = .ok (.literal (.ofText place)))
    (second : planValue d b = .ok (.literal (.ofText version))) :
    call.bind d .rollbackTo = .ok (rollbackArguments place version) := by
  have resolved : resolveArguments Expr.typedNull Procedure.rollbackTo.parameters
      [.named "table" (marker 0), .named "version" (marker 1)] = .ok [marker 0, marker 1] := by
    decide +kernel
  have bound : bindCall (planValue d) Procedure.rollbackTo.parameters
      [(some "table", a), (some "version", b)] = .ok [.ofText place, .ofText version] := by
    unfold bindCall
    simp only [markers, resolved, bind_eq_ok_iff, mapError_eq_ok_iff, Except.ok.injEq,
      exists_eq_left', mapM_eq_ok_iff]
    exact .cons ⟨_, first, constant_ofText _ place⟩
      (.cons ⟨_, second, constant_ofText _ version⟩ .nil)
  rw [Call.bind, arguments, bound]
  rfl

section Calls

variable {c : Catalog} {id : TableId} {t : TableEntry} {s : Snapshot} {v : String} {now : Int}

theorem tableId_rollbackArguments (database : '.' ∉ id.database.toList)
    (object : '.' ∉ id.object.toList) (hasDatabase : id.database ≠ "")
    (hasObject : id.object ≠ "") : (rollbackArguments id.text v).tableId = .ok id :=
  BoundArguments.tableId_ok_iff.mpr ⟨⟨database, object, hasDatabase, hasObject⟩, rfl⟩

theorem version_rollbackArguments_ok_iff {place : String} {version : Version} :
    (rollbackArguments place v).version = .ok version ↔
      blank v = false ∧ Version.read (trim v) = .ok version := by
  have given : (rollbackArguments place v).text "version" = .ok (some v) := rfl
  simp only [BoundArguments.version, bind_eq_ok_iff, fromCatalog_ok_iff,
    BoundArguments.requiredText_ok_iff, given, Except.ok.injEq, Option.some.injEq, and_assoc,
    exists_eq_left']

/-- A rollback is accepted just if its arguments name a table and a version and the catalog goes
back to it. -/
theorem callRollback_ok_iff {args : BoundArguments} (named : args.tableId = .ok id)
    {messages : List String} {c' : Catalog} :
    (Procedure.rollbackTo.call args).outcome (.new c now) = (.ok messages, .new c' now) ↔
      ∃ version, args.version = .ok version ∧ c.rollbackTo id version = .ok c' ∧
        messages = ["Rolled back " ++ id.text ++ " to " ++ version.text] := by
  show (Procedure.callRollback args).outcome (.new c now) = _ ↔ _
  have rolled (version : Version) : (Procedure.inCatalog (Store.rollbackTo id version)).outcome
      (.new c now) = (.ok (), .new c' now) ↔ c.rollbackTo id version = .ok c' := by
    rw [Procedure.inCatalog, outcome_adapt_ok_iff, Store.rollbackTo, outcome_enter_update]
    cases c.rollbackTo id version <;> simp [Store.new]
  simp only [Procedure.callRollback_eq, outcome_bind_ok_iff, outcome_ofExcept_ok_iff, named]
  constructor
  · rintro ⟨_, _, ⟨⟨⟩, rfl⟩, version, _, ⟨wanted, rfl⟩, ⟨⟩, _, went, ⟨⟩⟩
    exact ⟨version, wanted, (rolled version).mp went, rfl⟩
  · rintro ⟨version, wanted, went, rfl⟩
    exact ⟨id, _, ⟨rfl, rfl⟩, version, _, ⟨wanted, rfl⟩, (), _, (rolled version).mpr went, rfl⟩

/-- A rollback leaves a snapshot last just if the version that it names shows the snapshot. -/
theorem rollsBack_iff {args : BoundArguments} (orderly : t.Orderly) (named : args.tableId = .ok id)
    (found : c.entry? id = some t) :
    RollsBack args c now id s ↔
      ∃ version, args.version = .ok version ∧ (t.view id).atVersion version = .ok s := by
  constructor
  · rintro ⟨messages, c', t', accepted, left, last⟩
    obtain ⟨version, wanted, went, -⟩ := (callRollback_ok_iff named).mp accepted
    obtain ⟨s', t'', shows, left', last'⟩ := Procedure.latest_of_rollback orderly found went
    rw [left] at left'
    cases left'
    rw [last] at last'
    cases last'
    exact ⟨version, wanted, shows⟩
  · rintro ⟨version, wanted, shows⟩
    have went : c.rollbackTo id version = .ok (c.setEntry id (t.upTo s.id)) := by
      rw [Catalog.rollbackTo_eq found orderly, shows]
      rfl
    exact ⟨_, _, _, (callRollback_ok_iff named).mpr ⟨version, wanted, went, rfl⟩,
      Catalog.entry?_setEntry_of_found found _,
      orderly.latest_upTo (Table.mem_of_atVersion shows)⟩

end Calls

/-! ## Tables at a version -/

/-- A table that is loaded at a version is scanned at a snapshot. -/
def Selects (r : TableRef) (v : String) (c : Catalog) (now : Int) (s : Snapshot) : Prop :=
  ∃ shown, (Namespace.loadTableAtVersion r v).outcome (.new c now) = (.ok shown, .new c now) ∧
    shown.scanSnapshot = .ok (some s)

section Loads

variable {c : Catalog} {id : TableId} {t : TableEntry} {s : Snapshot} {v : String} {now : Int}

/-- If the schema stores no number, a loaded table is scanned at what the version shows. -/
theorem selects_iff {r : TableRef} (named : Namespace.tableId r = .ok id)
    (found : c.entry? id = some t)
    (unnumbered : t.schema.options.get? scanSnapshotKey = none) :
    Selects r v c now s ↔
      ∃ version, Version.read v = .ok version ∧ (t.view id).atVersion version = .ok s := by
  have scans {version : Version} (read : Version.read v = .ok version) :
      (t.viewAt id version).scanSnapshot = .ok (some s) ↔
        (t.view id).atVersion version = .ok s := by
    rw [TableEntry.scanSnapshot_viewAt_of_unnumbered unnumbered fun n number =>
      Version.le_of_read (number ▸ read), map_eq_ok_iff]
    simp
  constructor
  · rintro ⟨shown, loaded, scanned⟩
    obtain ⟨version, read⟩ : ∃ version, Version.read v = .ok version := by
      simp only [Namespace.loadTableAtVersion, outcome_bind_ok_iff, outcome_ofExcept_ok_iff]
        at loaded
      obtain ⟨_, _, -, version, _, ⟨read, -⟩, -⟩ := loaded
      exact ⟨version, mapError_eq_ok_iff.mp read⟩
    rw [Namespace.outcome_loadTableAtVersion named found read] at loaded
    cases loaded
    exact ⟨version, read, (scans read).mp scanned⟩
  · rintro ⟨version, read, shows⟩
    exact ⟨_, Namespace.outcome_loadTableAtVersion named found read, (scans read).mpr shows⟩

end Loads

/-! ## Both -/

/-- **When a tag can be used by its name.**  In a catalog that operations led to, a tag of a table
points at one of the table's snapshots.  A call that names the table and, as its version, the tag
takes the table back to this snapshot just if the name is not blank and shows the snapshot without
the white space around it.  If the schema stores no number, the table that is loaded at the name is
scanned at this snapshot just if the name is no run of digits or is its number. -/
theorem tag_used_by_name_iff {c : Catalog} {id : TableId} {t : TableEntry} {g : String} {n : Nat}
    (reached : Reachable c) (database : '.' ∉ id.database.toList) (object : '.' ∉ id.object.toList)
    (hasDatabase : id.database ≠ "") (hasObject : id.object ≠ "") (found : c.entry? id = some t)
    (points : t.tags.get? g = some n) {d : Dialect} {call : Call} {a b : Term}
    (arguments : call.arguments = [(some "table", a), (some "version", b)])
    (first : Call.planValue d a = .ok (.literal (.ofText id.text)))
    (second : Call.planValue d b = .ok (.literal (.ofText g))) (now : Int) :
    ∃ s ∈ t.snapshots, s.id = n ∧
      (∃ args, call.bind d .rollbackTo = .ok args ∧
        (RollsBack args c now id s ↔ blank g = false ∧ t.Shows (trim g) s)) ∧
      (t.schema.options.get? scanSnapshotKey = none →
        (Selects ⟨[id.database], id.object⟩ g c now s ↔
          (Numeric g → readUnsigned maxUnsigned64 g = .ok s.id))) := by
  have orderly := reached.orderly found
  obtain ⟨s, inside, rfl⟩ := orderly.tags g n points
  have named : (rollbackArguments id.text g).tableId = .ok id :=
    tableId_rollbackArguments database object hasDatabase hasObject
  refine ⟨s, inside, rfl, ⟨_, Call.bind_rollback arguments first second, ?_⟩, fun unnumbered => ?_⟩
  · rw [rollsBack_iff orderly named found, orderly.shows_iff inside id]
    simp only [version_rollbackArguments_ok_iff, and_assoc, exists_and_left]
  · have place : Namespace.tableId ⟨[id.database], id.object⟩ = .ok id := rfl
    rw [selects_iff place found unnumbered, ← orderly.shows_iff inside id,
      TableEntry.shows_iff_of_points points]

/-- A call that takes the catch back to a version. -/
def callBack (version : String) : Call :=
  ⟨"sea", ⟨["sys"], "rollback_to"⟩,
    [(some "table", .text "lake.catch" '\''), (some "version", .text version '\'')]⟩

theorem arguments_callBack (version : String) : (callBack version).arguments =
    [(some "table", .text "lake.catch" '\''), (some "version", .text version '\'')] := rfl

theorem planValue_catch : Call.planValue .generic (.text "lake.catch" '\'') =
    .ok (.literal (.ofText "lake.catch")) := by
  decide +kernel

/-- The first of two snapshots, by its tag. -/
theorem tag_used_by_name_iff_first :
    let here : TableId := ⟨"lake", "catch"⟩
    let c := CatalogOp.afterAll (.new "sea" ∅) (catchRun.take 6)
    ∃ t s args, c.entry? here = some t ∧ s ∈ t.snapshots ∧ s.id = 1 ∧ t.snapshots.length = 2 ∧
      t.tags.get? "first" = some 1 ∧ (callBack "first").bind .generic .rollbackTo = .ok args ∧
      RollsBack args c 60 here s ∧ Selects ⟨["lake"], "catch"⟩ "first" c 60 s := by
  intro here c
  have reached : Reachable c := (Reachable.new "sea" ∅).afterAll _
  have made : (c.entry? here).map (fun t => (t.snapshots.length, t.tags.get? "first",
      t.schema.options.get? scanSnapshotKey)) = some (2, some 1, none) := by
    decide +kernel
  obtain ⟨t, found, facts⟩ := Option.map_eq_some_iff.mp made
  obtain ⟨two, rest⟩ := Prod.mk.inj facts
  obtain ⟨points, unnumbered⟩ := Prod.mk.inj rest
  have version : Call.planValue .generic (.text "first" '\'') =
      .ok (.literal (.ofText "first")) := by
    decide +kernel
  obtain ⟨s, inside, number, ⟨args, bound, back⟩, seen⟩ :=
    tag_used_by_name_iff reached (by decide +kernel) (by decide +kernel) (by decide) (by decide)
      found points (arguments_callBack "first") planValue_catch version 60
  have plain : ¬Numeric "first" := by decide +kernel
  have solid : blank "first" = false := by decide +kernel
  have trimmed : trim "first" = "first" := by decide +kernel
  refine ⟨t, s, args, found, inside, number, two, points, bound, back.mpr ⟨solid, ?_⟩,
    (seen unnumbered).mpr fun numeric => absurd numeric plain⟩
  rw [trimmed]
  exact .tag plain (number ▸ points)

/-- The second of two snapshots has the tag `1`; called by this name, the table goes back to the
first, and is read at it. -/
theorem tag_hidden_by_number :
    let here : TableId := ⟨"lake", "catch"⟩
    let c := CatalogOp.afterAll (.new "sea" ∅)
      (catchRun.take 5 ++ [(.createTag here "1" (some 2), 31)])
    Reachable c ∧ (c.entry? here).map (fun t => (t.snapshots.map Snapshot.id, t.tags.get? "1")) =
        some ([1, 2], some 2) ∧
      (∃ args left, (callBack "1").bind .generic .rollbackTo = .ok args ∧
        (Procedure.rollbackTo.call args).outcome (.new c 60) =
          (.ok ["Rolled back lake.catch to snapshot 1"], left) ∧
        (left.catalog.entry? here).map (fun t => t.snapshots.map Snapshot.id) = some [1]) ∧
      ∃ s, Selects ⟨["lake"], "catch"⟩ "1" c 60 s ∧ s.id = 1 := by
  intro here c
  have reached : Reachable c := (Reachable.new "sea" ∅).afterAll _
  have version : Call.planValue .generic (.text "1" '\'') = .ok (.literal (.ofText "1")) := by
    decide +kernel
  have bound := Call.bind_rollback (arguments_callBack "1") planValue_catch version
  let outcome := (Procedure.rollbackTo.call (rollbackArguments "lake.catch" "1")).outcome
    (.new c 60)
  have told : outcome.1.toOption = some ["Rolled back lake.catch to snapshot 1"] := by
    decide +kernel
  have cut : (outcome.2.catalog.entry? here).map (fun t => t.snapshots.map Snapshot.id) =
      some [1] := by
    decide +kernel
  let loaded := (Namespace.loadTableAtVersion ⟨["lake"], "catch"⟩ "1").outcome (.new c 60)
  have read : (loaded.1.toOption.bind fun shown => shown.scanSnapshot.toOption.join.map
      Snapshot.id) = some 1 := by
    decide +kernel
  obtain ⟨shown, accepted, read⟩ := Option.bind_eq_some_iff.mp read
  obtain ⟨s, selected, number⟩ := Option.map_eq_some_iff.mp read
  have same : loaded.2 = .new c 60 := by decide +kernel
  refine ⟨reached, by decide +kernel, ⟨_, outcome.2, bound,
    Prod.ext (toOption_eq_some_iff.mp told) rfl, cut⟩, s, ⟨shown,
    Prod.ext (toOption_eq_some_iff.mp accepted) same, ?_⟩, number⟩
  exact toOption_eq_some_iff.mp (Option.join_eq_some_iff.mp selected)

end TableLake
