/-
# TableLake.Proofs.TableComment — the comment of a table and the property it comes from

The property `comment` of a new table is kept twice: as a setting and as the comment of the table.
From then on a host can change the setting, as any other (`get?_options_of_applyChanges`), and
nothing changes the comment (`comment_of_applyChanges`).  Whoever writes down what the property was
when the table was made and what the accepted changes have made of it since knows both
(`CommentRecord.Run.describes`).  So they are in step just as long as the property reads as it did
at first, an empty text read as none (`comment_as_it_was_made`).
-/
import TableLake.Proofs.CommitLog
import TableLake.Proofs.HostRun
import TableLake.Proofs.SchemaKeys

namespace TableLake

open TableLake.Outcome

set_option autoImplicit false

/-! ## What changes make of a setting -/

/-- What the change makes of a setting, if it is about it: a value, or none. -/
def SchemaChange.resets? (key : String) : SchemaChange → Option (Option String)
  | .setOption named value => if named = key then some (some value) else none
  | .removeOption named => if named = key then some none else none
  | _ => none

/-- What the change that a host asks for makes of a property, if it is about it. -/
def TableChange.resets? (key : String) : TableChange → Option (Option String)
  | .setProperty property value => if property = key then some (some value) else none
  | .removeProperty property => if property = key then some none else none
  | _ => none

/-- The setting that is left behind resets, the oldest first. -/
def settledBy (resets : List (Option (Option String))) (setting : Option String) : Option String :=
  resets.foldl (fun setting reset => reset.getD setting) setting

theorem settledBy_append (first second : List (Option (Option String))) (setting : Option String) :
    settledBy (first ++ second) setting = settledBy second (settledBy first setting) :=
  List.foldl_append

namespace Schema

variable {s s' : Schema} {change : SchemaChange} {table : TableId} {changes : List SchemaChange}

theorem Step.get?_options (step : s.Step change s') (key : String) :
    s'.options.get? key = (change.resets? key).getD (s.options.get? key) := by
  cases step with
  | setOption named value =>
      rw [OrderedMap.get?_insert, SchemaChange.resets?]
      split <;> rfl
  | removeOption named =>
      rw [OrderedMap.get?_erase, SchemaChange.resets?]
      split <;> rfl
  | _ => rfl

/-- A setting is what the last change about it made of it. -/
theorem get?_options_of_applyChanges (changed : s.applyChanges table changes = .ok s')
    (key : String) : s'.options.get? key =
      settledBy (changes.map (SchemaChange.resets? key)) (s.options.get? key) := by
  let kept (made : List SchemaChange) (s' : Schema) :=
    s'.options.get? key = settledBy (made.map (SchemaChange.resets? key)) (s.options.get? key)
  have all : kept ([] ++ changes) s' := by
    refine applyChanges_induction ?_ (fun kept => kept) rfl changed
    intro made s₁ s₂ change before step
    show s₂.options.get? key = settledBy ((made ++ [change]).map (SchemaChange.resets? key)) _
    rw [step.get?_options, before, List.map_append, settledBy_append]
    rfl
  exact all

/-- No change is about the comment of the table. -/
theorem comment_of_applyChanges (changed : s.applyChanges table changes = .ok s') :
    s'.comment = s.comment := by
  let kept (after : Schema) := after.comment = s.comment
  have all : kept s' := by
    refine keeps_of_applyChanges ?_ (fun kept => kept) rfl changed
    intro s₁ s₂ change before step
    cases step <;> exact before
  exact all

end Schema

/-- A host resets what it says. -/
theorem TableChange.resets?_of_toSchemaChange {change : TableChange} {made : SchemaChange}
    (asked : change.toSchemaChange = .ok made) (key : String) :
    made.resets? key = change.resets? key := by
  cases change with
  | updateNullability path nullable =>
      cases asked
      rfl
  | updateComment path comment =>
      cases asked
      rfl
  | updatePosition path place =>
      cases path <;> cases asked
      rfl
  | _ =>
      simp only [toSchemaChange, bind_eq_ok_iff, pure_eq_ok_iff] at asked
      obtain ⟨-, -, rfl⟩ := asked
      rfl

/-! ## The record -/

/-- What is written down about the property `comment` of a table. -/
structure CommentRecord where
  /-- What it was when the table was made. -/
  made : Option String
  /-- What the accepted changes have made of it since. -/
  current : Option String
deriving DecidableEq

/-- A comment as a table has it: the empty text is none. -/
def solidComment (comment : Option String) : Option String :=
  comment.filter fun text => !text.isEmpty

namespace CommentRecord

/-- The record is right about a table. -/
structure Describes (record : CommentRecord) (s : Schema) : Prop where
  comment : s.comment = solidComment record.made
  setting : s.options.get? commentProperty = record.current

/-- The record behind changes that were accepted. -/
def after (record : CommentRecord) (changes : List TableChange) : CommentRecord :=
  { record with
    current := settledBy (changes.map (TableChange.resets? commentProperty)) record.current }

variable {record : CommentRecord} {s s' : Schema}

theorem Describes.new {fields : List Field} {partitionKeys : List String} {properties : Options}
    (settled : tableSchema fields partitionKeys properties = .ok s) :
    Describes ⟨properties.get? commentProperty, properties.get? commentProperty⟩ s := by
  unfold tableSchema at settled
  obtain ⟨-, rfl⟩ := Schema.build_ok_iff.mp (mapError_eq_ok_iff.mp settled)
  refine ⟨rfl, ?_⟩
  have other : primaryKeyProperty ≠ commentProperty := by decide
  show (properties.erase primaryKeyProperty).get? commentProperty = _
  rw [OrderedMap.get?_erase, if_neg other]

theorem Describes.altered {id : TableId} {changes : List TableChange} {made : List SchemaChange}
    (describes : record.Describes s) (asked : changes.mapM TableChange.toSchemaChange = .ok made)
    (evolved : s.applyChanges id made = .ok s') : (record.after changes).Describes s' := by
  refine ⟨(Schema.comment_of_applyChanges evolved).trans describes.comment, ?_⟩
  rw [Schema.get?_options_of_applyChanges evolved, describes.setting]
  have same : made.map (SchemaChange.resets? commentProperty) =
      changes.map (TableChange.resets? commentProperty) :=
    map_eq_of_related (f := TableChange.resets? _) (g := SchemaChange.resets? _)
      (fun _ _ asked => TableChange.resets?_of_toSchemaChange asked commentProperty)
      (mapM_eq_ok_iff.mp asked)
  rw [same]
  rfl

/-- A table that a host makes and changes, amid whatever else happens to the catalog as long as
nobody else alters the table: what is written down about it from what the host asks for and whether
it is refused, the catalog, and the name of the table. -/
inductive Run : CommentRecord → Catalog → TableId → Prop
  | made {c : Catalog} {now : Int} {r : TableRef} {id : TableId} {fields : List Field}
      {partitionKeys : List String} {properties : Options} (named : Namespace.tableId r = .ok id)
      (accepted : ((Namespace.createTable r fields partitionKeys properties).outcome
        (.new c now)).1.isOk) :
      Run ⟨properties.get? commentProperty, properties.get? commentProperty⟩
        ((Namespace.createTable r fields partitionKeys properties).outcome (.new c now)).2.catalog
        id
  | altered {record : CommentRecord} {c : Catalog} {id : TableId} {r : TableRef}
      (before : Run record c id) (named : Namespace.tableId r = .ok id)
      (changes : List TableChange) (now : Int) :
      Run
        (if ((Namespace.alterTable r changes).outcome (.new c now)).1.isOk then
          record.after changes else record)
        ((Namespace.alterTable r changes).outcome (.new c now)).2.catalog id
  | other {record : CommentRecord} {c : Catalog} {id id' : TableId} (before : Run record c id)
      (op : CatalogOp) (now : Int) (unaltered : ¬op.Alters id)
      (followed : op.follow c now id = some id') : Run record (op.after c now) id'

variable {c : Catalog} {id : TableId}

theorem Run.describes (run : record.Run c id) :
    ∃ t, c.entry? id = some t ∧ record.Describes t.schema := by
  induction run with
  | @made c now r id fields partitionKeys properties named accepted =>
      rcases outcome : (Namespace.createTable r fields partitionKeys properties).outcome
        (.new c now) with ⟨e | v, s⟩
      · rw [outcome] at accepted
        cases accepted
      · obtain ⟨_, schema, c', named', settled, made, rfl⟩ := Namespace.of_createTable outcome
        cases named.symm.trans named'
        exact ⟨_, Catalog.entry?_createTable made, .new settled⟩
  | @altered record c id r before named changes now earlier =>
      obtain ⟨t, found, describes⟩ := earlier
      rcases outcome : (Namespace.alterTable r changes).outcome (.new c now) with ⟨e | v, s⟩
      · have unchanged := Namespace.allOrNothing_alterTable r changes c now e s outcome
        rw [unchanged]
        exact ⟨t, found, describes⟩
      · obtain ⟨_, made, c', named', meant, altered, rfl⟩ := Namespace.of_alterTable outcome
        cases named.symm.trans named'
        obtain ⟨schema, evolved, left⟩ := Catalog.evolved_of_alterTable found altered
        exact ⟨_, left, describes.altered meant evolved⟩
  | other before op now unaltered followed earlier =>
      obtain ⟨t, found, describes⟩ := earlier
      obtain ⟨t', left, rfl | ⟨answer, step⟩⟩ := CatalogOp.entry?_follow found followed
      · exact ⟨_, left, describes⟩
      · refine ⟨t', left, ?_⟩
        cases step with
        | alter => exact absurd rfl unaltered
        | _ => exact describes

end CommentRecord

/-- The comment of the table is what its property `comment` says, where it says something. -/
def Schema.InStep (s : Schema) : Prop :=
  s.comment = solidComment (s.options.get? commentProperty)

/-- **The comment of a table stays what it was made**: what the property `comment` said at first.
The property itself is what the accepted changes have made of it.  So the two are in step exactly
if the property reads now as it did at first. -/
theorem comment_as_it_was_made {record : CommentRecord} {c : Catalog} {id : TableId}
    (run : record.Run c id) :
    ∃ v, c.getTable id = .ok v ∧ v.schema.comment = solidComment record.made ∧
      v.schema.options.get? commentProperty = record.current ∧
      (v.schema.InStep ↔ solidComment record.current = solidComment record.made) := by
  obtain ⟨t, found, comment, setting⟩ := run.describes
  refine ⟨_, Catalog.getTable_ok_iff.mpr ⟨t, found, rfl⟩, comment, setting, ?_⟩
  show t.schema.comment = solidComment (t.schema.options.get? commentProperty) ↔ _
  rw [comment, setting]
  exact eq_comm

/-- A table of boats gets another comment, is refused a third one together with a primary key, is
landed under another name and gets its first comment back. -/
theorem comment_as_it_was_made_landed :
    let landed : TableId := ⟨"lake", "landed"⟩
    let record : CommentRecord := ⟨some "all boats", some "all boats"⟩
    ∃ c v, record.Run c landed ∧ c.getTable landed = .ok v ∧
      v.schema.comment = some "all boats" ∧ v.schema.InStep := by
  intro landed record
  let boats : TableRef := ⟨["lake"], "boats"⟩
  let there : TableRef := ⟨["lake"], "landed"⟩
  let lake : Catalog := CatalogOp.afterAll (.new "sea" ∅) [(.createDatabase "lake" false, 0)]
  let fields : List Field := [⟨"boat", .utf8, true, none⟩]
  let properties : Options := .ofList [("deep", "yes"), (commentProperty, "all boats")]
  have made := @CommentRecord.Run.made lake 1 boats ⟨"lake", "boats"⟩ fields [] properties rfl
    (by decide +kernel)
  have changed := made.altered (r := boats) rfl
    [.removeProperty "deep", .setProperty commentProperty "big boats"] 2
  have refused := changed.altered (r := boats) rfl
    [.setProperty commentProperty "no boats", .setProperty primaryKeyProperty "boat"] 3
  have moved := refused.other (.renameTable ⟨"lake", "boats"⟩ landed false) 4 not_false
    (show _ = some landed by decide +kernel)
  have restored := moved.altered (r := there) rfl
    [.removeProperty commentProperty, .setProperty commentProperty "all boats"] 5
  obtain ⟨c, run⟩ : ∃ c, record.Run c landed := by
    obtain ⟨record', c, run, same⟩ : ∃ record' c, CommentRecord.Run record' c landed ∧
        record' = record := ⟨_, _, restored, by decide +kernel⟩
    exact ⟨c, same ▸ run⟩
  obtain ⟨v, shown, comment, -, inStep⟩ := comment_as_it_was_made run
  exact ⟨c, v, run, shown, comment, inStep.mpr rfl⟩

/-- The comment that a table was made with is left behind when its property is set. -/
theorem comment_left_behind :
    let boats : TableRef := ⟨["lake"], "boats"⟩
    let lake := CatalogOp.afterAll (.new "sea" ∅) [(.createDatabase "lake" false, 0)]
    let make := HostOp.createTable boats [⟨"boat", .utf8, true, none⟩] []
      (.ofList [(commentProperty, "all boats")])
    let change := HostOp.alterTable boats [.setProperty commentProperty "big boats"]
    let c := change.after (make.after lake 1) 2
    ∃ v, c.getTable ⟨"lake", "boats"⟩ = .ok v ∧ v.schema.comment = some "all boats" ∧
      v.schema.options.get? commentProperty = some "big boats" ∧ ¬v.schema.InStep := by
  intro boats lake make change c
  have left : (c.entry? ⟨"lake", "boats"⟩).map (fun t => (t.schema.comment,
      t.schema.options.get? commentProperty)) = some (some "all boats", some "big boats") := by
    decide +kernel
  obtain ⟨t, found, same⟩ := Option.map_eq_some_iff.mp left
  obtain ⟨comment, setting⟩ := Prod.mk.inj same
  refine ⟨_, Catalog.getTable_ok_iff.mpr ⟨t, found, rfl⟩, comment, setting, fun inStep => ?_⟩
  have agreed : t.schema.comment = solidComment (t.schema.options.get? commentProperty) := inStep
  rw [comment, setting] at agreed
  exact absurd agreed (by decide)

end TableLake
