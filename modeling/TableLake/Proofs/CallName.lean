/-
# TableLake.Proofs.CallName — the parts of the name of a call

A name of three parts or more says to which catalog a call goes; a shorter one leaves that to the
session.  Of the name nothing is lost but the case of its letters (`Call.splitName_parts`).  This
goes for the catalog too, in quotes or not, whereas the session has its default catalog as it was
set and knows catalogs by their exact names.  So the default catalog can be named before a
procedure just if its name is in small letters, and nothing changes then
(`default_catalog_by_name`).  One with a capital letter can be called only where it goes without
saying (`capital_catalog_unnamed`).
-/
import TableLake.Proofs.CallEffect

namespace TableLake

open TableLake.Outcome TableLake.Text TableLake.Sql

set_option autoImplicit false

namespace Call

variable {parts : List String} {dc : String}

theorem splitName_nil (dc : String) : splitName [] dc = .error (.plan .noProcedureName) := rfl

/-- No part is lost: the first of three or more is the catalog, the last the procedure, and the
rest the namespace. -/
theorem splitName_parts (some_part : parts ≠ []) (dc : String) :
    ∃ catalog id, splitName parts dc = .ok (catalog, id) ∧
      if 3 ≤ parts.length then catalog :: (id.space ++ [id.name]) = parts.map lower
      else catalog = dc ∧ id.space ++ [id.name] = parts.map lower := by
  obtain ⟨before, name, cut⟩ : ∃ before name, parts.map lower = before ++ [name] :=
    (List.eq_nil_or_concat' (parts.map lower)).resolve_left (by simpa using some_part)
  have size : parts.length = before.length + 1 := by
    simpa using congrArg List.length cut
  simp only [splitName, cut, size, List.getLast?_concat, List.dropLast_concat]
  match before with
  | [] => exact ⟨dc, _, rfl, rfl, rfl⟩
  | [part] => exact ⟨dc, _, rfl, rfl, rfl⟩
  | catalog :: part :: more =>
      have long : 3 ≤ (catalog :: part :: more).length + 1 := by simp
      refine ⟨catalog, ⟨part :: more, name⟩, rfl, ?_⟩
      rw [if_pos long]
      rfl

/-- A catalog before a name changes the catalog of the call, and nothing else. -/
theorem ofWritten_under (c ns p : Ident) (arguments : WrittenArguments) (dc : String) :
    ofWritten [c, ns, p] arguments dc =
      (fun call => { call with catalog := lower c.text }) <$> ofWritten [ns, p] arguments dc := by
  have long : splitName ([c, ns, p].map Ident.text) dc =
      .ok (lower c.text, ⟨[lower ns.text], lower p.text⟩) := rfl
  have short : splitName ([ns, p].map Ident.text) dc =
      .ok (dc, ⟨[lower ns.text], lower p.text⟩) := rfl
  unfold ofWritten
  rw [long, short]
  cases argumentList arguments <;> rfl

/-- So nothing is changed just if it is the default catalog, in small letters, or if there is no
call, whatever its catalog. -/
theorem ofWritten_under_eq_iff {c ns p : Ident} {arguments : WrittenArguments} {dc : String} :
    ofWritten [c, ns, p] arguments dc = ofWritten [ns, p] arguments dc ↔
      lower c.text = dc ∨ ∃ e, argumentList arguments = .error e := by
  have short : splitName ([ns, p].map Ident.text) dc =
      .ok (dc, ⟨[lower ns.text], lower p.text⟩) := rfl
  rw [ofWritten_under]
  unfold ofWritten
  rw [short]
  cases argumentList arguments with
  | error e => exact iff_of_true rfl (.inr ⟨e, rfl⟩)
  | ok values =>
      constructor
      · intro same
        exact .inl (congrArg Call.catalog (Except.ok.inj same))
      · rintro (rfl | ⟨e, ⟨⟩⟩)
        rfl

end Call

/-- **Naming the default catalog.**  A name without parts is refused; of any other, no part is
lost.  A call of a procedure in a namespace is the same with a catalog before the name just if this
is the default catalog, spelled in small letters whatever letters it is written in, or if its
arguments are refused.  So in every session whose default catalog is spelled in small letters, a
call that names it does what a call does that does not. -/
theorem default_catalog_by_name (d : Dialect) (s : Session) (parts : List String)
    (c ns p : Ident) (arguments : WrittenArguments) :
    (Call.splitName parts s.settings.defaultCatalog = .error (.plan .noProcedureName) ↔
        parts = []) ∧
      (parts ≠ [] → ∃ catalog id,
        Call.splitName parts s.settings.defaultCatalog = .ok (catalog, id) ∧
          if 3 ≤ parts.length then catalog :: (id.space ++ [id.name]) = parts.map lower
          else catalog = s.settings.defaultCatalog ∧
            id.space ++ [id.name] = parts.map lower) ∧
      (Call.ofWritten [c, ns, p] arguments s.settings.defaultCatalog =
          Call.ofWritten [ns, p] arguments s.settings.defaultCatalog ↔
        lower c.text = s.settings.defaultCatalog ∨
          ∃ e, Call.argumentList arguments = .error e) ∧
      (lower c.text = s.settings.defaultCatalog →
        (Session.execute d (.call [c, ns, p] arguments)).outcome s =
          (Session.execute d (.call [ns, p] arguments)).outcome s) := by
  refine ⟨⟨fun refused => ?_, ?_⟩, fun some_part => Call.splitName_parts some_part _,
    Call.ofWritten_under_eq_iff, fun spelled => ?_⟩
  · by_contra some_part
    obtain ⟨catalog, id, named, -⟩ := Call.splitName_parts some_part s.settings.defaultCatalog
    rw [named] at refused
    cases refused
  · rintro rfl
    exact Call.splitName_nil _
  · rw [Session.outcome_execute_call, Session.outcome_execute_call,
      Call.ofWritten_under_eq_iff.mpr (.inl spelled)]

/-- A session in which one catalog is mounted and goes without saying. -/
def homeAt (name : String) (c : Catalog) : Session :=
  ⟨⟨name, "public", "generic"⟩, OrderedMap.ofList [(name, ⟨some 0, none⟩)], ⟨[.new c 62], ∅, 62⟩⟩

/-- A call that takes a table back to its first snapshot, with some parts before the procedure. -/
def landedBack (parts : List Ident) : Statement :=
  .call (parts ++ [⟨"sys", none⟩, ⟨"rollback_to", none⟩])
    (.list [.unnamed (.term (.text "lake.landed" '\'')), .unnamed (.term (.text "first" '\''))])

theorem default_catalog_by_name_sea :
    let s := homeAt "sea" (CatalogOp.afterAll (.new "sea" ∅) catchRun)
    ∃ left, (Session.execute .generic (landedBack [])).outcome s =
        (.ok (report "Rolled back lake.landed to tag first"), left) ∧
      (Session.execute .generic (landedBack [⟨"SEA", some '"'⟩])).outcome s =
        (.ok (report "Rolled back lake.landed to tag first"), left) := by
  intro s
  have done : ((Session.execute .generic (landedBack [])).outcome s).1.toOption =
      some (report "Rolled back lake.landed to tag first") := by
    decide +kernel
  have short : (Session.execute .generic (landedBack [])).outcome s =
      (.ok (report "Rolled back lake.landed to tag first"), _) :=
    Prod.ext (toOption_eq_some_iff.mp done) rfl
  have spelled : lower "SEA" = s.settings.defaultCatalog := by decide +kernel
  obtain ⟨-, -, -, agrees⟩ := default_catalog_by_name .generic s [] ⟨"SEA", some '"'⟩ ⟨"sys", none⟩
    ⟨"rollback_to", none⟩ (.list [.unnamed (.term (.text "lake.landed" '\'')),
      .unnamed (.term (.text "first" '\''))])
  exact ⟨_, short, (agrees spelled).trans short⟩

/-- The default catalog is mounted as `Sea`; a call goes there, and one that names it does not. -/
theorem capital_catalog_unnamed :
    let s := homeAt "Sea" (CatalogOp.afterAll (.new "sea" ∅) catchRun)
    s.settings.defaultCatalog = "Sea" ∧ (s.mounts.get? "Sea").isSome = true ∧
      ((Session.execute .generic (landedBack [])).outcome s).1 =
        .ok (report "Rolled back lake.landed to tag first") ∧
      ((Session.execute .generic (landedBack [⟨"Sea", some '"'⟩])).outcome s).1 =
        .error (.plan (.noCatalog "sea")) := by
  intro s
  have done : ((Session.execute .generic (landedBack [])).outcome s).1.toOption =
      some (report "Rolled back lake.landed to tag first") := by
    decide +kernel
  exact ⟨rfl, rfl, toOption_eq_some_iff.mp done, rfl⟩

end TableLake
