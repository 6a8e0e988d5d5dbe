/-
# TableLake.TableId — the name of a table: a database and an object in it

Written `database.object`.  A written name has exactly one point and a part on
each side of it, so a name without points in its parts reads back as itself
(`ofText?_text`).
-/
import TableLake.Text.Split

namespace TableLake

open TableLake.Text

set_option autoImplicit false

structure TableId where
  database : String
  object : String
deriving DecidableEq, Repr

namespace TableId

def text (id : TableId) : String := id.database ++ "." ++ id.object

/-- The table with a written name. -/
def ofText? (s : String) : Option TableId :=
  match split '.' s with
  | [database, object] =>
      if database.isEmpty || object.isEmpty then none else some ⟨database, object⟩
  | _ => none

/-- A name whose parts hold no point and are not empty is read back. -/
theorem ofText?_text (id : TableId) (database : '.' ∉ id.database.toList)
    (object : '.' ∉ id.object.toList) (hasDatabase : id.database ≠ "")
    (hasObject : id.object ≠ "") :
    ofText? id.text = some id := by
  have parts : split '.' id.text = [id.database, id.object] := by
    simp [split, text, pieces_append_cons _ database, pieces_of_not_mem object]
  simp [ofText?, parts, hasDatabase, hasObject]

end TableId

end TableLake
