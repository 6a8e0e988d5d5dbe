/-
# TableLake.Version — which state of a table is meant

A snapshot by its number or a tag by its name.  A written version that consists of
digits is a snapshot, any other a tag; a number past sixty-four bits is neither.
-/
import TableLake.Options

namespace TableLake

open TableLake.Text

set_option autoImplicit false

inductive Version where
  | snapshot (id : Nat)
  | tag (name : String)
deriving DecidableEq, Repr

namespace Version

def text : Version → String
  | .snapshot id => "snapshot " ++ decimal id
  | .tag name => "tag " ++ name

/-- Read a written version. -/
def read (s : String) : Except CatalogError Version :=
  if s.isEmpty || !s.toList.all isDigit then .ok (.tag s)
  else
    match readUnsigned maxUnsigned64 s with
    | .ok id => .ok (.snapshot id)
    | .error fault =>
        .error (.invalidOption "version"
          ("snapshot id " ++ s ++ " is out of range: " ++ fault.message))

end Version

end TableLake
