/-
# TableLake.Sql.ColumnName — the names of columns

A column is named by its own name and the parts of the name of its table, which may be
left out.  A text of at most four words with points between names a column: a word
without quotes is in small letters.  Any other text is the name of a column as it stands.
-/
import TableLake.Sql.Token

namespace TableLake.Sql

open TableLake.Text

set_option autoImplicit false

/-- The name of a column; `table` is empty where the table is not said. -/
structure ColumnName where
  table : List String
  name : String
deriving DecidableEq, Repr

/-- The words of a name: points stand between them, and nothing else is there. -/
def nameWords : List Token → Option (List Ident)
  | [.word i] => some [i]
  | .word i :: .sign "." :: rest => (nameWords rest).map (i :: ·)
  | _ => none

/-- A word without quotes in small letters. -/
def Ident.normalized (i : Ident) : String :=
  if i.quote.isSome then i.text else lower i.text

namespace ColumnName

/-- The parts of a name, the last of which is that of the column. -/
def ofParts? (parts : List String) : Option ColumnName :=
  parts.getLast?.map fun name => ⟨parts.dropLast, name⟩

/-- The column that a text means. -/
def ofText (s : String) : ColumnName :=
  match (tokenize .generic s).bind nameWords with
  | some words =>
      if words.length ≤ 4 then (ofParts? (words.map Ident.normalized)).getD ⟨[], s⟩ else ⟨[], s⟩
  | none => ⟨[], s⟩

/-- The parts with points between. -/
def text (c : ColumnName) : String := String.intercalate "." (c.table ++ [c.name])

/-- The order of texts by their characters. -/
def compareTexts (s t : String) : Ordering := compareOfLessAndEq s t

/-- The order of lists by their first difference. -/
def compareParts : List String → List String → Ordering
  | [], [] => .eq
  | [], _ :: _ => .lt
  | _ :: _, [] => .gt
  | s :: ss, t :: ts => (compareTexts s t).then (compareParts ss ts)

/-- Columns in order: those whose tables have fewer parts first, then by the parts and
by the names. -/
def order (a b : ColumnName) : Ordering :=
  ((compare a.table.length b.table.length).then (compareParts a.table b.table)).then
    (compareTexts a.name b.name)

/-- Whether a table may be the one of a name: of two names the shorter is the end of the
longer. -/
def mayBelong (c : ColumnName) (table : List String) : Bool :=
  c.table.reverse.isPrefixOf table.reverse || table.reverse.isPrefixOf c.table.reverse

/-- Whether a name can stand without quotes. -/
def isPlain (name : String) : Bool :=
  match name.toList with
  | [] => true
  | c :: rest => (c.isLower || c = '_') && rest.all fun d => d.isLower || d.isDigit || d = '_'

/-- A name in quotes where it needs them. -/
def quotedName (name : String) : String :=
  if isPlain name then name
  else "\"" ++ String.join (name.toList.map fun c => if c = '"' then "\"\"" else c.toString) ++ "\""

/-- The parts in quotes where they need them, with points between. -/
def quoted (c : ColumnName) : String :=
  String.intercalate "." ((c.table ++ [c.name]).map quotedName)

end ColumnName

/-! ## Faults -/

/-- Why a name does not say which column is meant. -/
inductive ColumnFault where
  | unknown (column : ColumnName) (known : List ColumnName)
  | repeated (column : ColumnName)
  | ambiguous (column : ColumnName)
deriving DecidableEq, Repr

def ColumnFault.message : ColumnFault → String
  | .unknown column known =>
      "No field named " ++ column.quoted ++
        (if known.isEmpty then ""
         else ". Valid fields are " ++ String.intercalate ", " (known.map ColumnName.quoted)) ++ "."
  | .repeated column =>
      "Schema contains duplicate " ++ (if column.table.isEmpty then "un" else "") ++
        "qualified field name " ++ column.quoted
  | .ambiguous column =>
      "Schema contains qualified field name " ++ column.quoted ++ " and unqualified field name " ++
        ColumnName.quotedName column.name ++ " which would be ambiguous"

end TableLake.Sql
