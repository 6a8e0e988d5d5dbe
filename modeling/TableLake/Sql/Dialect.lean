/-
# TableLake.Sql.Dialect — in which forms statements may be written

The dialects agree on the statements of this library and differ in how names and
texts are written, in what is a comment and in which forms an argument may take.
-/
import TableLake.Text.Blank
import TableLake.Text.Letter

namespace TableLake.Sql

open TableLake.Text

set_option autoImplicit false

inductive Dialect where
  | generic
  | mysql
  | postgres
  | hive
  | sqlite
  | snowflake
  | redshift
  | mssql
  | clickhouse
  | bigquery
  | ansi
  | duckdb
  | databricks
deriving DecidableEq, Repr

namespace Dialect

/-- The names a dialect is chosen by. -/
def names : List (String × Dialect) :=
  [("generic", .generic), ("mysql", .mysql), ("postgresql", .postgres), ("postgres", .postgres),
    ("hive", .hive), ("sqlite", .sqlite), ("snowflake", .snowflake), ("redshift", .redshift),
    ("mssql", .mssql), ("clickhouse", .clickhouse), ("bigquery", .bigquery), ("ansi", .ansi),
    ("duckdb", .duckdb), ("databricks", .databricks)]

/-- The dialect with a name, letters of any case. -/
def ofName? (name : String) : Option Dialect :=
  (names.find? fun entry => entry.1 == lower name).map Prod.snd

/-- The signs that quote a name. -/
def nameQuotes : Dialect → List Char
  | .mysql | .bigquery | .databricks => ['`']
  | .postgres | .redshift | .mssql => ['"']
  | _ => ['"', '`']

/-- Whether a backslash in a text changes the character after it. -/
def hasBackslashes : Dialect → Bool
  | .mysql | .bigquery | .snowflake | .clickhouse | .databricks => true
  | _ => false

/-- Whether letters of all scripts may stand in a name. -/
def hasAllLetters : Dialect → Bool
  | .generic | .postgres | .redshift | .mssql | .duckdb => true
  | _ => false

/-- Whether all characters of the basic plane beyond ASCII may stand in a name. -/
def hasWholePlane : Dialect → Bool
  | .mysql | .sqlite => true
  | _ => false

/-- The signs and digits that may begin a name besides letters. -/
def extraNameStarts : Dialect → List Char
  | .generic | .mssql => ['_', '#', '@']
  | .mysql => ['_', '$', '@']
  | .redshift => ['_', '#']
  | .hive => '$' :: "0123456789".toList
  | .ansi => []
  | _ => ['_']

/-- The signs that may stand in a name besides letters and digits. -/
def extraNameParts : Dialect → List Char
  | .generic | .mssql => ['_', '#', '@', '$']
  | .mysql => ['_', '$', '@']
  | .redshift => ['_', '#', '$']
  | .postgres | .snowflake | .duckdb => ['_', '$']
  | .hive => ['_', '$', '\x7b', '\x7d']
  | _ => ['_']

/-- Whether a letter may stand in a name. -/
def hasLetter (d : Dialect) (c : Char) : Bool :=
  c.isAlpha || (d.hasAllLetters && isLetter c) || (d.hasWholePlane && within 0x80 0xFFFF c.toNat)

/-- Whether a name may begin with a character. -/
def startsName (d : Dialect) (c : Char) : Bool := d.hasLetter c || c ∈ d.extraNameStarts

/-- Whether a name may go on with a character. -/
def continuesName (d : Dialect) (c : Char) : Bool :=
  d.hasLetter c || c.isDigit || c ∈ d.extraNameParts

/-- Whether names may begin with digits. -/
def hasNumericNames : Dialect → Bool
  | .mysql | .hive => true
  | _ => false

/-- Whether the rest of a line behind a number sign is a comment. -/
def hasNumberSignComments : Dialect → Bool
  | .mysql | .snowflake | .bigquery | .hive => true
  | _ => false

/-- Whether a blank stands behind the two hyphens of a comment. -/
def hasBlankComments : Dialect → Bool
  | .mysql => true
  | _ => false

/-- The signs that may stand between the name and the value of an argument. -/
def argumentSigns : Dialect → List String
  | .generic => ["=>", ":="]
  | .duckdb => ["=>", ":=", "="]
  | .postgres => ["=>", ":"]
  | .mssql => [":"]
  | _ => ["=>"]

/-- Whether the name of an argument is read as an expression. -/
def hasExpressionNames : Dialect → Bool
  | .postgres | .mssql => true
  | _ => false

/-- Whether a query may stand in place of the arguments. -/
def hasQueryArgument : Dialect → Bool
  | .snowflake => true
  | _ => false

end Dialect

end TableLake.Sql
