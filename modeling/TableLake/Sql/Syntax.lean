/-
# TableLake.Sql.Syntax — statements as they are written

Statements and the expressions in them, before names and values are looked up.
`Term.text` writes an expression back: single spaces around operators, keywords in
capitals except the truth values, a quote inside a text doubled unless it already
is or stands after a backslash.
-/
import TableLake.Sql.ColumnName
import TableLake.Sql.Expr

namespace TableLake.Sql

open TableLake.Text

set_option autoImplicit false

/-- The sign or keyword before an operand. -/
inductive PrefixOp where
  | plus
  | minus
  | not
deriving DecidableEq, Repr

/-- An expression as it is written. -/
inductive Term where
  | name (parts : List Ident)
  | number (digits : String)
  | text (s : String) (quote : Char)
  | boolean (b : Bool)
  | null
  | nested (inner : Term)
  | signed (op : PrefixOp) (operand : Term)
  | binary (op : BinaryOp) (left right : Term)
  | isNull (negated : Bool) (operand : Term)
  | countAll
deriving DecidableEq, Repr

/-- The name of a table or a schema, part by part. -/
abbrev ObjectName := List Ident

namespace Ident

/-- Whether a word is a keyword, letters of any case. -/
def isKeyword (i : Ident) (keyword : String) : Bool :=
  i.quote.isNone && sameLetters i.text keyword

end Ident

/-! ## Writing -/

/-- Quotes doubled, but for those that are doubled already and those behind a
backslash; `before` is the character passed last. -/
def requoted (quote before : Char) : List Char → List Char
  | [] => []
  | [c] => if c = quote && before ≠ '\\' then [c, c] else [c]
  | c :: d :: rest =>
      if c = quote then
        if before = '\\' then c :: requoted quote before (d :: rest)
        else if d = quote then c :: d :: requoted quote c rest
        else c :: c :: requoted quote c (d :: rest)
      else c :: requoted quote c (d :: rest)

/-- A text between quotes. -/
def quotedText (quote : Char) (s : String) : String :=
  String.ofList (quote :: requoted quote '\x00' s.toList ++ [quote])

def Ident.written (i : Ident) : String :=
  match i.quote with
  | some quote => quotedText quote i.text
  | none => i.text

def PrefixOp.written : PrefixOp → String
  | .plus => "+"
  | .minus => "-"
  | .not => "NOT "

def BinaryOp.written : BinaryOp → String
  | .notEqual => "<>"
  | op => op.symbol

/-- The expression written back. -/
def Term.written : Term → String
  | .name parts => String.intercalate "." (parts.map Ident.written)
  | .number digits => digits
  | .text s quote => quotedText quote s
  | .boolean b => if b then "true" else "false"
  | .null => "NULL"
  | .nested inner => "(" ++ inner.written ++ ")"
  | .signed op operand => op.written ++ operand.written
  | .binary op left right => left.written ++ " " ++ op.written ++ " " ++ right.written
  | .isNull negated operand => operand.written ++ (if negated then " IS NOT NULL" else " IS NULL")
  | .countAll => "count(*)"

/-! ## Calls -/

/-- The value of an argument. -/
inductive ArgumentValue where
  | term (t : Term)
  | wildcard
  | qualifiedWildcard (parts : List Ident)
deriving DecidableEq, Repr

/-- An argument of a call: a name may stand before its value. -/
inductive WrittenArgument where
  | unnamed (value : ArgumentValue)
  | named (name : Ident) (sign : String) (value : ArgumentValue)
  | expressionNamed (name : Term) (sign : String) (value : ArgumentValue)
deriving DecidableEq, Repr

inductive WrittenArguments where
  | none
  | list (arguments : List WrittenArgument)
  | query
deriving DecidableEq, Repr

def ArgumentValue.written : ArgumentValue → String
  | .term t => t.written
  | .wildcard => "*"
  | .qualifiedWildcard parts => String.intercalate "." (parts.map Ident.written) ++ ".*"

def WrittenArgument.written : WrittenArgument → String
  | .unnamed value => value.written
  | .named name sign value => name.written ++ " " ++ sign ++ " " ++ value.written
  | .expressionNamed name sign value => name.written ++ " " ++ sign ++ " " ++ value.written

/-! ## Queries and statements -/

inductive SelectItem where
  | all
  | term (t : Term) (label : Option Ident)
deriving DecidableEq, Repr

structure OrderItem where
  term : Term
  descending : Bool
  nullsFirst : Option Bool
deriving DecidableEq, Repr

structure Select where
  items : List SelectItem
  source : Option (ObjectName × Option Ident)
  condition : Option Term
  order : List OrderItem
deriving DecidableEq, Repr

inductive Query where
  | select (s : Select)
  | values (rows : List (List Term))
deriving DecidableEq, Repr

structure ColumnSpec where
  name : Ident
  type : ColumnType
  nullable : Bool
deriving DecidableEq, Repr

inductive Statement where
  | call (name : ObjectName) (arguments : WrittenArguments)
  | createTable (replace unlessExists : Bool) (name : ObjectName) (columns : List ColumnSpec)
      (query : Option Query)
  | createSchema (unlessExists : Bool) (name : ObjectName)
  | dropTable (ifExists : Bool) (name : ObjectName)
  | dropSchema (ifExists cascade : Bool) (name : ObjectName)
  | insert (table : ObjectName) (columns : List Ident) (query : Query)
  | query (q : Query)
deriving DecidableEq, Repr

end TableLake.Sql
