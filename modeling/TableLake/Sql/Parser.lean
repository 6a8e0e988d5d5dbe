/-
# TableLake.Sql.Parser — statements read from tokens

A parser takes tokens from the front and leaves the rest, or fails.  Operators bind
by `BinaryOp.strength`, equal ones to the left; a sign before an operand binds like
a product, `NOT` more loosely than a comparison.  Expressions nest as deep as there
are tokens, which bounds the recursion.
-/
import TableLake.Sql.Syntax

namespace TableLake.Sql

open TableLake.Text

set_option autoImplicit false

/-- Takes tokens from the front. -/
abbrev Parser := StateT (List Token) Option

namespace Parser

/-! ## Tokens -/

def fail {α : Type} : Parser α := fun _ => none

def peek : Parser (Option Token) := return (← get).head?

/-- The next token. -/
def next : Parser Token := fun
  | [] => none
  | t :: rest => some (t, rest)

def atEnd : Parser Bool := return (← get).isEmpty

/-- Take a sign if it is next. -/
def takeSign (s : String) : Parser Bool := do
  if (← peek) = some (.sign s) then
    let _ ← next
    return true
  else return false

def sign (s : String) : Parser Unit := do
  unless ← takeSign s do fail

/-- Whether a keyword is next. -/
def atKeyword (keyword : String) : Parser Bool := do
  match ← peek with
  | some (.word i) => return i.isKeyword keyword
  | _ => return false

/-- Take a keyword if it is next. -/
def takeKeyword (keyword : String) : Parser Bool := do
  if ← atKeyword keyword then
    let _ ← next
    return true
  else return false

def keyword (keyword : String) : Parser Unit := do
  unless ← takeKeyword keyword do fail

/-- Take several keywords if all are next; else none of them. -/
def takeKeywords (keywords : List String) : Parser Bool := fun tokens =>
  match (keywords.forM keyword).run tokens with
  | some (_, rest) => some (true, rest)
  | none => some (false, tokens)

/-- A name: a word, or a text between quotes. -/
def ident : Parser Ident := do
  match ← next with
  | .word i => return i
  | .text s quote => return ⟨s, some quote⟩
  | _ => fail

/-- Parts with a sign between, at most `fuel` of them. -/
def separated {α : Type} (separator : String) (part : Parser α) : Nat → Parser (List α)
  | 0 => fail
  | fuel + 1 => do
      let first ← part
      if ← takeSign separator then return first :: (← separated separator part fuel)
      else return [first]

/-- Parts with a sign between, as many as there are. -/
def list {α : Type} (separator : String) (part : Parser α) : Parser (List α) := do
  separated separator part ((← get).length + 1)

/-- The name of an object: names with points between. -/
def objectName : Parser ObjectName := list "." ident

/-! ## Expressions -/

/-- How tightly operators bind when they are read. -/
def strength : BinaryOp → Nat
  | .or => 5
  | .and => 10
  | .equal | .notEqual | .less | .lessEqual | .greater | .greaterEqual => 20
  | .plus | .minus => 30
  | .times | .divide | .modulo | .concat => 40

def notStrength : Nat := 15
def isStrength : Nat := 17
def signStrength : Nat := 40

/-- The operator a sign stands for. -/
def operatorOf : String → Option BinaryOp
  | "+" => some .plus
  | "-" => some .minus
  | "*" => some .times
  | "/" => some .divide
  | "%" => some .modulo
  | "=" => some .equal
  | "<>" | "!=" => some .notEqual
  | "<" => some .less
  | "<=" => some .lessEqual
  | ">" => some .greater
  | ">=" => some .greaterEqual
  | "||" => some .concat
  | _ => none

/-- The operator that a token is. -/
def operator? : Option Token → Option BinaryOp
  | some (.sign s) => operatorOf s
  | some (.word i) =>
      if i.isKeyword "AND" then some .and else if i.isKeyword "OR" then some .or else none
  | _ => none

/-- The further parts of a name that has begun. -/
def nameParts (first : Ident) : Parser Term := do
  if ← takeSign "." then return .name (first :: (← objectName))
  else return .name [first]

/-- What a word at the front of an expression begins, `NOT` apart. -/
def wordTerm (i : Ident) : Parser Term := do
  if i.isKeyword "TRUE" then return .boolean true
  else if i.isKeyword "FALSE" then return .boolean false
  else if i.isKeyword "NULL" then return .null
  else if i.isKeyword "COUNT" && (← peek) = some (.sign "(") then
    sign "("
    sign "*"
    sign ")"
    return .countAll
  else if (← peek) = some (.sign "(") then fail
  else nameParts i

mutual

/-- An expression whose operators bind more tightly than `bound`. -/
def term : Nat → Nat → Parser Term
  | 0, _ => fail
  | fuel + 1, bound => do
      let first ← operand fuel
      operators fuel bound first

/-- What an operator applies to. -/
def operand : Nat → Parser Term
  | 0 => fail
  | fuel + 1 => do
      match ← next with
      | .word i =>
          if i.isKeyword "NOT" then return .signed .not (← term fuel notStrength)
          else wordTerm i
      | .number digits => return .number digits
      | .text s quote => return .text s quote
      | .sign "-" => return .signed .minus (← term fuel signStrength)
      | .sign "+" => return .signed .plus (← term fuel signStrength)
      | .sign "(" =>
          let inner ← term fuel 0
          sign ")"
          return .nested inner
      | .sign _ => fail

/-- The operators that follow an expression. -/
def operators : Nat → Nat → Term → Parser Term
  | 0, _, _ => fail
  | fuel + 1, bound, left => do
      match operator? (← peek) with
      | some op =>
          if bound < strength op then
            let _ ← next
            let right ← term fuel (strength op)
            operators fuel bound (.binary op left right)
          else return left
      | none =>
          if bound < isStrength && (← takeKeywords ["IS", "NULL"]) then
            operators fuel bound (.isNull false left)
          else if bound < isStrength && (← takeKeywords ["IS", "NOT", "NULL"]) then
            operators fuel bound (.isNull true left)
          else return left

end

/-- An expression. -/
def expression : Parser Term := do
  let tokens ← get
  term (3 * tokens.length + 3) 0

/-! ## Calls -/

/-- The parts of a name up to a star, with at least one point between. -/
def qualifiedStar : Nat → List Ident → Parser (Option (List Ident))
  | 0, _ => return none
  | fuel + 1, parts => do
      if ← takeSign "." then
        match ← next with
        | .word i => qualifiedStar fuel (parts ++ [i])
        | .text s '\'' => qualifiedStar fuel (parts ++ [⟨s, some '\''⟩])
        | .sign "*" => return some parts
        | _ => fail
      else return none

/-- A star, a name with a star behind it, or an expression. -/
def argumentValue : Parser ArgumentValue := do
  let start ← get
  match ← peek with
  | some (.sign "*") =>
      let _ ← next
      return .wildcard
  | some (.word i) =>
      let _ ← next
      match ← qualifiedStar start.length [i] with
      | some parts => return .qualifiedWildcard parts
      | none =>
          set start
          return .term (← expression)
  | some (.text s '\'') =>
      let _ ← next
      match ← qualifiedStar start.length [⟨s, some '\''⟩] with
      | some parts => return .qualifiedWildcard parts
      | none =>
          set start
          return .term (← expression)
  | _ => return .term (← expression)

/-- Take one of the signs that stand behind the name of an argument. -/
def argumentSign (d : Dialect) : Parser String := do
  match ← next with
  | .sign s => if s ∈ d.argumentSigns then return s else fail
  | _ => fail

/-- An argument with its name: an identifier, or an expression where the dialect reads
names as such. -/
def namedArgument (d : Dialect) : Parser WrittenArgument := do
  if d.hasExpressionNames then
    let name ← expression
    return .expressionNamed name (← argumentSign d) (← argumentValue)
  else
    let name ← ident
    return .named name (← argumentSign d) (← argumentValue)

/-- An argument: with a name if it can be read so, and else a value. -/
def argument (d : Dialect) : Parser WrittenArgument := fun tokens =>
  match (namedArgument d).run tokens with
  | some (argument, rest) => some (argument, rest)
  | none => (WrittenArgument.unnamed <$> argumentValue).run tokens

/-! ## Queries -/

/-- Words that are never new names without `AS`. -/
def reserved : List String :=
  ["WITH", "EXPLAIN", "ANALYZE", "SELECT", "WHERE", "GROUP", "SORT", "HAVING", "ORDER", "TOP",
    "LATERAL", "VIEW", "LIMIT", "OFFSET", "FETCH", "UNION", "EXCEPT", "INTERSECT", "CLUSTER",
    "DISTRIBUTE", "RETURNING", "END"]

/-- Words that are not new names behind an expression. -/
def reservedForColumns : List String := reserved ++ ["FROM", "INTO"]

/-- Words that are not new names behind a table. -/
def reservedForTables : List String :=
  reserved ++ ["PIVOT", "UNPIVOT", "ON", "JOIN", "INNER", "CROSS", "FULL", "LEFT", "RIGHT",
    "NATURAL", "USING", "GLOBAL", "ANTI", "SEMI", "OPEN", "OUTER", "SET", "QUALIFY", "WINDOW",
    "FOR", "PARTITION", "PREWHERE", "SETTINGS", "FORMAT", "START", "CONNECT", "MATCH_RECOGNIZE"]

/-- A new name: behind `AS`, or a word that is not reserved, or a text between quotes. -/
def label (reserved : List String) : Parser (Option Ident) := do
  if ← takeKeyword "AS" then return some (← ident)
  match ← peek with
  | some (.word i) =>
      if i.quote.isNone && reserved.any i.isKeyword then return none else some <$> ident
  | some (.text _ _) => some <$> ident
  | _ => return none

def selectItem : Parser SelectItem := do
  if ← takeSign "*" then return .all
  let t ← expression
  if let .name [i] := t then
    if i.isKeyword "FROM" then fail
  return .term t (← label reservedForColumns)

def orderItem : Parser OrderItem := do
  let t ← expression
  let descending ←
    if ← takeKeyword "DESC" then pure true
    else do
      let _ ← takeKeyword "ASC"
      pure false
  let nullsFirst ←
    if ← takeKeywords ["NULLS", "FIRST"] then pure (some true)
    else if ← takeKeywords ["NULLS", "LAST"] then pure (some false)
    else pure none
  return ⟨t, descending, nullsFirst⟩

def select : Parser Select := do
  keyword "SELECT"
  let items ← list "," selectItem
  let source ←
    if ← takeKeyword "FROM" then do
      let name ← objectName
      pure (some (name, ← label reservedForTables))
    else pure none
  let condition ← if ← takeKeyword "WHERE" then some <$> expression else pure none
  let order ← if ← takeKeywords ["ORDER", "BY"] then list "," orderItem else pure []
  return { items, source, condition, order }

def valuesRow : Parser (List Term) := do
  sign "("
  let row ← list "," expression
  sign ")"
  return row

def query : Parser Query := do
  if ← takeKeyword "VALUES" then return .values (← list "," valuesRow)
  else return .select (← select)

/-! ## Statements -/

/-- The arguments between parentheses. -/
def arguments (d : Dialect) : Parser WrittenArguments := do
  if ← takeSign "(" then
    if d.hasQueryArgument && ((← atKeyword "SELECT") || (← atKeyword "WITH")) then
      let _ ← query
      sign ")"
      return .query
    else if ← takeSign ")" then return .list []
    else
      let arguments ← list "," (argument d)
      sign ")"
      return .list arguments
  else return .none

/-- The types a column can be given. -/
def typeNames : List (String × ColumnType) :=
  [("INT", .int32), ("INTEGER", .int32), ("BIGINT", .int64), ("SMALLINT", .integer .int16),
    ("TINYINT", .integer .int8), ("VARCHAR", .utf8), ("TEXT", .utf8), ("STRING", .utf8),
    ("CHAR", .utf8), ("DOUBLE", .float64), ("FLOAT", .float32), ("REAL", .float32),
    ("BOOLEAN", .boolean), ("BOOL", .boolean), ("DATE", .date32)]

def columnType : Parser ColumnType := do
  match ← next with
  | .word i =>
      match typeNames.find? fun entry => i.isKeyword entry.1 with
      | some entry =>
          if i.isKeyword "DOUBLE" then
            let _ ← takeKeyword "PRECISION"
          if entry.2 = .utf8 && (← takeSign "(") then
            let _ ← next
            sign ")"
          return entry.2
      | none => fail
  | _ => fail

def columnSpec : Parser ColumnSpec := do
  let name ←
    match ← next with
    | .word i => pure i
    | _ => fail
  let type ← columnType
  if ← takeKeywords ["NOT", "NULL"] then return ⟨name, type, false⟩
  let _ ← takeKeyword "NULL"
  return ⟨name, type, true⟩

def createTable (replace : Bool) : Parser Statement := do
  let unlessExists ← takeKeywords ["IF", "NOT", "EXISTS"]
  let name ← objectName
  let columns ←
    if ← takeSign "(" then
      if ← takeSign ")" then pure []
      else do
        let columns ← list "," columnSpec
        sign ")"
        pure columns
    else pure []
  let source ← if ← takeKeyword "AS" then some <$> query else pure none
  return .createTable replace unlessExists name columns source

def create : Parser Statement := do
  let replace ← takeKeywords ["OR", "REPLACE"]
  if ← takeKeyword "TABLE" then createTable replace
  else
    if replace then fail
    keyword "SCHEMA"
    let unlessExists ← takeKeywords ["IF", "NOT", "EXISTS"]
    return .createSchema unlessExists (← objectName)

/-- Whether what depends on the dropped thing is dropped with it; one can say so or not. -/
def dropMode : Parser Bool := do
  let cascade ← takeKeyword "CASCADE"
  if ← takeKeyword "RESTRICT" then
    if cascade then fail else return false
  return cascade

def drop : Parser Statement := do
  if ← takeKeyword "TABLE" then
    let ifExists ← takeKeywords ["IF", "EXISTS"]
    let name ← objectName
    let _ ← dropMode
    let _ ← takeKeyword "PURGE"
    return .dropTable ifExists name
  else
    keyword "SCHEMA"
    let ifExists ← takeKeywords ["IF", "EXISTS"]
    let name ← objectName
    let cascade ← dropMode
    let _ ← takeKeyword "PURGE"
    return .dropSchema ifExists cascade name

def insert : Parser Statement := do
  keyword "INTO"
  let _ ← takeKeyword "TABLE"
  let table ← objectName
  let columns ←
    if ← takeSign "(" then do
      let columns ← list "," ident
      sign ")"
      pure columns
    else pure []
  return .insert table columns (← query)

def statement (d : Dialect) : Parser Statement := do
  if ← takeKeyword "CALL" then
    let name ← objectName
    return .call name (← arguments d)
  else if ← takeKeyword "CREATE" then create
  else if ← takeKeyword "DROP" then drop
  else if ← takeKeyword "INSERT" then insert
  else return .query (← query)

/-- Take semicolons as long as there are some; the answer says whether there were. -/
def semicolons : Nat → Parser Bool
  | 0 => return false
  | fuel + 1 => do
      if ← takeSign ";" then
        let _ ← semicolons fuel
        return true
      else return false

/-- Statements with semicolons between; empty ones are passed over. -/
def statements (d : Dialect) : Nat → Bool → Parser (List Statement)
  | 0, _ => fail
  | fuel + 1, ended => do
      let passed ← semicolons ((← get).length)
      if ← atEnd then return []
      if !(ended || passed) then fail
      let first ← statement d
      return first :: (← statements d fuel false)

end Parser

/-- The statements of a text; none if it cannot be read. -/
def readStatements (d : Dialect) (s : String) : Option (List Statement) := do
  let tokens ← tokenize d s
  let (statements, _) ← (Parser.statements d (tokens.length + 1) true).run tokens
  return statements

/-- The one expression that fills a text. -/
def readExpression (d : Dialect) (s : String) : Option Term := do
  let tokens ← tokenize d s
  let (t, rest) ← Parser.expression.run tokens
  if rest.isEmpty then some t else none

end TableLake.Sql
