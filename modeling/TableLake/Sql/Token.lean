/-
# TableLake.Sql.Token — the words and signs of a text of statements

`tokenize` cuts a text into tokens and leaves out white space and comments.  Each
step takes the longest token at the front; a text that ends inside quotes or inside
a comment has no tokens.
-/
import TableLake.Sql.Dialect
import TableLake.Text.Integer

namespace TableLake.Sql

open TableLake.Text

set_option autoImplicit false

/-- A word: a name or a keyword.  A quoted word is never a keyword. -/
structure Ident where
  text : String
  quote : Option Char
deriving DecidableEq, Repr

inductive Token where
  | word (ident : Ident)
  | number (digits : String)
  | text (s : String) (quote : Char)
  | sign (s : String)
deriving DecidableEq, Repr

/-! ## Lexemes -/

/-- The character that a backslash and another stand for. -/
def unescaped (c : Char) : Char :=
  match c with
  | '0' => '\x00'
  | 'a' => '\x07'
  | 'b' => '\x08'
  | 'f' => '\x0c'
  | 'n' => '\n'
  | 'r' => '\r'
  | 't' => '\t'
  | 'Z' => '\x1a'
  | c => c

/-- What stands before the closing quote, and the rest; a doubled quote is one. -/
def readQuoted (backslashes : Bool) (quote : Char) : List Char → Option (List Char × List Char)
  | [] => none
  | [c] => if c = quote then some ([], []) else none
  | c :: d :: rest =>
      if c = quote then
        if d = quote then (readQuoted backslashes quote rest).map fun r => (quote :: r.1, r.2)
        else some ([], d :: rest)
      else if backslashes && c = '\\' then
        (readQuoted backslashes quote rest).map fun r => (unescaped d :: r.1, r.2)
      else (readQuoted backslashes quote (d :: rest)).map fun r => (c :: r.1, r.2)

/-- What follows a comment that is open `depth` times; `last` is the character before.
Characters are looked at in pairs, and one may belong to two of them. -/
def skipComment : Nat → Char → List Char → Option (List Char)
  | _, _, [] => none
  | depth, last, c :: rest =>
      if last = '/' && c = '*' then skipComment (depth + 1) c rest
      else if last = '*' && c = '/' then
        if depth ≤ 1 then some rest else skipComment (depth - 1) c rest
      else skipComment depth c rest

/-- Whether two hyphens begin a comment, which lasts to the end of the line. -/
def beginsComment (d : Dialect) (rest : List Char) : Bool :=
  !d.hasBlankComments || rest.head? == some ' '

/-- Digits with an optional point and an optional exponent, and the rest. -/
def readDecimal (cs : List Char) : List Char × List Char :=
  let whole := cs.takeWhile isDigit
  let (fraction, rest) :=
    match cs.dropWhile isDigit with
    | '.' :: ds => ('.' :: ds.takeWhile isDigit, ds.dropWhile isDigit)
    | ds => ([], ds)
  match rest with
  | e :: sign :: d :: more =>
      if (e = 'e' || e = 'E') && (sign = '+' || sign = '-') && isDigit d then
        (whole ++ fraction ++ e :: sign :: (d :: more).takeWhile isDigit, more.dropWhile isDigit)
      else if (e = 'e' || e = 'E') && isDigit sign then
        (whole ++ fraction ++ e :: (sign :: d :: more).takeWhile isDigit,
          (d :: more).dropWhile isDigit)
      else (whole ++ fraction, rest)
  | [e, d] =>
      if (e = 'e' || e = 'E') && isDigit d then (whole ++ fraction ++ [e, d], [])
      else (whole ++ fraction, rest)
  | _ => (whole ++ fraction, rest)

/-- A number, behind which an `L` may stand, and the rest; where names may begin with
digits, a name that begins with those of the number. -/
def readNumber (d : Dialect) (cs : List Char) : Token × List Char :=
  let plain (c : Char) : Bool := isDigit c || c = '.'
  let (digits, rest) := readDecimal cs
  let more := rest.takeWhile d.continuesName
  let exponent := (rest.head?.map fun c => c = 'e' || c = 'E').getD false
  if d.hasNumericNames && digits.all plain && !exponent && !more.isEmpty then
    (.word ⟨String.ofList (digits ++ more), none⟩, rest.dropWhile d.continuesName)
  else
    match rest with
    | 'L' :: rest => (.number (String.ofList (digits ++ ['L'])), rest)
    | rest => (.number (String.ofList digits), rest)

/-- A name, and the rest; of digits alone it is a number, as far as digits and points go. -/
def readName (d : Dialect) (cs : List Char) : Token × List Char :=
  let plain (c : Char) : Bool := isDigit c || c = '.'
  let word := cs.takeWhile d.continuesName
  let rest := cs.dropWhile d.continuesName
  if word.all isDigit then
    (.number (String.ofList (word ++ rest.takeWhile plain)), rest.dropWhile plain)
  else (.word ⟨String.ofList word, none⟩, rest)

/-- The signs of several characters, longest first, and those of one. -/
def signs : List String :=
  ["<=>", "=>", "==", "<=", "<>", "<<", ">=", ">>", "!=", "||", "::", ":=", "->", "=", "<", ">",
    "!", "|", ":", "+", "-", "*", "/", "%", "(", ")", ",", ";", ".", "[", "]", "\x7b", "\x7d",
    "&", "^", "~", "?", "\\", "#", "@", "$"]

/-- The longest sign at the front, and the rest. -/
def readSign (cs : List Char) : Option (String × List Char) :=
  (signs.find? fun s => s.toList.isPrefixOf cs).map fun s => (s, cs.drop s.length)

/-- One step: a token, or nothing for white space and comments, and the rest. -/
def step (d : Dialect) (cs : List Char) : Option (Option Token × List Char) :=
  match cs with
  | [] => none
  | '-' :: '-' :: rest =>
      if beginsComment d rest then some (none, rest.dropWhile (· ≠ '\n'))
      else some (some (.sign "-"), '-' :: rest)
  | '/' :: '*' :: rest => (skipComment 1 ' ' rest).map fun r => (none, r)
  | c :: rest =>
      if isBlank c then some (none, rest)
      else if d.hasNumberSignComments && c = '#' then some (none, rest.dropWhile (· ≠ '\n'))
      else if c ∈ d.nameQuotes then
        (readQuoted false c rest).map fun r =>
          (some (.word ⟨String.ofList r.1, some c⟩), r.2)
      else if c = '\'' || c = '"' then
        (readQuoted d.hasBackslashes c rest).map fun r =>
          (some (.text (String.ofList r.1) c), r.2)
      else if d.startsName c then
        let (token, rest) := readName d cs
        some (some token, rest)
      else if isDigit c || (c = '.' && (rest.head?.map isDigit).getD false) then
        let (token, rest) := readNumber d cs
        some (some token, rest)
      else (readSign cs).map fun r => (some (.sign r.1), r.2)

/-- All tokens of a text. -/
def tokensOf (d : Dialect) (cs : List Char) : Option (List Token) :=
  if cs.isEmpty then some []
  else
    match step d cs with
    | none => none
    | some (token, rest) =>
        if _shorter : rest.length < cs.length then
          (tokensOf d rest).map fun tokens => token.toList ++ tokens
        else none
termination_by cs.length

def tokenize (d : Dialect) (s : String) : Option (List Token) :=
  tokensOf d s.toList

end TableLake.Sql
