/-
# TableLake.CommandLine.Request — what the words of a command line ask for

Options come before, between and behind the words they do not belong to.  A short
option is one letter behind a hyphen, several can share the hyphen; a long one is a
word behind two.  The value of an option follows it as the next word, or directly:
behind a letter, or behind an equal sign.  Two hyphens alone end the options.

The words of an action are its own from the first on that is no option of the
program: what follows the name of the action and looks like an unknown option
already belongs to the action.
-/
import TableLake.Text.Split

namespace TableLake

open TableLake.Text

set_option autoImplicit false

/-- Statements to run: those given as they are, and files that hold some. -/
structure ScriptSources where
  statements : List String
  files : List String
deriving DecidableEq, Repr

inductive Command where
  | sql (sources : ScriptSources)
  | procedures
  | action (sources : ScriptSources) (name : String) (words : List String)
deriving DecidableEq, Repr

inductive Request where
  | version
  | help
  | run (verbose : Bool) (command : Command)
deriving DecidableEq, Repr

namespace Request

/-! ## Options -/

/-- The options that take a value. -/
inductive ValueOption where
  | execute
  | file
deriving DecidableEq, Repr

inductive ProgramOption where
  | verbose
  | help
  | version
  | value (option : ValueOption)
deriving DecidableEq, Repr

/-- The part of a command line that options are read for. -/
inductive Scope where
  | program
  | sql
  | procedures
  | action
deriving DecidableEq, Repr

def ProgramOption.letter : ProgramOption → Char
  | .verbose => 'v'
  | .help => 'h'
  | .version => 'V'
  | .value .execute => 'e'
  | .value .file => 'f'

def ProgramOption.name : ProgramOption → String
  | .verbose => "verbose"
  | .help => "help"
  | .version => "version"
  | .value .execute => "execute"
  | .value .file => "file"

/-- The options of each part; the words of an action may ask for help themselves. -/
def Scope.options : Scope → List ProgramOption
  | .program => [.verbose, .help, .version]
  | .sql => [.verbose, .help, .value .execute, .value .file]
  | .procedures => [.verbose, .help]
  | .action => [.verbose, .value .execute, .value .file]

def Scope.short? (scope : Scope) (c : Char) : Option ProgramOption :=
  scope.options.find? fun o => o.letter = c

def Scope.long? (scope : Scope) (name : String) : Option ProgramOption :=
  scope.options.find? fun o => o.name = name

/-- What the options have said so far. -/
structure Given where
  verbose : Bool
  sources : ScriptSources
deriving DecidableEq, Repr

def Given.nothing : Given := ⟨false, ⟨[], []⟩⟩

def Given.add (g : Given) (option : ValueOption) (value : String) : Given :=
  match option with
  | .execute => { g with sources.statements := g.sources.statements ++ [value] }
  | .file => { g with sources.files := g.sources.files ++ [value] }

/-- How a word of options ends. -/
inductive Taken where
  | next (given : Given)
  | awaits (option : ValueOption) (given : Given)
  | stop (request : Request)
deriving DecidableEq, Repr

/-- Read the letters behind one hyphen. -/
def readShort (scope : Scope) : List Char → Given → Option Taken
  | [], g => some (.next g)
  | c :: rest, g =>
      match scope.short? c with
      | none => none
      | some .verbose => readShort scope rest { g with verbose := true }
      | some .help => some (.stop .help)
      | some .version => some (.stop .version)
      | some (.value option) =>
          match rest with
          | [] => some (.awaits option g)
          | '=' :: value => some (.next (g.add option (String.ofList value)))
          | value => some (.next (g.add option (String.ofList value)))

/-- The name of a long option, and the value behind an equal sign. -/
def longParts (cs : List Char) : String × Option String :=
  match cutOnce '=' cs with
  | some (name, value) => (String.ofList name, some (String.ofList value))
  | none => (String.ofList cs, none)

/-- Read the word behind two hyphens. -/
def readLong (scope : Scope) (cs : List Char) (g : Given) : Option Taken :=
  let (name, value) := longParts cs
  match scope.long? name, value with
  | some .verbose, none => some (.next { g with verbose := true })
  | some .help, none => some (.stop .help)
  | some .version, none => some (.stop .version)
  | some (.value option), some value => some (.next (g.add option value))
  | some (.value option), none => some (.awaits option g)
  | _, _ => none

/-! ## Words -/

/-- A word is one of options, ends them, or is neither. -/
inductive WordKind where
  | short (letters : List Char)
  | long (body : List Char)
  | separator
  | plain
deriving DecidableEq, Repr

def wordKind (word : String) : WordKind :=
  match word.toList with
  | ['-', '-'] => .separator
  | '-' :: '-' :: body => .long body
  | '-' :: c :: letters => .short (c :: letters)
  | _ => .plain

/-- Whether a word of options has only options of the program. -/
def isKnown (scope : Scope) : WordKind → Bool
  | .short letters => letters.all fun c => (scope.short? c).isSome
  | .long body => (scope.long? (longParts body).1).isSome
  | .separator => true
  | .plain => false

def readOptions (scope : Scope) (g : Given) : WordKind → Option Taken
  | .short letters => readShort scope letters g
  | .long body => readLong scope body g
  | .separator | .plain => none

/-- What is left to read of a command. -/
inductive Awaiting where
  | onlyOptions
  | actionName
  | actionWords (name : String)
deriving DecidableEq, Repr

/-- The words that are not options, all at once. -/
def operands : Awaiting → List String → Option (Option (String × List String))
  | .onlyOptions, [] => some none
  | .onlyOptions, _ :: _ => none
  | .actionName, [] => none
  | .actionName, name :: words => some (some (name, words))
  | .actionWords name, words => some (some (name, words))

/-- The answer of reading a command: its options and the action with its words, or a
request that comes before all else. -/
abbrev CommandReading := Except Request (Given × Option (String × List String))

/-- End a command at its operands. -/
def close (g : Given) (awaiting : Awaiting) (words : List String) : Option CommandReading :=
  (operands awaiting words).map fun found => .ok (g, found)

/-- Read the words of a command; `pending` is an option whose value comes next. -/
def readCommand (scope : Scope) :
    (pending : Option ValueOption) → Given → Awaiting → List String → Option CommandReading
  | none, g, awaiting, [] => close g awaiting []
  | some _, _, _, [] => none
  | some option, g, awaiting, word :: rest =>
      let kind := wordKind word
      let foreign : Bool :=
        match awaiting with
        | .actionWords _ => !isKnown scope kind
        | _ => kind = .plain
      if foreign then readCommand scope none (g.add option word) awaiting rest else none
  | none, g, awaiting, word :: rest =>
      match wordKind word, awaiting with
      | .separator, _ => close g awaiting rest
      | .plain, .actionName => readCommand scope none g (.actionWords word) rest
      | .plain, _ => close g awaiting (word :: rest)
      | kind, _ =>
          match awaiting, isKnown scope kind with
          | .actionWords _, false => close g awaiting (word :: rest)
          | _, _ =>
              match readOptions scope g kind with
              | none => none
              | some (.stop request) => some (.error request)
              | some (.next g) => readCommand scope none g awaiting rest
              | some (.awaits option g) => readCommand scope (some option) g awaiting rest

/-! ## Command lines -/

/-- The request of a command that has been read. -/
def ofReading (verbose : Bool) (make : Given → Option (String × List String) → Option Command) :
    CommandReading → Option Request
  | .error request => some request
  | .ok (g, found) => (make g found).map fun command => .run (verbose || g.verbose) command

def commandNames : List String := ["sql", "procedures", "action", "help"]

/-- Read the words behind the options of the program. -/
def readCommandNamed (verbose : Bool) (name : String) (rest : List String) : Option Request :=
  match name with
  | "sql" => do
      let reading ← readCommand .sql none .nothing .onlyOptions rest
      ofReading verbose (fun g _ => some (.sql g.sources)) reading
  | "procedures" => do
      let reading ← readCommand .procedures none .nothing .onlyOptions rest
      ofReading verbose (fun _ _ => some .procedures) reading
  | "action" => do
      let reading ← readCommand .action none .nothing .actionName rest
      ofReading verbose (fun g found => found.map fun a => .action g.sources a.1 a.2) reading
  | "help" =>
      match rest with
      | [] => some .help
      | [name] => if name ∈ commandNames then some .help else none
      | _ => none
  | _ => none

/-- Read the options of the program and then its command. -/
def readProgram : Given → List String → Option Request
  | _, [] => none
  | g, word :: rest =>
      match wordKind word with
      | .separator => none
      | .plain => readCommandNamed g.verbose word rest
      | kind =>
          match readOptions .program g kind with
          | some (.next g) => readProgram g rest
          | some (.stop request) => some request
          | _ => none

/-- What a command line asks for; none if it cannot be read. -/
def read (words : List String) : Option Request := readProgram .nothing words

end Request

end TableLake
