/-
# TableLake.CommandLine — the program from its words to its outcome

A run reads the command line, the environment, some files and what is put in, and
ends with a code, the text it has put out, and the text of what went wrong.  What
was put out before a failure stays.

The settings are read when they are first needed: at the start, unless the program
is told to be verbose, and else by the commands that use them.  Settings that cannot
be read end the program at that point.
-/
import TableLake.Action
import TableLake.CommandLine.Request
import TableLake.CommandLine.Settings
import TableLake.Document
import TableLake.Grid
import TableLake.Session.Statement

namespace TableLake

open TableLake.Sql

set_option autoImplicit false

/-- Why a file cannot be read. -/
inductive FileFault where
  | missing
  | denied
  | directory
  | notText
  | other (message : String)
deriving DecidableEq, Repr

def FileFault.message : FileFault → String
  | .missing => "No such file or directory (os error 2)"
  | .denied => "Permission denied (os error 13)"
  | .directory => "Is a directory (os error 21)"
  | .notText => "stream did not contain valid UTF-8"
  | .other message => message

/-- What a run can see of the world. -/
structure Surroundings where
  environment : Environment
  file : String → Except FileFault String
  input : Except FileFault String
  now : Int

/-- How a run ends. -/
structure Outcome where
  code : Nat
  output : String
  errors : String
deriving DecidableEq, Repr

namespace CommandLine

/-- Why a run ends early: with a message and what lies behind it, or at once. -/
inductive Failure where
  | message (text : String) (cause : Option String)
  | crash
deriving DecidableEq, Repr

/-- Parts of a run: they put out text and can fail. -/
abbrev Run := ExceptT Failure (StateM String)

def put (text : String) : Run Unit := modify (· ++ text)

/-- Lift an answer, with words for its failures. -/
def given {ε α : Type} (words : ε → Failure) (answer : Except ε α) : Run α :=
  ofExcept (answer.mapError words)

def engineFailure (e : EngineError) : Failure := .message e.report e.cause?

def catalogFailure (e : CatalogError) : Failure := .message e.message none

/-- The settings, when they are needed. -/
def settings (w : Surroundings) : Run Settings :=
  match Settings.read w.environment with
  | some s => pure s
  | none => throw .crash

/-! ## Scripts -/

/-- A session on the catalog of the settings. -/
def openSession (w : Surroundings) : Run Session := do
  let s ← settings w
  let (loaded, loader) := (Loader.load s.context).run (.new w.now)
  let ref ← given catalogFailure loaded
  if s.batchSize = 0 then throw .crash
  let (mounted, session) := (Session.mountLake s.catalogName ref).run (.new s.session loader)
  given engineFailure mounted
  return session

def readFile (w : Surroundings) (path : String) : Run String :=
  given (fun fault => .message ("Failed to read SQL file " ++ path) (some fault.message))
    (w.file path)

/-- The scripts given as they are, then those in files. -/
def readScripts (w : Surroundings) (sources : ScriptSources) : Run (List String) := do
  return sources.statements ++ (← sources.files.mapM (readFile w))

/-- The text of a cell; a missing value is blank. -/
def cellText (f : Field) : Cell → String
  | some v => v.asText f.type
  | none => ""

/-- Rows as a table. -/
def grid (rows : RowSet) : Grid :=
  ⟨rows.fields.map Field.name, rows.rows.map fun row => List.zipWith cellText rows.fields row⟩

/-- Run a script and put its rows out, as long as its statements succeed. -/
def runScript (session : Session) (script : String) : Run Session := do
  let (parsed, session) := (Session.parseScript script).run session
  let (dialect, statements) ← given engineFailure parsed
  let ((rows, failure), session) := (Session.executeAll dialect statements).run session
  rows.forM fun r => put (grid r).render
  match failure with
  | some e => throw (engineFailure e)
  | none => return session

/-! ## Commands -/

def runSql (w : Surroundings) (sources : ScriptSources) : Run Unit := do
  let session ← openSession w
  let scripts ← readScripts w sources
  let scripts ←
    if scripts.isEmpty then do
      let input ← given (fun fault => .message "Failed to read SQL from stdin" (some fault.message))
        w.input
      pure [input]
    else pure scripts
  let _ ← scripts.foldlM runScript session

/-- What is said of a parameter. -/
def parameterDocument (p : Parameter) : Document :=
  .record [("data_type", .text p.type.name), ("description", .text (Procedure.describe p)),
    ("name", .text p.name), ("required", .truth p.required)]

def procedureDocument (p : Procedure) : Document :=
  .record [("description", .text p.description),
    ("parameters", .list (p.parameters.map parameterDocument)), ("procedure_name", .text p.name)]

def runProcedures (w : Surroundings) : Run Unit := do
  let s ← settings w
  let _ ← given catalogFailure ((Loader.load s.context).run (.new w.now)).1
  let document : Document :=
    .record [("namespace", .text s.systemNamespace),
      ("procedures", .list (Procedure.all.map procedureDocument))]
  put (document.render 0 ++ "\n")

def actionFailure : ProcedureError → Failure
  | .noAction name =>
      .message ((ProcedureError.noAction name).message ++ ". Available actions: " ++
        String.intercalate ", " ActionKind.names) none
  | e => .message e.message none

def runAction (w : Surroundings) (sources : ScriptSources) (name : String) (words : List String) :
    Run Unit := do
  let scripts ← readScripts w sources
  let loader ←
    if scripts.isEmpty then pure (.new w.now)
    else do
      let session ← scripts.foldlM runScript (← openSession w)
      pure session.loader
  match ← given actionFailure ((Action.perform name words).run loader).1 with
  | some help => put (help ++ "\n")
  | none => return ()

def runCommand (w : Surroundings) (verbose : Bool) (command : Command) : Run Unit := do
  unless verbose do let _ ← settings w
  match command with
  | .sql sources => runSql w sources
  | .procedures => runProcedures w
  | .action sources name words => runAction w sources name words

/-! ## Outcomes -/

def version : String := "lakeport 0.1.0\n"

def usage : String :=
  "Usage: lakeport [-v] <command>\n\n" ++
  "Commands:\n" ++
  "  sql [-e <SQL>]... [-f <FILE>]...      run statements, CALL among them\n" ++
  "  procedures                            describe the procedures\n" ++
  "  action [-e <SQL>]... [-f <FILE>]... <ACTION> [ARGS]...\n" ++
  "                                        run an action such as compact\n" ++
  "  help                                  print this text\n\n" ++
  "Options:\n" ++
  "  -v, --verbose    say more\n" ++
  "  -h, --help       print this text\n" ++
  "  -V, --version    print the version\n"

/-- The text of a failure, with what lies behind it. -/
def failureText (text : String) (cause : Option String) : String :=
  "Error: " ++ text ++ "\n" ++
    match cause with
    | some cause => "\nCaused by:\n    " ++ cause ++ "\n"
    | none => ""

def outcome (run : Run Unit) : Outcome :=
  match run.run "" with
  | (.ok _, output) => ⟨0, output, ""⟩
  | (.error (.message text cause), output) => ⟨1, output, failureText text cause⟩
  | (.error .crash, output) => ⟨101, output, "Failed to load config\n"⟩

/-- Run the program. -/
def run (w : Surroundings) (words : List String) : Outcome :=
  match Request.read words with
  | none => ⟨2, "", usage⟩
  | some .version => ⟨0, version, ""⟩
  | some .help => ⟨0, usage, ""⟩
  | some (.run verbose command) => outcome (runCommand w verbose command)

end CommandLine

end TableLake
