/-
# TableLake.Main — the program at the shell

Gathers what a run may look at, runs it, and puts its outcome out.
-/
import TableLake.CommandLine

namespace TableLake

set_option autoImplicit false

/-- Why the system could not read a file. -/
def FileFault.ofError : IO.Error → FileFault
  | .noFileOrDirectory .. => .missing
  | .permissionDenied .. => .denied
  | .inappropriateType .. => .directory
  | e => .other (toString e)

/-- The text of bytes. -/
def FileFault.decode (bytes : ByteArray) : Except FileFault String :=
  match String.fromUTF8? bytes with
  | some text => .ok text
  | none => .error .notText

def readPath (path : String) : IO (Except FileFault String) := do
  try
    return FileFault.decode (← IO.FS.readBinFile path)
  catch e => return .error (.ofError e)

/-- The files that a request names. -/
def Request.files : Request → List String
  | .run _ (.sql sources) => sources.files
  | .run _ (.action sources _ _) => sources.files
  | _ => []

/-- Whether the request runs what is put in. -/
def Request.readsInput : Request → Bool
  | .run _ (.sql sources) => sources.statements.isEmpty && sources.files.isEmpty
  | _ => false

/-- A function that is known at some arguments. -/
def known {α : Type} (absent : α) (values : List (String × α)) (name : String) : α :=
  ((values.find? fun entry => entry.1 == name).map Prod.snd).getD absent

def surroundings (request : Option Request) : IO Surroundings := do
  let values ← Settings.variableNames.mapM fun name => return (name, ← IO.getEnv name)
  let files ← ((request.map Request.files).getD []).mapM fun path => return (path, ← readPath path)
  let input ←
    if (request.map Request.readsInput).getD false then readPath "/dev/stdin" else pure (.ok "")
  return { environment := known none values, file := known (.error .missing) files, input
           now := (← IO.monoMsNow : Nat) }

end TableLake

def main (words : List String) : IO UInt32 := do
  let world ← TableLake.surroundings (TableLake.Request.read words)
  let outcome := TableLake.CommandLine.run world words
  IO.print outcome.output
  IO.eprint outcome.errors
  return UInt32.ofNat outcome.code
