/-
# The program

Reads arguments, input and files, and writes what the commands say. A query is
executed with the files that are known; if it asked for a table whose files are
not, these are read and it is executed again.
-/
import RowQuery.CommandLine.Arguments

namespace RowQuery.Program

/-- The contents of a file, if it can be read. -/
def readFile (path : String) : IO (Option (List UInt8)) := do
  try
    return some (← IO.FS.readBinFile path).toList
  catch _ => return none

/-- The place of a path that starts in the data directory. -/
def place (settings : Settings) (path : String) : String :=
  if path.startsWith "/" then path else settings.dataDirectory ++ "/" ++ path

/-- The files that a table's name may stand for. -/
def readTable (settings : Settings) (name : String) : IO (List (String × List UInt8)) := do
  let found ← (Files.candidates name).mapM fun path => do
    return (← readFile (place settings path)).map fun bytes => (path, bytes)
  return found.filterMap id

/-- Files by the paths they were read from. -/
def known (files : List (String × List UInt8)) : Files := fun path => files.lookup path

/-- Reads the files of all tables that a statement asks for. -/
partial def gather (settings : Settings) (s : Statement) (names : List String)
    (files : List (String × List UInt8)) : IO Files := do
  let (_, loads) := (settings.engine (known files)).run s
  let asked := loads.filterMap fun (kind, name) => if kind = .file then some name else none
  match asked.find? fun name => !names.contains name with
  | some name => gather settings s (name :: names) (files ++ (← readTable settings name))
  | none => return known files

/-- The query that is given, or the input. -/
def readQuery (text : Option String) : IO (Except CommandError String) := do
  match text with
  | some text => return .ok text
  | none =>
    let input ← IO.getStdin
    if ← input.isTty then return .error .noQuery
    else
      let bytes ← input.readBinToEnd
      match Text.decode? bytes.toList with
      | some text => return .ok text
      | none => throw (IO.userError "IO error: stream did not contain valid UTF-8")

/-- Writes what came out, and tells whether all went well. -/
def finish (result : Except CommandError String) : IO UInt32 := do
  match result with
  | .ok text =>
    IO.print text
    return 0
  | .error error =>
    IO.eprintln error.message
    match error with
    | .query (.disorder _) => return 101
    | _ => return 1

/-- Runs a query. -/
def runQuery (settings : Settings) (pretty syntaxOnly : Bool) (text : String) :
    IO (Except CommandError String) := do
  let files ← match Statement.ofText text with
    | .ok s => if syntaxOnly then pure (known []) else gather settings s [] []
    | .error _ => pure (known [])
  return (settings.query files pretty syntaxOnly text).map fun output => output.text ++ "\n"

/-- Does what a command says. -/
def perform : Command → IO UInt32
  | .query text settings pretty syntaxOnly => do
    match ← readQuery text with
    | .ok text => finish (← runQuery settings pretty syntaxOnly text)
    | .error error => finish (.error error)
  | .check text => do
    match ← readQuery text with
    | .ok text => finish (← runQuery {} false true text)
    | .error error => finish (.error error)
  | .describe name settings => do
    let files ← readTable settings name
    finish ((settings.describe (known files) name).map Field.lines)
  | .help => do
    IO.println usage
    return 0

end RowQuery.Program

def main (args : List String) : IO UInt32 := do
  match RowQuery.Command.ofArguments args with
  | .ok command => RowQuery.Program.perform command
  | .error error =>
    IO.eprintln (error.message ++ "\n\n" ++ RowQuery.usage)
    return 2
