/-
# Arguments of the command line

A command, its options and the texts it works on. An option's value is the next
argument, or follows an equals sign. After `--` nothing is an option.

Key definitions: `Command`, `ArgumentError`, `Command.ofArguments`.
-/
import RowQuery.CommandLine

namespace RowQuery

/-- What to do. -/
inductive Command where
  | query (text : Option String) (settings : Settings) (pretty syntaxOnly : Bool)
  | check (text : Option String)
  | describe (name : String) (settings : Settings)
  | help

/-- Why arguments are no command. -/
inductive ArgumentError where
  | unknownCommand (word : String)
  | unexpected (argument : String)
  | missingValue (option : String)
  | badValue (option value reason : String)
  | missingName
  deriving DecidableEq, Repr

/-- How commands are written. -/
def usage : String :=
  "Usage: rowquery query [QUERY] [--data-dir DIR] [--api-base URL] [--source KIND]\n" ++
  "                      [--compound-mode MODE] [--pretty] [--syntax-only]\n" ++
  "       rowquery check [QUERY]\n" ++
  "       rowquery describe NAME [--data-dir DIR] [--api-base URL] [--source KIND]\n" ++
  "                      [--compound-mode MODE]"

def ArgumentError.message : ArgumentError → String
  | .unknownCommand word => "error: unrecognized subcommand '" ++ word ++ "'"
  | .unexpected argument => "error: unexpected argument '" ++ argument ++ "' found"
  | .missingValue option =>
    "error: a value is required for '" ++ option ++ "' but none was supplied"
  | .badValue option value reason =>
    "error: invalid value '" ++ value ++ "' for '" ++ option ++ "': " ++ reason
  | .missingName => "error: a table name was not provided"

/-- Which options a command has. -/
inductive OptionGroup where
  | none
  | sources
  | all
  deriving DecidableEq, Repr

/-- What was read of the arguments. -/
structure Arguments where
  texts : List String := []
  settings : Settings := {}
  pretty : Bool := false
  syntaxOnly : Bool := false

namespace Arguments

/-- The value that a word means, or why it means none. -/
def meaning {α : Type} (option value : String) (ofWord? : String → Option α)
    (reason : String → String) : Except ArgumentError α :=
  match ofWord? value with
  | some a => .ok a
  | none => .error (.badValue option value (reason value))

/-- The arguments with an option set. -/
def set (a : Arguments) (option value : String) : Except ArgumentError Arguments :=
  let s := a.settings
  match option with
  | "--data-dir" => .ok { a with settings := { s with dataDirectory := value } }
  | "--api-base" => .ok { a with settings := { s with apiBase := some value } }
  | "--source" => do
    let kind ← meaning option value SourceKind.ofWord? SourceKind.unknownMessage
    return { a with settings := { s with defaultKind := kind } }
  | "--compound-mode" => do
    let mode ← meaning option value CompoundMode.ofWord? CompoundMode.unknownMessage
    return { a with settings := { s with compoundMode := mode } }
  | _ => .error (.unexpected option)

/-- The arguments with a flag set, if there is such a flag. -/
def flag? (a : Arguments) : String → Option Arguments
  | "-p" => some { a with pretty := true }
  | "--pretty" => some { a with pretty := true }
  | "--syntax-only" => some { a with syntaxOnly := true }
  | _ => none

/-- An option and the value after its equals sign. -/
def splitOption (argument : String) : String × Option String :=
  let text := argument.toList
  match text.dropWhile (· != '=') with
  | _ :: value => (String.ofList (text.takeWhile (· != '=')), some (String.ofList value))
  | [] => (argument, none)

/-- Reads what follows the name of a command with the given options. -/
def read (group : OptionGroup) : Arguments → List String → Except ArgumentError Arguments
  | a, [] => .ok a
  | a, argument :: rest =>
    if argument = "--" then .ok { a with texts := a.texts ++ rest }
    else if !argument.startsWith "-" then read group { a with texts := a.texts ++ [argument] } rest
    else
      match group, a.flag? argument with
      | .all, some a => read group a rest
      | .none, _ => .error (.unexpected argument)
      | _, _ =>
        match splitOption argument, rest with
        | (option, some value), rest => do read group (← a.set option value) rest
        | (option, none), value :: rest => do read group (← a.set option value) rest
        | (option, none), [] => .error (.missingValue option)

/-- The only text of a command, if it has one. -/
def text? (a : Arguments) : Except ArgumentError (Option String) :=
  match a.texts with
  | [] => .ok none
  | [text] => .ok (some text)
  | _ :: extra :: _ => .error (.unexpected extra)

end Arguments

/-- The command that arguments say. -/
def Command.ofArguments : List String → Except ArgumentError Command
  | [] => .ok .help
  | word :: rest =>
    match word with
    | "query" => do
      let a ← Arguments.read .all {} rest
      return .query (← a.text?) a.settings a.pretty a.syntaxOnly
    | "check" => do
      let a ← Arguments.read .none {} rest
      return .check (← a.text?)
    | "describe" => do
      let a ← Arguments.read .sources {} rest
      match ← a.text? with
      | some name => return .describe name a.settings
      | none => .error .missingName
    | "help" => .ok .help
    | "--help" => .ok .help
    | "-h" => .ok .help
    | _ => .error (.unknownCommand word)

end RowQuery
