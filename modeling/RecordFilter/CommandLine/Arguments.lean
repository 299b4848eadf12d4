import RecordFilter.CommandLine

/-!
# Arguments

The command that a list of arguments spells: its name, and options in any order whose
values stand behind them or behind an equals sign.
-/

set_option autoImplicit false

namespace RecordFilter.CommandLine

structure Arguments where
  filter : Option String
  dialect : Sql.Dialect
  conditionOnly : Bool

def argumentValue? (names : List String) : List String → Option (String × List String)
  | [] => none
  | argument :: rest =>
    if names.contains argument then
      match rest with
      | [] => none
      | value :: rest => some (value, rest)
    else
      names.findSome? fun name =>
        if argument.startsWith (name ++ "=") then
          some ((argument.drop (name.length + 1)).toString, rest)
        else none

def dialect? (name : String) : Option Sql.Dialect :=
  [Sql.Dialect.sqlite, .sqlServer].find? (·.name = name)

/-- Reads the arguments behind the name of a command. There are at most as many steps
as arguments. -/
def readArguments : Nat → Arguments → List String → Option Arguments
  | _, arguments, [] => some arguments
  | 0, _, _ :: _ => none
  | steps + 1, arguments, given =>
    match argumentValue? ["--filter", "-f"] given with
    | some (filter, rest) => readArguments steps { arguments with filter := some filter } rest
    | none =>
      match argumentValue? ["--backend", "-b"] given with
      | some (name, rest) =>
        (dialect? name).bind fun dialect => readArguments steps { arguments with dialect } rest
      | none =>
        match given with
        | "--no-where" :: rest =>
          readArguments steps { arguments with conditionOnly := true } rest
        | _ => none

def readCommand : List String → Option Command
  | [] => none
  | name :: given => do
    let start : Arguments := { filter := none, dialect := .sqlite, conditionOnly := false }
    let arguments ← readArguments given.length start given
    let filter ← arguments.filter
    match name with
    | "plan" => some (.plan filter)
    | "eval" => some (.eval filter)
    | "translate" => some (.statement filter arguments.dialect arguments.conditionOnly)
    | _ => none

end RecordFilter.CommandLine
