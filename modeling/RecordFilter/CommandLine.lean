import RecordFilter.Demo
import RecordFilter.Filter.Parser
import RecordFilter.Predicate.Printer
import RecordFilter.Schema.Catalog
import RecordFilter.Schema.Query

/-!
# Commands

What the program does with a filter over the demonstration collection: show how it would
be run, answer it from the records, or put it into SQL.
-/

set_option autoImplicit false

namespace RecordFilter.CommandLine

inductive Command where
  | plan (filter : String)
  | eval (filter : String)
  /-- Gives the statement in SQL, or the condition alone. -/
  | statement (filter : String) (dialect : Sql.Dialect) (conditionOnly : Bool)
  deriving DecidableEq

structure Outcome where
  code : UInt8
  output : String
  diagnostics : String
  deriving DecidableEq

structure Failure where
  /-- What was to be done; some causes are told without it. -/
  context : Option String
  cause : FilterError

/-- A text whose every line begins behind a margin, an empty line too. -/
def indented (margin text : String) : String :=
  margin ++ String.join (text.toList.map fun c => if c = '\n' then "\n" ++ margin else c.toString)

/-- The failure in words. The cause is set off from its context, however many lines it
takes. -/
def Failure.message (failure : Failure) : String :=
  match failure.context with
  | some context =>
    "Error: " ++ context ++ "\n\nCaused by:\n"
      ++ indented "    " failure.cause.message ++ "\n"
  | none => "Error: " ++ failure.cause.message ++ "\n"

def during {α : Type} (context : String) (result : Result α) : Except Failure α :=
  result.mapError (⟨some context, ·⟩)

def withoutContext {α : Type} (result : Result α) : Except Failure α :=
  result.mapError (⟨none, ·⟩)

def unlines (lines : List String) : String :=
  String.join (lines.map (· ++ "\n"))

def readFilter (filter : String) : Except Failure Predicate :=
  during ("Failed to parse filter '" ++ filter ++ "'") (Predicate.ofText filter)

def padLeft (width : Nat) (text : String) : String :=
  String.ofList (List.replicate (width - text.length) ' ') ++ text

/-- What a step does, its flag set aside. -/
def stepLabel (step : PlanStep) : String :=
  match step.node with
  | .leaf _ leaf => leaf.text
  | .group _ connective _ =>
    connective.keyword ++ " of steps ["
      ++ String.intercalate ", " (step.children.map toString) ++ "]"

def stepLine (number : Nat) (step : PlanStep) : String :=
  padLeft 3 (toString number) ++ ": " ++ (if step.node.isNegated then "not " else "")
    ++ stepLabel step

def planLines (p : Predicate) : List String :=
  let normal := p.normalized
  let steps := (Plan.ofPredicate normal).steps.toList
  ("tree: " ++ normal.text) :: steps.mapIdx stepLine

def recordLine (record : Record) : String :=
  let fields := record.values.toList.map fun (name, value) => name ++ "=" ++ value.text
  record.key ++ " \x7b" ++ String.intercalate ", " fields ++ "\x7d"

def answerLines (p : Predicate) : Except Failure (List String) := do
  let keys ← during "Failed to evaluate filter"
    (Demo.people.queryChecked p Demo.schema.resolver)
  let found := keys.toList.filterMap Demo.people.get?
  return found.map recordLine
    ++ [toString keys.size ++ " of " ++ toString Demo.people.size ++ " records matched"]

def statementLines (statement : Sql.Statement) : List String :=
  statement.text
    :: statement.parameters.map fun bound => "  " ++ bound.name ++ " = " ++ bound.value.text

def compiledLines (p : Predicate) (dialect : Sql.Dialect) (conditionOnly : Bool) :
    Except Failure (List String) := do
  let catalog ← during "Failed to register demo collection"
    ((Catalog.empty (.standard dialect)).register Demo.schema)
  let schema ← withoutContext (catalog.get Demo.schema.name)
  let compiler : Sql.Compiler :=
    { resolver := schema.resolver, backend := catalog.backend }
  let statement ← during "Failed to translate filter"
    (if conditionOnly then compiler.condition p else compiler.selectKeys p)
  return statementLines statement

def lines : Command → Except Failure (List String)
  | .plan filter => do
    let p ← readFilter filter
    return planLines p
  | .eval filter => do
    let p ← readFilter filter
    answerLines p
  | .statement filter dialect conditionOnly => do
    let p ← readFilter filter
    compiledLines p dialect conditionOnly

/-- Runs a command. A failure writes nothing but its message. -/
def run (command : Command) : Outcome :=
  match lines command with
  | .ok lines => { code := 0, output := unlines lines, diagnostics := "" }
  | .error failure => { code := 1, output := "", diagnostics := failure.message }

end RecordFilter.CommandLine
