import RecordFilter.Predicate.NormalForm
import RecordFilter.Predicate.Plan
import RecordFilter.Sql.Backend
import RecordFilter.Sql.Binding
import RecordFilter.Sql.Fragments
import RecordFilter.Sql.Typing

/-!
# Statements

A predicate about properties becomes a predicate about columns, and that one a condition
in SQL. The values of the condition are bound to placeholders, which are numbered from
left to right.
-/

set_option autoImplicit false

namespace RecordFilter.Sql

structure Statement where
  text : String
  parameters : List Binding
  deriving DecidableEq

def Statement.mapText (statement : Statement) (f : String → String) : Statement :=
  { statement with text := f statement.text }

/-- A collection on a backend. -/
structure Compiler where
  resolver : Resolver
  backend : Backend

namespace Compiler

def qualified (compiler : Compiler) (column : String) : String :=
  compiler.backend.dialect.qualify compiler.resolver.table column

/-! ## From properties to columns -/

def encodeSingle (property : Property) (v : Value) : Result Value := do
  match ← property.codec.encode v with
  | encoded :: _ => return encoded
  | [] => throw (.codec property.codec.name (.noEncoding v))

/-- A leaf about a property in one column. Patterns are compared with what is stored. -/
def columnLeaf (leaf : Leaf) (property : Property) (column : String) : Result Predicate :=
  match leaf.comparison with
  | .oneOf => do
    let values ← leaf.values.mapM (encodeSingle property)
    return .columnAmong column values
  | .like => .ok (.column column .like leaf.value)
  | comparison => do
    let value ← encodeSingle property leaf.value
    return .column column comparison value

def lowerLeaf (compiler : Compiler) (negated : Bool) (leaf : Leaf) : Result Predicate :=
  if leaf.target = .constant || leaf.target = .column then .ok (.leaf negated leaf)
  else do
    let property ← compiler.resolver.resolve leaf
    if 1 < property.codec.columns then
      match compiler.backend.lowerings[property.codec.name]? with
      | some lowering => lowering (.leaf negated leaf) property
      | none => throw (.missingLowering property.name property.codec.name)
    else
      match property.singleColumn? with
      | some column =>
        let lowered ← columnLeaf leaf property column
        return lowered.withNegation negated
      | none => throw (.codec property.codec.name (.noColumn property.name))

def lowerNode (compiler : Compiler) (node : Predicate) (members : List Predicate) :
    Result Predicate :=
  match node with
  | .leaf negated leaf => compiler.lowerLeaf negated leaf
  | .group negated connective _ => .ok (.group negated connective members)

def lower (compiler : Compiler) (p : Predicate) : Result Predicate :=
  (Plan.ofPredicate p).run compiler.lowerNode

/-! ## From columns to text -/

/-- Text is made while values are bound. -/
abbrev Rendering : Type → Type :=
  StateT Bindings (Except FilterError)

def bindValue (v : Value) : Rendering String := do
  let bindings ← get
  set (bindings.bind v)
  return bindings.next

def constantCondition (truth : Bool) : String :=
  if truth then "(0 = 0)" else "(0 = 1)"

/-- The condition of a comparison with a column. Membership in nothing never holds. -/
def columnCondition (column : String) (leaf : Leaf) : Rendering String :=
  if leaf.comparison = .oneOf then
    if leaf.values.isEmpty then return constantCondition false
    else do
      let placeholders ← leaf.values.mapM bindValue
      return "(" ++ column ++ " in (" ++ String.intercalate ", " placeholders ++ "))"
  else do
    let bound ← bindValue leaf.value
    return "(" ++ column ++ " " ++ leaf.comparison.symbol ++ " " ++ bound ++ ")"

def leafCondition (compiler : Compiler) (leaf : Leaf) : Rendering String :=
  match leaf.target, leaf.property with
  | .constant, _ => do
    let truth ← leaf.truth
    return constantCondition truth
  | .column, some column => columnCondition (compiler.qualified column) leaf
  | target, _ => throw (.malformed (.unresolvedLeaf target leaf.describe))

def renderNode (compiler : Compiler) (node : Predicate) (members : List Fragments) :
    Rendering Fragments := do
  let condition ←
    match node, members with
    | .leaf _ leaf, _ => Fragments.single <$> compiler.leafCondition leaf
    | .group _ connective [_, _], [left, right] => pure (left.join connective.keyword right)
    | .group _ connective children, _ =>
      throw (.malformed (.groupInCondition connective children.length))
  return if node.isNegated then condition.pushFront "not " else condition

def render (compiler : Compiler) (p : Predicate) : Result Statement := do
  let rendering : Rendering Fragments := (Plan.ofPredicate p).run compiler.renderNode
  let (condition, bindings) ← rendering.run (.empty compiler.backend.dialect.marker)
  return { text := condition.text, parameters := bindings.bound.toList }

/-! ## Whole statements -/

def condition (compiler : Compiler) (p : Predicate) : Result Statement := do
  let normal := p.normalized
  normal.validate compiler.resolver
  let physical ← compiler.lower normal
  compiler.render physical.normalized

def whereClause (compiler : Compiler) (p : Predicate) : Result Statement := do
  let condition ← compiler.condition p
  return condition.mapText ("where " ++ ·)

def keyColumn (compiler : Compiler) : Result String :=
  let key := compiler.resolver.key
  match key.singleColumn? with
  | some column => .ok column
  | none => .error (.codec key.codec.name (.keyColumn key.name))

def quotedTable (compiler : Compiler) : String :=
  compiler.backend.dialect.quote compiler.resolver.table

def selectKeys (compiler : Compiler) (p : Predicate) : Result Statement := do
  let column ← compiler.keyColumn
  let clause ← compiler.whereClause p
  return clause.mapText fun text =>
    "select " ++ compiler.qualified column ++ " from " ++ compiler.quotedTable ++ " "
      ++ text

def delete (compiler : Compiler) (p : Predicate) : Result Statement := do
  let clause ← compiler.whereClause p
  return clause.mapText fun text => "delete from " ++ compiler.quotedTable ++ " " ++ text

end Compiler

end RecordFilter.Sql
