import RecordFilter.Error

/-!
# Leaves

One comparison: what it is about, how it compares, and with what. Every combination of
fields is a leaf; which of them make sense is a matter of the shape check.
-/

set_option autoImplicit false

namespace RecordFilter

structure Leaf where
  target : Target
  comparison : Comparison
  /-- The name of the field or column; constants and keys need none. -/
  property : Option String
  /-- What to compare with, membership apart. -/
  value : Value
  /-- The candidates of a membership test. -/
  values : List Value
  deriving DecidableEq

namespace Leaf

def compare (target : Target) (comparison : Comparison) (property : Option String)
    (value : Value) : Leaf :=
  { target, comparison, property, value, values := [] }

def among (target : Target) (property : Option String) (values : List Value) : Leaf :=
  { target, comparison := .oneOf, property, value := .null, values }

def describe (leaf : Leaf) : String :=
  leaf.property.getD ("<" ++ leaf.target.name ++ ">")

/-- The truth value of a constant leaf: its literal, or the opposite of it if it
compares for difference. -/
def truth (leaf : Leaf) : Result Bool :=
  match leaf.target, leaf.value with
  | .constant, .boolean literal =>
    match leaf.comparison with
    | .equal => .ok literal
    | .notEqual => .ok (!literal)
    | comparison => .error (.malformed (.constantComparison comparison))
  | .constant, value => .error (.malformed (.constantLiteral value))
  | target, _ => .error (.malformed (.notConstant target))

def targetText (leaf : Leaf) : String :=
  match leaf.target, leaf.property with
  | .key, _ => "key"
  | .metadata, some name => "meta." ++ name
  | .column, some name => "column." ++ name
  | _, _ => leaf.describe

def text (leaf : Leaf) : String :=
  if leaf.target = .constant then
    match leaf.truth with
    | .ok truth => Value.truthText truth
    | .error _ => "<invalid constant>"
  else if leaf.comparison = .oneOf then
    leaf.targetText ++ " in (" ++ String.intercalate ", " (leaf.values.map Value.text) ++ ")"
  else
    leaf.targetText ++ " " ++ leaf.comparison.symbol ++ " " ++ leaf.value.text

end Leaf

end RecordFilter
