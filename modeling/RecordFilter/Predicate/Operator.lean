/-!
# Operators

What a leaf is about, how it compares, and how a group joins its members.
-/

set_option autoImplicit false

namespace RecordFilter

inductive Target where
  /-- Nothing: the leaf carries its own truth value. -/
  | constant
  | key
  | value
  | metadata
  /-- A physical column of the table that stores the records. -/
  | column
  deriving DecidableEq, Repr

namespace Target

def name : Target → String
  | constant => "constant"
  | key => "key"
  | value => "value"
  | metadata => "meta"
  | column => "column"

def needsProperty : Target → Bool
  | value | metadata | column => true
  | constant | key => false

end Target

inductive Comparison where
  | equal
  | notEqual
  | greater
  | greaterOrEqual
  | less
  | lessOrEqual
  | oneOf
  | like
  deriving DecidableEq, Repr

namespace Comparison

/-- Whether an order of the two sides satisfies the comparison. Membership and patterns
are not decided by an order. -/
def holds : Comparison → Ordering → Bool
  | equal, order => order = .eq
  | notEqual, order => order ≠ .eq
  | greater, order => order = .gt
  | greaterOrEqual, order => order ≠ .lt
  | less, order => order = .lt
  | lessOrEqual, order => order ≠ .gt
  | oneOf, _ => false
  | like, _ => false

def isOrdering : Comparison → Bool
  | oneOf | like => false
  | _ => true

def symbol : Comparison → String
  | equal => "="
  | notEqual => "<>"
  | greater => ">"
  | greaterOrEqual => ">="
  | less => "<"
  | lessOrEqual => "<="
  | oneOf => "in"
  | like => "like"

def name : Comparison → String
  | equal => "Equal"
  | notEqual => "NotEqual"
  | greater => "GreaterThan"
  | greaterOrEqual => "GreaterThanOrEqualTo"
  | less => "LessThan"
  | lessOrEqual => "LessThanOrEqualTo"
  | oneOf => "In"
  | like => "Like"

end Comparison

inductive Connective where
  | and
  | or
  deriving DecidableEq, Repr

namespace Connective

def apply : Connective → Bool → Bool → Bool
  | and, left, right => left && right
  | or, left, right => left || right

def applyAll : Connective → List Bool → Bool
  | and, truths => truths.all id
  | or, truths => truths.any id

def keyword : Connective → String
  | and => "and"
  | or => "or"

end Connective

end RecordFilter
