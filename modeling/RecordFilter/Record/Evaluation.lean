import RecordFilter.Predicate.NormalForm
import RecordFilter.Predicate.Plan
import RecordFilter.Predicate.Shape
import RecordFilter.Record.Basic
import RecordFilter.Text.Like
import RecordFilter.Value.Order

/-!
# Answering predicates from records

A predicate is brought into normal form, checked, and run as a plan in which every step
has a set of keys for its result. The set of a step disregards the flag of its node; the
flag counts where the set is used, in the pair around the node or at the root.
-/

set_option autoImplicit false

namespace RecordFilter

/-! ## One leaf and one value -/

namespace Leaf

/-- The order between a field and a value it is compared with. A value that is not a
number has no order and is no fault; any other pair without an order is. -/
def orderOf (property : String) (actual : Value) (actualType : ScalarType) (expected : Value) :
    Result (Option Ordering) :=
  match actual.order expected with
  | some order => .ok (some order)
  | none =>
    if actual.isNaN || expected.isNaN then .ok none
    else .error (.typeMismatch property expected actualType)

/-- Whether a field equals one of some candidates. The candidates behind the first equal
one are not looked at. -/
def anyEqual (property : String) (actual : Value) (actualType : ScalarType) :
    List Value → Result Bool
  | [] => .ok false
  | candidate :: candidates => do
    let order ← orderOf property actual actualType candidate
    if order = some .eq then return true
    else anyEqual property actual actualType candidates

def accepts (leaf : Leaf) (property : String) (actual : Value) (actualType : ScalarType) :
    Result Bool :=
  match leaf.comparison with
  | .oneOf => anyEqual property actual actualType leaf.values
  | .like =>
    match actual, leaf.value with
    | .string text, .string pattern => .ok (Text.like text pattern)
    | _, _ => .error (.typeMismatch property leaf.value actualType)
  | comparison => do
    match ← orderOf property actual actualType leaf.value with
    | some order => return comparison.holds order
    | none => return false

def namedKey (leaf : Leaf) (value : Value) : Result String :=
  match value with
  | .string key => .ok key
  | _ => .error (.typeMismatch leaf.describe value .varchar)

end Leaf

/-! ## The records asked about -/

/-- The records that a predicate is asked about: those there are, and the keys that an
answer may hold. -/
structure Population where
  record? : String → Option Record
  keys : KeySet

namespace Population

/-- The keys of a list that pass a test, which may fail. The first failure counts. -/
def keep (test : String → Result Bool) : List String → Result (List String)
  | [] => .ok []
  | key :: keys => do
    let kept ← test key
    let others ← keep test keys
    return if kept then key :: others else others

def select (population : Population) (test : String → Result Bool) : Result KeySet := do
  return Std.TreeSet.ofList (← keep test population.keys.toList)

/-- The keys for which a leaf about the identity holds. Named keys have to be strings
even if there are no keys at all. -/
def keysOf (population : Population) (leaf : Leaf) : Result KeySet :=
  match leaf.comparison with
  | .equal => do
    let named ← leaf.namedKey leaf.value
    return population.keys.filter (· = named)
  | .oneOf => do
    let named ← leaf.values.mapM leaf.namedKey
    let chosen : KeySet := Std.TreeSet.ofList named
    return population.keys.filter chosen.contains
  | _ =>
    population.select fun key => leaf.accepts "<key>" (.string key) .varchar

/-- Whether the record of a key has a field that satisfies a leaf. A record without the
field or with a null in it does not. -/
def fieldAccepts (population : Population) (leaf : Leaf) (property key : String) :
    Result Bool :=
  match (population.record? key).bind (·.field? leaf.target property) with
  | none => .ok false
  | some actual =>
    match actual.type? with
    | none => .ok false
    | some actualType => leaf.accepts property actual actualType

def leafKeys (population : Population) (leaf : Leaf) : Result KeySet :=
  match leaf.target with
  | .constant => do
    if ← leaf.truth then return population.keys else return ∅
  | .key => population.keysOf leaf
  | .value | .metadata | .column =>
    match leaf.property with
    | none => .error (.malformed (.missingProperty leaf.target))
    | some property => population.select (population.fieldAccepts leaf property)

def holdsAt (set : KeySet) (negated : Bool) (key : String) : Bool :=
  set.contains key ^^ negated

/-- The keys of a pair from those of its members and their flags. -/
def combine (population : Population) (connective : Connective)
    (left : KeySet) (leftNegated : Bool) (right : KeySet) (rightNegated : Bool) : KeySet :=
  population.keys.filter fun key =>
    connective.apply (holdsAt left leftNegated key) (holdsAt right rightNegated key)

/-- The keys of a node, its flag disregarded, from those of its members. -/
def visit (population : Population) (node : Predicate) (results : List KeySet) :
    Result KeySet :=
  match node, results with
  | .leaf _ leaf, _ => population.leafKeys leaf
  | .group _ connective [left, right], [leftKeys, rightKeys] =>
    .ok (population.combine connective leftKeys left.isNegated rightKeys right.isNegated)
  | .group _ _ children, _ => .error (.malformed (.groupInEvaluation children.length))

def runPlan (population : Population) (plan : Plan) : Result KeySet := do
  let raw ← plan.run population.visit
  return if plan.isNegated then population.keys.filter (!raw.contains ·) else raw

def evaluate (population : Population) (p : Predicate) : Result KeySet := do
  let normal := p.normalized
  normal.checkShape
  population.runPlan (Plan.ofPredicate normal)

end Population

end RecordFilter
