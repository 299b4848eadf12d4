import RecordFilter.Predicate.Shape
import RecordFilter.Sql.Property

/-!
# Types of predicates

A predicate fits a collection if its shape is right, every property it names is there,
and every value it compares with can be moved into the type of the property. Constants
and leaves about columns address no property and are not looked at.
-/

set_option autoImplicit false

namespace RecordFilter

open Sql (Property Resolver)

namespace Leaf

def checkValue (property : Property) (v : Value) : Result Unit :=
  match v.coerce property.codec.type with
  | some _ => .ok ()
  | none => .error (.typeMismatch property.name v property.codec.type)

def checkAgainst (leaf : Leaf) (property : Property) : Result Unit :=
  match leaf.comparison with
  | .oneOf => leaf.values.forM (checkValue property)
  | .like =>
    if property.codec.type = .varchar then .ok ()
    else .error (.typeMismatch property.name leaf.value property.codec.type)
  | _ => checkValue property leaf.value

def checkTypes (leaf : Leaf) (resolver : Resolver) : Result Unit :=
  if leaf.target = .constant || leaf.target = .column then .ok ()
  else do
    let property ← resolver.resolve leaf
    leaf.checkAgainst property

end Leaf

/-- Checks the shape of a predicate and then its leaves from left to right. -/
def Predicate.validate (p : Predicate) (resolver : Resolver) : Result Unit := do
  p.checkShape
  p.leaves.forM fun leaf => leaf.checkTypes resolver

end RecordFilter
