import RecordFilter.Predicate.Visit

/-!
# Shape

Which trees make sense without regard to any schema: groups have at least two members,
leaves about a property name it, constants carry a truth value, and patterns are
strings. The first fault in the order of the visits is the one reported.
-/

set_option autoImplicit false

namespace RecordFilter

def Leaf.checkShape (leaf : Leaf) : Result Unit :=
  if leaf.target.needsProperty && leaf.property.isNone then
    .error (.malformed (.missingProperty leaf.target))
  else if leaf.target = .constant then leaf.truth.map fun _ => ()
  else if leaf.comparison = .like && leaf.value.text?.isNone then
    .error (.typeMismatch leaf.describe leaf.value .varchar)
  else .ok ()

namespace Predicate

def checkNode : Predicate → Result Unit
  | leaf _ l => l.checkShape
  | group _ _ children =>
    if children.length < 2 then .error (.malformed (.groupWidth children.length)) else .ok ()

def checkShape (p : Predicate) : Result Unit :=
  p.nodes.forM checkNode

end Predicate

end RecordFilter
