import RecordFilter.Predicate.Basic
import RecordFilter.Value.Order

/-!
# Equality of predicates

Two predicates are equal if they have one shape, one flag and connective at every node,
and equal leaves. Leaves compare their values as `Value.equal` does, so a predicate that
holds a value that is not a number does not equal itself.
-/

set_option autoImplicit false

namespace RecordFilter

def Leaf.equal (a b : Leaf) : Bool :=
  a.target = b.target && a.comparison = b.comparison && a.property = b.property
    && a.value.equal b.value && a.values.isEqv b.values Value.equal

namespace Predicate

mutual

/-- Whether two predicates have one shape, one flag at every node, and equal leaves. -/
def equal : Predicate → Predicate → Bool
  | leaf m a, leaf n b => m = n && a.equal b
  | group m c children, group n d others => m = n && c = d && equalAll children others
  | leaf _ _, group _ _ _ => false
  | group _ _ _, leaf _ _ => false

def equalAll : List Predicate → List Predicate → Bool
  | [], [] => true
  | child :: children, other :: others => equal child other && equalAll children others
  | [], _ :: _ => false
  | _ :: _, [] => false

end

end Predicate

end RecordFilter
