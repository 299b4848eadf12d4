import RecordFilter.Proofs.Result
import RecordFilter.Proofs.Predicate.Traversal

/-!
# Errors of shape

All faults of shape that a tree has, in the order of the visits. The shape check reports the
first of them.
-/

set_option autoImplicit false

namespace RecordFilter.Predicate

def shapeErrors (p : Predicate) : List FilterError :=
  Result.errors p.nodes checkNode

theorem checkShape_eq_report (p : Predicate) : p.checkShape = Result.report p.shapeErrors :=
  Result.forM_eq_report p.nodes checkNode

/-- The fault of a group with the given number of members, if it has one of its own. -/
def widthErrors (width : Nat) : List FilterError :=
  if width < 2 then [.malformed (.groupWidth width)] else []

@[simp] theorem widthErrors_add_two (width : Nat) : widthErrors (width + 2) = [] :=
  if_neg (by omega)

@[simp] theorem shapeErrors_leaf (negated : Bool) (l : Leaf) :
    (leaf negated l).shapeErrors = Result.errors [l] Leaf.checkShape := by
  rw [shapeErrors, nodes_leaf]
  rfl

@[simp] theorem shapeErrors_group (negated : Bool) (connective : Connective)
    (children : List Predicate) :
    (group negated connective children).shapeErrors =
      widthErrors children.length ++ children.flatMap shapeErrors := by
  rw [shapeErrors, nodes_group, Result.errors_cons, Result.errors_flatMap]
  congr 1
  by_cases narrow : children.length < 2
  · simp only [Result.errors, List.filterMap_cons, List.filterMap_nil, checkNode, widthErrors,
      if_pos narrow]
  · simp only [Result.errors, List.filterMap_cons, List.filterMap_nil, checkNode, widthErrors,
      if_neg narrow]

theorem shapeErrors_eq_fold (p : Predicate) :
    p.shapeErrors = fold (fun _ l => Result.errors [l] Leaf.checkShape)
      (fun _ _ members => widthErrors members.length ++ members.flatten) p := by
  induction p using Predicate.induction with
  | leafCase negated l => simp
  | groupCase negated connective children ih =>
      rw [shapeErrors_group, fold_group, List.length_map, List.flatMap_def, List.map_congr_left ih]

end RecordFilter.Predicate
