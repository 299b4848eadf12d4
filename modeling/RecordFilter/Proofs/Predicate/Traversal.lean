import RecordFilter.Predicate.Shape

/-!
# Traversal

The visits of a tree follow its structure: a node comes first, then what its members give,
from left to right. The list of pending nodes only puts that order into practice, so the
nodes, the leaves and the shape check have the equations of a recursion over the tree.
-/

set_option autoImplicit false

namespace RecordFilter.Predicate

/-! ## Visits of a subtree -/

def Visit.subtree (visit : Visit) : List Visit :=
  walk [visit] []

theorem walk_nil (seen : List Visit) : walk [] seen = seen.reverse := by
  rw [walk]

theorem walk_cons (visit : Visit) (pending seen : List Visit) :
    walk (visit :: pending) seen = walk (visit.below ++ pending) (visit :: seen) := by
  rw [walk]

theorem pendingWeight_append (left right : List Visit) :
    pendingWeight (left ++ right) = pendingWeight left + pendingWeight right := by
  simp [pendingWeight, total_append]

/-- A walk sees the subtrees of the pending visits one after the other. The induction is
on the weight still to be seen, since a visit is replaced by those below it. -/
theorem walk_eq_flatMap (pending seen : List Visit) :
    walk pending seen = seen.reverse ++ pending.flatMap Visit.subtree := by
  generalize bound : pendingWeight pending = weight
  induction weight using Nat.strongRecOn generalizing pending seen with
  | ind weight ih =>
      cases pending with
      | nil => simp [walk_nil]
      | cons visit pending =>
          have shrinks := pendingWeight_below visit pending
          have shrinksAlone := pendingWeight_below visit []
          have headFits : pendingWeight [visit] ≤ pendingWeight (visit :: pending) := by
            rw [← List.singleton_append, pendingWeight_append]
            exact Nat.le_add_right _ _
          have alone : visit.subtree = visit :: visit.below.flatMap Visit.subtree := by
            rw [Visit.subtree, walk_cons, ih _ (by omega) (visit.below ++ []) [visit] rfl]
            simp
          rw [walk_cons, ih _ (by omega) (visit.below ++ pending) (visit :: seen) rfl]
          simp [alone]

theorem Visit.subtree_eq (visit : Visit) :
    visit.subtree = visit :: visit.below.flatMap Visit.subtree := by
  rw [Visit.subtree, walk_cons, walk_eq_flatMap]
  simp

theorem Visit.nodes_subtree (visit : Visit) :
    visit.subtree.map (·.node) = visit.node.nodes := by
  obtain ⟨depth, node⟩ := visit
  show (Visit.subtree ⟨depth, node⟩).map (·.node) = (Visit.subtree ⟨1, node⟩).map (·.node)
  induction node using Predicate.induction generalizing depth with
  | leafCase negated l =>
      rw [Visit.subtree_eq, Visit.subtree_eq ⟨1, _⟩]
      rfl
  | groupCase negated connective children ih =>
      rw [Visit.subtree_eq, Visit.subtree_eq ⟨1, _⟩]
      simp only [Visit.below, Predicate.children, List.flatMap_map, List.map_cons,
        List.map_flatMap, List.cons.injEq, true_and]
      rw [List.flatMap_def, List.flatMap_def]
      congr 1
      apply List.map_congr_left
      intro child member
      rw [ih child member (depth + 1), ih child member (1 + 1)]

/-! ## Nodes and leaves -/

@[simp] theorem nodes_leaf (negated : Bool) (l : Leaf) :
    (leaf negated l).nodes = [leaf negated l] := by
  show (Visit.subtree _).map _ = _
  rw [Visit.subtree_eq]
  rfl

@[simp] theorem nodes_group (negated : Bool) (connective : Connective)
    (children : List Predicate) :
    (group negated connective children).nodes =
      group negated connective children :: children.flatMap nodes := by
  show (Visit.subtree _).map _ = _
  rw [Visit.subtree_eq]
  simp [Visit.below, Predicate.children, List.flatMap_map, List.map_flatMap,
    Visit.nodes_subtree]

@[simp] theorem leaves_leaf (negated : Bool) (l : Leaf) : (leaf negated l).leaves = [l] := by
  simp [leaves, leaf?]

@[simp] theorem leaves_group (negated : Bool) (connective : Connective)
    (children : List Predicate) :
    (group negated connective children).leaves = children.flatMap leaves := by
  simp only [leaves, nodes_group, List.filterMap_cons, leaf?, List.filterMap_flatMap]
  rfl

theorem leaves_eq_fold (p : Predicate) :
    p.leaves = fold (fun _ l => [l]) (fun _ _ members => members.flatten) p := by
  induction p using Predicate.induction with
  | leafCase negated l => simp
  | groupCase negated connective children ih =>
      rw [leaves_group, fold_group, List.flatMap_def, List.map_congr_left ih]

/-! ## Sizes -/

theorem size_eq_length_nodes (p : Predicate) : p.size = p.nodes.length := by
  rw [nodes, List.length_map, size]

theorem size_eq_weight (p : Predicate) : p.size = p.weight := by
  rw [size_eq_length_nodes]
  induction p using Predicate.induction with
  | leafCase negated l => rw [nodes_leaf, weight_leaf, List.length_singleton]
  | groupCase negated connective children ih =>
      have members : (children.flatMap nodes).length = total (children.map weight) := by
        induction children with
        | nil => rfl
        | cons child children later =>
            obtain ⟨first, others⟩ := List.forall_mem_cons.mp ih
            rw [List.flatMap_cons, List.length_append, first, later others]
            rfl
      rw [nodes_group, List.length_cons, members, weight_group]

/-! ## Shape -/

def checkMembers (members : List (Result Unit)) : Result Unit := do
  if members.length < 2 then throw (.malformed (.groupWidth members.length))
  members.forM id

theorem forM_flatMap {m : Type → Type} [Monad m] [LawfulMonad m] {α β : Type}
    (items : List α) (parts : α → List β) (action : β → m PUnit) :
    forM (items.flatMap parts) action = forM items fun item => forM (parts item) action := by
  induction items with
  | nil => simp
  | cons item items ih => simp [ih]

@[simp] theorem checkShape_leaf (negated : Bool) (l : Leaf) :
    (leaf negated l).checkShape = l.checkShape := by
  simp [checkShape, checkNode]

theorem checkShape_group (negated : Bool) (connective : Connective)
    (children : List Predicate) :
    (group negated connective children).checkShape =
      checkMembers (children.map checkShape) := by
  have members : (forM (children.flatMap nodes) checkNode : Result Unit) =
      forM children checkShape := by
    rw [forM_flatMap]
    rfl
  simp only [checkShape, nodes_group, List.forM_eq_forM, List.forM_cons, members, checkNode,
    checkMembers, List.length_map, List.forM_map, id_eq]
  split <;> rfl

theorem checkShape_eq_fold (p : Predicate) :
    p.checkShape = fold (fun _ l => l.checkShape) (fun _ _ members => checkMembers members) p := by
  induction p using Predicate.induction with
  | leafCase negated l => simp
  | groupCase negated connective children ih =>
      rw [checkShape_group, fold_group, List.map_congr_left ih]

/-! ## Negation -/

theorem checkShape_withNegation (p : Predicate) (flag : Bool) :
    (p.withNegation flag).checkShape = p.checkShape := by
  cases p with
  | leaf negated l => simp [withNegation]
  | group negated connective children => simp [withNegation, checkShape_group]

theorem leaves_withNegation (p : Predicate) (flag : Bool) :
    (p.withNegation flag).leaves = p.leaves := by
  cases p <;> simp [withNegation]

end RecordFilter.Predicate
