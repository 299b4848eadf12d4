import RecordFilter.Proofs.Predicate.Traversal

/-!
# Places in a tree

A tree with one place left open. Every leaf of a tree stands in such a place, and whatever
follows the structure of a tree sees of the tree that is put there no more than what it gives
for that tree alone.
-/

set_option autoImplicit false

namespace RecordFilter.Predicate

/-- A predicate with one place open: around the place stand the members before it and
behind it. -/
inductive Context where
  | hole
  | group (negated : Bool) (connective : Connective) (before : List Predicate)
      (inner : Context) (after : List Predicate)

namespace Context

def fill : Context → Predicate → Predicate
  | hole, p => p
  | group negated connective before inner after, p =>
    .group negated connective (before ++ inner.fill p :: after)

/-- The leaves around the open place. -/
def leaves : Context → List Leaf
  | hole => []
  | group _ _ before inner after =>
    before.flatMap Predicate.leaves ++ inner.leaves ++ after.flatMap Predicate.leaves

theorem fold_fill_congr {α : Type} {onLeaf : Bool → Leaf → α}
    {onGroup : Bool → Connective → List α → α} {p q : Predicate} (context : Context)
    (same : fold onLeaf onGroup p = fold onLeaf onGroup q) :
    fold onLeaf onGroup (context.fill p) = fold onLeaf onGroup (context.fill q) := by
  induction context with
  | hole => exact same
  | group negated connective before inner after ih =>
      rw [fill, fill, fold_group, fold_group, List.map_append, List.map_append, List.map_cons,
        List.map_cons, ih]

theorem checkShape_fill_congr {p q : Predicate} (context : Context)
    (same : p.checkShape = q.checkShape) :
    (context.fill p).checkShape = (context.fill q).checkShape := by
  rw [checkShape_eq_fold, checkShape_eq_fold] at same ⊢
  exact context.fold_fill_congr same

theorem mem_leaves_fill {context : Context} {p : Predicate} {leaf : Leaf} :
    leaf ∈ (context.fill p).leaves ↔ leaf ∈ context.leaves ∨ leaf ∈ p.leaves := by
  induction context with
  | hole => simp [fill, leaves]
  | group negated connective before inner after ih =>
      simp only [fill, leaves, leaves_group, List.flatMap_append, List.flatMap_cons,
        List.mem_append, ih]
      grind

end Context

/-- Every leaf of a tree has its place. -/
theorem exists_context_of_mem_leaves {p : Predicate} {leaf : Leaf} (member : leaf ∈ p.leaves) :
    ∃ (context : Context) (negated : Bool), p = context.fill (.leaf negated leaf) := by
  induction p using Predicate.induction with
  | leafCase negated l =>
      rw [leaves_leaf, List.mem_singleton] at member
      exact ⟨.hole, negated, by rw [member]; rfl⟩
  | groupCase negated connective children ih =>
      rw [leaves_group] at member
      obtain ⟨child, childMember, leafMember⟩ := List.mem_flatMap.mp member
      obtain ⟨context, inverted, rfl⟩ := ih child childMember leafMember
      obtain ⟨before, after, rfl⟩ := List.append_of_mem childMember
      exact ⟨.group negated connective before context after, inverted, rfl⟩

end RecordFilter.Predicate
