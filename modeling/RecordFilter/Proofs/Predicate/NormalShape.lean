import RecordFilter.Predicate.Builder
import RecordFilter.Proofs.Predicate.InPlace
import RecordFilter.Proofs.Predicate.Pairing

/-!
# The shape of normal forms

The loop that pairs the members of groups where they stand ends, and what it leaves is the
form that leans to the left. A second run changes nothing, and where no group is too narrow
the result is a binary tree with one node less than twice its leaves.
-/

set_option autoImplicit false

namespace RecordFilter.Predicate

/-! ## Binary trees -/

theorem isBinary_iff_isPaired {p : Predicate} : p.isBinary = true ↔ p.IsPaired := by
  induction p using Predicate.induction with
  | leafCase negated l =>
      rw [isBinary, nodes_leaf]
      exact iff_of_true rfl .leaf
  | groupCase negated connective children ih =>
      have split : (group negated connective children).isBinary = true ↔
          isLeafOrPair (group negated connective children) = true ∧
            ∀ child ∈ children, child.isBinary = true := by
        simp [isBinary, nodes_group]
      rw [split]
      match children, ih with
      | [left, right], ih =>
          simp [isLeafOrPair, isPaired_pair_iff, ih left, ih right]
      | [], _ => exact iff_of_false (by simp [isLeafOrPair]) nofun
      | [_], _ => exact iff_of_false (by simp [isLeafOrPair]) nofun
      | _ :: _ :: _ :: _, _ => exact iff_of_false (by simp [isLeafOrPair]) nofun

/-- In a tree of leaves and pairs there is one pair less than there are leaves. -/
theorem IsPaired.size_add_one {p : Predicate} (paired : p.IsPaired) :
    p.size + 1 = 2 * p.leaves.length := by
  induction paired with
  | leaf => simp [size_eq_length_nodes]
  | pair _ _ leftSize rightSize =>
      simp only [size_eq_length_nodes, nodes_group, leaves_group, List.flatMap_cons,
        List.flatMap_nil, List.append_nil, List.length_cons, List.length_append]
        at leftSize rightSize ⊢
      omega

/-! ## The recursive form -/

/-- A function on trees that keeps leaves and narrow groups as they are, and gives a group of
two members or more its last member beside the chain of all others. The chain leans to the
left, its links are of the connective of the group and not inverted, and the flag of the group
stays on the outermost pair. -/
structure LeansLeft (form : Predicate → Predicate) : Prop where
  leaf : ∀ negated l, form (leaf negated l) = leaf negated l
  empty : ∀ negated connective, form (group negated connective []) = group negated connective []
  single : ∀ negated connective only,
    form (group negated connective [only]) = group negated connective [form only]
  wide : ∀ negated connective first middle last,
    form (group negated connective (first :: middle ++ [last])) =
      group negated connective
        [(middle.map form).foldl (fun left right => group false connective [left, right])
          (form first), form last]

theorem leansLeft_normalized : LeansLeft normalized where
  leaf := normalized_leaf
  empty := fun negated connective => normalized_group negated connective []
  single := fun negated connective only => normalized_group negated connective [only]
  wide := normalized_snoc

/-- The loop over the pending places ends with the normal form, which is the recursive one
that leans to the left. It is its own normal form and has the leaves of the tree. It is binary
exactly if no group has fewer than two members, and then its size is told by its leaves. -/
theorem normalizeInPlace_leans (p : Predicate) :
    p.normalizeInPlace = p.normalized ∧ LeansLeft normalized ∧
      p.normalized.normalized = p.normalized ∧ p.normalized.leaves = p.leaves ∧
      (p.normalized.isBinary = true ↔ p.HasWideGroups) ∧
      (p.HasWideGroups → p.normalized.size = 2 * p.leaves.length - 1) := by
  refine ⟨normalizeInPlace_eq p, leansLeft_normalized, normalized_normalized p,
    leaves_normalized p, isBinary_iff_isPaired.trans isPaired_normalized_iff, ?_⟩
  intro wide
  have size := (isPaired_normalized_iff.mpr wide).size_add_one
  rw [leaves_normalized] at size
  omega

/-- An inverted group of three within a group of four: six leaves and five pairs. -/
theorem normalizeInPlace_leans_nested :
    (all [key "a", (any [key "b", key "c", key "d"]).negate, key "e", key "f"]).HasWideGroups ∧
      (all [key "a", (any [key "b", key "c", key "d"]).negate, key "e", key "f"]).normalizeInPlace =
        all [all [all [key "a", (any [any [key "b", key "c"], key "d"]).negate], key "e"],
          key "f"] ∧
      (all [key "a", (any [key "b", key "c", key "d"]).negate, key "e",
        key "f"]).normalized.size = 11 := by
  have wide : (all [key "a", (any [key "b", key "c", key "d"]).negate, key "e",
      key "f"]).HasWideGroups := by
    simp [all, any, key, negate, withNegation, ofLeaf, hasWideGroups_group, hasWideGroups_leaf]
  obtain ⟨ends, _, _, _, _, sized⟩ := normalizeInPlace_leans
    (all [key "a", (any [key "b", key "c", key "d"]).negate, key "e", key "f"])
  refine ⟨wide, ends.trans ?_, (sized wide).trans ?_⟩
  · rfl
  · simp [all, any, key, negate, withNegation, ofLeaf]

end RecordFilter.Predicate
