import Mathlib.Algebra.GroupWithZero.Nat
import Mathlib.Data.List.Basic
import Mathlib.Data.List.Induction
import Mathlib.Data.List.Perm.Basic
import RecordFilter.Predicate.Builder
import RecordFilter.Proofs.Predicate.Assembly
import RecordFilter.Proofs.Predicate.Equality

/-!
# Scans are recursion

A scan sees the nodes of one pending tree after the other, and of each tree in the order of the
visits if the first member of a node is foremost. With the last member foremost the order is
another one, but a count and a maximum do not depend on it. So size, depth and leaves, each of
them by a scan of its own, are what a recursion over the tree gives, and so are the copies and
the comparisons of trees.
-/

set_option autoImplicit false

namespace RecordFilter.Predicate

/-! ## One scan -/

section Scan

variable {σ : Type} {lastFirst : Bool} {see : σ → Visit → σ}

/-- A scan gives every visit below the pending ones to its function. It may take the last member
first only if two visits can change places. -/
theorem scan_eq_foldl
    (commutes : lastFirst = true →
      ∀ found first second, see (see found first) second = see (see found second) first)
    (pending : List Visit) (found : σ) :
    scan lastFirst see pending found = (pending.flatMap Visit.subtree).foldl see found := by
  fun_induction scan lastFirst see pending found with
  | case1 found => rfl
  | case2 found visit pending ih =>
      rw [ih, List.flatMap_cons, visit.subtree_eq, List.cons_append, List.foldl_cons,
        List.flatMap_append, List.foldl_append, List.foldl_append]
      -- both sides see the members of the visit and go on from there
      congr 1
      cases lastFirst with
      | false => rfl
      | true =>
          exact ((List.reverse_perm _).flatMap_right _).foldl_eq'
            (fun first _ second _ found => commutes rfl found first second) _

theorem scan_root
    (commutes : lastFirst = true →
      ∀ found first second, see (see found first) second = see (see found second) first)
    (p : Predicate) (found : σ) :
    scan lastFirst see [⟨1, p⟩] found = p.visits.foldl see found := by
  rw [scan_eq_foldl commutes, List.flatMap_singleton]
  rfl

end Scan

/-! ## Size -/

theorem scannedSize_eq (p : Predicate) : p.scannedSize = p.size := by
  rw [scannedSize, scan_root (fun _ _ _ _ => rfl), size]
  induction p.visits using List.reverseRecOn with
  | nil => rfl
  | append_singleton visits visit ih => rw [List.foldl_concat, ih, List.length_append]; rfl

theorem total_eq_sum (ns : List Nat) : total ns = ns.sum := by
  induction ns with
  | nil => rfl
  | cons n ns ih => rw [total, ih, List.sum_cons]

theorem size_eq_fold (p : Predicate) :
    p.size = p.fold (fun _ _ => 1) fun _ _ sizes => sizes.sum + 1 := by
  simp only [size_eq_weight, weight, total_eq_sum]

/-! ## Depth -/

theorem scannedDepth_eq (p : Predicate) : p.scannedDepth = p.depth := by
  rw [scannedDepth, scan_root, depth, List.foldl_map]
  intro _ deepest first second
  simp only [Nat.max_assoc, Nat.max_comm first.depth]

/-- The number of nodes on the longest way down, by recursion over the tree. -/
def height : Predicate → Nat :=
  fold (fun _ _ => 1) fun _ _ heights => heights.foldl max 0 + 1

@[simp] theorem height_leaf (negated : Bool) (l : Leaf) : (leaf negated l).height = 1 := by
  simp [height]

theorem height_group (negated : Bool) (connective : Connective) (children : List Predicate) :
    (group negated connective children).height = (children.map height).foldl max 0 + 1 := by
  simp [height]

/-- Heights that start at one level reach as far as the greatest of them does. -/
theorem foldl_max_add (level deepest greatest : Nat) (heights : List Nat) :
    heights.foldl (fun deepest height => max deepest (level + height))
        (max deepest (level + greatest)) =
      max deepest (level + heights.foldl max greatest) := by
  induction heights generalizing greatest with
  | nil => rfl
  | cons height heights ih =>
      have next : max (max deepest (level + greatest)) (level + height) =
          max deepest (level + max greatest height) := by
        omega
      rw [List.foldl_cons, List.foldl_cons, next, ih]

/-- The visits of a tree below some level reach down from it as far as the tree is high. -/
theorem foldl_depth_subtree (level deepest : Nat) (p : Predicate) :
    (Visit.subtree ⟨level + 1, p⟩).foldl (fun deepest visit => max deepest visit.depth) deepest =
      max deepest (level + p.height) := by
  induction p using Predicate.induction generalizing level deepest with
  | leafCase negated l =>
      rw [Visit.subtree_eq, height_leaf]
      rfl
  | groupCase negated connective children ih =>
      have members (deepest : Nat) :
          ((Visit.below ⟨level + 1, group negated connective children⟩).flatMap
            Visit.subtree).foldl (fun deepest visit => max deepest visit.depth) deepest =
          (children.map height).foldl
            (fun deepest height => max deepest (level + 1 + height)) deepest := by
        rw [Visit.below, List.flatMap_map, List.foldl_flatMap, List.foldl_map]
        exact List.foldl_ext _ _ _ fun deepest child member => ih child member (level + 1) deepest
      rw [Visit.subtree_eq, List.foldl_cons, members, height_group, ← Nat.add_assoc,
        Nat.add_right_comm]
      exact foldl_max_add (level + 1) deepest 0 (children.map height)

theorem depth_eq_height (p : Predicate) : p.depth = p.height := by
  have whole := foldl_depth_subtree 0 0 p
  simp only [Nat.zero_max, Nat.zero_add] at whole
  rw [depth, List.foldl_map]
  exact whole

/-! ## Leaves -/

theorem scannedLeaves_eq (p : Predicate) : p.scannedLeaves = p.leaves := by
  rw [scannedLeaves, scan_root nofun, ← List.flatMap_eq_foldl, leaves, nodes,
    List.filterMap_eq_flatMap_toList, List.flatMap_map]

/-! ## All walks -/

/-- Each of the walks is the recursion over the tree that it stands for. A comparison ends with
yes if and only if the trees have one outline and equal leaves in turn, so it is symmetric and
transitive, and it tells a tree from a copy of it only by values that are not numbers. -/
theorem scans_follow_tree (p q r : Predicate) :
    (p.scannedSize = p.size ∧
      p.size = p.fold (fun _ _ => 1) fun _ _ sizes => sizes.sum + 1) ∧
    (p.scannedDepth = p.depth ∧
      p.depth = p.fold (fun _ _ => 1) fun _ _ depths => depths.foldl max 0 + 1) ∧
    (p.scannedLeaves = p.leaves ∧
      p.leaves = p.fold (fun _ l => [l]) fun _ _ leaves => leaves.flatten) ∧
    p.copy? = some p ∧
    (p.scannedEqual q = p.equal q ∧
      (p.equal q = true ↔ p.outline = q.outline ∧
        List.Forall₂ (fun a b => a.equal b = true) p.leaves q.leaves)) ∧
    p.scannedEqual q = q.scannedEqual p ∧
    (p.scannedEqual q = true → q.scannedEqual r = true → p.scannedEqual r = true) ∧
    ((∃ copied, p.copy? = some copied ∧ p.scannedEqual copied = true) ↔
      ∀ l ∈ p.leaves, ∀ v ∈ l.value :: l.values, v.isNaN = false) := by
  refine ⟨⟨scannedSize_eq p, size_eq_fold p⟩, ⟨scannedDepth_eq p, depth_eq_height p⟩,
    ⟨scannedLeaves_eq p, leaves_eq_fold p⟩, copy?_eq p, ⟨scannedEqual_eq p q, ?_⟩, ?_, ?_, ?_⟩
  · exact equal_iff_agrees.trans ⟨fun ⟨outlines, leaves⟩ => ⟨outlines, leaves⟩,
      fun ⟨outlines, leaves⟩ => ⟨outlines, leaves⟩⟩
  · rw [Bool.eq_iff_iff, scannedEqual_iff_agrees, scannedEqual_iff_agrees]
    exact ⟨Agrees.symm, Agrees.symm⟩
  · simp only [scannedEqual_iff_agrees]
    exact Agrees.trans
  · rw [← agrees_self_iff, ← scannedEqual_iff_agrees, copy?_eq]
    simp

/-- The two zeros are equal, beside an empty group as well. -/
theorem scans_follow_tree_zeros :
    (all [column "x" .equal (.float64 ⟨0⟩), any []]).scannedEqual
        (all [column "x" .equal (.float64 ⟨0x8000000000000000⟩), any []]) = true ∧
      (all [column "x" .equal (.float64 ⟨0x8000000000000000⟩), any []]).scannedEqual
        (all [column "x" .equal (.float64 ⟨0⟩), any []]) = true ∧
      (all [column "x" .equal (.float64 ⟨0⟩), any []]).scannedEqual
        (all [column "x" .equal (.float64 ⟨0⟩), any []]) = true := by
  obtain ⟨_, _, _, _, ⟨loop, _⟩, symmetric, transitive, _⟩ := scans_follow_tree
    (all [column "x" .equal (.float64 ⟨0⟩), any []])
    (all [column "x" .equal (.float64 ⟨0x8000000000000000⟩), any []])
    (all [column "x" .equal (.float64 ⟨0⟩), any []])
  have first : (all [column "x" .equal (.float64 ⟨0⟩), any []]).scannedEqual
      (all [column "x" .equal (.float64 ⟨0x8000000000000000⟩), any []]) = true :=
    loop.trans (by decide +kernel)
  have second := symmetric.symm.trans first
  exact ⟨first, second, transitive first second⟩

end RecordFilter.Predicate
