import RecordFilter.Predicate.NormalForm
import RecordFilter.Proofs.Predicate.ShapeErrors

/-!
# Normal form

A recursion over a tree that cannot tell a group from the pair of its first two members
joined with the others cannot tell a tree from its normal form. Leaves, shape check and
truth are of this kind. Where every group has two members at least, the normal form is a
tree of leaves and pairs.
-/

set_option autoImplicit false

namespace RecordFilter.Predicate

/-! ## Recursions that see through the normal form -/

section Fold

variable {α : Type} {onLeaf : Bool → Leaf → α} {onGroup : Bool → Connective → List α → α}
  (associates : ∀ negated connective first second third others,
    onGroup negated connective
        (onGroup false connective [first, second] :: third :: others) =
      onGroup negated connective (first :: second :: third :: others))

include associates

theorem fold_chainOnto (negated : Bool) (connective : Connective) (joined next : Predicate)
    (others : List Predicate) :
    fold onLeaf onGroup (chainOnto negated connective joined (next :: others)) =
      onGroup negated connective
        (fold onLeaf onGroup joined :: (next :: others).map (fold onLeaf onGroup)) := by
  induction others generalizing joined next with
  | nil => simp [chainOnto]
  | cons second others ih =>
      rw [chainOnto, ih]
      · simp [associates]
      · exact List.cons_ne_nil second others

theorem fold_chain (negated : Bool) (connective : Connective) (children : List Predicate) :
    fold onLeaf onGroup (chain negated connective children) =
      onGroup negated connective (children.map (fold onLeaf onGroup)) := by
  unfold chain
  split
  · rw [fold_chainOnto associates]
    rfl
  · exact fold_group ..

theorem fold_normalized (p : Predicate) :
    fold onLeaf onGroup p.normalized = fold onLeaf onGroup p := by
  induction p using Predicate.induction with
  | leafCase negated l => simp
  | groupCase negated connective children ih =>
      rw [normalized_group, fold_chain associates, fold_group, List.map_map]
      congr 1
      exact List.map_congr_left ih

end Fold

theorem leaves_normalized (p : Predicate) : p.normalized.leaves = p.leaves := by
  rw [leaves_eq_fold, leaves_eq_fold, fold_normalized]
  intro negated connective first second third others
  simp

/-- The normal form has the faults of the tree in their order: pairing adds groups of the right
width only and keeps the order of the members. -/
theorem shapeErrors_normalized (p : Predicate) : p.normalized.shapeErrors = p.shapeErrors := by
  rw [shapeErrors_eq_fold, shapeErrors_eq_fold, fold_normalized]
  intro negated connective first second third others
  simp

theorem checkShape_normalized (p : Predicate) : p.normalized.checkShape = p.checkShape := by
  rw [checkShape_eq_report, checkShape_eq_report, shapeErrors_normalized]

/-! ## Leaves and pairs -/

inductive IsPaired : Predicate → Prop where
  | leaf {negated l} : IsPaired (.leaf negated l)
  | pair {negated connective left right} :
      IsPaired left → IsPaired right → IsPaired (.group negated connective [left, right])

theorem isPaired_pair_iff {negated : Bool} {connective : Connective} {left right : Predicate} :
    (group negated connective [left, right]).IsPaired ↔ left.IsPaired ∧ right.IsPaired := by
  constructor
  · intro paired
    cases paired with
    | pair first second => exact ⟨first, second⟩
  · intro both
    exact .pair both.1 both.2

theorem isPaired_foldl_link_iff {connective : Connective} {joined : Predicate}
    {others : List Predicate} :
    (others.foldl (link connective) joined).IsPaired ↔
      joined.IsPaired ∧ ∀ other ∈ others, other.IsPaired := by
  induction others generalizing joined with
  | nil => simp
  | cons next others ih =>
      rw [List.foldl_cons, ih, link, isPaired_pair_iff, List.forall_mem_cons, and_assoc]

theorem isPaired_chain_iff {negated : Bool} {connective : Connective} {children : List Predicate} :
    (chain negated connective children).IsPaired ↔
      2 ≤ children.length ∧ ∀ child ∈ children, child.IsPaired := by
  rcases narrow_or_snoc children with narrow | ⟨first, middle, last, rfl⟩
  · rw [chain_of_length_lt narrow]
    constructor
    · intro paired
      cases paired
      simp at narrow
    · intro both
      omega
  · rw [chain_snoc, isPaired_pair_iff, isPaired_foldl_link_iff]
    simp only [List.cons_append, List.forall_mem_cons, List.forall_mem_append, List.mem_singleton,
      forall_eq, List.length_cons, List.length_append]
    constructor
    · rintro ⟨⟨firstPaired, middlePaired⟩, lastPaired⟩
      exact ⟨by simp, firstPaired, middlePaired, lastPaired⟩
    · rintro ⟨_, firstPaired, middlePaired, lastPaired⟩
      exact ⟨⟨firstPaired, middlePaired⟩, lastPaired⟩

/-- No group has fewer than two members. -/
def HasWideGroups (p : Predicate) : Prop :=
  ∀ negated connective children, group negated connective children ∈ p.nodes → 2 ≤ children.length

theorem hasWideGroups_leaf (negated : Bool) (l : Leaf) : (leaf negated l).HasWideGroups := by
  intro _ _ children member
  rw [nodes_leaf] at member
  cases List.mem_singleton.mp member

theorem hasWideGroups_group {negated : Bool} {connective : Connective}
    {children : List Predicate} :
    (group negated connective children).HasWideGroups ↔
      2 ≤ children.length ∧ ∀ child ∈ children, child.HasWideGroups := by
  unfold HasWideGroups
  rw [nodes_group]
  constructor
  · intro wide
    refine ⟨wide negated connective children List.mem_cons_self, ?_⟩
    intro child member inverted other members inside
    exact wide inverted other members
      (List.mem_cons_of_mem _ (List.mem_flatMap.mpr ⟨child, member, inside⟩))
  · rintro ⟨wide, each⟩ inverted other members inside
    rcases List.mem_cons.mp inside with same | below
    · cases same
      exact wide
    · obtain ⟨child, member, inside⟩ := List.mem_flatMap.mp below
      exact each child member inverted other members inside

theorem isPaired_normalized_iff {p : Predicate} : p.normalized.IsPaired ↔ p.HasWideGroups := by
  induction p using Predicate.induction with
  | leafCase negated l =>
      rw [normalized_leaf]
      exact iff_of_true .leaf (hasWideGroups_leaf negated l)
  | groupCase negated connective children ih =>
      rw [normalized_group, isPaired_chain_iff, hasWideGroups_group, List.length_map,
        List.forall_mem_map]
      exact and_congr_right fun _ => forall₂_congr ih

theorem checkMembers_eq_ok {members : List (Result Unit)} :
    checkMembers members = .ok () ↔ 2 ≤ members.length ∧ ∀ member ∈ members, member = .ok () := by
  unfold checkMembers
  by_cases narrow : members.length < 2
  · have notWide : ¬ 2 ≤ members.length := by omega
    simp [narrow, notWide, throw, throwThe, MonadExceptOf.throw, bind, Except.bind]
  · have wide : 2 ≤ members.length := by omega
    simp only [narrow, wide, ↓reduceIte, true_and, List.forM_eq_forM]
    exact Result.forM_eq_ok

theorem checkShape_group_eq_ok {negated : Bool} {connective : Connective}
    {children : List Predicate} :
    (group negated connective children).checkShape = .ok () ↔
      2 ≤ children.length ∧ ∀ child ∈ children, child.checkShape = .ok () := by
  rw [checkShape_group, checkMembers_eq_ok, List.length_map, List.forall_mem_map]

theorem checkShape_of_mem_leaves {p : Predicate} (shaped : p.checkShape = .ok ()) {leaf : Leaf}
    (member : leaf ∈ p.leaves) : leaf.checkShape = .ok () := by
  obtain ⟨node, nodeMember, found⟩ := List.mem_filterMap.mp member
  have checked := Result.forM_eq_ok.mp shaped node nodeMember
  cases node with
  | leaf negated l =>
      cases found
      exact checked
  | group => cases found

theorem hasWideGroups_of_checkShape {p : Predicate} (wellShaped : p.checkShape = .ok ()) :
    p.HasWideGroups := by
  intro negated connective children member
  have checked := Result.forM_eq_ok.mp wellShaped _ member
  simp only [checkNode] at checked
  split at checked
  · cases checked
  · omega

theorem isPaired_normalized {p : Predicate} (wellShaped : p.checkShape = .ok ()) :
    p.normalized.IsPaired :=
  isPaired_normalized_iff.mpr (hasWideGroups_of_checkShape wellShaped)

/-! ## Trees of leaves of a kind -/

/-- A tree of the right shape whose leaves are all of one kind. -/
structure MadeOf (kind : Leaf → Prop) (p : Predicate) : Prop where
  shaped : p.checkShape = .ok ()
  leaves : ∀ leaf ∈ p.leaves, kind leaf

variable {kind : Leaf → Prop}

theorem madeOf_leaf {negated : Bool} {leaf : Leaf} (shaped : leaf.checkShape = .ok ())
    (suited : kind leaf) : (Predicate.leaf negated leaf).MadeOf kind where
  shaped := (checkShape_leaf negated leaf).trans shaped
  leaves := by simpa using suited

theorem madeOf_group {negated : Bool} {connective : Connective} {children : List Predicate}
    (wide : 2 ≤ children.length) (each : ∀ child ∈ children, child.MadeOf kind) :
    (Predicate.group negated connective children).MadeOf kind where
  shaped := checkShape_group_eq_ok.mpr ⟨wide, fun child member => (each child member).shaped⟩
  leaves := by
    intro leaf found
    rw [leaves_group] at found
    obtain ⟨child, member, leafMember⟩ := List.mem_flatMap.mp found
    exact (each child member).leaves leaf leafMember

theorem madeOf_pair {negated : Bool} {connective : Connective} {left right : Predicate}
    (first : left.MadeOf kind) (second : right.MadeOf kind) :
    (Predicate.group negated connective [left, right]).MadeOf kind := by
  refine madeOf_group (Nat.le_refl _) ?_
  intro child member
  rcases List.mem_pair.mp member with rfl | rfl
  · exact first
  · exact second

theorem madeOf_pair_iff {negated : Bool} {connective : Connective} {left right : Predicate} :
    (Predicate.group negated connective [left, right]).MadeOf kind ↔
      left.MadeOf kind ∧ right.MadeOf kind := by
  constructor
  · intro made
    obtain ⟨_, shaped⟩ := checkShape_group_eq_ok.mp made.shaped
    have suited := made.leaves
    simp only [leaves_group, List.flatMap_cons, List.flatMap_nil, List.append_nil,
      List.mem_append] at suited
    exact ⟨⟨shaped left (by simp), fun leaf member => suited leaf (.inl member)⟩,
      ⟨shaped right (by simp), fun leaf member => suited leaf (.inr member)⟩⟩
  · rintro ⟨first, second⟩
    exact madeOf_pair first second

theorem MadeOf.mono {other : Leaf → Prop} {p : Predicate} (made : p.MadeOf kind)
    (weaker : ∀ leaf, kind leaf → other leaf) : p.MadeOf other where
  shaped := made.shaped
  leaves := fun leaf member => weaker leaf (made.leaves leaf member)

theorem MadeOf.normalized {p : Predicate} (made : p.MadeOf kind) : p.normalized.MadeOf kind where
  shaped := (checkShape_normalized p).trans made.shaped
  leaves := by
    rw [leaves_normalized]
    exact made.leaves

theorem MadeOf.withNegation {p : Predicate} (made : p.MadeOf kind) (flag : Bool) :
    (p.withNegation flag).MadeOf kind where
  shaped := (checkShape_withNegation p flag).trans made.shaped
  leaves := by
    rw [leaves_withNegation]
    exact made.leaves

end RecordFilter.Predicate
