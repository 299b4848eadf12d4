import RecordFilter.Predicate.NormalForm

/-!
# Normal form in place

A tree is brought to normal form where it stands. The places of the nodes that have yet to be
looked at are held in a list, and each node that is looked at puts the places of its members
in front of it, the last member first. A group of more than two members is left with two: the
last one, and all others joined into a chain of pairs. The links of the chain are looked at
like all other nodes.
-/

set_option autoImplicit false

namespace RecordFilter.Predicate

/-! ## Places -/

/-- The way from the root of a tree to a node: which member to go to in each group. -/
abbrev Place : Type :=
  List Nat

def at? : Place → Predicate → Option Predicate
  | [], p => some p
  | index :: place, p => p.children[index]?.bind (at? place)

def modifyAt (change : Predicate → Predicate) : Place → Predicate → Predicate
  | [], p => change p
  | _ :: _, leaf negated l => leaf negated l
  | index :: place, group negated connective children =>
    group negated connective (children.modify index (modifyAt change place))

theorem at?_modifyAt (change : Predicate → Predicate) (place : Place) (p : Predicate) :
    at? place (modifyAt change place p) = (at? place p).map change := by
  induction place generalizing p with
  | nil => rfl
  | cons index place ih =>
      cases p with
      | leaf negated l => rfl
      | group negated connective children =>
          simp only [modifyAt, at?, Predicate.children, List.getElem?_modify_eq]
          cases children[index]? with
          | none => rfl
          | some child => exact ih child

/-- The places of the members of the node at a place, the last member first. -/
def placesBelow (place : Place) (p : Predicate) : List Place :=
  match at? place p with
  | some node => (List.range node.children.length).reverse.map (place ++ [·])
  | none => []

theorem le_total_of_mem {n : Nat} {ns : List Nat} (member : n ∈ ns) : n ≤ total ns := by
  obtain ⟨before, after, rfl⟩ := List.append_of_mem member
  rw [total_append, total]
  omega

theorem weight_lt_of_mem {p child : Predicate} (member : child ∈ p.children) :
    child.weight < p.weight := by
  rw [weight_eq_children p]
  exact Nat.lt_succ_of_le (le_total_of_mem (List.mem_map_of_mem member))

/-- A way through a tree is shorter than the tree has nodes. -/
theorem length_lt_weight {place : Place} {p node : Predicate} (found : at? place p = some node) :
    place.length < p.weight := by
  induction place generalizing p with
  | nil =>
      rw [weight_eq_children]
      exact Nat.succ_pos _
  | cons index place ih =>
      obtain ⟨child, member, inner⟩ := Option.bind_eq_some_iff.mp found
      have lighter := weight_lt_of_mem (List.mem_of_getElem? member)
      exact Nat.lt_of_le_of_lt (ih inner) lighter

/-! ## Pairing -/

/-- Members joined from left to right; no members give nothing. -/
def joined? (connective : Connective) : List Predicate → Option Predicate
  | [] => none
  | first :: others => some (others.foldl (link connective) first)

def pairUp (connective : Connective) (children : List Predicate) : List Predicate :=
  if 2 < children.length then
    (joined? connective children.dropLast).toList ++ children.getLast?.toList
  else children

theorem pairUp_of_length_le {connective : Connective} {children : List Predicate}
    (narrow : children.length ≤ 2) : pairUp connective children = children := by
  rw [pairUp, if_neg (by omega)]

theorem pairUp_snoc (connective : Connective) (first : Predicate) (middle : List Predicate)
    (last : Predicate) :
    pairUp connective (first :: middle ++ [last]) =
      [middle.foldl (link connective) first, last] := by
  cases middle with
  | nil => rfl
  | cons second middle =>
      have wide : 2 < (first :: second :: middle ++ [last]).length := by simp
      rw [pairUp, if_pos wide, List.dropLast_concat, List.getLast?_concat]
      rfl

theorem length_pairUp (connective : Connective) (children : List Predicate) :
    (pairUp connective children).length ≤ 2 := by
  rcases narrow_or_snoc children with narrow | ⟨first, middle, last, rfl⟩
  · rw [pairUp_of_length_le (by omega)]
    omega
  · rw [pairUp_snoc]
    exact Nat.le_refl 2

/-- A node with two members at most; what is below them stays as it is. -/
def paired : Predicate → Predicate
  | leaf negated l => leaf negated l
  | group negated connective children => group negated connective (pairUp connective children)

theorem length_children_paired (p : Predicate) : p.paired.children.length ≤ 2 := by
  cases p with
  | leaf negated l => exact Nat.zero_le 2
  | group negated connective children => exact length_pairUp connective children

/-- The normal form of a node has the normal forms of the members that pairing leaves it. -/
theorem normalized_eq_paired (negated : Bool) (connective : Connective)
    (children : List Predicate) :
    (group negated connective children).normalized =
      group negated connective ((pairUp connective children).map normalized) := by
  rcases narrow_or_snoc children with narrow | ⟨first, middle, last, rfl⟩
  · have mapped : (children.map normalized).length < 2 := by rwa [List.length_map]
    rw [normalized_group, pairUp_of_length_le (by omega), chain_of_length_lt mapped]
  · rw [normalized_snoc, pairUp_snoc, List.map_cons, List.map_singleton, normalized_foldl_link]

theorem normalized_paired (p : Predicate) : p.paired.normalized = p.normalized := by
  cases p with
  | leaf negated l => rfl
  | group negated connective children =>
      rw [paired, normalized_eq_paired, normalized_eq_paired,
        pairUp_of_length_le (length_pairUp connective children)]

theorem normalized_modifyAt_paired (place : Place) (p : Predicate) :
    (modifyAt paired place p).normalized = p.normalized := by
  induction place generalizing p with
  | nil => exact normalized_paired p
  | cons index place ih =>
      cases p with
      | leaf negated l => rfl
      | group negated connective children =>
          have same : (children.modify index (modifyAt paired place)).map normalized =
              children.map normalized := by
            apply List.ext_getElem?
            intro i
            rw [List.getElem?_map, List.getElem?_map, List.getElem?_modify]
            cases children[i]? with
            | none => rfl
            | some child => by_cases here : index = i <;> simp [here, ih child]
          rw [modifyAt, normalized_group, normalized_group, same]

/-! ## Termination -/

theorem total_map_le {children : List Predicate} {change : Predicate → Predicate}
    (each : ∀ child ∈ children, child.weight ≤ (change child).weight) :
    total (children.map weight) ≤ total ((children.map change).map weight) := by
  induction children with
  | nil => exact Nat.le_refl _
  | cons child children ih =>
      obtain ⟨first, others⟩ := List.forall_mem_cons.mp each
      exact Nat.add_le_add first (ih others)

theorem total_le_weight_foldl_link (connective : Connective) (joined : Predicate)
    (others : List Predicate) :
    joined.weight + total (others.map weight) ≤ (others.foldl (link connective) joined).weight := by
  induction others generalizing joined with
  | nil => exact Nat.le_refl _
  | cons next others ih =>
      have longer := ih (link connective joined next)
      have linked : joined.weight + next.weight ≤ (link connective joined next).weight := by
        simp only [link, weight_group, List.map_cons, List.map_nil, total]
        omega
      simp only [List.map_cons, total, List.foldl_cons]
      omega

theorem weight_group_le_chain (negated : Bool) (connective : Connective)
    (children : List Predicate) :
    (group negated connective children).weight ≤ (chain negated connective children).weight := by
  rcases narrow_or_snoc children with narrow | ⟨first, middle, last, rfl⟩
  · exact Nat.le_of_eq (congrArg weight (chain_of_length_lt narrow).symm)
  · have joined := total_le_weight_foldl_link connective first middle
    simp only [chain_snoc, weight_group, List.map_append, total_append, List.map_cons,
      List.map_nil, total]
    omega

/-- Normal form adds nodes and takes none away. -/
theorem weight_le_normalized (p : Predicate) : p.weight ≤ p.normalized.weight := by
  induction p using Predicate.induction with
  | leafCase negated l => exact Nat.le_of_eq (congrArg weight (normalized_leaf negated l).symm)
  | groupCase negated connective children ih =>
      have members := total_map_le ih
      have links := weight_group_le_chain negated connective (children.map normalized)
      rw [normalized_group]
      rw [weight_group] at links ⊢
      omega

/-- The number of nodes of a full tree of pairs with the given number of levels of pairs. -/
def fullSize : Nat → Nat
  | 0 => 1
  | levels + 1 => 2 * fullSize levels + 1

/-- A bound on the places that are looked at from this one on: no way is longer than the normal
form has nodes, and each place brings two others at most. -/
def reach (p : Predicate) (place : Place) : Nat :=
  fullSize (p.normalized.weight - place.length)

theorem reach_modifyAt_paired (place : Place) (p : Predicate) :
    reach (modifyAt paired place p) = reach p := by
  funext other
  rw [reach, reach, normalized_modifyAt_paired]

theorem total_map_const {α : Type} (n : Nat) (items : List α) :
    total (items.map fun _ => n) = items.length * n := by
  induction items with
  | nil => exact (Nat.zero_mul n).symm
  | cons item items ih =>
      rw [List.map_cons, total, ih, List.length_cons, Nat.succ_mul, Nat.add_comm]

theorem fullSize_pos (levels : Nat) : 0 < fullSize levels := by
  cases levels <;> exact Nat.succ_pos _

theorem reach_placesBelow (place : Place) (p : Predicate) :
    total ((placesBelow place (modifyAt paired place p)).map (reach p)) < reach p place := by
  unfold placesBelow
  rw [at?_modifyAt]
  cases found : at? place p with
  | none => exact fullSize_pos _
  | some node =>
      have deep := Nat.lt_of_lt_of_le (length_lt_weight found) (weight_le_normalized p)
      obtain ⟨levels, left⟩ := Nat.exists_eq_add_of_lt deep
      have here : reach p place = 2 * fullSize levels + 1 := by
        rw [reach, left, Nat.add_assoc, Nat.add_sub_cancel_left, fullSize]
      have below : ∀ index, reach p (place ++ [index]) = fullSize levels := by
        intro index
        rw [reach, left, List.length_append, List.length_singleton, Nat.add_right_comm,
          Nat.add_sub_cancel_left]
      have width := Nat.mul_le_mul_right (fullSize levels) (length_children_paired node)
      simp only [Option.map_some, List.map_map, Function.comp_def, below, total_map_const,
        List.length_reverse, List.length_range, here]
      omega

/-! ## The loop -/

/-- Looks at the nodes at the pending places until none is left. -/
def pairPending (pending : List Place) (p : Predicate) : Predicate :=
  match pending with
  | [] => p
  | place :: pending =>
    let changed := modifyAt paired place p
    pairPending (placesBelow place changed ++ pending) changed
termination_by total (pending.map (reach p))
decreasing_by
  have below := reach_placesBelow place p
  rw [reach_modifyAt_paired, List.map_append, total_append, List.map_cons, total]
  omega

def normalizeInPlace (p : Predicate) : Predicate :=
  pairPending [[]] p

end RecordFilter.Predicate
