import RecordFilter.Predicate.Visit

/-!
# Normal form

In normal form no group has more than two members. A wider group becomes a chain of
pairs that leans to the left and keeps the order of the members; its outermost pair
carries the flag of the group and the inner ones are not inverted. A chain is told by its
last member and the others joined from left to right, and a normal form is its own.
-/

set_option autoImplicit false

namespace RecordFilter.Predicate

/-- Pairs what has been joined so far with the next member, until the last one makes the
outermost pair. -/
def chainOnto (negated : Bool) (connective : Connective) (joined : Predicate) :
    List Predicate → Predicate
  | [] => joined
  | [last] => .group negated connective [joined, last]
  | next :: others =>
    chainOnto negated connective (.group false connective [joined, next]) others

/-- One pair of a chain, not the outermost. -/
def link (connective : Connective) (left right : Predicate) : Predicate :=
  group false connective [left, right]

/-- A group as a chain of pairs; one of fewer than three members is left as it is. -/
def chain (negated : Bool) (connective : Connective) : List Predicate → Predicate
  | first :: second :: third :: others =>
    chainOnto negated connective first (second :: third :: others)
  | children => .group negated connective children

def normalized : Predicate → Predicate :=
  fold leaf chain

@[simp] theorem normalized_leaf (negated : Bool) (l : Leaf) :
    (leaf negated l).normalized = leaf negated l := by
  simp [normalized]

@[simp] theorem normalized_group (negated : Bool) (connective : Connective)
    (children : List Predicate) :
    (group negated connective children).normalized =
      chain negated connective (children.map normalized) := by
  simp [normalized]

/-! ## Chains -/

theorem narrow_or_snoc (children : List Predicate) :
    children.length < 2 ∨ ∃ first middle last, children = first :: middle ++ [last] := by
  match children with
  | [] => exact .inl (by simp)
  | [_] => exact .inl (by simp)
  | first :: second :: others =>
      right
      obtain ⟨middle, last, split⟩ := List.eq_nil_or_concat (second :: others) |>.resolve_left nofun
      exact ⟨first, middle, last, by rw [split]; simp⟩

theorem normalized_link (connective : Connective) (left right : Predicate) :
    (link connective left right).normalized = link connective left.normalized right.normalized := by
  simp [link, chain]

theorem normalized_foldl_link (connective : Connective) (joined : Predicate)
    (others : List Predicate) :
    (others.foldl (link connective) joined).normalized =
      (others.map normalized).foldl (link connective) joined.normalized := by
  induction others generalizing joined with
  | nil => rfl
  | cons next others ih => rw [List.foldl_cons, ih, normalized_link, List.map_cons, List.foldl_cons]

theorem chainOnto_snoc (negated : Bool) (connective : Connective) (joined : Predicate)
    (middle : List Predicate) (last : Predicate) :
    chainOnto negated connective joined (middle ++ [last]) =
      group negated connective [middle.foldl (link connective) joined, last] := by
  induction middle generalizing joined with
  | nil => rfl
  | cons next middle ih =>
      rw [List.cons_append, chainOnto, ih]
      · rfl
      · simp

/-- A chain holds the last member beside all others joined from left to right. -/
theorem chain_snoc (negated : Bool) (connective : Connective) (first : Predicate)
    (middle : List Predicate) (last : Predicate) :
    chain negated connective (first :: middle ++ [last]) =
      group negated connective [middle.foldl (link connective) first, last] := by
  cases middle with
  | nil => rfl
  | cons second middle =>
      rw [← chainOnto_snoc]
      cases middle <;> rfl

theorem chain_of_length_lt {negated : Bool} {connective : Connective} {children : List Predicate}
    (narrow : children.length < 2) :
    chain negated connective children = group negated connective children := by
  match children, narrow with
  | [], _ => rfl
  | [_], _ => rfl

/-- A group of two members or more holds, in normal form, the normal form of its last member
beside those of all others joined from left to right. -/
theorem normalized_snoc (negated : Bool) (connective : Connective) (first : Predicate)
    (middle : List Predicate) (last : Predicate) :
    (group negated connective (first :: middle ++ [last])).normalized =
      group negated connective
        [(middle.map normalized).foldl (link connective) first.normalized, last.normalized] := by
  have mapped : (first :: middle ++ [last]).map normalized =
      first.normalized :: middle.map normalized ++ [last.normalized] := by
    simp
  rw [normalized_group, mapped, chain_snoc]

theorem normalized_chain {negated : Bool} {connective : Connective} {children : List Predicate}
    (normal : ∀ child ∈ children, child.normalized = child) :
    (chain negated connective children).normalized = chain negated connective children := by
  rcases narrow_or_snoc children with narrow | ⟨first, middle, last, rfl⟩
  · rw [chain_of_length_lt narrow, normalized_group, List.map_congr_left normal, List.map_id',
      chain_of_length_lt narrow]
  · have middleNormal : middle.map normalized = middle := by
      rw [List.map_congr_left fun child member => normal child (by simp [member]), List.map_id']
    have firstNormal : first.normalized = first := normal first (by simp)
    have lastNormal : last.normalized = last := normal last (by simp)
    rw [chain_snoc, normalized_group]
    simp [chain, normalized_foldl_link, middleNormal, firstNormal, lastNormal]

theorem normalized_normalized (p : Predicate) : p.normalized.normalized = p.normalized := by
  induction p using Predicate.induction with
  | leafCase negated l => simp
  | groupCase negated connective children ih =>
      rw [normalized_group]
      apply normalized_chain
      rw [List.forall_mem_map]
      exact ih

/-! ## Binary trees -/

def isLeafOrPair : Predicate → Bool
  | leaf _ _ => true
  | group _ _ [_, _] => true
  | group _ _ _ => false

def isBinary (p : Predicate) : Bool :=
  p.nodes.all isLeafOrPair

end RecordFilter.Predicate
