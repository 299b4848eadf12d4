import RecordFilter.Predicate.Basic

/-!
# Visits

The nodes of a predicate from the root on, each group before its members and the members
from left to right. The walk keeps the nodes still to be seen in a list, so the depth of
a tree costs no call stack. Size, depth and leaves are read off the visits.
-/

set_option autoImplicit false

namespace RecordFilter.Predicate

/-- A node and the number of nodes on the way to it from the root, both included. -/
structure Visit where
  depth : Nat
  node : Predicate

def total : List Nat → Nat
  | [] => 0
  | n :: ns => n + total ns

theorem total_append (ms ns : List Nat) : total (ms ++ ns) = total ms + total ns := by
  induction ms with
  | nil => simp [total]
  | cons m ms ih => simp [total, ih, Nat.add_assoc]

def weight : Predicate → Nat :=
  fold (fun _ _ => 1) (fun _ _ weights => total weights + 1)

@[simp] theorem weight_leaf (negated : Bool) (l : Leaf) : (leaf negated l).weight = 1 := by
  simp [weight]

@[simp] theorem weight_group (negated : Bool) (connective : Connective)
    (children : List Predicate) :
    (group negated connective children).weight = total (children.map weight) + 1 := by
  simp [weight]

theorem weight_eq_children (p : Predicate) :
    p.weight = total (p.children.map weight) + 1 := by
  cases p <;> simp [children, total]

def pendingWeight (pending : List Visit) : Nat :=
  total (pending.map (·.node.weight))

def Visit.below (visit : Visit) : List Visit :=
  visit.node.children.map (Visit.mk (visit.depth + 1))

theorem pendingWeight_below (visit : Visit) (pending : List Visit) :
    pendingWeight (visit.below ++ pending) < pendingWeight (visit :: pending) := by
  have nodeWeight : visit.node.weight = total (visit.node.children.map fun p => p.weight) + 1 :=
    weight_eq_children visit.node
  simp only [pendingWeight, Visit.below, List.map_append, total_append, List.map_map,
    List.map_cons, total, Function.comp_def]
  omega

/-- Sees the first pending node, and its members before the other pending ones. What has
been seen is held last first. -/
def walk (pending seen : List Visit) : List Visit :=
  match pending with
  | [] => seen.reverse
  | visit :: pending => walk (visit.below ++ pending) (visit :: seen)
termination_by pendingWeight pending
decreasing_by exact pendingWeight_below visit pending

def visits (p : Predicate) : List Visit :=
  walk [⟨1, p⟩] []

def nodes (p : Predicate) : List Predicate :=
  p.visits.map (·.node)

def size (p : Predicate) : Nat :=
  p.visits.length

/-- The number of nodes on the longest way from the root down. -/
def depth (p : Predicate) : Nat :=
  (p.visits.map (·.depth)).foldl max 0

def leaves (p : Predicate) : List Leaf :=
  p.nodes.filterMap leaf?

end RecordFilter.Predicate
