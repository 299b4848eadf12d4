import RecordFilter.Predicate.Equality
import RecordFilter.Predicate.Visit

/-!
# Scans

Walks over trees that hold what they have yet to look at in a list and add to one result. A
node that is looked at puts its members in front of the list, the first or the last member
foremost, and two nodes that are compared put the pairs of their members there.
-/

set_option autoImplicit false

namespace RecordFilter.Predicate

/-! ## One tree -/

/-- The visits of the members of a node in the order in which they are looked at. -/
def Visit.entered (lastFirst : Bool) (visit : Visit) : List Visit :=
  if lastFirst then visit.below.reverse else visit.below

theorem total_reverse (ns : List Nat) : total ns.reverse = total ns := by
  induction ns with
  | nil => rfl
  | cons n ns ih =>
      rw [List.reverse_cons, total_append, ih]
      simp only [total]
      omega

theorem pendingWeight_entered (lastFirst : Bool) (visit : Visit) (pending : List Visit) :
    pendingWeight (visit.entered lastFirst ++ pending) =
      pendingWeight (visit.below ++ pending) := by
  cases lastFirst with
  | false => rfl
  | true =>
      simp only [Visit.entered, ↓reduceIte, pendingWeight, List.map_append, List.map_reverse,
        total_append, total_reverse]

section Scan

variable {σ : Type} (lastFirst : Bool) (see : σ → Visit → σ)

def scan (pending : List Visit) (found : σ) : σ :=
  match pending with
  | [] => found
  | visit :: pending => scan (visit.entered lastFirst ++ pending) (see found visit)
termination_by pendingWeight pending
decreasing_by
  rw [pendingWeight_entered]
  exact pendingWeight_below visit pending

end Scan

def scannedSize (p : Predicate) : Nat :=
  scan true (fun count _ => count + 1) [⟨1, p⟩] 0

def scannedDepth (p : Predicate) : Nat :=
  scan true (fun deepest visit => max deepest visit.depth) [⟨1, p⟩] 0

def scannedLeaves (p : Predicate) : List Leaf :=
  scan false (fun leaves visit => leaves ++ visit.node.leaf?.toList) [⟨1, p⟩] []

/-! ## Two trees -/

theorem map_weight_zip {children others : List Predicate}
    (same : children.length = others.length) :
    (children.zip others).map (·.1.weight) = children.map weight := by
  have firsts := congrArg (List.map weight) (List.map_fst_zip (Nat.le_of_eq same))
  rwa [List.map_map] at firsts

/-- Compares the nodes of every pending pair. A pair of groups is followed by the pairs of
their members, the last pair first. -/
def equalPairs (pending : List (Predicate × Predicate)) : Bool :=
  match pending with
  | [] => true
  | (leaf m a, leaf n b) :: pending =>
    if m ≠ n then false
    else if a.equal b then equalPairs pending
    else false
  | (group m c children, group n d others) :: pending =>
    if m ≠ n then false
    else if _same : c = d ∧ children.length = others.length then
      equalPairs ((children.zip others).reverse ++ pending)
    else false
  | (leaf _ _, group _ _ _) :: _ => false
  | (group _ _ _, leaf _ _) :: _ => false
termination_by total (pending.map (·.1.weight))
decreasing_by
  · simp only [List.map_cons, total, weight_leaf]
    omega
  · simp only [List.map_append, List.map_reverse, map_weight_zip _same.2, List.map_cons,
      total_append, total_reverse, total, weight_group]
    omega

def scannedEqual (p q : Predicate) : Bool :=
  equalPairs [(p, q)]

end RecordFilter.Predicate
