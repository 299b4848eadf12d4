import RecordFilter.Predicate.Plan
import RecordFilter.Predicate.Visit

/-!
# Assembly

Building something out of a tree from its leaves up without recursion. One list holds the nodes
that wait, the other one the results that no group has taken yet, from left to right. A node
waits a second time behind its members, and when its turn comes again the last results are
those of its members.
-/

set_option autoImplicit false

namespace RecordFilter

namespace Predicate

/-- A node that waits for its first turn, or behind its members for its second. -/
structure Waiting where
  node : Predicate
  opened : Bool

/-- The turns that are still to come for a node and all nodes below it. -/
def Waiting.turns (waiting : Waiting) : Nat :=
  if waiting.opened then 1 else 2 * waiting.node.weight

theorem Waiting.turns_pos (waiting : Waiting) : 0 < waiting.turns := by
  have positive := weight_eq_children waiting.node
  unfold turns
  split <;> omega

theorem total_turns_members (children : List Predicate) :
    total ((children.map (Waiting.mk · false)).map Waiting.turns) =
      2 * total (children.map weight) := by
  induction children with
  | nil => rfl
  | cons child children ih =>
      simp only [List.map_cons, total, ih, Waiting.turns, Bool.false_eq_true, ↓reduceIte]
      omega

/-- The last results, as many as asked for, behind those before them; nothing if there are not
so many. -/
def splitOff? {β : Type} (results : List β) (count : Nat) : Option (List β × List β) :=
  if count ≤ results.length then some (results.splitAt (results.length - count)) else none

section Assemble

variable {m : Type → Type} [Monad m] [MonadExceptOf Unit m] {β : Type}
  (isClosed : Predicate → Bool) (finish : Predicate → List β → m β)

/-- Gives every waiting node its turn. A node that is not closed has to wait behind its
members; any other is finished with the results of its members. -/
def assemble (pending : List Waiting) (results : List β) : m (List β) :=
  match pending with
  | [] => pure results
  | waiting :: pending =>
    if _turn : (waiting.opened || isClosed waiting.node) = true then
      match splitOff? results waiting.node.children.length with
      | none => throw ()
      | some (others, members) => do
        let result ← finish waiting.node members
        assemble pending (others ++ [result])
    else
      assemble
        (waiting.node.children.map (Waiting.mk · false) ++ ⟨waiting.node, true⟩ :: pending)
        results
termination_by total (pending.map Waiting.turns)
decreasing_by
  · have positive := waiting.turns_pos
    simp only [List.map_cons, total]
    omega
  · have first : waiting.opened = false := by
      cases opened : waiting.opened with
      | false => rfl
      | true => simp [opened] at _turn
    have whole := weight_eq_children waiting.node
    simp only [List.map_append, List.map_cons, total_append, total_turns_members, total,
      Waiting.turns, first, Bool.false_eq_true, ↓reduceIte]
    omega

end Assemble

/-! ## Copies -/

/-- A node with other members. -/
def withMembers : Predicate → List Predicate → Predicate
  | leaf negated l, _ => leaf negated l
  | group negated connective _, members => group negated connective members

def copy? (p : Predicate) : Option Predicate := do
  let built ← assemble isLeaf (fun node members => some (node.withMembers members)) [⟨p, false⟩] []
  built.head?

end Predicate

/-! ## Plans -/

namespace Plan

/-- Puts a step behind the others and gives its place. -/
def addStep (node : Predicate) (places : List Nat) : StateT (Array PlanStep) Option Nat := do
  modifyGet fun steps => (steps.size, steps.push ⟨node, places⟩)

def assembled? (p : Predicate) : Option Plan := do
  let (_, steps) ←
    (Predicate.assemble (·.children.isEmpty) addStep [⟨p, false⟩] []).run #[]
  return ⟨steps⟩

end Plan

end RecordFilter
