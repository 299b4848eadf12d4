import RecordFilter.Predicate.Assembly
import RecordFilter.Proofs.Predicate.PlanRun

/-!
# Assembly is recursion

The list of results always holds what has been built for the trees on the left of the node whose
turn it is, so when a group is finished the last results are those of its members. What the two
lists build is what a recursion over the tree builds, in the same order, and no result is missed.
-/

set_option autoImplicit false

namespace RecordFilter

namespace Predicate

theorem splitOff?_append {β : Type} (others members : List β) :
    splitOff? (others ++ members) members.length = some (others, members) := by
  have fits : members.length ≤ (others ++ members).length := by simp
  rw [splitOff?, if_pos fits, List.length_append, Nat.add_sub_cancel, List.splitAt_eq,
    List.take_left, List.drop_left]

theorem foldM_eq_children {m : Type → Type} [Monad m] [LawfulMonad m] {β : Type}
    (visit : Predicate → List β → m β) (p : Predicate) :
    foldM visit p = (do
      let results ← foldAllM visit p.children
      visit p results) := by
  cases p with
  | leaf negated l => simp [children]
  | group negated connective children => exact foldM_group visit negated connective children

section Assemble

variable {m : Type → Type} [Monad m] [MonadExceptOf Unit m] {β : Type}
  {isClosed : Predicate → Bool} {finish : Predicate → List β → m β} {node : Predicate}
  {opened : Bool}
  (pending : List Waiting) {results : List β}

/-- The second turn of a node, or the only one of a closed node: its members are finished. -/
theorem assemble_finish {members : List β} (turn : (opened || isClosed node) = true)
    (enough : members.length = node.children.length) :
    assemble isClosed finish (⟨node, opened⟩ :: pending) (results ++ members) =
      (do
        let result ← finish node members
        assemble isClosed finish pending (results ++ [result])) := by
  rw [assemble, dif_pos turn, ← enough, splitOff?_append]

/-- The first turn of a node that has to wait for its members. -/
theorem assemble_open (waits : isClosed node = false) :
    assemble isClosed finish (⟨node, false⟩ :: pending) results =
      assemble isClosed finish
        (node.children.map (Waiting.mk · false) ++ ⟨node, true⟩ :: pending) results := by
  rw [assemble, dif_neg (by simp [waits])]

variable [LawfulMonad m]

theorem assemble_members {children : List Predicate}
    (each : ∀ child ∈ children, ∀ (pending : List Waiting) (results : List β),
      assemble isClosed finish (⟨child, false⟩ :: pending) results =
        (do
          let result ← foldM finish child
          assemble isClosed finish pending (results ++ [result]))) :
    assemble isClosed finish (children.map (Waiting.mk · false) ++ pending) results =
      (do
        let members ← foldAllM finish children
        assemble isClosed finish pending (results ++ members)) := by
  induction children generalizing results with
  | nil => simp
  | cons child children ih =>
      obtain ⟨first, others⟩ := List.forall_mem_cons.mp each
      rw [List.map_cons, List.cons_append, first, foldAllM_cons]
      simp only [bind_assoc, pure_bind]
      apply bind_congr
      intro result
      rw [ih others]
      simp

/-- A node is built once its members are. -/
theorem assemble_node (childless : ∀ p, isClosed p = true → p.children = [])
    (each : ∀ child ∈ node.children, ∀ (pending : List Waiting) (results : List β),
      assemble isClosed finish (⟨child, false⟩ :: pending) results =
        (do
          let result ← foldM finish child
          assemble isClosed finish pending (results ++ [result]))) :
    assemble isClosed finish (⟨node, false⟩ :: pending) results =
      (do
        let result ← foldM finish node
        assemble isClosed finish pending (results ++ [result])) := by
  rw [foldM_eq_children, bind_assoc]
  cases closed : isClosed node with
  | true =>
      have none := childless node closed
      have enough : ([] : List β).length = node.children.length := by rw [none]; rfl
      have turn : (false || isClosed node) = true := closed
      rw [none, foldAllM_nil, pure_bind, ← assemble_finish pending turn enough, List.append_nil]
  | false =>
      rw [assemble_open pending closed, assemble_members _ each]
      apply foldAllM_bind_congr
      intro members sized
      exact assemble_finish pending rfl sized

/-- The loop builds a tree before it goes on to what waits behind it. A node may be closed, and
finished at its first turn, only if it has no members. -/
theorem assemble_cons (childless : ∀ p, isClosed p = true → p.children = []) (p : Predicate)
    (pending : List Waiting) (results : List β) :
    assemble isClosed finish (⟨p, false⟩ :: pending) results =
      (do
        let result ← foldM finish p
        assemble isClosed finish pending (results ++ [result])) := by
  induction p using Predicate.induction generalizing pending results with
  | leafCase negated l => exact assemble_node pending childless (by simp [children])
  | groupCase negated connective children ih => exact assemble_node pending childless ih

theorem assemble_eq_foldM (childless : ∀ p, isClosed p = true → p.children = []) (p : Predicate) :
    assemble isClosed finish [⟨p, false⟩] [] = (do
      let result ← foldM finish p
      pure [result]) := by
  rw [assemble_cons childless]
  apply bind_congr
  intro result
  rw [assemble, List.nil_append]

end Assemble

/-! ## Copies -/

theorem childless_of_isLeaf (p : Predicate) (leaf : p.isLeaf = true) : p.children = [] := by
  cases p with
  | leaf => rfl
  | group => cases leaf

theorem foldM_withMembers (p : Predicate) :
    foldM (fun node members => some (node.withMembers members)) p = some p := by
  have all (children : List Predicate)
      (each : ∀ child ∈ children,
        foldM (fun node members => some (node.withMembers members)) child = some child) :
      foldAllM (fun node members => some (node.withMembers members)) children =
        some children := by
    induction children with
    | nil => rfl
    | cons child children ih =>
        obtain ⟨first, others⟩ := List.forall_mem_cons.mp each
        rw [foldAllM_cons, first, ih others]
        rfl
  induction p using Predicate.induction with
  | leafCase negated l => rw [foldM_leaf, withMembers]
  | groupCase negated connective children ih =>
      rw [foldM_group, all children ih]
      rfl

/-- Copying a tree ends with the same tree: every flag, connective and leaf, and the members of
every group in their order. -/
theorem copy?_eq (p : Predicate) : p.copy? = some p := by
  rw [copy?, assemble_eq_foldM childless_of_isLeaf, foldM_withMembers]
  rfl

end Predicate

/-! ## Plans -/

namespace Plan

open Predicate (foldM foldAllM foldM_leaf foldM_group foldAllM_nil foldAllM_cons)

private theorem run_foldAllM_addStep {children : List Predicate}
    (each : ∀ child ∈ children, ∀ steps : Array PlanStep,
      (foldM addStep child).run steps =
        some ((emit steps child).size - 1, emit steps child)) (steps : Array PlanStep) :
    (foldAllM addStep children).run steps =
      some ((emitAll steps children).2, (emitAll steps children).1) := by
  induction children generalizing steps with
  | nil => rfl
  | cons child children ih =>
      obtain ⟨first, others⟩ := List.forall_mem_cons.mp each
      have later := ih others (emit steps child)
      simp only [foldAllM_cons, StateT.run_bind, first, later, Option.bind_eq_bind,
        Option.bind_some, StateT.run_pure]
      rfl

theorem run_foldM_addStep (p : Predicate) (steps : Array PlanStep) :
    (foldM addStep p).run steps = some ((emit steps p).size - 1, emit steps p) := by
  induction p using Predicate.induction generalizing steps with
  | leafCase negated l => simp [foldM_leaf, addStep, emit]
  | groupCase negated connective children ih =>
      have members := run_foldAllM_addStep ih steps
      simp [foldM_group, members, addStep, emit]

/-- The plan that the two lists build is the one that the recursion over the tree gives. -/
theorem assembled?_eq (p : Predicate) : assembled? p = some (ofPredicate p) := by
  have childless (p : Predicate) (empty : p.children.isEmpty = true) : p.children = [] :=
    List.isEmpty_iff.mp empty
  rw [assembled?, Predicate.assemble_eq_foldM childless, StateT.run_bind, run_foldM_addStep]
  rfl

end Plan

end RecordFilter
