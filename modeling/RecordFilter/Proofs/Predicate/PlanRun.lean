import RecordFilter.Predicate.Plan
import RecordFilter.Predicate.Visit

/-!
# Running plans

A plan is the list of the nodes after their members, and running it is the recursion over
the tree: every slot is filled before its group is reached, no slot is read twice, and at
the end one slot is left, that of the root.
-/

set_option autoImplicit false

namespace RecordFilter

namespace Predicate

section Recursion

variable {m : Type → Type} [Monad m] {β : Type} (visit : Predicate → List β → m β)

mutual

/-- Visits the nodes of a tree after their members, from left to right. -/
def foldM : Predicate → m β
  | .leaf negated l => visit (.leaf negated l) []
  | .group negated connective children => do
    let results ← foldAllM children
    visit (.group negated connective children) results

def foldAllM : List Predicate → m (List β)
  | [] => pure []
  | child :: children => do
    let result ← foldM child
    let results ← foldAllM children
    pure (result :: results)

end

@[simp] theorem foldM_leaf (negated : Bool) (l : Leaf) :
    foldM visit (.leaf negated l) = visit (.leaf negated l) [] := by
  simp [foldM]

theorem foldM_group (negated : Bool) (connective : Connective) (children : List Predicate) :
    foldM visit (.group negated connective children) =
      (do
        let results ← foldAllM visit children
        visit (.group negated connective children) results) := by
  simp [foldM]

@[simp] theorem foldAllM_nil : foldAllM visit [] = pure [] := by
  simp [foldAllM]

theorem foldAllM_cons (child : Predicate) (children : List Predicate) :
    foldAllM visit (child :: children) =
      (do
        let result ← foldM visit child
        let results ← foldAllM visit children
        pure (result :: results)) := by
  simp [foldAllM]

variable [LawfulMonad m]

theorem foldM_pair (negated : Bool) (connective : Connective) (left right : Predicate) :
    foldM visit (.group negated connective [left, right]) =
      (do
        let leftResult ← foldM visit left
        let rightResult ← foldM visit right
        visit (.group negated connective [left, right]) [leftResult, rightResult]) := by
  simp [foldM_group, foldAllM_cons]

theorem exists_sized_foldAllM (children : List Predicate) :
    ∃ sized : m { results : List β // results.length = children.length },
      foldAllM visit children = (·.val) <$> sized := by
  induction children with
  | nil => exact ⟨pure ⟨[], rfl⟩, by simp⟩
  | cons child children ih =>
      obtain ⟨sized, same⟩ := ih
      refine ⟨do
        let result ← foldM visit child
        let results ← sized
        pure ⟨result :: results.val, by simp [results.property]⟩, ?_⟩
      simp [foldAllM_cons, same]

theorem foldAllM_bind_congr {γ : Type} {children : List Predicate} {first second : List β → m γ}
    (agree : ∀ results, results.length = children.length → first results = second results) :
    foldAllM visit children >>= first = foldAllM visit children >>= second := by
  obtain ⟨sized, same⟩ := exists_sized_foldAllM visit children
  rw [same, bind_map_left, bind_map_left]
  apply bind_congr
  intro results
  exact agree results.val results.property

end Recursion

theorem exists_weight (p : Predicate) : ∃ inner, p.weight = inner + 1 :=
  ⟨_, weight_eq_children p⟩

end Predicate

namespace Plan

open Predicate (foldM foldAllM foldM_leaf foldM_group foldAllM_nil foldAllM_cons
  foldAllM_bind_congr exists_weight)

/-! ## The steps of a tree -/

/-- The places of the roots of several trees whose steps begin at a place. -/
def roots (start : Nat) : List Predicate → List Nat
  | [] => []
  | child :: children => (start + child.weight - 1) :: roots (start + child.weight) children

mutual

/-- The steps of a tree that begin at a place. -/
def segment (start : Nat) : Predicate → List PlanStep
  | .leaf negated l => [⟨.leaf negated l, []⟩]
  | .group negated connective children =>
    segments start children ++ [⟨.group negated connective children, roots start children⟩]

def segments (start : Nat) : List Predicate → List PlanStep
  | [] => []
  | child :: children => segment start child ++ segments (start + child.weight) children

end

theorem segment_group (start : Nat) (negated : Bool) (connective : Connective)
    (children : List Predicate) :
    segment start (.group negated connective children) =
      segments start children ++
        [⟨.group negated connective children, roots start children⟩] := by
  simp [segment]

theorem length_segments {children : List Predicate}
    (each : ∀ child ∈ children, ∀ start, (segment start child).length = child.weight)
    (start : Nat) :
    (segments start children).length = Predicate.total (children.map Predicate.weight) := by
  induction children generalizing start with
  | nil => simp [segments, Predicate.total]
  | cons child children ih =>
      have head := each child List.mem_cons_self start
      have tail := ih (fun other member => each other (List.mem_cons_of_mem _ member))
        (start + child.weight)
      simp [segments, Predicate.total, head, tail]

theorem length_segment (start : Nat) (p : Predicate) : (segment start p).length = p.weight := by
  induction p using Predicate.induction generalizing start with
  | leafCase negated l => simp [segment]
  | groupCase negated connective children ih =>
      simp [segment_group, length_segments fun child member start => ih child member start]

private theorem emitAll_segments {children : List Predicate}
    (each : ∀ child ∈ children, ∀ steps : Array PlanStep,
      (emit steps child).toList = steps.toList ++ segment steps.size child)
    (steps : Array PlanStep) :
    (emitAll steps children).1.toList = steps.toList ++ segments steps.size children ∧
      (emitAll steps children).2 = roots steps.size children := by
  induction children generalizing steps with
  | nil => simp [emitAll, segments, roots]
  | cons child children ih =>
      have head := each child List.mem_cons_self steps
      have size : (emit steps child).size = steps.size + child.weight := by
        rw [← Array.length_toList, head, List.length_append, Array.length_toList, length_segment]
      obtain ⟨tail, places⟩ :=
        ih (fun other member => each other (List.mem_cons_of_mem _ member)) (emit steps child)
      rw [size] at tail places
      simp [emitAll, segments, roots, tail, places, head, size]

theorem toList_emit (steps : Array PlanStep) (p : Predicate) :
    (emit steps p).toList = steps.toList ++ segment steps.size p := by
  induction p using Predicate.induction generalizing steps with
  | leafCase negated l => simp [emit, segment]
  | groupCase negated connective children ih =>
      obtain ⟨added, places⟩ :=
        emitAll_segments (fun child member steps => ih child member steps) steps
      simp [emit, segment_group, added, places]

theorem steps_ofPredicate (p : Predicate) : (ofPredicate p).steps.toList = segment 0 p := by
  simpa [ofPredicate] using toList_emit #[] p

/-! ## The slots of a tree -/

section Slots

variable {β : Type}

/-- What the steps of a tree leave in their slots: the result of the root and nothing else. -/
def settled (p : Predicate) (result : β) : Array (Option β) :=
  (Array.replicate (p.weight - 1) none).push (some result)

def settledAll : List Predicate → List β → Array (Option β)
  | child :: children, result :: results => settled child result ++ settledAll children results
  | _, _ => #[]

/-- The slots of a group's members after the group has moved their results out. -/
def emptied (children : List Predicate) : Array (Option β) :=
  Array.replicate (Predicate.total (children.map Predicate.weight)) none

private theorem getElem?_settled (slots later : Array (Option β)) (p : Predicate) (result : β) :
    (slots ++ settled p result ++ later)[slots.size + p.weight - 1]? = some (some result) := by
  obtain ⟨inner, weight⟩ := exists_weight p
  have inside : slots.size + inner < (slots ++ settled p result).size := by
    simp [settled, weight]
  rw [weight, Nat.add_succ_sub_one, Array.getElem?_append_left inside,
    Array.getElem?_append_right (Nat.le_add_right _ _)]
  simp [settled, weight, Array.getElem_push]

private theorem setIfInBounds_settled (slots later : Array (Option β)) (p : Predicate)
    (result : β) :
    (slots ++ settled p result ++ later).setIfInBounds (slots.size + p.weight - 1) none =
      slots ++ Array.replicate p.weight none ++ later := by
  obtain ⟨inner, weight⟩ := exists_weight p
  have inside : slots.size + inner < (slots ++ settled p result).size := by
    simp [settled, weight]
  rw [weight, Nat.add_succ_sub_one, Array.setIfInBounds_append_left inside,
    Array.setIfInBounds_append_right (Nat.le_add_right _ _), Nat.add_sub_cancel_left]
  congr 2
  apply Array.toList_inj.mp
  simp [settled, weight, List.set_append_right, List.replicate_succ']

/-- A group finds the results of its members in order and leaves their slots empty. -/
theorem takeSlots_settledAll (slots : Array (Option β)) (children : List Predicate)
    (results : List β) (sized : results.length = children.length) :
    takeSlots (slots ++ settledAll children results) (roots slots.size children) =
      some (results, slots ++ emptied children) := by
  induction children generalizing slots results with
  | nil =>
      obtain rfl := List.eq_nil_of_length_eq_zero sized
      simp [takeSlots, roots, settledAll, emptied, Predicate.total]
  | cons child children ih =>
      cases results with
      | nil => simp at sized
      | cons result results =>
          -- the other members are read after the slots of the first one are empty
          have rest :=
            ih (slots ++ Array.replicate child.weight none) results (by simpa using sized)
          rw [Array.size_append, Array.size_replicate] at rest
          rw [settledAll, roots, takeSlots, ← Array.append_assoc, getElem?_settled,
            setIfInBounds_settled]
          simp only [rest, Option.map_some]
          simp [emptied, Predicate.total]

end Slots

/-! ## Running the steps of a tree -/

section Run

variable {m : Type → Type} [Monad m] [LawfulMonad m] [MonadExceptOf FilterError m] {β : Type}
  (visit : Predicate → List β → m β)

private theorem runSteps_segments {children : List Predicate}
    (each : ∀ child ∈ children, ∀ (rest : List PlanStep) (slots : Array (Option β)),
      runSteps visit (segment slots.size child ++ rest) slots =
        (do
          let result ← foldM visit child
          runSteps visit rest (slots ++ settled child result)))
    (rest : List PlanStep) (slots : Array (Option β)) :
    runSteps visit (segments slots.size children ++ rest) slots =
      (do
        let results ← foldAllM visit children
        runSteps visit rest (slots ++ settledAll children results)) := by
  induction children generalizing slots with
  | nil => simp [segments, settledAll]
  | cons child children ih =>
      have laterEach := fun other member => each other (List.mem_cons_of_mem child member)
      rw [segments, List.append_assoc, each child List.mem_cons_self, foldAllM_cons]
      simp only [bind_assoc, pure_bind]
      apply bind_congr
      intro result
      have grown : slots.size + child.weight = (slots ++ settled child result).size := by
        obtain ⟨inner, weight⟩ := exists_weight child
        simp [settled, weight]
      rw [grown, ih laterEach]
      simp [settledAll]

/-- Running the steps of a tree visits it in the order of the recursion and adds its slots. -/
theorem runSteps_segment (p : Predicate) (rest : List PlanStep) (slots : Array (Option β)) :
    runSteps visit (segment slots.size p ++ rest) slots =
      (do
        let result ← foldM visit p
        runSteps visit rest (slots ++ settled p result)) := by
  induction p using Predicate.induction generalizing rest slots with
  | leafCase negated l => simp [segment, runSteps, takeSlots, settled]
  | groupCase negated connective children ih =>
      rw [segment_group, List.append_assoc, runSteps_segments visit ih, foldM_group, bind_assoc]
      apply foldAllM_bind_congr
      intro results sized
      have taken := takeSlots_settledAll slots children results sized
      simp only [List.cons_append, List.nil_append, runSteps, taken]
      simp [settled, emptied]

/-- After a run only the slot of the root holds a result. -/
theorem runSteps_ofPredicate (p : Predicate) :
    runSteps visit (ofPredicate p).steps.toList #[] =
      (do
        let result ← foldM visit p
        pure (settled p result)) := by
  have run := runSteps_segment visit p [] #[]
  simp only [List.append_nil, Array.size_empty] at run
  rw [steps_ofPredicate, run]
  simp only [runSteps, Array.empty_append]

theorem run_ofPredicate (p : Predicate) : (ofPredicate p).run visit = foldM visit p := by
  rw [Plan.run, runSteps_ofPredicate]
  simp [settled]

end Run

theorem isNegated_ofPredicate (p : Predicate) : (ofPredicate p).isNegated = p.isNegated := by
  cases p with
  | leaf negated l => simp [ofPredicate, isNegated, emit, Predicate.isNegated]
  | group negated connective children => simp [ofPredicate, isNegated, emit, Predicate.isNegated]

end Plan

end RecordFilter
