import RecordFilter.Predicate.Basic

/-!
# Plans

A plan lists the nodes of a predicate so that the members of a group come before it, from
left to right, each step with the places of the steps of its members. Running a plan
keeps one result per step and moves the results of the members out when their group
is reached.
-/

set_option autoImplicit false

namespace RecordFilter

/-- One node with the places of its members' steps. -/
structure PlanStep where
  node : Predicate
  children : List Nat

structure Plan where
  steps : Array PlanStep

namespace Plan

/-! ## Building -/

mutual

/-- Adds the steps of a tree behind the given ones; the step of its root comes last. -/
def emit (steps : Array PlanStep) : Predicate → Array PlanStep
  | .leaf negated l => steps.push ⟨.leaf negated l, []⟩
  | .group negated connective children =>
    let (steps, roots) := emitAll steps children
    steps.push ⟨.group negated connective children, roots⟩

/-- Adds the steps of several trees and gives the places of their roots. -/
def emitAll (steps : Array PlanStep) : List Predicate → Array PlanStep × List Nat
  | [] => (steps, [])
  | child :: children =>
    let steps := emit steps child
    let root := steps.size - 1
    let (steps, roots) := emitAll steps children
    (steps, root :: roots)

end

def ofPredicate (p : Predicate) : Plan :=
  ⟨emit #[] p⟩

def isNegated (plan : Plan) : Bool :=
  match plan.steps.back? with
  | some step => step.node.isNegated
  | none => false

/-! ## Running -/

/-- Moves the results at some places out of their slots; `none` if one of them is not
there. -/
def takeSlots {β : Type} (slots : Array (Option β)) :
    List Nat → Option (List β × Array (Option β))
  | [] => some ([], slots)
  | place :: places =>
    match slots[place]? with
    | some (some result) =>
      (takeSlots (slots.setIfInBounds place none) places).map fun (results, slots) =>
        (result :: results, slots)
    | _ => none

section Run

variable {m : Type → Type} [Monad m] [MonadExceptOf FilterError m] {β : Type}

def runSteps (visit : Predicate → List β → m β) :
    List PlanStep → Array (Option β) → m (Array (Option β))
  | [], slots => pure slots
  | step :: steps, slots =>
    match takeSlots slots step.children with
    | none => throw (.malformed .stepTakenTwice)
    | some (results, slots) => do
      let result ← visit step.node results
      runSteps visit steps (slots.push (some result))

/-- Runs a plan. Each node is visited with the results of its members, and the result of
the last step is the result of the plan. -/
def run (plan : Plan) (visit : Predicate → List β → m β) : m β := do
  let slots ← runSteps visit plan.steps.toList #[]
  match slots.back? with
  | some (some result) => pure result
  | _ => throw (.malformed .emptyPlan)

end Run

end Plan

end RecordFilter
