import RecordFilter.Proofs.Record.Faults

/-!
# Rejected predicates

The errors with which the checks of a predicate end. Each tells of a fault of the
predicate itself: none blames a codec, a backend, a plan or the name of a collection.
-/

set_option autoImplicit false

namespace RecordFilter

open Sql (Property Resolver)

/-- Whether an error tells of a fault that a predicate has by itself. -/
def Malformation.blamesPredicate : Malformation → Bool
  | groupWidth _ | missingProperty _ | notConstant _ | constantLiteral _ | constantComparison _
  | unaddressed _ => true
  | groupInEvaluation _ | groupInCondition _ _ | unresolvedLeaf _ _ | notALeaf | stepTakenTwice
  | emptyPlan => false

/-- Whether an error tells of a fault that a predicate has by itself or in view of the
properties of a collection. -/
def FilterError.blamesPredicate : FilterError → Bool
  | unknownProperty _ _ | typeMismatch _ _ _ => true
  | malformed malformation => malformation.blamesPredicate
  | missingLowering _ _ | codec _ _ | wire _ | parse _ | duplicateCollection _
  | unknownCollection _ => false

theorem FilterError.IsMismatch.blamesPredicate {error : FilterError}
    (mismatch : error.IsMismatch) : error.blamesPredicate = true := by
  obtain ⟨_, _, _, rfl⟩ := mismatch
  rfl

namespace Leaf

variable {leaf : Leaf} {error : FilterError}

theorem blamesPredicate_truth (failure : leaf.truth = .error error) :
    error.blamesPredicate = true := by
  unfold truth at failure
  split at failure
  · split at failure <;> cases failure
    rfl
  · cases failure
    rfl
  · cases failure
    rfl

theorem blamesPredicate_checkShape (failure : leaf.checkShape = .error error) :
    error.blamesPredicate = true := by
  unfold checkShape at failure
  split at failure
  · cases failure
    rfl
  · split at failure
    · cases decided : leaf.truth with
      | ok truth =>
          rw [decided] at failure
          cases failure
      | error found =>
          rw [decided] at failure
          cases failure
          exact blamesPredicate_truth decided
    · split at failure
      · cases failure
        rfl
      · cases failure

theorem isMismatch_of_checkValue {property : Property} {v : Value}
    (failure : checkValue property v = .error error) : error.IsMismatch := by
  unfold checkValue at failure
  split at failure
  next => cases failure
  next =>
    cases failure
    exact ⟨_, _, _, rfl⟩

theorem isMismatch_of_checkAgainst {property : Property}
    (failure : leaf.checkAgainst property = .error error) : error.IsMismatch := by
  unfold checkAgainst at failure
  split at failure
  next =>
    obtain ⟨v, _, found⟩ := Result.exists_of_forM_eq_error failure
    exact isMismatch_of_checkValue found
  next =>
    split at failure
    next => cases failure
    next =>
      cases failure
      exact ⟨_, _, _, rfl⟩
  next => exact isMismatch_of_checkValue failure

theorem blamesPredicate_resolve {resolver : Resolver}
    (failure : resolver.resolve leaf = .error error) : error.blamesPredicate = true := by
  unfold Resolver.resolve at failure
  split at failure
  · cases failure
  · split at failure <;> cases failure
    rfl
  · split at failure <;> cases failure
    rfl
  · cases failure
    rfl

theorem blamesPredicate_checkTypes {resolver : Resolver}
    (failure : leaf.checkTypes resolver = .error error) : error.blamesPredicate = true := by
  unfold checkTypes at failure
  split at failure
  · cases failure
  · rcases Result.bind_eq_error.mp failure with unresolved | ⟨property, _, unfit⟩
    · exact blamesPredicate_resolve unresolved
    · exact (isMismatch_of_checkAgainst unfit).blamesPredicate

end Leaf

namespace Predicate

variable {p : Predicate} {error : FilterError}

theorem blamesPredicate_checkShape (failure : p.checkShape = .error error) :
    error.blamesPredicate = true := by
  obtain ⟨node, _, found⟩ := Result.exists_of_forM_eq_error failure
  cases node with
  | leaf negated l => exact Leaf.blamesPredicate_checkShape found
  | group negated connective children =>
      rw [checkNode] at found
      split at found
      · cases found
        rfl
      · cases found

theorem blamesPredicate_validate {resolver : Resolver}
    (failure : p.validate resolver = .error error) : error.blamesPredicate = true := by
  rcases Result.bind_eq_error.mp failure with misshaped | ⟨_, _, mistyped⟩
  · exact blamesPredicate_checkShape misshaped
  · obtain ⟨leaf, _, found⟩ := Result.exists_of_forM_eq_error mistyped
    exact Leaf.blamesPredicate_checkTypes found

theorem blamesPredicate_of_check {α : Type} {outcome : Result α} {resolver : Resolver}
    (same : Result.check outcome = p.validate resolver) (failure : outcome = .error error) :
    error.blamesPredicate = true := by
  rw [failure] at same
  exact blamesPredicate_validate same.symm

end Predicate

end RecordFilter
