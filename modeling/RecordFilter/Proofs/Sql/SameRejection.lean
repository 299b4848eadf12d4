import RecordFilter.Proofs.Sql.Lowering
import RecordFilter.Schema.Query

/-!
# Rejection before and after pairing

A query is checked as it was asked, and a condition is made from the normal form of the same
predicate after that was checked. Both checks find the same faults in the same order, so they
reject the same predicates with the same error.
-/

set_option autoImplicit false

namespace RecordFilter.Predicate

/-- All leaves that do not fit the properties of a collection, from left to right. -/
def typeErrors (p : Predicate) (resolver : Sql.Resolver) : List FilterError :=
  Result.errors p.leaves fun leaf => leaf.checkTypes resolver

/-- The checks report the first fault of shape, and the first leaf that does not fit where
the shape is right. -/
theorem validate_eq_report (p : Predicate) (resolver : Sql.Resolver) :
    p.validate resolver = Result.report (p.shapeErrors ++ p.typeErrors resolver) := by
  rw [Result.report_append, ← checkShape_eq_report, typeErrors, ← Result.forM_eq_report]
  rfl

theorem typeErrors_normalized (p : Predicate) (resolver : Sql.Resolver) :
    p.normalized.typeErrors resolver = p.typeErrors resolver := by
  rw [typeErrors, leaves_normalized, typeErrors]

/-- The checks cannot tell a predicate from its normal form, however many faults it has. A
query over a store and a condition on a backend are guarded by one and the same outcome. -/
theorem rejected_alike (p : Predicate) (compiler : Sql.Compiler) (store : Store) :
    p.normalized.checkShape = p.checkShape ∧
      p.normalized.validate compiler.resolver = p.validate compiler.resolver ∧
      p.normalized.shapeErrors = p.shapeErrors ∧
      p.normalized.typeErrors compiler.resolver = p.typeErrors compiler.resolver ∧
      p.validate compiler.resolver =
        Result.report (p.shapeErrors ++ p.typeErrors compiler.resolver) ∧
      store.queryChecked p compiler.resolver =
        (do
          p.validate compiler.resolver
          store.query p) ∧
      compiler.condition p =
        (do
          p.validate compiler.resolver
          let physical ← compiler.lower p.normalized
          compiler.render physical.normalized) := by
  refine ⟨checkShape_normalized p, validate_normalized, shapeErrors_normalized p,
    typeErrors_normalized p compiler.resolver, validate_eq_report p compiler.resolver, rfl, ?_⟩
  rw [Sql.Compiler.condition]
  rw [validate_normalized]

end RecordFilter.Predicate
