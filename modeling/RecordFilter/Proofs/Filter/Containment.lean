import RecordFilter.Filter.Parser
import RecordFilter.Proofs.Filter.Logical
import RecordFilter.Proofs.Sql.Columns
import RecordFilter.Proofs.Sql.Rejection

/-!
# What the text of a filter can bring about

A filter that is read from a text is never malformed. Asked of records or compiled for a
collection it has a result, or it fails by a value of another type or by an unknown property;
and however it is written, its condition names no column that none of its leaves reaches.
-/

set_option autoImplicit false

namespace RecordFilter

open Sql (Compiler Dialect Property Resolver Sentence)

/-- An error says that a collection has no property of a name. -/
def FilterError.IsUnknown (error : FilterError) : Prop :=
  ∃ name target, error = .unknownProperty name target

namespace Leaf

variable {leaf : Leaf} {error : FilterError}

/-- A leaf of the right shape about records always tells what it addresses. -/
theorem isUnknown_of_resolve {resolver : Resolver} (shaped : leaf.checkShape = .ok ())
    (moving : leaf.target ≠ .constant) (logical : leaf.target ≠ .column)
    (failure : resolver.resolve leaf = .error error) : error.IsUnknown := by
  have named : leaf.target.needsProperty = true → ∃ name, leaf.property = some name :=
    checkShape_property shaped
  unfold Resolver.resolve at failure
  cases target : leaf.target with
  | constant => exact absurd target moving
  | column => exact absurd target logical
  | key =>
      rw [target] at failure
      cases failure
  | value | metadata =>
      obtain ⟨name, property⟩ := named (by rw [target]; rfl)
      rw [target, property] at failure
      dsimp only at failure
      split at failure
      next => cases failure
      next =>
        cases failure
        exact ⟨_, _, rfl⟩

theorem isMismatch_or_isUnknown_of_checkTypes {resolver : Resolver}
    (shaped : leaf.checkShape = .ok ()) (logical : leaf.target ≠ .column)
    (failure : leaf.checkTypes resolver = .error error) : error.IsMismatch ∨ error.IsUnknown := by
  unfold checkTypes at failure
  split at failure
  next => cases failure
  next kept =>
    have moving : leaf.target ≠ .constant := fun constant => kept (by simp [constant])
    rcases Result.bind_eq_error.mp failure with unresolved | ⟨property, _, unfit⟩
    · exact .inr (isUnknown_of_resolve shaped moving logical unresolved)
    · exact .inl (isMismatch_of_checkAgainst unfit)

end Leaf

section Logical

variable {p : Predicate} (logical : p.MadeOf Leaf.IsLogical)

include logical

theorem Population.evaluate_of_madeOf (population : Population) :
    (∃ answer, population.evaluate p = .ok answer) ∨
      ∃ error, population.evaluate p = .error error ∧ error.IsMismatch := by
  cases evaluated : population.evaluate p with
  | ok answer => exact .inl ⟨answer, rfl⟩
  | error error =>
      exact .inr ⟨error, rfl, isMismatch_of_evaluate logical.shaped evaluated⟩

theorem Sql.Compiler.condition_of_madeOf {schema : Schema} {dialect : Dialect}
    (builtIn : schema.IsBuiltIn) (checked : schema.checkBackend (.standard dialect) = .ok ()) :
    (∃ statement, (standard schema dialect).condition p = .ok statement) ∨
      ∃ error, (standard schema dialect).condition p = .error error ∧
        (error.IsMismatch ∨ error.IsUnknown) := by
  cases compiled : (standard schema dialect).condition p with
  | ok statement => exact .inl ⟨statement, rfl⟩
  | error error =>
      rw [← Result.check_eq_error, check_condition builtIn checked, Predicate.validate,
        logical.shaped] at compiled
      obtain ⟨leaf, member, found⟩ := Result.exists_of_forM_eq_error compiled
      refine .inr ⟨error, rfl, Leaf.isMismatch_or_isUnknown_of_checkTypes ?_ ?_ found⟩
      · exact Predicate.checkShape_of_mem_leaves logical.shaped member
      · exact logical.leaves leaf member

end Logical

/-- The tree of a filter has wide groups only and no leaf about a column. It is answered or
fails by a mismatch over any records, and it is compiled or fails by a mismatch or an unknown
property for any collection that fits its backend. The condition it is compiled to names
columns of the collection's table that its leaves reach, and no others. -/
theorem Predicate.ofText_contained {text : String} {p : Predicate}
    (read : Predicate.ofText text = .ok p) :
    (p.checkShape = .ok () ∧
        (∀ negated connective children, .group negated connective children ∈ p.nodes →
          2 ≤ children.length) ∧
        ∀ leaf ∈ p.leaves, leaf.target ≠ .column) ∧
      (∀ population : Population, (∃ answer, population.evaluate p = .ok answer) ∨
        ∃ error, population.evaluate p = .error error ∧ error.IsMismatch) ∧
      ∀ (schema : Schema) (dialect : Dialect), schema.IsBuiltIn →
        schema.checkBackend (.standard dialect) = .ok () →
          ((∃ statement, (Compiler.standard schema dialect).condition p = .ok statement) ∨
            ∃ error, (Compiler.standard schema dialect).condition p = .error error ∧
              (error.IsMismatch ∨ error.IsUnknown)) ∧
          ∀ statement, (Compiler.standard schema dialect).condition p = .ok statement →
            ∃ condition, Sentence dialect condition statement.text ∧
              (∀ other, Sentence dialect other statement.text → other = condition) ∧
                ∀ named ∈ condition.columns, named.1 = schema.table ∧
                  ∃ leaf ∈ p.leaves, schema.Reaches leaf named.2 := by
  have logical := madeOf_ofText read
  have wide (negated : Bool) (connective : Connective) (children : List Predicate)
      (member : .group negated connective children ∈ p.nodes) : 2 ≤ children.length := by
    have checked := Result.forM_eq_ok.mp logical.shaped _ member
    rw [checkNode] at checked
    split at checked
    next => cases checked
    next enough => exact Nat.le_of_not_lt enough
  refine ⟨⟨logical.shaped, wide, logical.leaves⟩,
    fun population => population.evaluate_of_madeOf logical, ?_⟩
  intro schema dialect builtIn checked
  refine ⟨Compiler.condition_of_madeOf logical builtIn checked, fun statement success => ?_⟩
  obtain ⟨condition, sentence, reaches⟩ :=
    Compiler.condition_reaches builtIn checked logical.leaves success
  exact ⟨condition, sentence, fun other otherSentence => sentence.unique otherSentence, reaches⟩

/-- A word that is split over two columns and a time among the metadata. -/
theorem Predicate.ofText_contained_people :
    ∃ p, Predicate.ofText "balance > 5 or not meta.created < 10" = .ok p ∧
      p.checkShape = .ok () ∧
      ∃ condition,
        Sentence .sqlite condition
          ("(((\"people\".\"balance_hi\" > @p0) or ((\"people\".\"balance_hi\" = @p1) and " ++
            "(\"people\".\"balance_lo\" > @p2))) or not (\"people\".\"created_at\" < @p3))") ∧
        ∀ named ∈ condition.columns, named.1 = "people" ∧
          ∃ leaf ∈ p.leaves, Demo.schema.Reaches leaf named.2 := by
  have run : (do
      let p ← Predicate.ofText "balance > 5 or not meta.created < 10"
      (Compiler.standard Demo.schema .sqlite).condition p) =
        .ok
          { text :=
              "(((\"people\".\"balance_hi\" > @p0) or ((\"people\".\"balance_hi\" = @p1) and " ++
                "(\"people\".\"balance_lo\" > @p2))) or not (\"people\".\"created_at\" < @p3))"
            parameters := [⟨"@p0", .int64 0⟩, ⟨"@p1", .int64 0⟩, ⟨"@p2", .int64 5⟩,
              ⟨"@p3", .int64 10⟩] } := by
    decide +kernel
  have checked : Demo.schema.checkBackend (.standard .sqlite) = .ok () := by decide +kernel
  obtain ⟨p, read, success⟩ := Result.bind_eq_ok.mp run
  obtain ⟨⟨shaped, _⟩, _, compiles⟩ := ofText_contained read
  obtain ⟨condition, sentence, _, reaches⟩ :=
    (compiles Demo.schema .sqlite Schema.isBuiltIn_demo checked).2 _ success
  exact ⟨p, read, shaped, condition, sentence, reaches⟩

end RecordFilter
