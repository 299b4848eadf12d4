import RecordFilter.Proofs.Sql.LoweredTruth
import RecordFilter.Proofs.Sql.Rendering

/-!
# Compilation succeeds

Whether a statement can be made is decided by the checks alone: for a schema with built-in
codecs that fits the backend, lowering and rendering never fail after them.
-/

set_option autoImplicit false

namespace RecordFilter

open Sql (Bindings Dialect Fragments Statement)

namespace Sql.Compiler

/-! ## Rendering -/

/-- A leaf that is left after lowering: a constant, or a leaf about a column. -/
def IsPhysical (leaf : Leaf) : Prop :=
  leaf.target = .constant ∨ leaf.target = .column

section Render

variable (compiler : Compiler)

theorem exists_leafCondition {leaf : Leaf} (shaped : leaf.checkShape = .ok ())
    (physical : IsPhysical leaf) (before : Bindings) :
    ∃ text after, (compiler.leafCondition leaf).run before = .ok (text, after) := by
  unfold leafCondition
  rcases physical with constant | target
  · obtain ⟨truth, carried⟩ := Leaf.checkShape_constant shaped constant
    simp only [constant, carried]
    exact ⟨_, _, rfl⟩
  · have needed : leaf.target.needsProperty = true := by
      rw [target]
      rfl
    obtain ⟨column, named⟩ := Leaf.checkShape_property shaped needed
    simp only [target, named]
    unfold columnCondition
    split
    · split
      · exact ⟨_, _, rfl⟩
      · exact ⟨_, _, run_bind_eq_ok.mpr ⟨_, _, run_mapM_bindValue leaf.values before, rfl⟩⟩
    · exact ⟨_, _, rfl⟩

theorem exists_renderNode {p : Predicate} (paired : p.IsPaired) (physical : p.MadeOf IsPhysical)
    (before : Bindings) :
    ∃ fragments after, (p.foldM compiler.renderNode).run before = .ok (fragments, after) := by
  induction paired generalizing before with
  | @leaf negated leaf =>
      have member : leaf ∈ (Predicate.leaf negated leaf).leaves := by simp
      obtain ⟨text, after, rendered⟩ := exists_leafCondition compiler
        (Predicate.checkShape_of_mem_leaves physical.shaped member)
        (physical.leaves leaf member) before
      rw [Predicate.foldM_leaf]
      refine ⟨_, after, run_bind_eq_ok.mpr ⟨.single text, after, ?_, rfl⟩⟩
      rw [map_eq_pure_bind]
      exact run_bind_eq_ok.mpr ⟨text, after, rendered, rfl⟩
  | @pair negated connective left right _ _ leftIH rightIH =>
      obtain ⟨leftPhysical, rightPhysical⟩ := Predicate.madeOf_pair_iff.mp physical
      obtain ⟨leftText, middle, leftRun⟩ := leftIH leftPhysical before
      obtain ⟨rightText, after, rightRun⟩ := rightIH rightPhysical middle
      rw [Predicate.foldM_pair]
      exact ⟨_, after, run_bind_eq_ok.mpr ⟨leftText, middle, leftRun,
        run_bind_eq_ok.mpr ⟨rightText, after, rightRun, rfl⟩⟩⟩

theorem exists_render {p : Predicate} (paired : p.IsPaired) (physical : p.MadeOf IsPhysical) :
    ∃ statement, compiler.render p = .ok statement := by
  obtain ⟨fragments, after, run⟩ :=
    exists_renderNode compiler paired physical (.empty compiler.backend.dialect.marker)
  refine ⟨{ text := fragments.text, parameters := after.bound.toList }, ?_⟩
  rw [render, Plan.run_ofPredicate]
  exact Result.bind_eq_ok.mpr ⟨_, run, rfl⟩

end Render

/-! ## Lowering -/

theorem madeOf_physical {resolver : Resolver} {leaf : Leaf} {lowered : Predicate}
    (shaped : leaf.checkShape = .ok ()) (shape : leaf.Lowered resolver lowered) :
    lowered.MadeOf IsPhysical := by
  cases shape with
  | unchanged kept => exact Predicate.madeOf_leaf shaped kept
  | stored _ _ shape =>
      obtain ⟨leaf', rfl, fitting⟩ := shape.exists_leaf
      exact Predicate.madeOf_leaf fitting.shaped (.inr fitting.target)
  | split _ _ shape =>
      refine shape.madeOf.mono fun leaf' member => ?_
      cases member with
      | constant => exact .inl rfl
      | high fitting => exact .inr fitting.target
      | low fitting => exact .inr fitting.target

variable {schema : Schema} {dialect : Dialect}

theorem exists_condition (builtIn : schema.IsBuiltIn)
    (checked : schema.checkBackend (.standard dialect) = .ok ()) {p : Predicate}
    (valid : p.validate schema.resolver = .ok ()) :
    ∃ statement, (standard schema dialect).condition p = .ok statement := by
  have normalValid : p.normalized.validate schema.resolver = .ok () :=
    Predicate.validate_normalized.trans valid
  obtain ⟨physical, lowered, made⟩ := exists_lower_of_valid
    (fun _ lowered => lowered.MadeOf IsPhysical) builtIn checked normalValid
    (fun negated leaf _ shaped lowered shape =>
      (madeOf_physical shaped shape).withNegation negated)
    (fun negated connective children lowered wide each =>
      Predicate.madeOf_group (by rwa [← each.length_eq]) fun member found =>
        let ⟨_, _, made⟩ := Result.exists_left_of_mem each found
        made)
  obtain ⟨statement, rendered⟩ : ∃ statement,
      (standard schema dialect).render physical.normalized = .ok statement :=
    exists_render _ (Predicate.isPaired_normalized made.shaped) made.normalized
  refine ⟨statement, ?_⟩
  have resolver : (standard schema dialect).resolver = schema.resolver := rfl
  unfold condition
  rw [resolver]
  dsimp only
  rw [normalValid]
  show (lower _ _ >>= _) = _
  rw [lowered]
  exact rendered

/-- A condition fails as the checks do, and does not fail if they pass. -/
theorem check_condition (builtIn : schema.IsBuiltIn)
    (checked : schema.checkBackend (.standard dialect) = .ok ()) (p : Predicate) :
    Result.check ((standard schema dialect).condition p) = p.validate schema.resolver := by
  cases valid : p.validate schema.resolver with
  | ok value =>
      obtain ⟨statement, success⟩ := exists_condition builtIn checked valid
      rw [success]
      rfl
  | error error =>
      have normalValid : p.normalized.validate schema.resolver = .error error :=
        Predicate.validate_normalized.trans valid
      have resolver : (standard schema dialect).resolver = schema.resolver := rfl
      unfold condition
      rw [resolver]
      dsimp only
      rw [normalValid]
      rfl

theorem check_whereClause (builtIn : schema.IsBuiltIn)
    (checked : schema.checkBackend (.standard dialect) = .ok ()) (p : Predicate) :
    Result.check ((standard schema dialect).whereClause p) = p.validate schema.resolver := by
  rw [whereClause, Result.check_bind_pure, check_condition builtIn checked]

theorem check_selectKeys (builtIn : schema.IsBuiltIn)
    (checked : schema.checkBackend (.standard dialect) = .ok ()) (p : Predicate) :
    Result.check ((standard schema dialect).selectKeys p) = p.validate schema.resolver := by
  have identity : (standard schema dialect).keyColumn = .ok schema.keyColumn := rfl
  rw [selectKeys, identity]
  exact (Result.check_bind_pure _ _).trans (check_whereClause builtIn checked p)

theorem check_delete (builtIn : schema.IsBuiltIn)
    (checked : schema.checkBackend (.standard dialect) = .ok ()) (p : Predicate) :
    Result.check ((standard schema dialect).delete p) = p.validate schema.resolver := by
  rw [delete, Result.check_bind_pure, check_whereClause builtIn checked]

end Sql.Compiler

end RecordFilter
