import RecordFilter.Proofs.Filter.Soundness
import RecordFilter.Proofs.Predicate.Pairing

/-!
# What filters can say

A filter denotes a tree of the right shape about keys, metadata, fields and constants. It
has no words for columns, which come into a tree by lowering only.
-/

set_option autoImplicit false

namespace RecordFilter

/-- A leaf about records, not about the table that stores them. -/
def Leaf.IsLogical (leaf : Leaf) : Prop :=
  leaf.target ≠ .column

namespace Filter

open Predicate (MadeOf madeOf_leaf madeOf_group)

variable {tokens : List Token} {p : Predicate}

theorem DerivesTarget.madeOf {subject : Subject} (derived : DerivesTarget tokens subject)
    {leaf : Leaf} (target : leaf.target = subject.target)
    (named : leaf.property = subject.property)
    (pattern : leaf.comparison = .like → leaf.value.text?.isNone = false) (negated : Bool) :
    (Predicate.leaf negated leaf).MadeOf Leaf.IsLogical := by
  have addressed : (leaf.target.needsProperty && leaf.property.isNone) = false := by
    rw [target, named]
    cases derived <;> rfl
  have known : leaf.target ≠ .constant ∧ leaf.IsLogical := by
    rw [Leaf.IsLogical, target]
    cases derived <;> exact ⟨nofun, nofun⟩
  have readable : (decide (leaf.comparison = .like) && leaf.value.text?.isNone) = false := by
    by_cases like : leaf.comparison = .like
    · rw [pattern like, Bool.and_false]
    · rw [decide_eq_false like, Bool.false_and]
  refine madeOf_leaf ?_ known.2
  simp only [Leaf.checkShape, addressed, readable, known.1, Bool.false_eq_true, ↓reduceIte]

theorem isOrdering_of_comparison? {sign : Symbol} {comparison : Comparison}
    (found : comparison? sign = some comparison) : comparison.isOrdering = true := by
  cases sign <;> cases found <;> rfl

theorem DerivesComparison.madeOf (derived : DerivesComparison tokens p) :
    p.MadeOf Leaf.IsLogical := by
  cases derived with
  | @ordering _ _ _ _ comparison _ subject found literal =>
      refine subject.madeOf rfl rfl ?_ false
      intro like
      have ordering := isOrdering_of_comparison? found
      rw [show comparison = .like from like] at ordering
      cases ordering
  | among subject values => exact subject.madeOf rfl rfl (fun like => by cases like) _
  | like subject => exact subject.madeOf rfl rfl (fun _ => rfl) _

theorem madeOf_grouped {kind : Leaf → Prop} {connective : Connective} {first : Predicate}
    {rest : List Predicate} (each : ∀ operand ∈ first :: rest, operand.MadeOf kind) :
    (grouped connective first rest).MadeOf kind := by
  cases rest with
  | nil => exact each first List.mem_cons_self
  | cons second rest => exact madeOf_group (by simp) each

theorem Derives.madeOf {nonterminal : Nonterminal} (derived : Derives nonterminal tokens p) :
    p.MadeOf Leaf.IsLogical := by
  induction derived with
  | or _ ih | and _ ih =>
      apply madeOf_grouped
      rw [List.forall_mem_cons, List.forall_mem_map] at *
      exact ⟨ih.1, ih.2⟩
  | inverted _ ih => exact ih.withNegation true
  | plain _ ih | parenthesized _ ih => exact ih
  | always | never => exact madeOf_leaf rfl nofun
  | comparison derived => exact derived.madeOf

end Filter

/-- The tree of a filter has the right shape, and none of its leaves is about a column. -/
theorem Predicate.madeOf_ofText {text : String} {p : Predicate}
    (read : Predicate.ofText text = .ok p) : p.MadeOf Leaf.IsLogical := by
  obtain ⟨stop, _, parsed⟩ := Result.bind_eq_ok.mp (Result.mapError_eq_ok.mp read)
  exact (Filter.derives_of_parseTokens parsed).madeOf

end RecordFilter
