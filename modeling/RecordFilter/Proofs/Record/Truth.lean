import RecordFilter.Proofs.Predicate.Pairing
import RecordFilter.Record.Evaluation

/-!
# Truth at a key

What a predicate says about one key, read off the tree as it was written: by recursion
over its structure, without sets, plans or a normal form. Nothing here can fail. A leaf
that makes no sense is false.
-/

set_option autoImplicit false

namespace RecordFilter

def Leaf.agrees (leaf : Leaf) (actual : Value) : Bool :=
  match leaf.comparison with
  | .oneOf => leaf.values.any fun candidate => actual.order candidate = some .eq
  | .like =>
    match actual, leaf.value with
    | .string text, .string pattern => Text.like text pattern
    | _, _ => false
  | comparison => (actual.order leaf.value).any comparison.holds

theorem Comparison.cases_isOrdering (comparison : Comparison) :
    comparison = .oneOf ∨ comparison = .like ∨ comparison.isOrdering = true := by
  cases comparison <;> simp [isOrdering]

theorem Comparison.ne_of_isOrdering {comparison : Comparison}
    (ordering : comparison.isOrdering = true) : comparison ≠ .oneOf ∧ comparison ≠ .like := by
  constructor
  · rintro rfl
    cases ordering
  · rintro rfl
    cases ordering

namespace Leaf

variable {leaf : Leaf} (actual : Value)

theorem agrees_oneOf (membership : leaf.comparison = .oneOf) :
    leaf.agrees actual = leaf.values.any fun candidate => actual.order candidate = some .eq := by
  simp only [agrees, membership]

theorem agrees_like (pattern : leaf.comparison = .like) :
    leaf.agrees actual =
      match actual, leaf.value with
      | .string text, .string pattern => Text.like text pattern
      | _, _ => false := by
  simp only [agrees, pattern]

theorem agrees_ordering (ordering : leaf.comparison.isOrdering = true) :
    leaf.agrees actual = (actual.order leaf.value).any leaf.comparison.holds := by
  unfold agrees
  cases comparison : leaf.comparison with
  | oneOf | like =>
      rw [comparison] at ordering
      cases ordering
  | _ => rfl

end Leaf

namespace Population

/-- Whether a leaf is true at a key. A field that is missing or null agrees with nothing. -/
def leafHolds (population : Population) (leaf : Leaf) (key : String) : Bool :=
  match leaf.target with
  | .constant =>
    match leaf.truth with
    | .ok truth => truth
    | .error _ => false
  | .key => leaf.agrees (.string key)
  | target =>
    match leaf.property with
    | none => false
    | some property =>
      ((population.record? key).bind (·.field? target property)).any fun actual =>
        !actual.isNull && leaf.agrees actual

theorem leafHolds_field {population : Population} {leaf : Leaf} {name key : String}
    (needed : leaf.target.needsProperty = true) (named : leaf.property = some name) :
    population.leafHolds leaf key =
      ((population.record? key).bind (·.field? leaf.target name)).any fun actual =>
        !actual.isNull && leaf.agrees actual := by
  unfold leafHolds
  cases target : leaf.target with
  | constant | key =>
      rw [target] at needed
      cases needed
  | value | metadata | column => rw [named]

def holds (population : Population) (p : Predicate) (key : String) : Bool :=
  p.fold (fun negated leaf => negated ^^ population.leafHolds leaf key)
    (fun negated connective truths => negated ^^ connective.applyAll truths)

variable (population : Population) (key : String)

@[simp] theorem holds_leaf (negated : Bool) (leaf : Leaf) :
    population.holds (.leaf negated leaf) key = (negated ^^ population.leafHolds leaf key) := by
  simp [holds]

@[simp] theorem holds_group (negated : Bool) (connective : Connective)
    (children : List Predicate) :
    population.holds (.group negated connective children) key =
      (negated ^^ connective.applyAll (children.map (population.holds · key))) := by
  simp [holds]

theorem holds_withNegation (p : Predicate) (flag : Bool) :
    population.holds (p.withNegation flag) key = (flag ^^ population.holds p key) := by
  cases p with
  | leaf negated leaf =>
      rw [Predicate.withNegation, holds_leaf, holds_leaf, ← Bool.xor_assoc, Bool.xor_comm flag]
  | group negated connective children =>
      rw [Predicate.withNegation, holds_group, holds_group, ← Bool.xor_assoc,
        Bool.xor_comm flag]

theorem holds_negate (p : Predicate) :
    population.holds p.negate key = !population.holds p key := by
  rw [Predicate.negate, holds_withNegation, Bool.true_xor]

/-- The inner pairs of a chain are not inverted, so a chain says what its group says. -/
theorem holds_normalized (p : Predicate) :
    population.holds p.normalized key = population.holds p key := by
  apply Predicate.fold_normalized
  intro negated connective first second third others
  cases connective with
  | and => simp [Connective.applyAll, Bool.and_assoc]
  | or => simp [Connective.applyAll, Bool.or_assoc]

end Population

end RecordFilter
