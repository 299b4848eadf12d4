import RecordFilter.Proofs.Record.Answer
import RecordFilter.Proofs.Value.Comparable
import RecordFilter.Sql.Typing

/-!
# Leaves that cannot fail

A leaf whose values move into the type of a property can be asked of every field that
moves into the same type: whatever the two are, they compare, or one of them is not a
number.
-/

set_option autoImplicit false

namespace RecordFilter

open Sql (Property Resolver)

theorem Value.coerce_varchar {v coerced : Value} (moved : v.coerce .varchar = some coerced) :
    ∃ text, v = .string text := by
  cases coercion_of_coerce moved with
  | string text => exact ⟨text, rfl⟩
  | instant _ _ instant => cases instant

namespace Leaf

/-! ## Checked values -/

section Checked

variable {leaf : Leaf} {property : Property}

theorem checkValue_eq_ok {v : Value} :
    checkValue property v = .ok () ↔ ∃ coerced, v.coerce property.codec.type = some coerced := by
  unfold checkValue
  cases moved : v.coerce property.codec.type with
  | none => simp
  | some coerced => simp

theorem checkAgainst_ordering (ordering : leaf.comparison.isOrdering = true) :
    leaf.checkAgainst property = checkValue property leaf.value := by
  unfold checkAgainst
  cases comparison : leaf.comparison with
  | oneOf | like =>
      rw [comparison] at ordering
      cases ordering
  | _ => rfl

theorem checkAgainst_oneOf (membership : leaf.comparison = .oneOf) :
    leaf.checkAgainst property = leaf.values.forM (checkValue property) := by
  simp only [checkAgainst, membership]

theorem checkAgainst_oneOf_eq_ok (membership : leaf.comparison = .oneOf) :
    leaf.checkAgainst property = .ok () ↔
      ∀ v ∈ leaf.values, ∃ coerced, v.coerce property.codec.type = some coerced := by
  rw [checkAgainst_oneOf membership, List.forM_eq_forM, Result.forM_eq_ok]
  simp only [checkValue_eq_ok]

theorem checkAgainst_like_eq_ok (pattern : leaf.comparison = .like) :
    leaf.checkAgainst property = .ok () ↔ property.codec.type = .varchar := by
  simp only [checkAgainst, pattern]
  split <;> simp_all

theorem checkShape_like_eq_ok (shaped : leaf.checkShape = .ok ())
    (pattern : leaf.comparison = .like) (moving : leaf.target ≠ .constant) :
    ∃ text, leaf.value = .string text := by
  unfold checkShape at shaped
  split at shaped
  next => cases shaped
  next =>
    rw [pattern] at shaped
    cases literal : leaf.value with
    | string text => exact ⟨text, rfl⟩
    | _ =>
        rw [literal] at shaped
        cases shaped

theorem checkShape_property (shaped : leaf.checkShape = .ok ())
    (needed : leaf.target.needsProperty = true) : ∃ name, leaf.property = some name := by
  unfold checkShape at shaped
  cases named : leaf.property with
  | some name => exact ⟨name, rfl⟩
  | none =>
      rw [needed, named] at shaped
      cases shaped

theorem checkShape_constant (shaped : leaf.checkShape = .ok ())
    (constant : leaf.target = .constant) : ∃ truth, leaf.truth = .ok truth := by
  unfold checkShape at shaped
  rw [constant] at shaped
  exact Result.check_eq_ok.mp shaped

end Checked

/-! ## Accepted fields -/

theorem exists_orderOf (property : String) {actual expected : Value} (actualType : ScalarType)
    (comparable : actual.Comparable expected) :
    ∃ order, orderOf property actual actualType expected = .ok order := by
  unfold orderOf
  rcases comparable with ⟨order, ordered⟩ | actualNaN | expectedNaN
  · rw [ordered]
    exact ⟨_, rfl⟩
  · cases actual.order expected with
    | some order => exact ⟨_, rfl⟩
    | none => exact ⟨none, if_pos (Bool.or_eq_true_iff.mpr (.inl actualNaN))⟩
  · cases actual.order expected with
    | some order => exact ⟨_, rfl⟩
    | none => exact ⟨none, if_pos (Bool.or_eq_true_iff.mpr (.inr expectedNaN))⟩

theorem exists_anyEqual (property : String) {actual : Value} (actualType : ScalarType)
    {candidates : List Value} (comparable : ∀ v ∈ candidates, actual.Comparable v) :
    ∃ found, anyEqual property actual actualType candidates = .ok found := by
  induction candidates with
  | nil => exact ⟨false, rfl⟩
  | cons candidate candidates ih =>
      obtain ⟨order, ordered⟩ :=
        exists_orderOf property actualType (comparable candidate List.mem_cons_self)
      obtain ⟨found, later⟩ := ih fun v member => comparable v (List.mem_cons_of_mem _ member)
      rw [anyEqual, ordered]
      by_cases equal : order = some .eq
      · exact ⟨true, if_pos equal⟩
      · exact ⟨found, (if_neg equal).trans later⟩

theorem exists_accepts {leaf : Leaf} {property : Property} {actual coerced : Value}
    (name : String) (actualType : ScalarType) (fits : leaf.checkAgainst property = .ok ())
    (shaped : leaf.comparison = .like → ∃ text, leaf.value = .string text)
    (moved : actual.coerce property.codec.type = some coerced) :
    ∃ accepted, leaf.accepts name actual actualType = .ok accepted := by
  rcases leaf.comparison.cases_isOrdering with membership | pattern | ordering
  · rw [accepts_oneOf membership]
    apply exists_anyEqual
    intro v member
    obtain ⟨_, valueMoved⟩ := (checkAgainst_oneOf_eq_ok membership).mp fits v member
    exact Value.comparable_of_coerce moved valueMoved
  · rw [(checkAgainst_like_eq_ok pattern).mp fits] at moved
    obtain ⟨text, rfl⟩ := Value.coerce_varchar moved
    obtain ⟨wanted, literal⟩ := shaped pattern
    rw [accepts_like pattern, literal]
    exact ⟨_, rfl⟩
  · rw [checkAgainst_ordering ordering] at fits
    obtain ⟨_, valueMoved⟩ := checkValue_eq_ok.mp fits
    obtain ⟨order, ordered⟩ :=
      exists_orderOf name actualType (Value.comparable_of_coerce moved valueMoved)
    rw [accepts_ordering ordering, ordered]
    exact ⟨_, rfl⟩

end Leaf

namespace Population

theorem exists_keep_iff {test : String → Result Bool} {keys : List String} :
    (∃ kept, keep test keys = .ok kept) ↔ ∀ key ∈ keys, ∃ tested, test key = .ok tested := by
  induction keys with
  | nil => exact iff_of_true ⟨[], rfl⟩ nofun
  | cons key keys ih =>
      rw [List.forall_mem_cons, ← ih]
      constructor
      · rintro ⟨kept, success⟩
        obtain ⟨tested, first, rest⟩ := Result.bind_eq_ok.mp success
        obtain ⟨others, later, _⟩ := Result.bind_eq_ok.mp rest
        exact ⟨⟨tested, first⟩, others, later⟩
      · rintro ⟨⟨tested, first⟩, others, later⟩
        rw [keep, first, later]
        exact ⟨_, rfl⟩

variable {population : Population} {leaf : Leaf}

/-- A test selects among the keys of a population if it can be made at each of them. -/
theorem exists_select_iff {test : String → Result Bool} :
    (∃ chosen, population.select test = .ok chosen) ↔
      ∀ key ∈ population.keys, ∃ tested, test key = .ok tested := by
  have kept : (∃ chosen, population.select test = .ok chosen) ↔
      ∃ kept, keep test population.keys.toList = .ok kept := by
    constructor
    · rintro ⟨chosen, success⟩
      obtain ⟨kept, found, _⟩ := Result.bind_eq_ok.mp success
      exact ⟨kept, found⟩
    · rintro ⟨kept, found⟩
      rw [select, found]
      exact ⟨_, rfl⟩
  rw [kept, exists_keep_iff]
  simp only [Std.TreeSet.mem_toList]

theorem exists_leafKeys_constant (shaped : leaf.checkShape = .ok ())
    (constant : leaf.target = .constant) : ∃ chosen, population.leafKeys leaf = .ok chosen := by
  obtain ⟨truth, carried⟩ := Leaf.checkShape_constant shaped constant
  simp only [leafKeys, constant, carried]
  cases truth with
  | true => exact ⟨_, rfl⟩
  | false => exact ⟨_, rfl⟩

theorem exists_leafKeys_key {property : Property} (shaped : leaf.checkShape = .ok ())
    (identity : leaf.target = .key) (stringly : property.codec.type = .varchar)
    (fits : leaf.checkAgainst property = .ok ()) :
    ∃ chosen, population.leafKeys leaf = .ok chosen := by
  simp only [leafKeys, identity]
  unfold keysOf
  split
  next equality =>
    have ordering : leaf.comparison.isOrdering = true := by
      rw [equality]
      rfl
    rw [Leaf.checkAgainst_ordering ordering, Leaf.checkValue_eq_ok, stringly] at fits
    obtain ⟨_, moved⟩ := fits
    obtain ⟨text, literal⟩ := Value.coerce_varchar moved
    rw [literal]
    exact ⟨_, rfl⟩
  next membership =>
    have named : ∃ named, leaf.values.mapM leaf.namedKey = .ok named := by
      have strings := (Leaf.checkAgainst_oneOf_eq_ok membership).mp fits
      rw [stringly] at strings
      apply Result.exists_mapM
      intro v member
      obtain ⟨_, moved⟩ := strings v member
      obtain ⟨text, rfl⟩ := Value.coerce_varchar moved
      exact ⟨text, rfl⟩
    obtain ⟨named, found⟩ := named
    rw [found]
    exact ⟨_, rfl⟩
  next =>
    apply exists_select_iff.mpr
    intro key member
    have moved : (Value.string key).coerce property.codec.type = some (.string key) := by
      rw [stringly]
      rfl
    refine Leaf.exists_accepts "<key>" .varchar fits (fun pattern => ?_) moved
    apply Leaf.checkShape_like_eq_ok shaped pattern
    rw [identity]
    exact nofun

theorem leafKeys_field {name : String} (addressed : leaf.target.needsProperty = true)
    (named : leaf.property = some name) :
    population.leafKeys leaf = population.select (population.fieldAccepts leaf name) := by
  unfold leafKeys
  cases target : leaf.target with
  | constant | key =>
      rw [target] at addressed
      cases addressed
  | value | metadata | column => rw [named]

/-- A leaf about a field can be asked if it fits a property that every field moves into,
the missing ones and nulls aside. -/
theorem exists_leafKeys_field {property : Property} {name : String}
    (shaped : leaf.checkShape = .ok ()) (addressed : leaf.target.needsProperty = true)
    (named : leaf.property = some name) (fits : leaf.checkAgainst property = .ok ())
    (movable : ∀ key ∈ population.keys, ∀ actual,
      (population.record? key).bind (·.field? leaf.target name) = some actual →
        actual.isNull = true ∨ ∃ coerced, actual.coerce property.codec.type = some coerced) :
    ∃ chosen, population.leafKeys leaf = .ok chosen := by
  rw [leafKeys_field addressed named]
  apply exists_select_iff.mpr
  intro key member
  unfold fieldAccepts
  split
  next => exact ⟨false, rfl⟩
  next actual found =>
    split
    next => exact ⟨false, rfl⟩
    next actualType typed =>
      rcases movable key member actual found with null | ⟨coerced, moved⟩
      · cases actual <;> cases null
        cases typed
      · refine Leaf.exists_accepts name actualType fits (fun pattern => ?_) moved
        apply Leaf.checkShape_like_eq_ok shaped pattern
        intro constant
        rw [constant] at addressed
        cases addressed

end Population

end RecordFilter
