import RecordFilter.Proofs.Sql.Lowering
import RecordFilter.Proofs.Sql.SplitOrder

/-!
# Truth of lowered leaves

A lowered leaf says of the columns what the leaf says of the field that they store. Its
own leaves are about these columns alone, and compare them with values of the types that
they hold.
-/

set_option autoImplicit false

namespace RecordFilter

open Sql (Property SplitColumns stored)

/-! ## Stored values -/

def ScalarType.stored : ScalarType → ScalarType
  | timestamp => int64
  | type => type

namespace Value

theorem type?_stored {v : Value} {type : ScalarType} (typed : v.type? = some type) :
    (stored v).type? = some type.stored := by
  cases v <;> cases typed <;> rfl

theorem isNull_stored (v : Value) : (stored v).isNull = v.isNull := by
  cases v <;> rfl

theorem order_stored {v w : Value} (same : v.type? = w.type?) :
    (stored v).order (stored w) = v.order w := by
  cases v <;> cases w <;> cases same <;> rfl

theorem order_uint64_eq_iff {first second : UInt64} :
    (uint64 first).order (uint64 second) = some .eq ↔ first = second := by
  have ordered : (uint64 first).order (uint64 second) =
      some (compare (first.toNat : Int) second.toNat) := rfl
  rw [ordered, Option.some_inj, Std.LawfulEqOrd.compare_eq_iff_eq, Int.natCast_inj,
    UInt64.toNat_inj]

/-- The columns of two values of one type compare as a value and one moved into its type. -/
theorem order_stored_coerced {v w coerced : Value} {type : ScalarType}
    (typed : v.type? = some type) (moved : w.coerce type = some coerced) :
    (stored v).order (stored coerced) = v.order w := by
  rw [order_stored (typed.trans (type?_of_coerce moved).symm), order_coerce_right typed moved]

end Value

/-! ## Leaves about one column -/

namespace Leaf

structure FitsColumn (leaf : Leaf) (column : String) (type : ScalarType) : Prop where
  target : leaf.target = .column
  named : leaf.property = some column
  shaped : leaf.checkShape = .ok ()
  fits : ∀ property : Property, property.codec.type = type → leaf.checkAgainst property = .ok ()

theorem fitsColumn_ordering {comparison : Comparison} (ordering : comparison.isOrdering = true)
    (column : String) {v : Value} {type : ScalarType} (typed : v.type? = some type) :
    (Leaf.compare .column comparison (some column) v).FitsColumn column type where
  target := rfl
  named := rfl
  shaped := by
    cases comparison <;> first
      | rfl
      | cases ordering
  fits := by
    intro property same
    rw [checkAgainst_ordering ordering, checkValue_eq_ok, same]
    exact ⟨v, Value.coerce_of_type? typed⟩

theorem fitsColumn_among (column : String) {values : List Value} {type : ScalarType}
    (typed : ∀ v ∈ values, v.type? = some type) :
    (Leaf.among .column (some column) values).FitsColumn column type where
  target := rfl
  named := rfl
  shaped := rfl
  fits := by
    intro property same
    rw [checkAgainst_oneOf_eq_ok rfl, same]
    intro v member
    exact ⟨v, Value.coerce_of_type? (typed v member)⟩

theorem fitsColumn_like (column text : String) :
    (Leaf.compare .column .like (some column) (.string text)).FitsColumn column .varchar where
  target := rfl
  named := rfl
  shaped := rfl
  fits := by
    intro property same
    exact (checkAgainst_like_eq_ok rfl).mpr same

end Leaf

theorem Population.exists_leafKeys_fitting {population : Population} {leaf : Leaf}
    {column : String} {type : ScalarType} (fitting : leaf.FitsColumn column type)
    (held : ∀ key ∈ population.keys, ∀ actual, population.cell key column = some actual →
      actual.isNull = true ∨ actual.type? = some type) :
    ∃ chosen, population.leafKeys leaf = .ok chosen := by
  have needed : leaf.target.needsProperty = true := by
    rw [fitting.target]
    rfl
  have fits := fitting.fits (.native column column column type) rfl
  apply exists_leafKeys_field fitting.shaped needed fitting.named fits
  intro key member actual found
  rw [fitting.target] at found
  rcases held key member actual found with null | typed
  · exact .inl null
  · exact .inr ⟨actual, Value.coerce_of_type? typed⟩

/-! ## Properties that are stored as they are -/

namespace Leaf

variable {leaf : Leaf} {type : ScalarType} {column : String} {lowered : Predicate}

theorem LoweredAs.exists_leaf (shape : leaf.LoweredAs type column lowered) :
    ∃ leaf', lowered = .ofLeaf leaf' ∧ leaf'.FitsColumn column type.stored := by
  cases shape with
  | ordering ordering moved =>
      have typed := Value.type?_stored (Value.type?_of_coerce moved)
      exact ⟨_, rfl, fitsColumn_ordering ordering column typed⟩
  | oneOf _ moved =>
      refine ⟨_, rfl, fitsColumn_among column ?_⟩
      intro v member
      obtain ⟨coerced, coercedMember, rfl⟩ := List.mem_map.mp member
      obtain ⟨_, _, related⟩ := Result.exists_left_of_mem moved coercedMember
      exact Value.type?_stored (Value.type?_of_coerce related)
  | like _ stringly =>
      obtain rfl := stringly
      exact ⟨_, rfl, fitsColumn_like column _⟩

theorem agrees_among_stored {v : Value} (typed : v.type? = some type) {values coerced : List Value}
    (moved : List.Forall₂ (fun w moved => w.coerce type = some moved) values coerced) :
    ((coerced.map stored).any fun c => (stored v).order c = some .eq) =
      values.any fun w => v.order w = some .eq := by
  induction moved with
  | nil => rfl
  | cons head _ ih =>
      rw [List.map_cons, List.any_cons, List.any_cons, ih, Value.order_stored_coerced typed head]

/-- A lowered leaf is true where the column holds a value that agrees with the leaf. -/
theorem LoweredAs.holds_iff (shape : leaf.LoweredAs type column lowered)
    {population : Population} {key : String} {v : Value} (typed : v.type? = some type)
    (held : population.cell key column = some (stored v)) :
    population.holds lowered key = leaf.agrees v := by
  have present : (stored v).isNull = false := by
    rw [Value.isNull_stored]
    cases v <;> first
      | rfl
      | cases typed
  cases shape with
  | @ordering coerced ordering moved =>
      have same := agrees_ordering (stored v) (show (Leaf.compare .column leaf.comparison
        (some column) (stored coerced)).comparison.isOrdering = true from ordering)
      rw [Predicate.column, Population.holds_columnLeaf rfl rfl, held, Option.any_some, present,
        agrees_ordering v ordering, same, Bool.not_false, Bool.true_and]
      exact congrArg (Option.any leaf.comparison.holds) (Value.order_stored_coerced typed moved)
  | oneOf membership moved =>
      rw [Predicate.columnAmong, Population.holds_columnLeaf rfl rfl, held, Option.any_some,
        present, agrees_oneOf _ membership, agrees_oneOf _ rfl]
      exact agrees_among_stored typed moved
  | like pattern stringly literal =>
      obtain rfl := stringly
      rw [Predicate.column, Population.holds_columnLeaf rfl rfl, held, Option.any_some, present,
        agrees_like _ pattern, agrees_like _ rfl, literal]
      cases v <;> cases typed
      rfl

theorem LoweredAs.holds_missing (shape : leaf.LoweredAs type column lowered)
    {population : Population} {key : String}
    (missing : ∀ v, population.cell key column = some v → v.isNull = true) :
    population.holds lowered key = false := by
  obtain ⟨leaf', rfl, fitting⟩ := shape.exists_leaf
  rw [Population.holds_columnLeaf fitting.target fitting.named]
  cases held : population.cell key column with
  | none => rfl
  | some v => simp [missing v held]

end Leaf

/-! ## Properties that are split -/

namespace Leaf

variable {leaf : Leaf} {columns : SplitColumns} {lowered : Predicate}

/-- A lowered leaf is true where the word that the columns hold agrees with the leaf. -/
theorem LoweredOver.holds_iff (shape : leaf.LoweredOver columns lowered)
    {population : Population} {key : String} {word : UInt64}
    (held : columns.Hold population key word) :
    population.holds lowered key = leaf.agrees (.uint64 word) := by
  cases shape with
  | ordering ordering moved =>
      rw [SplitColumns.holds_ordered held ordering, agrees_ordering _ ordering,
        ← Value.order_coerce_right rfl moved]
      rfl
  | @oneOf words membership read =>
      rw [SplitColumns.holds_anyOf held, agrees_oneOf _ membership, Bool.eq_iff_iff,
        decide_eq_true_iff, Std.TreeSet.mem_ofList, List.contains_iff_mem, List.any_eq_true]
      constructor
      · intro member
        obtain ⟨v, valueMember, moved⟩ := Result.exists_left_of_mem read member
        refine ⟨v, valueMember, decide_eq_true ?_⟩
        rw [← Value.order_coerce_right rfl moved]
        exact Value.order_uint64_eq_iff.mpr rfl
      · rintro ⟨v, valueMember, equal⟩
        obtain ⟨other, member, moved⟩ := Result.exists_right_of_mem read valueMember
        have same := of_decide_eq_true equal
        rw [← Value.order_coerce_right rfl moved, Value.order_uint64_eq_iff] at same
        rwa [same]

/-- A constant, or a comparison of one of two columns with signed words. -/
inductive IsSplit (columns : SplitColumns) : Leaf → Prop where
  | constant (truth : Bool) : IsSplit columns (.compare .constant .equal none (.boolean truth))
  | high {leaf : Leaf} : leaf.FitsColumn columns.high .int64 → IsSplit columns leaf
  | low {leaf : Leaf} : leaf.FitsColumn columns.low .int64 → IsSplit columns leaf

section Split

variable (columns)

theorem madeOf_high {comparison : Comparison} (ordering : comparison.isOrdering = true)
    (word : Int64) :
    (Predicate.column columns.high comparison (.int64 word)).MadeOf (IsSplit columns) :=
  let fitting := fitsColumn_ordering ordering columns.high rfl
  Predicate.madeOf_leaf fitting.shaped (.high fitting)

theorem madeOf_low {comparison : Comparison} (ordering : comparison.isOrdering = true)
    (word : Int64) :
    (Predicate.column columns.low comparison (.int64 word)).MadeOf (IsSplit columns) :=
  let fitting := fitsColumn_ordering ordering columns.low rfl
  Predicate.madeOf_leaf fitting.shaped (.low fitting)

theorem madeOf_above (parts : Sql.SplitWord) {comparison : Comparison}
    (ordering : comparison.isOrdering = true) :
    (columns.above parts comparison).MadeOf (IsSplit columns) :=
  Predicate.madeOf_pair (madeOf_high columns rfl parts.high)
    (Predicate.madeOf_pair (madeOf_high columns rfl parts.high)
      (madeOf_low columns ordering parts.low))

theorem madeOf_equalTo (parts : Sql.SplitWord) :
    (columns.equalTo parts).MadeOf (IsSplit columns) :=
  Predicate.madeOf_pair (madeOf_high columns rfl parts.high) (madeOf_low columns rfl parts.low)

theorem madeOf_ordered (comparison : Comparison) (word : UInt64) :
    (columns.ordered comparison word).MadeOf (IsSplit columns) := by
  unfold SplitColumns.ordered
  split
  · exact madeOf_equalTo columns _
  · exact (madeOf_equalTo columns _).withNegation true
  · exact madeOf_above columns _ rfl
  · exact madeOf_above columns _ rfl
  · exact (madeOf_above columns _ rfl).withNegation true
  · exact (madeOf_above columns _ rfl).withNegation true

theorem madeOf_bucket (high : Int64) (lows : List Int64) :
    (columns.bucket high lows).MadeOf (IsSplit columns) := by
  unfold SplitColumns.bucket
  split
  · exact Predicate.madeOf_leaf rfl (.constant false)
  · have typed : ∀ v ∈ lows.map Value.int64, v.type? = some .int64 := by
      rw [List.forall_mem_map]
      exact fun _ _ => rfl
    have fitting := fitsColumn_among columns.low typed
    exact Predicate.madeOf_pair (madeOf_high columns rfl high)
      (Predicate.madeOf_leaf fitting.shaped (.low fitting))

theorem madeOf_anyOf (words : Std.TreeSet UInt64 Ord.compare) :
    (columns.anyOf words).MadeOf (IsSplit columns) :=
  Predicate.madeOf_pair (madeOf_bucket columns 0 _) (madeOf_bucket columns 1 _)

end Split

theorem LoweredOver.madeOf (shape : leaf.LoweredOver columns lowered) :
    lowered.MadeOf (IsSplit columns) := by
  cases shape with
  | ordering => exact madeOf_ordered columns _ _
  | oneOf => exact madeOf_anyOf columns _

/-- Where every pair of columns holds the parts of a word, each leaf of a lowered leaf can
be asked. -/
theorem LoweredOver.madeOf_asked (shape : leaf.LoweredOver columns lowered)
    {population : Population}
    (held : ∀ key ∈ population.keys, ∃ word, columns.Hold population key word) :
    lowered.MadeOf fun leaf' => ∃ chosen, population.leafKeys leaf' = .ok chosen := by
  refine shape.madeOf.mono fun leaf' member => ?_
  cases member with
  | constant truth => exact Population.exists_leafKeys_constant rfl rfl
  | high fitting =>
      apply Population.exists_leafKeys_fitting fitting
      intro key member actual asked
      obtain ⟨word, hold⟩ := held key member
      rw [hold.high] at asked
      cases asked
      exact .inr rfl
  | low fitting =>
      apply Population.exists_leafKeys_fitting fitting
      intro key member actual asked
      obtain ⟨word, hold⟩ := held key member
      rw [hold.low] at asked
      cases asked
      exact .inr rfl

end Leaf

end RecordFilter
