import RecordFilter.Proofs.Record.Truth
import RecordFilter.Sql.SplitComparison

/-!
# Order of split words

The two parts of a word are its quotient and its remainder, so pairs of parts are equal
and ordered as the words are. Where the two columns of a property hold the parts of a
word, the comparisons of the columns say what the comparison of the word says.
-/

set_option autoImplicit false

namespace RecordFilter

namespace Comparison

theorem holds_compare_equal (m n : Int) : equal.holds (compare m n) = decide (m = n) := by
  simp [holds]

theorem holds_compare_greater (m n : Int) : greater.holds (compare m n) = decide (n < m) := by
  simp [holds, Int.compare_eq_gt]

theorem holds_compare_greaterOrEqual (m n : Int) :
    greaterOrEqual.holds (compare m n) = decide (n ≤ m) := by
  simp [holds, Int.compare_eq_lt]

end Comparison

/-! ## Columns at a key -/

namespace Population

def cell (population : Population) (key column : String) : Option Value :=
  (population.record? key).bind (·.field? .column column)

variable {population : Population} {key column : String}

theorem holds_constant (truth : Bool) :
    population.holds (.constant truth) key = truth := by
  simp [Predicate.constant, Predicate.ofLeaf, leafHolds, Leaf.compare, Leaf.truth]

theorem holds_columnLeaf {leaf : Leaf} (target : leaf.target = .column)
    (named : leaf.property = some column) :
    population.holds (.ofLeaf leaf) key =
      (population.cell key column).any fun actual => !actual.isNull && leaf.agrees actual := by
  rw [Predicate.ofLeaf, holds_leaf, Bool.false_xor, leafHolds, target, named]
  rfl

theorem holds_all (members : List Predicate) :
    population.holds (.all members) key = members.all (population.holds · key) := by
  rw [Predicate.all, holds_group, Bool.false_xor, Connective.applyAll, List.all_map]
  rfl

theorem holds_any (members : List Predicate) :
    population.holds (.any members) key = members.any (population.holds · key) := by
  rw [Predicate.any, holds_group, Bool.false_xor, Connective.applyAll, List.any_map]
  rfl

theorem holds_column_int64 {comparison : Comparison} (ordering : comparison.isOrdering = true)
    {stored : Int64} (held : population.cell key column = some (.int64 stored)) (word : Int64) :
    population.holds (.column column comparison (.int64 word)) key =
      comparison.holds (compare stored.toInt word.toInt) := by
  rw [Predicate.column, holds_columnLeaf rfl rfl, held, Option.any_some,
    Leaf.agrees_ordering _ ordering]
  rfl

theorem holds_columnAmong_int64 {stored : Int64}
    (held : population.cell key column = some (.int64 stored)) (words : List Int64) :
    population.holds (.columnAmong column (words.map .int64)) key = decide (stored ∈ words) := by
  rw [Predicate.columnAmong, holds_columnLeaf rfl rfl, held, Option.any_some,
    Leaf.agrees_oneOf _ rfl, Bool.eq_iff_iff]
  simp [Leaf.among, Value.isNull, Value.order, Value.integer?, Int64.toInt_inj]

end Population

/-! ## Parts -/

namespace Sql

namespace SplitWord

theorem toInt_high (word : UInt64) : (ofWord word).high.toInt = word.toNat / highBit := by
  have small := word.toNat_lt
  rw [ofWord, Int64.toInt_ofNat_of_lt] <;> unfold highBit <;> omega

theorem toInt_low (word : UInt64) : (ofWord word).low.toInt = word.toNat % highBit := by
  rw [ofWord, Int64.toInt_ofNat_of_lt] <;> unfold highBit <;> omega

theorem ofWord_inj {first second : UInt64} : ofWord first = ofWord second ↔ first = second := by
  constructor
  · intro same
    have high := toInt_high first
    have low := toInt_low first
    rw [same, toInt_high] at high
    rw [same, toInt_low] at low
    rw [← UInt64.toNat_inj]
    unfold highBit at high low
    omega
  · rintro rfl
    rfl

theorem high_eq_zero_or_one (word : UInt64) :
    (ofWord word).high = 0 ∨ (ofWord word).high = 1 := by
  have small := word.toNat_lt
  have high := toInt_high word
  have zero : (0 : Int64).toInt = 0 := rfl
  have one : (1 : Int64).toInt = 1 := rfl
  rw [← Int64.toInt_inj, ← Int64.toInt_inj, zero, one, high]
  unfold highBit
  omega

/-- The low parts listed beside the high part of a word name it if it is listed. -/
theorem low_mem_iff (words : List UInt64) (stored : UInt64) :
    (ofWord stored).low ∈
        (((words.map ofWord).filter (·.high = (ofWord stored).high)).map (·.low)) ↔
      stored ∈ words := by
  rw [List.mem_map]
  constructor
  · rintro ⟨part, member, sameLow⟩
    obtain ⟨listed, sameHigh⟩ := List.mem_filter.mp member
    obtain ⟨word, wordMember, rfl⟩ := List.mem_map.mp listed
    have same : ofWord word = ofWord stored :=
      congrArg₂ mk (of_decide_eq_true sameHigh) sameLow
    rwa [← ofWord_inj.mp same]
  · intro member
    refine ⟨.ofWord stored, List.mem_filter.mpr ⟨List.mem_map_of_mem member, ?_⟩, rfl⟩
    exact decide_eq_true rfl

end SplitWord

/-! ## Comparisons of both columns -/

namespace SplitColumns

structure Hold (columns : SplitColumns) (population : Population) (key : String)
    (word : UInt64) : Prop where
  high : population.cell key columns.high = some (.int64 (SplitWord.ofWord word).high)
  low : population.cell key columns.low = some (.int64 (SplitWord.ofWord word).low)

section

variable {columns : SplitColumns} {population : Population} {key : String} {stored : UInt64}
  (held : columns.Hold population key stored)

include held

theorem holds_high {comparison : Comparison} (ordering : comparison.isOrdering = true)
    (word : UInt64) :
    population.holds (.column columns.high comparison (.int64 (SplitWord.ofWord word).high)) key =
      comparison.holds (compare (stored.toNat / highBit : Int) (word.toNat / highBit)) := by
  rw [Population.holds_column_int64 ordering held.high, SplitWord.toInt_high,
    SplitWord.toInt_high]

theorem holds_low {comparison : Comparison} (ordering : comparison.isOrdering = true)
    (word : UInt64) :
    population.holds (.column columns.low comparison (.int64 (SplitWord.ofWord word).low)) key =
      comparison.holds (compare (stored.toNat % highBit : Int) (word.toNat % highBit)) := by
  rw [Population.holds_column_int64 ordering held.low, SplitWord.toInt_low, SplitWord.toInt_low]

theorem holds_equalTo (word : UInt64) :
    population.holds (columns.equalTo (.ofWord word)) key =
      Comparison.equal.holds (compare (stored.toNat : Int) word.toNat) := by
  rw [equalTo, Population.holds_all, List.all_cons, List.all_cons, List.all_nil,
    holds_high held rfl, holds_low held rfl, Comparison.holds_compare_equal,
    Comparison.holds_compare_equal, Comparison.holds_compare_equal, Bool.eq_iff_iff]
  simp only [Bool.and_true, Bool.and_eq_true, decide_eq_true_eq]
  unfold highBit
  omega

/-- The high parts decide unless they are equal. -/
theorem holds_above {lowComparison : Comparison} (ordering : lowComparison.isOrdering = true)
    (word : UInt64) :
    population.holds (columns.above (.ofWord word) lowComparison) key =
      (decide ((word.toNat / highBit : Int) < stored.toNat / highBit) ||
        decide ((stored.toNat / highBit : Int) = word.toNat / highBit) &&
          lowComparison.holds
            (compare (stored.toNat % highBit : Int) (word.toNat % highBit))) := by
  rw [above, Population.holds_any, List.any_cons, List.any_cons, List.any_nil,
    Population.holds_all, List.all_cons, List.all_cons, List.all_nil, holds_high held rfl,
    holds_high held rfl, holds_low held ordering, Comparison.holds_compare_greater,
    Comparison.holds_compare_equal, Bool.and_true, Bool.or_false]

theorem holds_above_greater (word : UInt64) :
    population.holds (columns.above (.ofWord word) .greater) key =
      Comparison.greater.holds (compare (stored.toNat : Int) word.toNat) := by
  rw [holds_above held rfl, Comparison.holds_compare_greater, Comparison.holds_compare_greater,
    Bool.eq_iff_iff]
  simp only [Bool.or_eq_true, Bool.and_eq_true, decide_eq_true_eq]
  unfold highBit
  omega

theorem holds_above_greaterOrEqual (word : UInt64) :
    population.holds (columns.above (.ofWord word) .greaterOrEqual) key =
      Comparison.greaterOrEqual.holds (compare (stored.toNat : Int) word.toNat) := by
  rw [holds_above held rfl, Comparison.holds_compare_greaterOrEqual,
    Comparison.holds_compare_greaterOrEqual, Bool.eq_iff_iff]
  simp only [Bool.or_eq_true, Bool.and_eq_true, decide_eq_true_eq]
  unfold highBit
  omega

/-- A comparison of the parts says what the comparison of the words says. -/
theorem holds_ordered {comparison : Comparison} (ordering : comparison.isOrdering = true)
    (word : UInt64) :
    population.holds (columns.ordered comparison word) key =
      comparison.holds (compare (stored.toNat : Int) word.toNat) := by
  cases comparison with
  | equal => exact holds_equalTo held word
  | greater => exact holds_above_greater held word
  | greaterOrEqual => exact holds_above_greaterOrEqual held word
  | notEqual =>
      rw [ordered, Population.holds_negate, holds_equalTo held]
      simp [Comparison.holds]
  | less =>
      rw [ordered, Population.holds_negate, holds_above_greaterOrEqual held]
      simp [Comparison.holds]
  | lessOrEqual =>
      have opposite : columns.ordered .lessOrEqual word =
          (columns.above (.ofWord word) .greater).negate := rfl
      rw [opposite, Population.holds_negate, holds_above_greater held]
      simp [Comparison.holds]
  | oneOf => cases ordering
  | like => cases ordering

theorem holds_bucket (high : Int64) (lows : List Int64) :
    population.holds (columns.bucket high lows) key =
      (decide ((SplitWord.ofWord stored).high = high) &&
        decide ((SplitWord.ofWord stored).low ∈ lows)) := by
  unfold bucket
  split
  next none =>
    rw [Population.holds_constant, List.isEmpty_iff.mp none]
    simp
  next =>
    rw [Population.holds_all]
    rw [List.all_cons, List.all_cons, List.all_nil, Bool.and_true,
      Population.holds_column_int64 rfl held.high, Population.holds_columnAmong_int64 held.low,
      Comparison.holds_compare_equal]
    simp only [Int64.toInt_inj]

/-- The buckets of a set hold where the word is in the set. -/
theorem holds_anyOf (words : Std.TreeSet UInt64) :
    population.holds (columns.anyOf words) key = decide (stored ∈ words) := by
  have listed := SplitWord.low_mem_iff words.toList stored
  rw [anyOf, Population.holds_any, List.any_cons, List.any_cons, List.any_nil,
    holds_bucket held, holds_bucket held, Bool.or_false]
  -- the stored word belongs to one of the two buckets, and the other is false
  rcases SplitWord.high_eq_zero_or_one stored with zero | one
  · rw [zero] at listed
    simp [zero, listed]
  · rw [one] at listed
    simp [one, listed]

end

end SplitColumns

end Sql

end RecordFilter
