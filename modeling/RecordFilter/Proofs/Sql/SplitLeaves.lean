import RecordFilter.Proofs.Sql.LoweredTruth

/-!
# Lowering a leaf about a split word

A leaf about a split property can be lowered if it compares and each of its operands is an
unsigned word; if not, the error names the first operand that is none. What it becomes says
of the two columns what the leaf says of the word that they hold, and a membership test
becomes the same for every way to list the same words.
-/

set_option autoImplicit false

namespace RecordFilter

open Sql (Property SplitColumns lowerSplit lowerSplitLeaf unsignedWord)

/-! ## What a leaf says of a word -/

/-- What a comparison says of two unsigned words. Membership and patterns say nothing of
two. -/
def Comparison.relates : Comparison → UInt64 → UInt64 → Bool
  | equal, v, w => v = w
  | notEqual, v, w => v ≠ w
  | greater, v, w => w < v
  | greaterOrEqual, v, w => w ≤ v
  | less, v, w => v < w
  | lessOrEqual, v, w => v ≤ w
  | oneOf, _, _ => false
  | like, _, _ => false

namespace Leaf

/-- The values that a leaf compares with. -/
def operands (leaf : Leaf) : List Value :=
  if leaf.comparison = .oneOf then leaf.values else [leaf.value]

/-- The first operand that is no unsigned word. A pattern is none, whatever it is. -/
def offender? (leaf : Leaf) : Option Value :=
  if leaf.comparison = .like then some leaf.value
  else leaf.operands.find? fun v => (v.coerce .uint64).isNone

/-- Whether a word stands in the comparison of a leaf to the word that its operand is, or
is one of the words that its candidates are. -/
def meets (leaf : Leaf) (word : UInt64) : Bool :=
  match leaf.comparison with
  | .oneOf => leaf.values.any fun v => v.coerce .uint64 = some (.uint64 word)
  | comparison =>
    match leaf.value.coerce .uint64 with
    | some (.uint64 operand) => comparison.relates word operand
    | _ => false

end Leaf

theorem Comparison.relates_eq_holds {comparison : Comparison}
    (ordering : comparison.isOrdering = true) (v w : UInt64) :
    comparison.relates v w = comparison.holds (compare (v.toNat : Int) w.toNat) := by
  have equal : v = w ↔ (v.toNat : Int) = w.toNat := by rw [Int.natCast_inj, UInt64.toNat_inj]
  cases comparison with
  | oneOf | like => cases ordering
  | equal | notEqual => simp [relates, holds, equal]
  | greater | less | greaterOrEqual | lessOrEqual =>
      simp [relates, holds, Int.compare_eq_lt, Int.compare_eq_gt, UInt64.lt_iff_toNat_lt,
        UInt64.le_iff_toNat_le]

namespace Leaf

variable {leaf : Leaf} {property : Property} {columns : SplitColumns} {lowered : Predicate}

theorem meets_oneOf (membership : leaf.comparison = .oneOf) (word : UInt64) :
    leaf.meets word = leaf.values.any fun v => v.coerce .uint64 = some (.uint64 word) := by
  simp only [meets, membership]

theorem meets_ordering (ordering : leaf.comparison.isOrdering = true) {operand : UInt64}
    (moved : leaf.value.coerce .uint64 = some (.uint64 operand)) (word : UInt64) :
    leaf.meets word = leaf.comparison.relates word operand := by
  unfold meets
  cases comparison : leaf.comparison with
  | oneOf | like =>
      rw [comparison] at ordering
      cases ordering
  | _ => simp only [moved]

/-- The words of a membership test are those that meet it. -/
theorem mem_words_iff {words : List UInt64} (membership : leaf.comparison = .oneOf)
    (read : List.Forall₂ (fun v word => v.coerce .uint64 = some (.uint64 word)) leaf.values words)
    (word : UInt64) : word ∈ words ↔ leaf.meets word = true := by
  rw [meets_oneOf membership, List.any_eq_true]
  constructor
  · intro member
    obtain ⟨v, valueMember, moved⟩ := Result.exists_left_of_mem read member
    exact ⟨v, valueMember, decide_eq_true moved⟩
  · rintro ⟨v, valueMember, moved⟩
    obtain ⟨other, member, otherMoved⟩ := Result.exists_right_of_mem read valueMember
    rw [of_decide_eq_true moved] at otherMoved
    cases otherMoved
    exact member

theorem LoweredOver.holds_eq_meets (shape : leaf.LoweredOver columns lowered)
    {population : Population} {key : String} {word : UInt64}
    (held : columns.Hold population key word) :
    population.holds lowered key = leaf.meets word := by
  cases shape with
  | ordering ordering moved =>
      rw [SplitColumns.holds_ordered held ordering, meets_ordering ordering moved,
        Comparison.relates_eq_holds ordering]
  | @oneOf words membership read =>
      rw [SplitColumns.holds_anyOf held, Bool.eq_iff_iff, decide_eq_true_iff,
        Std.TreeSet.mem_ofList, List.contains_iff_mem, mem_words_iff membership read]

/-! ## Leaves that cannot be lowered -/

theorem unsignedWord_eq_error {name : String} {v : Value} {error : FilterError} :
    unsignedWord name v = .error error ↔
      (v.coerce .uint64).isNone = true ∧ error = .typeMismatch name v .uint64 := by
  cases moved : v.coerce .uint64 with
  | none => simp [unsignedWord, moved, eq_comm]
  | some coerced =>
      obtain ⟨word, same⟩ := exists_coerce_uint64 moved
      rw [unsignedWord_eq_ok.mpr same]
      simp

theorem exists_unsignedWord_iff {name : String} {v : Value} :
    (∃ word, unsignedWord name v = .ok word) ↔ (!(v.coerce .uint64).isNone) = true := by
  simp only [unsignedWord_eq_ok]
  constructor
  · rintro ⟨word, moved⟩
    rw [moved]
    rfl
  · intro present
    cases moved : v.coerce .uint64 with
    | none =>
        rw [moved] at present
        cases present
    | some coerced =>
        rw [← moved]
        exact exists_coerce_uint64 moved

theorem mapM_unsignedWord_eq_error {name : String} {values : List Value} {error : FilterError} :
    values.mapM (unsignedWord name) = .error error ↔
      ∃ v, values.find? (fun v => (v.coerce .uint64).isNone) = some v ∧
        error = .typeMismatch name v .uint64 := by
  rw [Result.mapM_eq_error]
  simp only [List.find?_eq_some_iff_append, exists_unsignedWord_iff, unsignedWord_eq_error]
  constructor
  · rintro ⟨before, v, after, split, words, offends, same⟩
    exact ⟨v, ⟨offends, before, after, split, words⟩, same⟩
  · rintro ⟨v, ⟨offends, before, after, split, words⟩, same⟩
    exact ⟨before, v, after, split, words, offends, same⟩

theorem lowerSplitLeaf_eq_error (listed : property.columns = [columns.high, columns.low])
    {error : FilterError} :
    lowerSplitLeaf leaf property = .error error ↔
      ∃ v, leaf.offender? = some v ∧ error = .typeMismatch property.name v .uint64 := by
  unfold offender? operands
  rcases leaf.comparison.cases_isOrdering with membership | pattern | ordering
  · rw [lowerSplitLeaf_oneOf listed membership, membership, Result.bind_eq_error, if_neg nofun,
      if_pos rfl, mapM_unsignedWord_eq_error]
    exact or_iff_left nofun
  · rw [lowerSplitLeaf_like listed pattern, if_pos pattern]
    simp [eq_comm]
  · obtain ⟨single, plain⟩ := Comparison.ne_of_isOrdering ordering
    rw [lowerSplitLeaf_ordering listed ordering, if_neg plain, if_neg single, Result.bind_eq_error,
      List.find?_singleton, unsignedWord_eq_error]
    cases moved : leaf.value.coerce .uint64 <;> simp [eq_comm, pure, Except.pure]

theorem offender?_eq_none :
    leaf.offender? = none ↔
      leaf.comparison ≠ .like ∧ ∀ v ∈ leaf.operands, (v.coerce .uint64).isSome = true := by
  unfold offender?
  by_cases pattern : leaf.comparison = .like
  · simp [pattern]
  · simp [pattern, List.find?_eq_none, Option.isSome_iff_ne_none]

theorem exists_lowerSplitLeaf_iff (listed : property.columns = [columns.high, columns.low]) :
    (∃ lowered, lowerSplitLeaf leaf property = .ok lowered) ↔
      leaf.comparison ≠ .like ∧ ∀ v ∈ leaf.operands, (v.coerce .uint64).isSome = true := by
  rw [← offender?_eq_none, Option.eq_none_iff_forall_ne_some]
  cases outcome : lowerSplitLeaf leaf property with
  | ok lowered =>
      refine iff_of_true ⟨lowered, rfl⟩ fun v offends => ?_
      have failure := (lowerSplitLeaf_eq_error listed).mpr ⟨v, offends, rfl⟩
      rw [outcome] at failure
      cases failure
  | error error =>
      obtain ⟨v, offends, _⟩ := (lowerSplitLeaf_eq_error listed).mp outcome
      exact iff_of_false nofun fun clean => clean v offends

end Leaf

namespace Sql

variable {leaf : Leaf} {property : Property} {negated : Bool}

theorem lowerSplit_eq_ok {tree : Predicate} :
    lowerSplit (.leaf negated leaf) property = .ok tree ↔
      ∃ lowered, lowerSplitLeaf leaf property = .ok lowered ∧
        tree = lowered.withNegation negated := by
  rw [lowerSplit, Result.bind_eq_ok]
  simp [pure, Except.pure, eq_comm]

theorem lowerSplit_eq_error {error : FilterError} :
    lowerSplit (.leaf negated leaf) property = .error error ↔
      lowerSplitLeaf leaf property = .error error := by
  rw [lowerSplit, Result.bind_eq_error]
  constructor
  · rintro (failure | ⟨_, _, built⟩)
    · exact failure
    · cases built
  · exact .inl

/-! ## Leaves that can be lowered -/

section Lowered

variable {columns : SplitColumns} {lowered : Predicate}

/-- The answer of a lowered leaf, where the columns hold a word at every key. -/
theorem exists_evaluate_lowered (shape : leaf.LoweredOver columns lowered)
    {population : Population} {word : String → UInt64}
    (held : ∀ key ∈ population.keys, columns.Hold population key (word key)) :
    ∃ answer, population.evaluate (lowered.withNegation negated) = .ok answer ∧
      ∀ key, key ∈ answer ↔
        key ∈ population.keys ∧ (negated ^^ leaf.meets (word key)) = true := by
  have asked := (shape.madeOf_asked fun key member => ⟨word key, held key member⟩).withNegation
    negated
  obtain ⟨answer, success⟩ := Population.evaluate_eq_ok_iff.mpr ⟨asked.shaped, asked.leaves⟩
  refine ⟨answer, success, fun key => ?_⟩
  rw [Population.mem_evaluate success, Population.holds_withNegation]
  apply and_congr_right
  intro member
  rw [shape.holds_eq_meets (held key member)]

theorem SplitColumns.anyOf_congr (columns : SplitColumns) {words others : Std.TreeSet UInt64}
    (same : ∀ word, word ∈ words ↔ word ∈ others) : columns.anyOf words = columns.anyOf others := by
  have listed : words.toList = others.toList :=
    (Std.TreeSet.Equiv.of_forall_mem_iff same).toList_eq
  rw [anyOf, anyOf, listed]

/-- What a membership test becomes depends on the words that meet it only. -/
theorem lowered_eq_of_meets (shape : leaf.LoweredOver columns lowered)
    (membership : leaf.comparison = .oneOf) {other : Leaf} {otherLowered : Predicate}
    (otherShape : other.LoweredOver columns otherLowered)
    (otherMembership : other.comparison = .oneOf)
    (same : ∀ word, leaf.meets word = other.meets word) : otherLowered = lowered := by
  cases shape with
  | ordering ordering => exact absurd membership (Comparison.ne_of_isOrdering ordering).1
  | oneOf _ read =>
      cases otherShape with
      | ordering ordering => exact absurd otherMembership (Comparison.ne_of_isOrdering ordering).1
      | oneOf _ otherRead =>
          apply SplitColumns.anyOf_congr
          intro word
          rw [Std.TreeSet.mem_ofList, List.contains_iff_mem, Std.TreeSet.mem_ofList,
            List.contains_iff_mem, Leaf.mem_words_iff otherMembership otherRead,
            Leaf.mem_words_iff membership read, same]

end Lowered

/-- Every leaf but a pattern can be lowered over two columns if its operands are unsigned
words, and an error names the first operand that is none. Of keys at which the columns hold
a word, the lowered leaf selects those whose word meets the leaf, or with its flag the
others. Two membership tests that the same words meet become the same. -/
theorem lowerSplit_exact (negated : Bool) (leaf : Leaf) (property : Property)
    (columns : SplitColumns) (listed : property.columns = [columns.high, columns.low]) :
    ((∃ lowered, lowerSplit (.leaf negated leaf) property = .ok lowered) ↔
        leaf.comparison ≠ .like ∧ ∀ v ∈ leaf.operands, (v.coerce .uint64).isSome = true) ∧
      (∀ error, lowerSplit (.leaf negated leaf) property = .error error ↔
        ∃ v, leaf.offender? = some v ∧ error = .typeMismatch property.name v .uint64) ∧
      ∀ lowered, lowerSplit (.leaf negated leaf) property = .ok lowered →
        (∀ (population : Population) (word : String → UInt64),
          (∀ key ∈ population.keys, columns.Hold population key (word key)) →
          ∃ answer, population.evaluate lowered = .ok answer ∧
            ∀ key, key ∈ answer ↔
              key ∈ population.keys ∧ (negated ^^ leaf.meets (word key)) = true) ∧
        ∀ (other : Leaf) (otherLowered : Predicate), leaf.comparison = .oneOf →
          other.comparison = .oneOf →
          lowerSplit (.leaf negated other) property = .ok otherLowered →
          (∀ word, leaf.meets word = other.meets word) → otherLowered = lowered := by
  refine ⟨?_, ?_, ?_⟩
  · rw [← Leaf.exists_lowerSplitLeaf_iff listed]
    simp [lowerSplit_eq_ok]
  · intro error
    rw [lowerSplit_eq_error, Leaf.lowerSplitLeaf_eq_error listed]
  · intro lowered success
    obtain ⟨plain, found, rfl⟩ := lowerSplit_eq_ok.mp success
    have shape := (Leaf.lowerSplitLeaf_eq_ok listed).mp found
    refine ⟨fun population word held => exists_evaluate_lowered shape held, ?_⟩
    intro other otherLowered membership otherMembership otherSuccess same
    obtain ⟨otherPlain, otherFound, rfl⟩ := lowerSplit_eq_ok.mp otherSuccess
    have otherShape := (Leaf.lowerSplitLeaf_eq_ok listed).mp otherFound
    rw [lowered_eq_of_meets shape membership otherShape otherMembership same]

/-- The two words on either side of the highest bit are told apart by an inverted comparison;
the first number that is no unsigned word is reported; and three ways to write two words are
lowered alike. -/
theorem lowerSplit_exact_balance :
    let balance : Property := .split "balance" "accounts" "balance"
    let store := Store.ofList
      [(Record.empty "a").withValue "balance_hi" (.int64 0)
        |>.withValue "balance_lo" (.int64 9223372036854775807),
        (Record.empty "b").withValue "balance_hi" (.int64 1)
        |>.withValue "balance_lo" (.int64 0)]
    let below : Leaf := .compare .value .less (some "balance") (.uint64 9223372036854775808)
    let mixed : Leaf := .among .value (some "balance") [.int32 7, .string "x", .int64 (-1)]
    let first : Leaf := .among .value (some "balance") [.int32 7, .uint64 9223372036854775808]
    let second : Leaf :=
      .among .value (some "balance") [.uint64 9223372036854775808, .int64 7, .uint64 7]
    (∃ lowered answer, lowerSplit (.leaf true below) balance = .ok lowered ∧
        store.query lowered = .ok answer ∧ "a" ∉ answer ∧ "b" ∈ answer) ∧
      lowerSplit (.leaf false mixed) balance =
        .error (.typeMismatch "balance" (.string "x") .uint64) ∧
      ∃ lowered, lowerSplit (.leaf false first) balance = .ok lowered ∧
        lowerSplit (.leaf false second) balance = .ok lowered := by
  intro balance store below mixed first second
  have listed : balance.columns = ["balance_hi", "balance_lo"] := by decide +kernel
  have exact (negated : Bool) (leaf : Leaf) :=
    lowerSplit_exact negated leaf balance ⟨"balance_hi", "balance_lo"⟩ listed
  refine ⟨?_, ?_, ?_⟩
  · obtain ⟨lowered, success⟩ := (exact true below).1.mpr (by decide +kernel)
    let word (key : String) : UInt64 :=
      if key = "a" then 9223372036854775807 else 9223372036854775808
    have keys : store.population.keys.toList = ["a", "b"] := by decide +kernel
    have held : ∀ key ∈ store.population.keys,
        SplitColumns.Hold ⟨"balance_hi", "balance_lo"⟩ store.population key (word key) := by
      intro key member
      rw [← Std.TreeSet.mem_toList, keys] at member
      rcases List.mem_pair.mp member with rfl | rfl
      · exact ⟨by decide +kernel, by decide +kernel⟩
      · exact ⟨by decide +kernel, by decide +kernel⟩
    obtain ⟨answer, asked, told⟩ := ((exact true below).2.2 lowered success).1 _ word held
    refine ⟨lowered, answer, success, asked, ?_, ?_⟩
    · rw [told "a"]
      decide +kernel
    · rw [told "b"]
      decide +kernel
  · exact ((exact false mixed).2.1 _).mpr ⟨.string "x", by decide +kernel, rfl⟩
  · obtain ⟨lowered, success⟩ := (exact false first).1.mpr (by decide +kernel)
    obtain ⟨other, otherSuccess⟩ := (exact false second).1.mpr (by decide +kernel)
    have same : ∀ word, first.meets word = second.meets word := by
      intro word
      have short : (Value.int32 7).coerce .uint64 = some (.uint64 7) := by decide +kernel
      have long : (Value.int64 7).coerce .uint64 = some (.uint64 7) := by decide +kernel
      have kept (w : UInt64) : (Value.uint64 w).coerce .uint64 = some (.uint64 w) :=
        Value.coerce_of_type? rfl
      rw [Leaf.meets_oneOf rfl, Leaf.meets_oneOf rfl]
      simp only [first, second, Leaf.among, List.any_cons, List.any_nil, short, long, kept,
        Bool.or_false, Bool.or_self]
      exact Bool.or_comm _ _
    obtain rfl := ((exact false first).2.2 lowered success).2 second other rfl rfl otherSuccess same
    exact ⟨other, success, otherSuccess⟩

end Sql

end RecordFilter
