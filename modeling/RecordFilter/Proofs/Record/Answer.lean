import RecordFilter.Demo
import RecordFilter.Predicate.Builder
import RecordFilter.Proofs.Predicate.PlanRun
import RecordFilter.Proofs.Record.Truth

/-!
# Answers

An answer is the set of the keys at which the predicate is true. Sets of steps leave the
flags of their nodes aside, so the invariant of a run is about the truth of a node with
its flag taken back. Whether there is an answer at all depends on the shape of the tree
and on its leaves alone.
-/

set_option autoImplicit false

namespace RecordFilter

namespace KeySet

theorem mem_filter {keys : KeySet} {test : String → Bool} {key : String} :
    key ∈ keys.filter test ↔ key ∈ keys ∧ test key = true := by
  rw [← Std.TreeSet.mem_toList, Std.TreeSet.toList_filter, List.mem_filter,
    Std.TreeSet.mem_toList]

theorem mem_ofList {keys : List String} {key : String} :
    key ∈ (Std.TreeSet.ofList keys : KeySet) ↔ key ∈ keys := by
  rw [Std.TreeSet.mem_ofList, List.contains_iff_mem]

theorem contains_eq_decide (keys : KeySet) (key : String) :
    keys.contains key = decide (key ∈ keys) := by
  by_cases member : key ∈ keys
  · rw [Std.TreeSet.contains_iff_mem.mpr member, decide_eq_true member]
  · rw [decide_eq_false member, ← Bool.not_eq_true, Std.TreeSet.contains_iff_mem]
    exact member

end KeySet

/-! ## One leaf and one value -/

namespace Leaf

theorem orderOf_eq_ok {property : String} {actual expected : Value} {actualType : ScalarType}
    {order : Option Ordering}
    (success : orderOf property actual actualType expected = .ok order) :
    order = actual.order expected := by
  unfold orderOf at success
  cases compared : actual.order expected with
  | some found =>
      rw [compared] at success
      cases success
      rfl
  | none =>
      rw [compared] at success
      dsimp only at success
      split at success
      · cases success
        rfl
      · cases success

theorem anyEqual_eq_ok {property : String} {actual : Value} {actualType : ScalarType}
    {candidates : List Value} {found : Bool}
    (success : anyEqual property actual actualType candidates = .ok found) :
    found = candidates.any fun candidate => actual.order candidate = some .eq := by
  induction candidates generalizing found with
  | nil =>
      cases success
      rfl
  | cons candidate candidates ih =>
      obtain ⟨order, compared, rest⟩ := Result.bind_eq_ok.mp success
      obtain rfl := orderOf_eq_ok compared
      by_cases equal : actual.order candidate = some .eq
      · rw [if_pos equal] at rest
        cases rest
        simp [equal]
      · rw [if_neg equal] at rest
        simp [equal, ih rest]

section Accepts

variable {leaf : Leaf} {property : String} {actual : Value} {actualType : ScalarType}

theorem accepts_oneOf (membership : leaf.comparison = .oneOf) :
    leaf.accepts property actual actualType =
      anyEqual property actual actualType leaf.values := by
  simp only [accepts, membership]

theorem accepts_like (pattern : leaf.comparison = .like) :
    leaf.accepts property actual actualType =
      match actual, leaf.value with
      | .string text, .string pattern => .ok (Text.like text pattern)
      | _, _ => .error (.typeMismatch property leaf.value actualType) := by
  unfold accepts
  split
  next membership =>
    rw [pattern] at membership
    cases membership
  next => rfl
  next other => exact absurd pattern other

theorem accepts_ordering (ordering : leaf.comparison.isOrdering = true) :
    leaf.accepts property actual actualType =
      (do
        let order ← orderOf property actual actualType leaf.value
        return order.any leaf.comparison.holds) := by
  unfold accepts
  cases comparison : leaf.comparison with
  | oneOf | like =>
      rw [comparison] at ordering
      cases ordering
  | _ =>
      apply bind_congr
      intro order
      cases order <;> rfl

theorem accepts_eq_ok {accepted : Bool}
    (success : leaf.accepts property actual actualType = .ok accepted) :
    accepted = leaf.agrees actual := by
  rcases leaf.comparison.cases_isOrdering with membership | pattern | ordering
  · rw [accepts_oneOf membership] at success
    rw [agrees_oneOf actual membership]
    exact anyEqual_eq_ok success
  · rw [accepts_like pattern] at success
    rw [agrees_like actual pattern]
    generalize leaf.value = wanted at success ⊢
    split at success
    next text wanted =>
      cases success
      rfl
    next => cases success
  · rw [accepts_ordering ordering] at success
    rw [agrees_ordering actual ordering]
    obtain ⟨order, compared, rest⟩ := Result.bind_eq_ok.mp success
    obtain rfl := orderOf_eq_ok compared
    cases rest
    rfl

end Accepts

end Leaf

/-! ## One leaf and all keys -/

namespace Population

section Select

variable {test : String → Result Bool} {truth : String → Bool}
  (exact : ∀ key tested, test key = .ok tested → tested = truth key)

include exact

theorem keep_eq_ok {keys kept : List String} (success : keep test keys = .ok kept) :
    kept = keys.filter truth := by
  induction keys generalizing kept with
  | nil =>
      cases success
      rfl
  | cons key keys ih =>
      obtain ⟨tested, found, rest⟩ := Result.bind_eq_ok.mp success
      obtain ⟨others, later, built⟩ := Result.bind_eq_ok.mp rest
      obtain rfl := exact key tested found
      cases built
      rw [List.filter_cons, ih later]

theorem mem_select {population : Population} {chosen : KeySet}
    (success : population.select test = .ok chosen) (key : String) :
    key ∈ chosen ↔ key ∈ population.keys ∧ truth key = true := by
  obtain ⟨kept, found, built⟩ := Result.bind_eq_ok.mp success
  cases built
  rw [KeySet.mem_ofList, keep_eq_ok exact found, List.mem_filter, Std.TreeSet.mem_toList]

end Select

variable {population : Population}

theorem namedKey_eq_ok {leaf : Leaf} {value : Value} {named : String}
    (success : leaf.namedKey value = .ok named) : value = .string named := by
  unfold Leaf.namedKey at success
  split at success
  · cases success
    rfl
  · cases success

theorem mapM_namedKey_eq_ok {leaf : Leaf} {values : List Value} {named : List String}
    (success : values.mapM leaf.namedKey = .ok named) : values = named.map .string := by
  have each := Result.mapM_eq_ok.mp success
  induction each with
  | nil => rfl
  | cons head _ ih =>
      rw [List.map_cons, namedKey_eq_ok head]
      congr 1
      exact ih (Result.mapM_eq_ok.mpr (by assumption))

theorem order_string_eq_iff {key named : String} :
    (Value.string key).order (.string named) = some .eq ↔ key = named := by
  rw [Value.order, Option.some_inj, Std.LawfulEqOrd.compare_eq_iff_eq]

theorem mem_keysOf {leaf : Leaf} {chosen : KeySet}
    (success : population.keysOf leaf = .ok chosen) (key : String) :
    key ∈ chosen ↔ key ∈ population.keys ∧ leaf.agrees (.string key) = true := by
  unfold keysOf at success
  split at success
  next equality =>
    obtain ⟨named, found, built⟩ := Result.bind_eq_ok.mp success
    cases built
    have ordering : leaf.comparison.isOrdering = true := by rw [equality]; rfl
    rw [KeySet.mem_filter, Leaf.agrees_ordering _ ordering, namedKey_eq_ok found, equality]
    simp [Comparison.holds, Value.order]
  next membership =>
    obtain ⟨named, found, built⟩ := Result.bind_eq_ok.mp success
    cases built
    rw [KeySet.mem_filter, Leaf.agrees_oneOf _ membership, mapM_namedKey_eq_ok found]
    simp only [Std.TreeSet.contains_iff_mem, KeySet.mem_ofList, List.any_map, List.any_eq_true,
      Function.comp_apply, decide_eq_true_eq, order_string_eq_iff, exists_eq_right']
  next => exact mem_select (fun _ _ tested => Leaf.accepts_eq_ok tested) success key

theorem fieldAccepts_eq_ok {leaf : Leaf} {property key : String} {accepted : Bool}
    (success : population.fieldAccepts leaf property key = .ok accepted) :
    accepted = ((population.record? key).bind (·.field? leaf.target property)).any fun actual =>
      !actual.isNull && leaf.agrees actual := by
  unfold fieldAccepts at success
  split at success
  next missing =>
    cases success
    rw [missing, Option.any_none]
  next actual found =>
    rw [found, Option.any_some]
    split at success
    next untyped =>
      cases success
      rw [Value.type?_eq_none_iff.mp untyped]
      rfl
    next actualType typed =>
      have present : actual.isNull = false := by
        cases actual <;> first
          | rfl
          | cases typed
      rw [present, Bool.not_false, Bool.true_and]
      exact Leaf.accepts_eq_ok success

theorem mem_leafKeys {leaf : Leaf} {chosen : KeySet}
    (success : population.leafKeys leaf = .ok chosen) (key : String) :
    key ∈ chosen ↔ key ∈ population.keys ∧ population.leafHolds leaf key = true := by
  unfold leafKeys at success
  unfold leafHolds
  cases target : leaf.target with
  | constant =>
      rw [target] at success
      obtain ⟨truth, found, built⟩ := Result.bind_eq_ok.mp success
      rw [found]
      cases truth with
      | true =>
          cases built
          simp
      | false =>
          cases built
          simp
  | key =>
      rw [target] at success
      exact mem_keysOf success key
  | value | metadata | column =>
      rw [target] at success
      cases named : leaf.property with
      | none =>
          rw [named] at success
          cases success
      | some property =>
          rw [named] at success
          have exact := mem_select (fun _ _ tested => fieldAccepts_eq_ok tested) success key
          rwa [target] at exact

/-! ## Whole predicates -/

open Predicate (IsPaired)

theorem mem_combine {connective : Connective} {left right : KeySet}
    {leftNegated rightNegated : Bool} {key : String} :
    key ∈ population.combine connective left leftNegated right rightNegated ↔
      key ∈ population.keys ∧
        connective.apply (decide (key ∈ left) ^^ leftNegated)
          (decide (key ∈ right) ^^ rightNegated) = true := by
  rw [combine, KeySet.mem_filter, holdsAt, holdsAt, KeySet.contains_eq_decide,
    KeySet.contains_eq_decide]

theorem visit_leaf (negated : Bool) (leaf : Leaf) (results : List KeySet) :
    population.visit (.leaf negated leaf) results = population.leafKeys leaf := rfl

theorem visit_pair (negated : Bool) (connective : Connective) (left right : Predicate)
    (leftKeys rightKeys : KeySet) :
    population.visit (.group negated connective [left, right]) [leftKeys, rightKeys] =
      .ok (population.combine connective leftKeys left.isNegated rightKeys right.isNegated) :=
  rfl

/-- What a set of a run leaves out is put back where the set is used. -/
theorem decide_mem_raw {raw : KeySet} {key : String} {negated truth : Bool}
    (member : key ∈ population.keys)
    (told : key ∈ raw ↔ key ∈ population.keys ∧ (negated ^^ truth) = true) :
    (decide (key ∈ raw) ^^ negated) = truth := by
  have raised : decide (key ∈ raw) = (negated ^^ truth) := by
    rw [Bool.eq_iff_iff, decide_eq_true_iff, told]
    exact and_iff_right member
  rw [raised, Bool.xor_comm, ← Bool.xor_assoc, Bool.xor_self, Bool.false_xor]

/-- The set of a step holds the keys at which its node is true, the flag of the node
taken back. -/
theorem mem_foldM_visit {p : Predicate} (paired : p.IsPaired) {raw : KeySet}
    (success : p.foldM population.visit = .ok raw) (key : String) :
    key ∈ raw ↔
      key ∈ population.keys ∧ (p.isNegated ^^ population.holds p key) = true := by
  induction paired generalizing raw with
  | @leaf negated leaf =>
      rw [Predicate.foldM_leaf, visit_leaf] at success
      rw [mem_leafKeys success key, holds_leaf, Predicate.isNegated, ← Bool.xor_assoc,
        Bool.xor_self, Bool.false_xor]
  | @pair negated connective left right _ _ leftIH rightIH =>
      rw [Predicate.foldM_pair] at success
      obtain ⟨leftKeys, leftRun, later⟩ := Result.bind_eq_ok.mp success
      obtain ⟨rightKeys, rightRun, combined⟩ := Result.bind_eq_ok.mp later
      rw [visit_pair] at combined
      cases combined
      -- the flag of the pair cancels here; those of its members are put back
      rw [mem_combine, holds_group, Predicate.isNegated, ← Bool.xor_assoc, Bool.xor_self,
        Bool.false_xor]
      apply and_congr_right
      intro member
      rw [decide_mem_raw member (leftIH leftRun), decide_mem_raw member (rightIH rightRun)]
      cases connective with
      | and => simp [Connective.apply, Connective.applyAll]
      | or => simp [Connective.apply, Connective.applyAll]

theorem check_foldM_visit {p : Predicate} (paired : p.IsPaired) :
    Result.check (p.foldM population.visit) =
      p.leaves.forM fun leaf => Result.check (population.leafKeys leaf) := by
  induction paired with
  | @leaf negated leaf =>
      rw [Predicate.foldM_leaf, visit_leaf]
      simp
  | @pair negated connective left right _ _ leftIH rightIH =>
      rw [Predicate.foldM_pair]
      simp only [Result.check_bind, visit_pair, Result.check_ok]
      simp only [Predicate.leaves_group, List.flatMap_cons, List.flatMap_nil, List.append_nil,
        List.forM_eq_forM, List.forM_append]
      simp only [List.forM_eq_forM] at leftIH rightIH
      rw [← leftIH, ← rightIH, Result.check_bind_const]
      apply bind_congr
      intro leftKeys
      cases right.foldM population.visit <;> rfl

theorem evaluate_eq (p : Predicate) :
    population.evaluate p =
      (do
        p.checkShape
        let raw ← p.normalized.foldM population.visit
        return if p.normalized.isNegated then population.keys.filter (!raw.contains ·)
          else raw) := by
  simp only [evaluate, Predicate.checkShape_normalized, runPlan, Plan.run_ofPredicate,
    Plan.isNegated_ofPredicate]

/-- Whether there is an answer, and with which error there is none, depends on the shape
of the tree and on the leaves as each of them stands alone. -/
theorem check_evaluate (p : Predicate) :
    Result.check (population.evaluate p) =
      (do
        p.checkShape
        p.leaves.forM fun leaf => Result.check (population.leafKeys leaf)) := by
  rw [evaluate_eq, Result.check_bind]
  cases shaped : p.checkShape with
  | error error => rfl
  | ok value =>
      have run : Result.check (p.normalized.foldM population.visit) = _ :=
        check_foldM_visit (Predicate.isPaired_normalized shaped)
      rw [Predicate.leaves_normalized] at run
      show Result.check (_ >>= _) = p.leaves.forM _
      rw [← run]
      cases p.normalized.foldM population.visit <;> rfl

theorem evaluate_eq_ok_iff {p : Predicate} :
    (∃ answer, population.evaluate p = .ok answer) ↔
      p.checkShape = .ok () ∧
        ∀ leaf ∈ p.leaves, ∃ chosen, population.leafKeys leaf = .ok chosen := by
  rw [← Result.check_eq_ok, check_evaluate, Result.bind_eq_ok]
  simp only [List.forM_eq_forM, Result.forM_eq_ok, Result.check_eq_ok]
  constructor
  · rintro ⟨_, shaped, leaves⟩
    exact ⟨shaped, leaves⟩
  · rintro ⟨shaped, leaves⟩
    exact ⟨(), shaped, leaves⟩

theorem mem_evaluate {p : Predicate} {answer : KeySet}
    (success : population.evaluate p = .ok answer) (key : String) :
    key ∈ answer ↔ key ∈ population.keys ∧ population.holds p key = true := by
  rw [evaluate_eq] at success
  obtain ⟨_, shaped, later⟩ := Result.bind_eq_ok.mp success
  obtain ⟨raw, run, built⟩ := Result.bind_eq_ok.mp later
  have told := mem_foldM_visit (Predicate.isPaired_normalized shaped) run key
  rw [holds_normalized] at told
  cases built
  cases negated : p.normalized.isNegated with
  | false =>
      rw [negated, Bool.false_xor] at told
      rw [if_neg Bool.false_ne_true]
      exact told
  | true =>
      rw [negated, Bool.true_xor] at told
      rw [if_pos rfl, KeySet.mem_filter, KeySet.contains_eq_decide]
      apply and_congr_right
      intro member
      simp [told, member]

/-- An answer is exact: it holds the keys at which the tree as it was written is true, and
no others; and the opposite predicate has the rest of the population for its answer. -/
theorem evaluate_exact {population : Population} {p : Predicate} {answer : KeySet}
    (success : population.evaluate p = .ok answer) :
    (∀ key, key ∈ answer ↔ key ∈ population.keys ∧ population.holds p key = true) ∧
      (∀ key ∈ answer, key ∈ population.keys) ∧
      ∃ rest, population.evaluate p.negate = .ok rest ∧
        ∀ key, key ∈ rest ↔ key ∈ population.keys ∧ key ∉ answer := by
  have told := mem_evaluate success
  obtain ⟨shaped, leaves⟩ := evaluate_eq_ok_iff.mp ⟨answer, success⟩
  have opposite : ∃ rest, population.evaluate p.negate = .ok rest := by
    apply evaluate_eq_ok_iff.mpr
    rw [Predicate.negate, Predicate.checkShape_withNegation, Predicate.leaves_withNegation]
    exact ⟨shaped, leaves⟩
  obtain ⟨rest, restRun⟩ := opposite
  refine ⟨told, fun key member => ((told key).mp member).1, rest, restRun, fun key => ?_⟩
  rw [mem_evaluate restRun key, holds_negate, told key]
  apply and_congr_right
  intro member
  simp [member]

/-- The wide inverted group is true of one of the four people; the others are the rest. -/
theorem evaluate_exact_people :
    ∃ answer rest,
      Demo.people.population.evaluate
          (.negate (.any [.atLeast "age" (.int32 45), .like "name" "gr_ce", .key "p4"])) =
        .ok answer ∧
      Demo.people.population.evaluate
          (.any [.atLeast "age" (.int32 45), .like "name" "gr_ce", .key "p4"]) =
        .ok rest ∧
      "p1" ∈ answer ∧ "p2" ∈ rest ∧ "p4" ∈ rest := by
  obtain ⟨answer, success⟩ : ∃ answer, Demo.people.population.evaluate
      (.negate (.any [.atLeast "age" (.int32 45), .like "name" "gr_ce", .key "p4"])) =
        .ok answer :=
    Result.check_eq_ok.mp (by decide +kernel)
  obtain ⟨told, _, rest, restRun, remaining⟩ := evaluate_exact success
  refine ⟨answer, rest, success, restRun, (told "p1").mpr (by decide +kernel),
    (remaining "p2").mpr ⟨by decide +kernel, ?_⟩, (remaining "p4").mpr ⟨by decide +kernel, ?_⟩⟩
  · rw [told "p2"]
    decide +kernel
  · rw [told "p4"]
    decide +kernel

end Population

end RecordFilter
