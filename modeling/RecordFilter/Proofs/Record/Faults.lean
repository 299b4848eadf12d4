import RecordFilter.Demo
import RecordFilter.Predicate.Builder
import RecordFilter.Proofs.Record.Acceptance

/-!
# Faults of an evaluation

A predicate without an answer has either a fault of shape or a leaf that fails by itself.
The shape is looked at first, then the leaves from left to right, each over the whole
population: how they are joined, nested and inverted neither hides a fault nor makes one.
What a run of a plan could object to never comes about.
-/

set_option autoImplicit false

namespace RecordFilter

/-! ## Faults of plans -/

/-- What a run objects to in a plan, as opposed to what a check objects to in a predicate. -/
def Malformation.isOfPlan : Malformation → Bool
  | .groupInEvaluation _ | .stepTakenTwice | .emptyPlan => true
  | _ => false

def FilterError.isOfPlan : FilterError → Bool
  | .malformed malformation => malformation.isOfPlan
  | _ => false

theorem Leaf.isOfPlan_of_truth {leaf : Leaf} {error : FilterError}
    (failure : leaf.truth = .error error) : error.isOfPlan = false := by
  unfold truth at failure
  split at failure
  next =>
    split at failure
    next => cases failure
    next => cases failure
    next =>
      cases failure
      rfl
  next =>
    cases failure
    rfl
  next =>
    cases failure
    rfl

theorem Leaf.isOfPlan_of_checkShape {leaf : Leaf} {error : FilterError}
    (failure : leaf.checkShape = .error error) : error.isOfPlan = false := by
  unfold checkShape at failure
  split at failure
  next =>
    cases failure
    rfl
  next =>
    split at failure
    next => exact isOfPlan_of_truth (Result.check_eq_error.mp failure)
    next =>
      split at failure
      next =>
        cases failure
        rfl
      next => cases failure

theorem Predicate.isOfPlan_of_checkShape {p : Predicate} {error : FilterError}
    (failure : p.checkShape = .error error) : error.isOfPlan = false := by
  obtain ⟨node, _, found⟩ := Result.exists_of_forM_eq_error failure
  cases node with
  | leaf negated leaf => exact leaf.isOfPlan_of_checkShape found
  | group negated connective children =>
      rw [checkNode] at found
      split at found
      next =>
        cases found
        rfl
      next => cases found

/-! ## Faults of scans -/

/-- An error says that a value and a field do not compare. -/
def FilterError.IsMismatch (error : FilterError) : Prop :=
  ∃ property value expected, error = .typeMismatch property value expected

theorem FilterError.IsMismatch.isOfPlan {error : FilterError} (mismatch : error.IsMismatch) :
    error.isOfPlan = false := by
  obtain ⟨_, _, _, rfl⟩ := mismatch
  rfl

namespace Leaf

variable {leaf : Leaf} {property : String} {actual : Value} {actualType : ScalarType}
  {error : FilterError}

theorem isMismatch_of_orderOf {expected : Value}
    (failure : orderOf property actual actualType expected = .error error) :
    error.IsMismatch := by
  unfold orderOf at failure
  split at failure
  next => cases failure
  next =>
    split at failure
    next => cases failure
    next =>
      cases failure
      exact ⟨_, _, _, rfl⟩

theorem isMismatch_of_anyEqual {candidates : List Value}
    (failure : anyEqual property actual actualType candidates = .error error) :
    error.IsMismatch := by
  induction candidates with
  | nil => cases failure
  | cons candidate candidates ih =>
      rcases Result.bind_eq_error.mp failure with first | ⟨order, _, later⟩
      · exact isMismatch_of_orderOf first
      · by_cases equal : order = some .eq
        · rw [if_pos equal] at later
          cases later
        · rw [if_neg equal] at later
          exact ih later

theorem isMismatch_of_accepts (failure : leaf.accepts property actual actualType = .error error) :
    error.IsMismatch := by
  rcases leaf.comparison.cases_isOrdering with membership | pattern | ordering
  · rw [accepts_oneOf membership] at failure
    exact isMismatch_of_anyEqual failure
  · rw [accepts_like pattern] at failure
    split at failure
    next => cases failure
    next =>
      cases failure
      exact ⟨_, _, _, rfl⟩
  · rw [accepts_ordering ordering] at failure
    rcases Result.bind_eq_error.mp failure with compared | ⟨_, _, later⟩
    · exact isMismatch_of_orderOf compared
    · cases later

theorem isMismatch_of_namedKey {value : Value} (failure : leaf.namedKey value = .error error) :
    error.IsMismatch := by
  unfold namedKey at failure
  split at failure
  next => cases failure
  next =>
    cases failure
    exact ⟨_, _, _, rfl⟩

end Leaf

namespace Population

variable {population : Population} {leaf : Leaf} {error : FilterError}

theorem exists_of_keep_eq_error {test : String → Result Bool} {keys : List String}
    (failure : keep test keys = .error error) : ∃ key, test key = .error error := by
  induction keys with
  | nil => cases failure
  | cons key keys ih =>
      rcases Result.bind_eq_error.mp failure with first | ⟨_, _, later⟩
      · exact ⟨key, first⟩
      · rcases Result.bind_eq_error.mp later with others | ⟨_, _, built⟩
        · exact ih others
        · cases built

theorem exists_of_select_eq_error {test : String → Result Bool}
    (failure : population.select test = .error error) : ∃ key, test key = .error error := by
  rcases Result.bind_eq_error.mp failure with kept | ⟨_, _, built⟩
  · exact exists_of_keep_eq_error kept
  · cases built

theorem isMismatch_of_keysOf (failure : population.keysOf leaf = .error error) :
    error.IsMismatch := by
  unfold keysOf at failure
  split at failure
  next =>
    rcases Result.bind_eq_error.mp failure with named | ⟨_, _, built⟩
    · exact Leaf.isMismatch_of_namedKey named
    · cases built
  next =>
    rcases Result.bind_eq_error.mp failure with named | ⟨_, _, built⟩
    · obtain ⟨_, value, _, _, _, found⟩ := Result.mapM_eq_error.mp named
      exact Leaf.isMismatch_of_namedKey found
    · cases built
  next =>
    obtain ⟨key, found⟩ := exists_of_select_eq_error failure
    exact Leaf.isMismatch_of_accepts found

theorem isMismatch_of_fieldAccepts {property key : String}
    (failure : population.fieldAccepts leaf property key = .error error) :
    error.IsMismatch := by
  unfold fieldAccepts at failure
  split at failure
  next => cases failure
  next =>
    split at failure
    next => cases failure
    next => exact Leaf.isMismatch_of_accepts failure

/-- A leaf of the right shape can only fail by a value that does not compare with a field. -/
theorem isMismatch_of_leafKeys (shaped : leaf.checkShape = .ok ())
    (failure : population.leafKeys leaf = .error error) : error.IsMismatch := by
  unfold leafKeys at failure
  cases target : leaf.target with
  | constant =>
      obtain ⟨truth, carried⟩ := Leaf.checkShape_constant shaped target
      rw [target, carried] at failure
      cases truth <;> cases failure
  | key =>
      rw [target] at failure
      exact isMismatch_of_keysOf failure
  | value | metadata | column =>
      obtain ⟨name, named⟩ := Leaf.checkShape_property shaped (by rw [target]; rfl)
      rw [target, named] at failure
      obtain ⟨key, found⟩ := exists_of_select_eq_error failure
      exact isMismatch_of_fieldAccepts found

/-! ## Faults of predicates -/

theorem check_evaluate_ofLeaf (shaped : leaf.checkShape = .ok ()) :
    Result.check (population.evaluate (.ofLeaf leaf)) = Result.check (population.leafKeys leaf) := by
  rw [check_evaluate, Predicate.ofLeaf, Predicate.checkShape_leaf, Predicate.leaves_leaf, shaped]
  show (forM [leaf] fun leaf => Result.check (population.leafKeys leaf)) = _
  rw [List.forM_cons, List.forM_nil]
  exact bind_pure _

theorem evaluate_of_checkShape_eq_error {p : Predicate} (failure : p.checkShape = .error error) :
    population.evaluate p = .error error := by
  rw [evaluate_eq, failure]
  rfl

/-- Behind the shape check, an evaluation fails as the evaluations of the leaves do, one
after the other. -/
theorem check_evaluate_of_checkShape {p : Predicate} (shaped : p.checkShape = .ok ()) :
    Result.check (population.evaluate p) =
      forM p.leaves fun leaf => Result.check (population.evaluate (.ofLeaf leaf)) := by
  rw [check_evaluate, shaped]
  show (forM p.leaves fun leaf => Result.check (population.leafKeys leaf)) = _
  apply Result.forM_congr
  intro leaf member
  exact (check_evaluate_ofLeaf (Predicate.checkShape_of_mem_leaves shaped member)).symm

theorem evaluate_eq_error_iff {p : Predicate} (shaped : p.checkShape = .ok ()) :
    population.evaluate p = .error error ↔
      ∃ before leaf after, p.leaves = before ++ leaf :: after ∧
        (∀ earlier ∈ before, ∃ chosen, population.evaluate (.ofLeaf earlier) = .ok chosen) ∧
        population.evaluate (.ofLeaf leaf) = .error error := by
  rw [← Result.check_eq_error, check_evaluate_of_checkShape shaped, Result.forM_eq_error]
  simp only [Result.check_eq_ok, Result.check_eq_error]

theorem exists_evaluate_eq_error_iff {p : Predicate} (shaped : p.checkShape = .ok ()) :
    (∃ error, population.evaluate p = .error error) ↔
      ∃ leaf ∈ p.leaves, ∃ error, population.evaluate (.ofLeaf leaf) = .error error := by
  have alike : (∃ error, Result.check (population.evaluate p) = .error error) ↔
      ∃ leaf ∈ p.leaves, ∃ error,
        Result.check (population.evaluate (.ofLeaf leaf)) = .error error := by
    rw [check_evaluate_of_checkShape shaped]
    exact Result.exists_forM_eq_error_iff
  simpa only [Result.check_eq_error] using alike

theorem isMismatch_of_evaluate {p : Predicate} (shaped : p.checkShape = .ok ())
    (failure : population.evaluate p = .error error) : error.IsMismatch := by
  rw [← Result.check_eq_error, check_evaluate, shaped] at failure
  obtain ⟨leaf, member, found⟩ := Result.exists_of_forM_eq_error failure
  have leafShaped := Predicate.checkShape_of_mem_leaves shaped member
  exact isMismatch_of_leafKeys leafShaped (Result.check_eq_error.mp found)

/-- An evaluation fails with a fault of shape or by a value that does not compare. -/
theorem isOfPlan_of_evaluate {p : Predicate} (failure : population.evaluate p = .error error) :
    error.isOfPlan = false := by
  cases shaped : p.checkShape with
  | error fault =>
      rw [evaluate_of_checkShape_eq_error shaped] at failure
      cases failure
      exact Predicate.isOfPlan_of_checkShape shaped
  | ok value => exact (isMismatch_of_evaluate shaped failure).isOfPlan

/-- A fault of shape is the error of the evaluation. Behind the shape check, the evaluation
fails exactly if a leaf fails that is evaluated alone, and with the error of the first such
leaf, so trees with the same leaves fail alike. No evaluation meets a fault of its plan. -/
theorem evaluate_faults (population : Population) (p : Predicate) :
    (∀ error, p.checkShape = .error error → population.evaluate p = .error error) ∧
      (p.checkShape = .ok () →
        ((∃ error, population.evaluate p = .error error) ↔
            ∃ leaf ∈ p.leaves, ∃ error, population.evaluate (.ofLeaf leaf) = .error error) ∧
          (∀ error, population.evaluate p = .error error ↔
            ∃ before leaf after, p.leaves = before ++ leaf :: after ∧
              (∀ earlier ∈ before, ∃ chosen,
                population.evaluate (.ofLeaf earlier) = .ok chosen) ∧
              population.evaluate (.ofLeaf leaf) = .error error) ∧
          ∀ other : Predicate, other.checkShape = .ok () → other.leaves = p.leaves →
            ∀ error, population.evaluate other = .error error ↔
              population.evaluate p = .error error) ∧
      ∀ malformation, malformation.isOfPlan = true →
        population.evaluate p ≠ .error (.malformed malformation) := by
  refine ⟨fun error => evaluate_of_checkShape_eq_error, ?_, ?_⟩
  · intro shaped
    refine ⟨exists_evaluate_eq_error_iff shaped, fun error => evaluate_eq_error_iff shaped, ?_⟩
    intro other otherShaped same error
    rw [evaluate_eq_error_iff otherShaped, evaluate_eq_error_iff shaped, same]
  · intro malformation ofPlan failure
    have outside : malformation.isOfPlan = false := isOfPlan_of_evaluate failure
    rw [ofPlan] at outside
    cases outside

/-- Of four leaves the second and the third fail; the inverted groups around them and the
true constant beside them leave the error of the second. A group of one has no answer
though its leaf has. -/
theorem evaluate_faults_people :
    let p : Predicate := .negate (.either .always
      (.all [.negate (.lessThan "city" (.int32 3)), .like "age" "4%", .key "p1"]))
    Demo.people.population.evaluate p = .error (.typeMismatch "city" (.int32 3) .varchar) ∧
      Demo.people.population.evaluate (.any [.always]) =
        .error (.malformed (.groupWidth 1)) := by
  intro p
  have faults := evaluate_faults Demo.people.population p
  have narrow := evaluate_faults Demo.people.population (.any [.always])
  refine ⟨?_, narrow.1 _ (by decide +kernel)⟩
  have first := (faults.2.1 (by decide +kernel)).2.1 (.typeMismatch "city" (.int32 3) .varchar)
  apply first.mpr
  refine ⟨[.compare .constant .equal none (.boolean true)],
    .compare .value .less (some "city") (.int32 3),
    [.compare .value .like (some "age") (.string "4%"),
      .compare .key .equal none (.string "p1")], by decide +kernel, ?_, ?_⟩
  · intro earlier member
    cases List.mem_singleton.mp member
    exact Result.check_eq_ok.mp (by decide +kernel)
  · exact Result.check_eq_error.mp (by decide +kernel)

end Population

end RecordFilter
