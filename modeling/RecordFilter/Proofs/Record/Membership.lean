import RecordFilter.Predicate.Builder
import RecordFilter.Proofs.Predicate.Context
import RecordFilter.Proofs.Record.Acceptance

/-!
# The order of candidates

A membership test looks at its candidates one after the other and stops at the first that
equals the field, so a candidate that does not compare with the field is a fault only if no
equal one comes before it. The answers of two orders of the candidates are the same if there
are answers; whether there are is the same in every order unless some field equals one
candidate and does not compare with another.
-/

set_option autoImplicit false

namespace RecordFilter

/-! ## One field -/

/-- A field equals one of some candidates and does not compare with another. -/
def Value.Contested (actual : Value) (candidates : List Value) : Prop :=
  (∃ v ∈ candidates, actual.order v = some .eq) ∧ ∃ v ∈ candidates, ¬ actual.Comparable v

theorem Value.order_null (v : Value) : null.order v = none := by
  cases v <;> rfl

theorem Value.exists_type?_of_contested {actual : Value} {candidates : List Value}
    (contested : actual.Contested candidates) : ∃ type, actual.type? = some type := by
  obtain ⟨⟨v, _, equal⟩, _⟩ := contested
  cases typed : actual.type? with
  | some type => exact ⟨type, rfl⟩
  | none =>
      rw [type?_eq_none_iff.mp typed, order_null] at equal
      cases equal

namespace Leaf

variable {property : String} {actual : Value} {actualType : ScalarType}
  {candidates others : List Value}

theorem exists_orderOf_iff {expected : Value} :
    (∃ order, orderOf property actual actualType expected = .ok order) ↔
      actual.Comparable expected := by
  constructor
  · rintro ⟨order, success⟩
    unfold orderOf at success
    split at success
    next found compared => exact .inl ⟨found, compared⟩
    next =>
      split at success
      next numberless => exact .inr (Bool.or_eq_true_iff.mp numberless)
      next => cases success
  · exact exists_orderOf property actualType

/-- A test that found nothing has looked at every candidate. -/
theorem comparable_of_anyEqual
    (success : anyEqual property actual actualType candidates = .ok false) :
    ∀ v ∈ candidates, actual.Comparable v := by
  induction candidates with
  | nil => exact nofun
  | cons candidate candidates ih =>
      obtain ⟨order, compared, rest⟩ := Result.bind_eq_ok.mp success
      by_cases equal : order = some .eq
      · rw [if_pos equal] at rest
        cases rest
      · rw [if_neg equal] at rest
        exact List.forall_mem_cons.mpr ⟨exists_orderOf_iff.mp ⟨order, compared⟩, ih rest⟩

theorem exists_anyEqual_iff (uncontested : ¬ actual.Contested candidates) :
    (∃ found, anyEqual property actual actualType candidates = .ok found) ↔
      ∀ v ∈ candidates, actual.Comparable v := by
  constructor
  · rintro ⟨found, success⟩
    cases found with
    | false => exact comparable_of_anyEqual success
    | true =>
        obtain ⟨equal, equalMember, same⟩ := List.any_eq_true.mp (anyEqual_eq_ok success).symm
        intro v member
        by_contra incomparable
        exact uncontested
          ⟨⟨equal, equalMember, of_decide_eq_true same⟩, v, member, incomparable⟩
  · exact exists_anyEqual property actualType

/-- A candidate that does not compare is a fault if it comes first. -/
theorem not_exists_anyEqual_cons {candidate : Value} (incomparable : ¬ actual.Comparable candidate) :
    ¬ ∃ found, anyEqual property actual actualType (candidate :: candidates) = .ok found := by
  rintro ⟨found, success⟩
  obtain ⟨order, compared, _⟩ := Result.bind_eq_ok.mp success
  exact incomparable (exists_orderOf_iff.mp ⟨order, compared⟩)

/-! ## One leaf -/

/-- A leaf with other candidates. -/
def withCandidates (leaf : Leaf) (values : List Value) : Leaf :=
  { leaf with values }

variable {leaf : Leaf}

theorem agrees_withCandidates (membership : leaf.comparison = .oneOf)
    (perm : others.Perm leaf.values) : (leaf.withCandidates others).agrees = leaf.agrees := by
  funext actual
  have reordered : (leaf.withCandidates others).agrees actual =
      others.any fun v => actual.order v = some .eq :=
    agrees_oneOf actual membership
  rw [agrees_oneOf actual membership, reordered]
  exact perm.any_eq

end Leaf

namespace Population

variable {population : Population} {leaf : Leaf} {values : List Value}

/-- Some field that a leaf reads is contested by the candidates of the leaf. -/
def IsContested (population : Population) (leaf : Leaf) : Prop :=
  ∃ key ∈ population.keys, ∃ name actual, leaf.property = some name ∧
    (population.record? key).bind (·.field? leaf.target name) = some actual ∧
    actual.Contested leaf.values

section Field

variable (leaf) {name key : String} {actual : Value}

theorem fieldAccepts_of_found (membership : leaf.comparison = .oneOf)
    (found : (population.record? key).bind (·.field? leaf.target name) = some actual)
    {actualType : ScalarType} (typed : actual.type? = some actualType) :
    population.fieldAccepts leaf name key =
      Leaf.anyEqual name actual actualType leaf.values := by
  simp only [fieldAccepts, found, typed, Leaf.accepts_oneOf membership]

theorem exists_fieldAccepts_iff (membership : leaf.comparison = .oneOf)
    (uncontested : ∀ actual, (population.record? key).bind (·.field? leaf.target name) =
      some actual → ¬ actual.Contested leaf.values) :
    (∃ accepted, population.fieldAccepts leaf name key = .ok accepted) ↔
      ∀ actual, (population.record? key).bind (·.field? leaf.target name) = some actual →
        actual = .null ∨ ∀ v ∈ leaf.values, actual.Comparable v := by
  cases found : (population.record? key).bind (·.field? leaf.target name) with
  | none => simp [fieldAccepts, found]
  | some actual =>
      simp only [Option.some.injEq, forall_eq']
      cases typed : actual.type? with
      | none =>
          obtain rfl := Value.type?_eq_none_iff.mp typed
          simp [fieldAccepts, found, Value.type?]
      | some actualType =>
          have present : actual ≠ .null := by
            rintro rfl
            cases typed
          rw [fieldAccepts_of_found leaf membership found typed,
            Leaf.exists_anyEqual_iff (uncontested actual found)]
          exact (or_iff_right present).symm

theorem leafKeys_unnamed (needed : leaf.target.needsProperty = true)
    (unnamed : leaf.property = none) :
    population.leafKeys leaf = .error (.malformed (.missingProperty leaf.target)) := by
  unfold leafKeys
  cases target : leaf.target with
  | constant | key =>
      rw [target] at needed
      cases needed
  | value | metadata | column => rw [unnamed]

theorem exists_leafKeys_iff (needed : leaf.target.needsProperty = true) {name : String}
    (named : leaf.property = some name) :
    (∃ chosen, population.leafKeys leaf = .ok chosen) ↔
      ∀ key ∈ population.keys, ∃ accepted, population.fieldAccepts leaf name key = .ok accepted := by
  rw [leafKeys_field needed named]
  exact exists_select_iff

end Field

/-- Where no field is contested, a leaf can be asked in every order of its candidates or
in none. -/
theorem exists_leafKeys_withCandidates_iff (membership : leaf.comparison = .oneOf)
    (needed : leaf.target.needsProperty = true) (uncontested : ¬ population.IsContested leaf)
    (perm : values.Perm leaf.values) :
    (∃ chosen, population.leafKeys (leaf.withCandidates values) = .ok chosen) ↔
      ∃ chosen, population.leafKeys leaf = .ok chosen := by
  cases named : leaf.property with
  | none =>
      rw [leafKeys_unnamed leaf needed named,
        leafKeys_unnamed (leaf.withCandidates values) needed named]
      exact Iff.rfl
  | some name =>
      have free : ∀ key ∈ population.keys, ∀ actual,
          (population.record? key).bind (·.field? leaf.target name) = some actual →
            ¬ actual.Contested leaf.values := fun key member actual found contested =>
        uncontested ⟨key, member, name, actual, named, found, contested⟩
      rw [exists_leafKeys_iff (leaf.withCandidates values) needed named,
        exists_leafKeys_iff leaf needed named]
      refine forall₂_congr fun key member => ?_
      rw [exists_fieldAccepts_iff leaf membership (free key member),
        exists_fieldAccepts_iff (leaf.withCandidates values) membership]
      · simp only [Leaf.withCandidates, perm.mem_iff]
      · simpa only [Leaf.withCandidates, Value.Contested, perm.mem_iff] using free key member

/-- A contested field fails the leaf in some order of its candidates. -/
theorem exists_order_of_isContested (membership : leaf.comparison = .oneOf)
    (needed : leaf.target.needsProperty = true) (contested : population.IsContested leaf) :
    ∃ values, values.Perm leaf.values ∧
      ¬ ∃ chosen, population.leafKeys (leaf.withCandidates values) = .ok chosen := by
  obtain ⟨key, member, name, actual, named, found, dispute⟩ := contested
  obtain ⟨actualType, typed⟩ := Value.exists_type?_of_contested dispute
  obtain ⟨_, v, candidate, incomparable⟩ := dispute
  let first : Leaf := leaf.withCandidates (v :: leaf.values.erase v)
  refine ⟨first.values, (List.perm_cons_erase candidate).symm, fun asked => ?_⟩
  have accepted := (exists_leafKeys_iff first needed named).mp asked key member
  rw [fieldAccepts_of_found first membership found typed] at accepted
  exact Leaf.not_exists_anyEqual_cons incomparable accepted

/-! ## A leaf in a tree -/

open Predicate (Context)

theorem holds_fill_withCandidates (context : Context) (negated : Bool)
    (membership : leaf.comparison = .oneOf) (perm : values.Perm leaf.values) (key : String) :
    population.holds (context.fill (.leaf negated (leaf.withCandidates values))) key =
      population.holds (context.fill (.leaf negated leaf)) key := by
  apply context.fold_fill_congr
  have same : population.leafHolds (leaf.withCandidates values) key =
      population.leafHolds leaf key := by
    unfold leafHolds
    rw [Leaf.agrees_withCandidates membership perm]
    rfl
  simp only [Predicate.fold_leaf, same]

/-- Around a leaf, an evaluation depends on whether the leaf can be asked. -/
theorem exists_evaluate_fill_congr (context : Context) (negated : Bool) {leaf other : Leaf}
    (shape : other.checkShape = leaf.checkShape)
    (asked : (∃ chosen, population.leafKeys other = .ok chosen) ↔
      ∃ chosen, population.leafKeys leaf = .ok chosen) :
    (∃ answer, population.evaluate (context.fill (.leaf negated other)) = .ok answer) ↔
      ∃ answer, population.evaluate (context.fill (.leaf negated leaf)) = .ok answer := by
  have shapes : (context.fill (.leaf negated other)).checkShape =
      (context.fill (.leaf negated leaf)).checkShape := by
    apply context.checkShape_fill_congr
    rw [Predicate.checkShape_leaf, Predicate.checkShape_leaf, shape]
  rw [evaluate_eq_ok_iff, evaluate_eq_ok_iff, shapes]
  simp only [Context.mem_leaves_fill, Predicate.leaves_leaf, List.mem_singleton, or_imp,
    forall_and, forall_eq, asked]

theorem exists_leafKeys_of_evaluate_fill {context : Context} {negated : Bool} {answer : KeySet}
    (success : population.evaluate (context.fill (.leaf negated leaf)) = .ok answer) :
    ∃ chosen, population.leafKeys leaf = .ok chosen := by
  obtain ⟨_, leaves⟩ := evaluate_eq_ok_iff.mp ⟨answer, success⟩
  exact leaves leaf (Context.mem_leaves_fill.mpr (.inr (by simp)))

/-- Two outcomes are both an answer, with the same keys, or both an error. -/
def SameOutcome : Result KeySet → Result KeySet → Prop
  | .ok answer, .ok other => ∀ key, key ∈ answer ↔ key ∈ other
  | .error _, .error _ => True
  | _, _ => False

theorem sameOutcome_iff {first second : Result KeySet} :
    SameOutcome first second ↔
      ((∃ answer, first = .ok answer) ↔ ∃ other, second = .ok other) ∧
        ∀ answer other, first = .ok answer → second = .ok other →
          ∀ key, key ∈ answer ↔ key ∈ other := by
  cases first <;> cases second <;> simp [SameOutcome]

/-- A tree has the same outcome in every order of the candidates of one of its leaves exactly
if no field that the leaf reads is contested by them, or if the tree has no answer in any
order. Where two orders have an answer, it is the same. The leaf may be any leaf of any tree,
for each of them has a place to stand in (`Predicate.exists_context_of_mem_leaves`). -/
theorem evaluate_reordered (population : Population) (context : Context) (negated : Bool)
    (leaf : Leaf) (membership : leaf.comparison = .oneOf)
    (needed : leaf.target.needsProperty = true) :
    let outcome (values : List Value) : Result KeySet :=
      population.evaluate (context.fill (.leaf negated (leaf.withCandidates values)))
    ((∀ values, values.Perm leaf.values → SameOutcome (outcome leaf.values) (outcome values)) ↔
        ¬ population.IsContested leaf ∨
          ∀ values, values.Perm leaf.values → ∃ error, outcome values = .error error) ∧
      ∀ values answer other, values.Perm leaf.values → outcome leaf.values = .ok answer →
        outcome values = .ok other → ∀ key, key ∈ answer ↔ key ∈ other := by
  intro outcome
  have sameKeys : ∀ values answer other, values.Perm leaf.values →
      outcome leaf.values = .ok answer → outcome values = .ok other →
        ∀ key, key ∈ answer ↔ key ∈ other := by
    intro values answer other perm success otherSuccess key
    rw [mem_evaluate success, mem_evaluate otherSuccess,
      holds_fill_withCandidates context negated membership perm,
      holds_fill_withCandidates context negated membership (.refl leaf.values)]
  refine ⟨⟨?_, ?_⟩, sameKeys⟩
  · intro same
    by_cases contested : population.IsContested leaf
    · right
      obtain ⟨failing, failingPerm, refused⟩ := exists_order_of_isContested membership needed contested
      intro values perm
      cases asked : outcome values with
      | error error => exact ⟨error, rfl⟩
      | ok answer =>
          -- an answer in one order would be one in the original and so in the failing order
          obtain ⟨original, found⟩ := (sameOutcome_iff.mp (same values perm)).1.mpr ⟨answer, asked⟩
          obtain ⟨other, success⟩ :=
            (sameOutcome_iff.mp (same failing failingPerm)).1.mp ⟨original, found⟩
          exact absurd (exists_leafKeys_of_evaluate_fill success) refused
    · exact .inl contested
  · intro settled values perm
    refine sameOutcome_iff.mpr ⟨?_, fun answer other => sameKeys values answer other perm⟩
    rcases settled with uncontested | failing
    · have asked := exists_leafKeys_withCandidates_iff membership needed uncontested perm
      have shape : (leaf.withCandidates values).checkShape = leaf.checkShape := rfl
      exact (exists_evaluate_fill_congr context negated shape asked).symm
    · obtain ⟨error, failure⟩ := failing values perm
      obtain ⟨originalError, originalFailure⟩ := failing leaf.values (.refl leaf.values)
      rw [failure, originalFailure]
      exact iff_of_false nofun nofun

/-- An age is asked for among numbers of two widths, one of them its own, in two orders. -/
theorem evaluate_reordered_widths :
    let store := Store.ofList [(Record.empty "p1").withValue "age" (.int64 25)]
    SameOutcome
      (store.query (.either (.key "p3") (.negate (.among "age" [.int32 7, .int64 25, .uint64 9]))))
      (store.query (.either (.key "p3") (.negate (.among "age" [.uint64 9, .int64 25, .int32 7]))))
    := by
  intro store
  let leaf : Leaf := .among .value (some "age") [.int32 7, .int64 25, .uint64 9]
  have uncontested : ¬ store.population.IsContested leaf := by
    rintro ⟨key, member, name, actual, named, found, _, v, candidate, incomparable⟩
    have keys : store.population.keys.toList = ["p1"] := by decide +kernel
    rw [← Std.TreeSet.mem_toList, keys, List.mem_singleton] at member
    cases member
    cases named
    have field : (store.population.record? "p1").bind (·.field? .value "age") =
        some (.int64 25) := by
      decide +kernel
    cases field.symm.trans found
    apply incomparable
    simp only [leaf, Leaf.among, List.mem_cons, List.not_mem_nil, or_false] at candidate
    rcases candidate with rfl | rfl | rfl <;> exact .inl ⟨_, rfl⟩
  have perm : [Value.uint64 9, .int64 25, .int32 7].Perm leaf.values :=
    List.reverse_perm leaf.values
  exact (evaluate_reordered store.population (.group false .or [.key "p3"] .hole []) true leaf
    rfl rfl).1.mpr (.inl uncontested) _ perm

/-- A candidate that is no number is passed over behind the age and refused before it. -/
theorem query_reordered_differs :
    let store := Store.ofList [(Record.empty "p1").withValue "age" (.int64 25)]
    [Value.string "x", .int64 25].Perm [.int64 25, .string "x"] ∧
      (∃ answer, store.query (.among "age" [.int64 25, .string "x"]) = .ok answer ∧
        "p1" ∈ answer) ∧
      store.query (.among "age" [.string "x", .int64 25]) =
        .error (.typeMismatch "age" (.string "x") .int64) := by
  intro store
  have answered : (store.query (.among "age" [.int64 25, .string "x"])).toOption.any
      (·.contains "p1") = true := by
    decide +kernel
  refine ⟨List.Perm.swap .., ?_, Result.check_eq_error.mp (by decide +kernel)⟩
  cases asked : store.query (.among "age" [.int64 25, .string "x"]) with
  | error error =>
      rw [asked] at answered
      cases answered
  | ok answer =>
      rw [asked] at answered
      exact ⟨answer, rfl, answered⟩

end Population

end RecordFilter
