import RecordFilter.Demo
import RecordFilter.Predicate.Builder
import RecordFilter.Proofs.Record.Acceptance
import RecordFilter.Proofs.Record.Writes

/-!
# Queries are local to records

Sets of keys are combined over everything that is asked about, and the opposite of a set is
taken from all of it; what an answer says of a key still depends on the record of that key
alone. Whether there is an answer is local too: a population has one if it is covered by
populations that have one.
-/

set_option autoImplicit false

namespace RecordFilter

namespace Population

/-! ## Truth at one key -/

section Truth

variable {population other : Population} {key : String}
  (same : other.record? key = population.record? key)

include same

theorem leafHolds_congr (leaf : Leaf) :
    other.leafHolds leaf key = population.leafHolds leaf key := by
  simp only [leafHolds, same]

theorem holds_congr (p : Predicate) : other.holds p key = population.holds p key := by
  simp only [holds, leafHolds_congr same]

theorem fieldAccepts_congr (leaf : Leaf) (property : String) :
    other.fieldAccepts leaf property key = population.fieldAccepts leaf property key := by
  simp only [fieldAccepts, same]

end Truth

/-! ## Covers -/

/-- A key of a population that is asked about in a part of it, with the same record. -/
structure Shares (part whole : Population) (key : String) : Prop where
  member : key ∈ part.keys
  record : part.record? key = whole.record? key

/-- Every key of a population is shared with one of two parts. -/
def IsCovered (whole first second : Population) : Prop :=
  ∀ key ∈ whole.keys, first.Shares whole key ∨ second.Shares whole key

section Cover

variable {whole first second : Population} (covered : whole.IsCovered first second)

include covered

/-- A test that sees the record of a key alone passes or rejects every key of a population
if it does so in the parts. -/
theorem exists_select_of_cover (test : Population → String → Result Bool)
    (sees : ∀ part key, part.record? key = whole.record? key → test part key = test whole key)
    {firstChosen secondChosen : KeySet} (firstAsked : first.select (test first) = .ok firstChosen)
    (secondAsked : second.select (test second) = .ok secondChosen) :
    ∃ chosen, whole.select (test whole) = .ok chosen := by
  apply exists_select_iff.mpr
  intro key member
  rcases covered key member with shared | shared
  · rw [← sees first key shared.record]
    exact exists_select_iff.mp ⟨_, firstAsked⟩ key shared.member
  · rw [← sees second key shared.record]
    exact exists_select_iff.mp ⟨_, secondAsked⟩ key shared.member

theorem exists_keysOf_of_cover {leaf : Leaf} {firstChosen secondChosen : KeySet}
    (firstAsked : first.keysOf leaf = .ok firstChosen)
    (secondAsked : second.keysOf leaf = .ok secondChosen) :
    ∃ chosen, whole.keysOf leaf = .ok chosen := by
  unfold keysOf at firstAsked secondAsked ⊢
  cases comparison : leaf.comparison with
  | equal | oneOf =>
      -- the named keys are read before any key is looked at
      simp only [comparison] at firstAsked
      obtain ⟨named, found, _⟩ := Result.bind_eq_ok.mp firstAsked
      exact ⟨_, Result.bind_eq_ok.mpr ⟨named, found, rfl⟩⟩
  | _ =>
      simp only [comparison] at firstAsked secondAsked
      exact exists_select_of_cover covered
        (fun _ key => leaf.accepts "<key>" (.string key) .varchar) (fun _ _ _ => rfl)
        firstAsked secondAsked

theorem exists_leafKeys_of_cover {leaf : Leaf} {firstChosen secondChosen : KeySet}
    (firstAsked : first.leafKeys leaf = .ok firstChosen)
    (secondAsked : second.leafKeys leaf = .ok secondChosen) :
    ∃ chosen, whole.leafKeys leaf = .ok chosen := by
  unfold leafKeys at firstAsked secondAsked ⊢
  cases target : leaf.target with
  | constant =>
      simp only [target] at firstAsked
      obtain ⟨truth, carried, _⟩ := Result.bind_eq_ok.mp firstAsked
      cases truth with
      | true => exact ⟨_, Result.bind_eq_ok.mpr ⟨true, carried, rfl⟩⟩
      | false => exact ⟨_, Result.bind_eq_ok.mpr ⟨false, carried, rfl⟩⟩
  | key =>
      simp only [target] at firstAsked secondAsked
      exact exists_keysOf_of_cover covered firstAsked secondAsked
  | value | metadata | column =>
      simp only [target] at firstAsked secondAsked
      cases named : leaf.property with
      | none =>
          rw [named] at firstAsked
          cases firstAsked
      | some property =>
          rw [named] at firstAsked secondAsked
          exact exists_select_of_cover covered
            (fun population key => population.fieldAccepts leaf property key)
            (fun _ _ same => fieldAccepts_congr same leaf property) firstAsked secondAsked

/-- What can be asked of two parts that cover a population can be asked of the population. -/
theorem exists_evaluate_of_cover {p : Predicate} {firstAnswer secondAnswer : KeySet}
    (firstAsked : first.evaluate p = .ok firstAnswer)
    (secondAsked : second.evaluate p = .ok secondAnswer) :
    ∃ answer, whole.evaluate p = .ok answer := by
  obtain ⟨shaped, firstLeaves⟩ := evaluate_eq_ok_iff.mp ⟨firstAnswer, firstAsked⟩
  obtain ⟨_, secondLeaves⟩ := evaluate_eq_ok_iff.mp ⟨secondAnswer, secondAsked⟩
  apply evaluate_eq_ok_iff.mpr
  refine ⟨shaped, fun leaf member => ?_⟩
  obtain ⟨_, firstKeys⟩ := firstLeaves leaf member
  obtain ⟨_, secondKeys⟩ := secondLeaves leaf member
  exact exists_leafKeys_of_cover covered firstKeys secondKeys

end Cover

end Population

/-! ## Stores -/

namespace Store

/-- A key of a store asked about alone. -/
def alone (store : Store) (key : String) : Population :=
  { record? := store.get?, keys := Std.TreeSet.ofList [key] }

variable {store other : Store} {key : String}

/-- What an answer says of a key depends on the record of that key alone. -/
theorem mem_query_congr (same : other.get? key = store.get? key) {p : Predicate}
    {answer otherAnswer : KeySet} (success : store.query p = .ok answer)
    (otherSuccess : other.query p = .ok otherAnswer) : key ∈ answer ↔ key ∈ otherAnswer := by
  have known : key ∈ other.keys ↔ key ∈ store.keys := by rw [mem_keys, mem_keys, same]
  have truth : other.population.holds p key = store.population.holds p key :=
    Population.holds_congr same p
  rw [Population.mem_evaluate success, Population.mem_evaluate otherSuccess, truth]
  exact and_congr_left fun _ => known.symm

theorem isCovered_erase (store : Store) (erased : String) :
    (store.erase erased).population.IsCovered store.population store.population := by
  intro key member
  obtain ⟨record, found⟩ := mem_keys.mp member
  have kept : (store.erase erased).get? key = store.get? key := by
    rw [get?_erase] at found ⊢
    split at found
    next => cases found
    next different => exact if_neg different
  exact .inl ⟨mem_keys.mpr ⟨record, kept.symm.trans found⟩, kept.symm⟩

theorem isCovered_insert (store : Store) (record : Record) :
    (store.insert record).population.IsCovered store.population
      ((store.insert record).alone record.key) := by
  intro key member
  by_cases inserted : record.key = key
  · subst inserted
    exact .inr ⟨KeySet.mem_ofList.mpr List.mem_cons_self, rfl⟩
  · have kept : (store.insert record).get? key = store.get? key :=
      (get?_insert store record key).trans (if_neg inserted)
    obtain ⟨found, held⟩ := mem_keys.mp member
    exact .inl ⟨mem_keys.mpr ⟨found, kept.symm.trans held⟩, kept.symm⟩

theorem exists_query_erase {p : Predicate} {answer : KeySet}
    (success : store.query p = .ok answer) (erased : String) :
    ∃ later, (store.erase erased).query p = .ok later :=
  Population.exists_evaluate_of_cover (isCovered_erase store erased) success success

/-- A record that is added spoils a query only if it does so when it is asked alone. -/
theorem exists_alone_of_insert {p : Predicate} {answer : KeySet} {error : FilterError}
    {record : Record} (success : store.query p = .ok answer)
    (failure : (store.insert record).query p = .error error) :
    ∃ cause, ((store.insert record).alone record.key).evaluate p = .error cause := by
  cases asked : ((store.insert record).alone record.key).evaluate p with
  | error cause => exact ⟨cause, rfl⟩
  | ok alone =>
      obtain ⟨later, found⟩ :=
        Population.exists_evaluate_of_cover (isCovered_insert store record) success asked
      have answered : (store.insert record).query p = .ok later := found
      rw [answered] at failure
      cases failure

/-- After any history, one more write changes what a query says of the key it concerns and
of no other; it can spoil the query only by a record that spoils it alone, and a removal
cannot. Two stores that agree on the record of a key agree on the key. -/
theorem query_local (writes : List Write) (write : Write) (p : Predicate) :
    let before := empty.replay writes
    let after := before.after write
    before.Keyed ∧ after.Keyed ∧
      (∀ answer later, before.query p = .ok answer → after.query p = .ok later →
        ∀ key, key ≠ write.key → (key ∈ answer ↔ key ∈ later)) ∧
      (∀ answer error, before.query p = .ok answer → after.query p = .error error →
        (∃ record, write = .insert record) ∧
          ∃ cause, (after.alone write.key).evaluate p = .error cause) ∧
      (∀ answer erased, before.query p = .ok answer → write = .erase erased →
        ∃ later, after.query p = .ok later) ∧
      ∀ (other : Store) (key : String) (answer otherAnswer : KeySet),
        other.get? key = before.get? key → before.query p = .ok answer →
          other.query p = .ok otherAnswer → (key ∈ answer ↔ key ∈ otherAnswer) := by
  intro before after
  have keyed : before.Keyed := keyed_empty.replay writes
  refine ⟨keyed, keyed.after write, ?_, ?_, ?_, ?_⟩
  · intro answer later success laterSuccess key different
    exact mem_query_congr (get?_after_of_ne different) success laterSuccess
  · intro answer error success failure
    cases write with
    | insert record => exact ⟨⟨record, rfl⟩, exists_alone_of_insert success failure⟩
    | erase erased =>
        obtain ⟨later, found⟩ := exists_query_erase success erased
        have answered : (before.erase erased).query p = .ok later := found
        change (before.erase erased).query p = .error error at failure
        rw [answered] at failure
        cases failure
  · intro answer erased success removal
    subst removal
    exact exists_query_erase success erased
  · intro other key answer otherAnswer same success otherSuccess
    exact mem_query_congr same success otherSuccess

/-- A record with another balance leaves the other keys in their places, one whose age is
no number fails by itself, and a removal fails nothing. -/
theorem query_local_people :
    let before := empty.replay
      [.insert (Demo.person "p1" "Ada" 25 "NY" true 120 1000),
        .insert (Demo.person "p2" "Grace" 40 "LA" true 0 2000), .erase "p3"]
    let p : Predicate := .negate (.any [.atLeast "age" (.int32 30), .key "p3", .never])
    (∃ answer later, before.query p = .ok answer ∧
        (before.insert (Demo.person "p2" "Grace" 20 "LA" true 0 2000)).query p = .ok later ∧
        ("p1" ∈ answer ↔ "p1" ∈ later)) ∧
      (∃ cause, ((before.insert ((Record.empty "p3").withValue "age" (.string "old"))).alone
        "p3").evaluate p = .error cause) ∧
      ∃ later, (before.erase "p1").query p = .ok later := by
  intro before p
  obtain ⟨answer, success⟩ : ∃ answer, before.query p = .ok answer :=
    Result.check_eq_ok.mp (by decide +kernel)
  obtain ⟨later, laterSuccess⟩ : ∃ later,
      (before.insert (Demo.person "p2" "Grace" 20 "LA" true 0 2000)).query p = .ok later :=
    Result.check_eq_ok.mp (by decide +kernel)
  have failure : (before.insert ((Record.empty "p3").withValue "age" (.string "old"))).query p =
      .error (.typeMismatch "age" (.int32 30) .varchar) :=
    Result.check_eq_error.mp (by decide +kernel)
  have replaced := query_local
    [.insert (Demo.person "p1" "Ada" 25 "NY" true 120 1000),
      .insert (Demo.person "p2" "Grace" 40 "LA" true 0 2000), .erase "p3"]
    (.insert (Demo.person "p2" "Grace" 20 "LA" true 0 2000)) p
  have spoiled := query_local
    [.insert (Demo.person "p1" "Ada" 25 "NY" true 120 1000),
      .insert (Demo.person "p2" "Grace" 40 "LA" true 0 2000), .erase "p3"]
    (.insert ((Record.empty "p3").withValue "age" (.string "old"))) p
  have removed := query_local
    [.insert (Demo.person "p1" "Ada" 25 "NY" true 120 1000),
      .insert (Demo.person "p2" "Grace" 40 "LA" true 0 2000), .erase "p3"] (.erase "p1") p
  refine ⟨⟨answer, later, success, laterSuccess, ?_⟩, ?_, ?_⟩
  · exact replaced.2.2.1 answer later success laterSuccess "p1" (by decide)
  · exact (spoiled.2.2.2.1 answer _ success failure).2
  · exact removed.2.2.2.2.1 answer "p1" success rfl

end Store

end RecordFilter
