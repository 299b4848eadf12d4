import RecordFilter.Predicate.Builder
import RecordFilter.Proofs.Schema.Mirror

/-!
# Agreement of records and columns

The lowered form of a tree says of the columns what the tree says of the records, since
its leaves do and its groups are the same.
-/

set_option autoImplicit false

namespace RecordFilter.Schema

open Sql (Compiler Dialect Backend Property)

variable {schema : Schema} {logical physical : Store}

/-- A tree and its lowered form: the form can be asked of the columns, and it is true at
the keys at which the tree is. -/
structure Agrees (logical physical : Store) (p lowered : Predicate) : Prop where
  made : lowered.MadeOf fun leaf => ∃ chosen, physical.population.leafKeys leaf = .ok chosen
  holds : ∀ key ∈ logical.keys,
    physical.population.holds lowered key = logical.population.holds p key

theorem agrees_leaf (conforms : schema.Conforms logical) (mirrors : schema.Mirrors logical physical)
    {leaf : Leaf} {lowered : Predicate} (shape : leaf.Lowered schema.resolver lowered)
    (logicalTarget : leaf.target ≠ .column) (shaped : leaf.checkShape = .ok ()) (negated : Bool) :
    Agrees logical physical (.leaf negated leaf) (lowered.withNegation negated) where
  made := (madeOf_lowered conforms mirrors shape logicalTarget shaped).withNegation negated
  holds := by
    intro key member
    rw [Population.holds_withNegation, Population.holds_leaf,
      holds_lowered conforms mirrors shape logicalTarget member]

theorem agrees_group {negated : Bool} {connective : Connective} {children lowered : List Predicate}
    (wide : 2 ≤ children.length) (each : List.Forall₂ (Agrees logical physical) children lowered) :
    Agrees logical physical (.group negated connective children)
      (.group negated connective lowered) where
  made := by
    apply Predicate.madeOf_group
    · rwa [← each.length_eq]
    · intro member found
      obtain ⟨child, _, agrees⟩ := Result.exists_left_of_mem each found
      exact agrees.made
  holds := by
    intro key member
    have same : lowered.map (physical.population.holds · key) =
        children.map (logical.population.holds · key) := by
      clear wide
      induction each with
      | nil => rfl
      | cons head _ ih => rw [List.map_cons, List.map_cons, ih, head.holds key member]
    rw [Population.holds_group, Population.holds_group, same]

/-- Lowering keeps the answer. A tree that passes the checks of a schema is lowered, the
tree is answered from the records and its lowered form from the columns, and both answers
hold the same keys. -/
theorem lowered_query (schema : Schema) (dialect : Dialect) (logical : Store) (p : Predicate)
    (builtIn : schema.IsBuiltIn) (checked : schema.checkBackend (.standard dialect) = .ok ())
    (distinct : (schema.properties.flatMap (·.columns)).Nodup)
    (conforms : schema.Conforms logical)
    (logicalLeaves : ∀ leaf ∈ p.leaves, leaf.target ≠ .column)
    (valid : p.validate schema.resolver = .ok ()) :
    (∃ physical, schema.Mirrors logical physical) ∧
      ∀ physical, schema.Mirrors logical physical → ∃ lowered expected actual,
        (Compiler.standard schema dialect).lower p.normalized = .ok lowered ∧
        logical.query p = .ok expected ∧ physical.query lowered = .ok actual ∧
        ∀ key, key ∈ actual ↔ key ∈ expected := by
  have counted : ∀ property ∈ schema.properties, property.checkColumns = .ok () :=
    fun _ member => checkColumns_of_checkBackend checked member
  refine ⟨⟨_, mirrors_mirror builtIn counted distinct conforms⟩, ?_⟩
  intro physical mirrors
  obtain ⟨shaped, typed⟩ := Predicate.validate_eq_ok.mp valid
  have normalLeaves : ∀ leaf ∈ p.normalized.leaves, leaf.target ≠ .column := by
    rw [Predicate.leaves_normalized]
    exact logicalLeaves
  obtain ⟨lowered, run, agrees⟩ := Compiler.exists_lower_of_valid (Agrees logical physical)
    builtIn checked (Predicate.validate_normalized.trans valid)
    (fun negated leaf member leafShaped lowered shape =>
      agrees_leaf conforms mirrors shape (normalLeaves leaf member) leafShaped negated)
    (fun _ _ _ _ => agrees_group)
  obtain ⟨expected, asked⟩ : ∃ expected, logical.query p = .ok expected := by
    refine Population.evaluate_eq_ok_iff.mpr ⟨shaped, ?_⟩
    intro leaf member
    exact exists_leafKeys conforms.fits (Predicate.checkShape_of_mem_leaves shaped member)
      (typed leaf member) (logicalLeaves leaf member)
  obtain ⟨actual, answered⟩ : ∃ actual, physical.query lowered = .ok actual :=
    Population.evaluate_eq_ok_iff.mpr ⟨agrees.made.shaped, agrees.made.leaves⟩
  refine ⟨lowered, expected, actual, run, asked, answered, ?_⟩
  intro key
  rw [Population.mem_evaluate asked key, Population.mem_evaluate answered key]
  have keys : key ∈ physical.population.keys ↔ key ∈ logical.population.keys := mirrors.mem_keys
  rw [keys]
  apply and_congr_right
  intro member
  rw [agrees.holds key member, Population.holds_normalized]

/-- The balance is compared by its parts and the time of creation as an integer. -/
theorem lowered_query_people :
    ∃ physical lowered expected actual,
      Demo.schema.Mirrors Demo.people physical ∧
      (Compiler.standard Demo.schema .sqlite).lower
          (Predicate.both (.negate (.lessThan "balance" (.int64 120)))
            (.metadata "created" .notEqual (.int64 2000))).normalized = .ok lowered ∧
      Demo.people.query (Predicate.both (.negate (.lessThan "balance" (.int64 120)))
        (.metadata "created" .notEqual (.int64 2000))) = .ok expected ∧
      physical.query lowered = .ok actual ∧ (∀ key, key ∈ actual ↔ key ∈ expected) ∧
      expected.toList = ["p1", "p3"] := by
  obtain ⟨⟨physical, mirrors⟩, same⟩ := lowered_query Demo.schema .sqlite Demo.people
    (.both (.negate (.lessThan "balance" (.int64 120)))
      (.metadata "created" .notEqual (.int64 2000)))
    isBuiltIn_demo (by decide +kernel) (by decide +kernel) (by decide +kernel)
    (by decide +kernel) (by decide +kernel)
  obtain ⟨lowered, expected, actual, run, asked, answered, keys⟩ := same physical mirrors
  refine ⟨physical, lowered, expected, actual, mirrors, run, asked, answered, keys, ?_⟩
  have told : (Demo.people.query (Predicate.both (.negate (.lessThan "balance" (.int64 120)))
      (.metadata "created" .notEqual (.int64 2000)))).map (·.toList) = .ok ["p1", "p3"] := by
    decide +kernel
  rw [asked] at told
  exact Except.ok.inj told

end RecordFilter.Schema
