import RecordFilter.Demo
import RecordFilter.Predicate.Builder
import RecordFilter.Proofs.Schema.Fields
import RecordFilter.Schema.Query

/-!
# Safety of checked queries

The checks of a schema move the literals of a predicate into the types of its properties;
the records are asked by comparing. In a store whose declared fields fit the schema, what
passes the checks compares, so the checks alone decide whether there is an answer.
-/

set_option autoImplicit false

namespace RecordFilter.Schema

open Sql (Resolver)

theorem queryChecked_rejected {store : Store} {p : Predicate} {resolver : Resolver}
    {error : FilterError} (rejected : p.validate resolver = .error error) :
    store.queryChecked p resolver = .error error := by
  rw [Store.queryChecked, rejected]
  rfl

theorem exists_queryChecked {schema : Schema} {store : Store} {p : Predicate}
    (scans : ∀ leaf ∈ p.leaves, ∃ chosen, store.population.leafKeys leaf = .ok chosen)
    (valid : p.validate schema.resolver = .ok ()) :
    ∃ answer, store.queryChecked p schema.resolver = .ok answer := by
  obtain ⟨shaped, _⟩ := Predicate.validate_eq_ok.mp valid
  obtain ⟨answer, asked⟩ : ∃ answer, store.query p = .ok answer :=
    Population.evaluate_eq_ok_iff.mpr ⟨shaped, scans⟩
  refine ⟨answer, ?_⟩
  rw [Store.queryChecked, valid]
  exact asked

/-- On a store that fits a schema, a query has an answer exactly if it passes the checks; if
it does, no scan of a leaf fails, and if it does not, the error is that of the checks. -/
theorem queryChecked_total (schema : Schema) (store : Store) (p : Predicate)
    (fitting : schema.Fits store) (logical : ∀ leaf ∈ p.leaves, leaf.target ≠ .column) :
    ((∃ answer, store.queryChecked p schema.resolver = .ok answer) ↔
        p.validate schema.resolver = .ok ()) ∧
      (∀ error, store.queryChecked p schema.resolver = .error error ↔
        p.validate schema.resolver = .error error) ∧
      (p.validate schema.resolver = .ok () →
        ∀ leaf ∈ p.leaves, ∃ chosen, store.population.leafKeys leaf = .ok chosen) := by
  have scans : p.validate schema.resolver = .ok () →
      ∀ leaf ∈ p.leaves, ∃ chosen, store.population.leafKeys leaf = .ok chosen := by
    intro valid leaf member
    obtain ⟨shaped, typed⟩ := Predicate.validate_eq_ok.mp valid
    exact exists_leafKeys fitting (Predicate.checkShape_of_mem_leaves shaped member)
      (typed leaf member) (logical leaf member)
  cases checked : p.validate schema.resolver with
  | ok value =>
      obtain ⟨answer, asked⟩ := exists_queryChecked (scans checked) checked
      rw [asked]
      exact ⟨⟨fun _ => rfl, fun _ => ⟨answer, rfl⟩⟩, fun error => by simp, fun _ => scans checked⟩
  | error error =>
      rw [queryChecked_rejected checked]
      exact ⟨⟨nofun, nofun⟩, fun other => by simp, nofun⟩

/-- Beside the four people there is one whose fields have other widths than the schema, or
are null; the literals have other widths as well. -/
theorem queryChecked_total_people :
    let store := Demo.people.insert
      ((Record.empty "p5").withValue "age" (.int32 41) |>.withValue "balance" (.int64 7)
        |>.withValue "city" .null |>.withMetadata "created" (.int64 5000))
    (∃ answer, store.queryChecked
        (.both (.negate (.lessThan "balance" (.int32 120)))
          (.any [.metadata "created" .greater (.uint64 3000), .like "city" "n_",
            .among "age" [.timestamp 41, .int32 25]])) Demo.schema.resolver = .ok answer) ∧
      store.queryChecked (.lessThan "balance" (.int32 (-1))) Demo.schema.resolver =
        .error (.typeMismatch "balance" (.int32 (-1)) .uint64) := by
  intro store
  have fitting : Demo.schema.Fits store := by decide +kernel
  constructor
  · apply (queryChecked_total _ _ _ fitting (by decide +kernel)).1.mpr
    decide +kernel
  · apply ((queryChecked_total _ _ _ fitting (by decide +kernel)).2.1 _).mpr
    decide +kernel

end RecordFilter.Schema
