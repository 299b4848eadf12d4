import RecordFilter.Proofs.Record.Writes
import RecordFilter.Proofs.Sql.Lowering

/-!
# Declared fields

What a record holds of the properties of a schema. Where every declared field moves into
the type of its property, no leaf that passes the checks of the schema can fail.
-/

set_option autoImplicit false

namespace RecordFilter

open Sql (Property)

namespace Schema

variable {schema : Schema}

/-- The properties of a schema with what the record of a key holds of each. The key holds
itself. -/
def fields (schema : Schema) (key : String) (record : Record) :
    List (Property × Option Value) :=
  (schema.key, some (.string key)) ::
    schema.values.toList.map (fun entry => (entry.2, record.values[entry.1]?)) ++
    schema.metadata.toList.map (fun entry => (entry.2, record.metadata[entry.1]?))

theorem map_fst_fields (key : String) (record : Record) :
    (schema.fields key record).map (·.1) = schema.properties := by
  rw [fields, properties, values_eq_map_toList, values_eq_map_toList schema.metadata]
  simp [Function.comp_def]

theorem key_or_field {leaf : Leaf} {property : Property}
    (addressed : schema.Addresses leaf property) :
    (leaf.target = .key ∧ property = schema.key) ∨
      leaf.target.needsProperty = true ∧ ∃ name, leaf.property = some name ∧
        ∀ key record, (property, record.field? leaf.target name) ∈ schema.fields key record := by
  cases addressed with
  | key target => exact .inl ⟨target, rfl⟩
  | @value name property target named member =>
      refine .inr ⟨by rw [target]; rfl, name, named, ?_⟩
      intro key record
      rw [target]
      refine List.mem_append_left _ (List.mem_cons_of_mem _ ?_)
      exact List.mem_map.mpr ⟨_, member, rfl⟩
  | @metadata name property target named member =>
      refine .inr ⟨by rw [target]; rfl, name, named, ?_⟩
      intro key record
      rw [target]
      refine List.mem_append_right _ ?_
      exact List.mem_map.mpr ⟨_, member, rfl⟩

theorem exists_field {leaf : Leaf} {property : Property}
    (addressed : schema.Addresses leaf property) (key : String) (record : Record) :
    ∃ field, (property, field) ∈ schema.fields key record ∧
      ∀ population : Population, population.record? key = some record →
        population.leafHolds leaf key =
          field.any fun actual => !actual.isNull && leaf.agrees actual := by
  rcases key_or_field addressed with ⟨target, rfl⟩ | ⟨needed, name, named, member⟩
  · refine ⟨_, List.mem_append_left _ List.mem_cons_self, ?_⟩
    intro population _
    rw [Population.leafHolds, target]
    rfl
  · refine ⟨_, member key record, ?_⟩
    intro population found
    rw [Population.leafHolds_field needed named, found]
    rfl

/-- Every declared field is absent, null, or moves into the type of its property. -/
def Fits (schema : Schema) (store : Store) : Prop :=
  ∀ key record, store.get? key = some record → ∀ entry ∈ schema.fields key record,
    ∀ v, entry.2 = some v → v.isNull = true ∨ ∃ coerced, v.coerce entry.1.codec.type = some coerced

theorem fits_iff {store : Store} :
    schema.Fits store ↔ ∀ entry ∈ store.records.toList, ∀ field ∈ schema.fields entry.1 entry.2,
      field.2.all (fun v => v.isNull || (v.coerce field.1.codec.type).isSome) = true := by
  simp only [Fits, Store.forall_get?_iff, Option.all_eq_true, Bool.or_eq_true,
    Option.isSome_iff_exists]

instance (schema : Schema) (store : Store) : Decidable (schema.Fits store) :=
  decidable_of_iff' _ fits_iff

/-- No leaf that passes the checks fails on a store that fits. -/
theorem exists_leafKeys {store : Store} (fitting : schema.Fits store) {leaf : Leaf}
    (shaped : leaf.checkShape = .ok ()) (typed : leaf.checkTypes schema.resolver = .ok ())
    (logical : leaf.target ≠ .column) :
    ∃ chosen, store.population.leafKeys leaf = .ok chosen := by
  by_cases constant : leaf.target = .constant
  · exact Population.exists_leafKeys_constant shaped constant
  · have moving : ¬ (leaf.target = .constant || leaf.target = .column) = true := by
      simp [constant, logical]
    rw [Leaf.checkTypes, if_neg moving] at typed
    obtain ⟨property, resolved, fits⟩ := Result.bind_eq_ok.mp typed
    rcases key_or_field (addresses_of_resolve resolved) with
      ⟨target, rfl⟩ | ⟨needed, name, named, member⟩
    · exact Population.exists_leafKeys_key shaped target rfl fits
    · refine Population.exists_leafKeys_field shaped needed named fits ?_
      intro key keyMember actual found
      obtain ⟨record, stored⟩ := Store.mem_keys.mp keyMember
      have held : store.population.record? key = some record := stored
      rw [held] at found
      exact fitting key record stored _ (member key record) actual found

end Schema

end RecordFilter
