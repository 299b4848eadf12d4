import RecordFilter.Predicate.Builder
import RecordFilter.Proofs.Sql.Compilation
import RecordFilter.Proofs.Sql.Rejection
import RecordFilter.Schema.Catalog

/-!
# What registration promises

A catalog is changed by registrations and removals. A registration that is refused changes
nothing, so whatever is in a catalog has passed the check of its backend; from then on the
checks of a predicate alone decide whether there is a statement.
-/

set_option autoImplicit false

namespace RecordFilter

open Sql (Backend Compiler Dialect)

namespace Catalog

/-! ## Histories -/

inductive Change where
  | register (schema : Schema)
  | erase (name : String)

/-- The catalog after a change; one that is refused leaves it as it is. -/
def after (catalog : Catalog) : Change → Catalog
  | .register schema =>
    match catalog.register schema with
    | .ok changed => changed
    | .error _ => catalog
  | .erase name => catalog.erase name

def replay (catalog : Catalog) (changes : List Change) : Catalog :=
  changes.foldl after catalog

theorem register_eq_ok {catalog changed : Catalog} {schema : Schema}
    (success : catalog.register schema = .ok changed) :
    schema.checkBackend catalog.backend = .ok () ∧
      changed = { catalog with
        collections := catalog.collections.insert schema.name schema } := by
  obtain ⟨_, checked, later⟩ := Result.bind_eq_ok.mp success
  by_cases taken : catalog.contains schema.name = true
  · simp only [taken, ↓reduceIte] at later
    cases later
  · simp only [taken, Bool.false_eq_true, ↓reduceIte] at later
    cases later
    exact ⟨checked, rfl⟩

/-! ## The invariant -/

/-- Whatever is registered has passed the check of a backend that knows split words only,
and uses no other codec that would need a lowering. -/
structure Sound (dialect : Dialect) (catalog : Catalog) : Prop where
  backend : catalog.backend = .standard dialect
  builtIn : ∀ name schema, catalog.get? name = some schema → schema.IsBuiltIn
  checked : ∀ name schema, catalog.get? name = some schema →
    schema.checkBackend (.standard dialect) = .ok ()

variable {dialect : Dialect} {catalog : Catalog}

theorem sound_empty (dialect : Dialect) : (empty (.standard dialect)).Sound dialect where
  backend := rfl
  builtIn := fun _ _ found => by cases found
  checked := fun _ _ found => by cases found

theorem Sound.register (sound : catalog.Sound dialect) {schema : Schema}
    (builtIn : schema.IsBuiltIn) {changed : Catalog}
    (success : catalog.register schema = .ok changed) : changed.Sound dialect := by
  obtain ⟨checked, rfl⟩ := register_eq_ok success
  rw [sound.backend] at checked
  have either : ∀ name found,
      (catalog.collections.insert schema.name schema)[name]? = some found →
        found = schema ∨ catalog.get? name = some found := by
    intro name found held
    rw [Std.TreeMap.getElem?_insert] at held
    split at held
    · exact .inl (Option.some.inj held).symm
    · exact .inr held
  refine ⟨sound.backend, fun name found held => ?_, fun name found held => ?_⟩
  · rcases either name found held with rfl | kept
    · exact builtIn
    · exact sound.builtIn name found kept
  · rcases either name found held with rfl | kept
    · exact checked
    · exact sound.checked name found kept

theorem Sound.erase (sound : catalog.Sound dialect) (name : String) :
    (catalog.erase name).Sound dialect := by
  have kept : ∀ other found, (catalog.collections.erase name)[other]? = some found →
      catalog.get? other = some found := by
    intro other found held
    rw [Std.TreeMap.getElem?_erase] at held
    split at held
    · cases held
    · exact held
  exact ⟨sound.backend, fun other found held => sound.builtIn other found (kept other found held),
    fun other found held => sound.checked other found (kept other found held)⟩

theorem Sound.after (sound : catalog.Sound dialect) {change : Change}
    (builtIn : ∀ schema, change = .register schema → schema.IsBuiltIn) :
    (catalog.after change).Sound dialect := by
  cases change with
  | register schema =>
      cases registered : catalog.register schema with
      | ok changed =>
          simp only [Catalog.after, registered]
          exact sound.register (builtIn schema rfl) registered
      | error error =>
          simp only [Catalog.after, registered]
          exact sound
  | erase name => exact sound.erase name

theorem Sound.replay (sound : catalog.Sound dialect) {changes : List Change}
    (builtIn : ∀ schema, .register schema ∈ changes → schema.IsBuiltIn) :
    (catalog.replay changes).Sound dialect := by
  induction changes generalizing catalog with
  | nil => exact sound
  | cons change changes ih =>
      apply ih
      · apply sound.after
        rintro schema rfl
        exact builtIn schema List.mem_cons_self
      · exact fun schema member => builtIn schema (List.mem_cons_of_mem _ member)

/-! ## Statements through a catalog -/

theorem contains_eq_isSome (name : String) :
    catalog.contains name = (catalog.get? name).isSome :=
  Std.TreeMap.isSome_getElem?_eq_contains.symm

theorem get_eq (name : String) :
    catalog.get name =
      match catalog.get? name with
      | some schema => .ok schema
      | none => .error (.unknownCollection name) := rfl

theorem whereClause_missing {name : String} (missing : catalog.get? name = none)
    (p : Predicate) : catalog.whereClause name p = .error (.unknownCollection name) := by
  rw [whereClause, get_eq, missing]
  rfl

theorem whereClause_found {name : String} {schema : Schema}
    (found : catalog.get? name = some schema) (p : Predicate) :
    catalog.whereClause name p =
      Compiler.whereClause { resolver := schema.resolver, backend := catalog.backend } p := by
  rw [whereClause, get_eq, found]
  rfl

theorem Sound.compiler_eq (sound : catalog.Sound dialect) (schema : Schema) :
    { resolver := schema.resolver, backend := catalog.backend } =
      Compiler.standard schema dialect := by
  rw [sound.backend]
  rfl

section Outcomes

variable (sound : catalog.Sound dialect) {name : String} {schema : Schema}
  (found : catalog.get? name = some schema) (p : Predicate)

include sound found

theorem Sound.check_whereClause :
    Result.check (catalog.whereClause name p) = p.validate schema.resolver := by
  rw [whereClause_found found, sound.compiler_eq]
  exact Compiler.check_whereClause (sound.builtIn name schema found)
    (sound.checked name schema found) p

theorem Sound.check_selectKeys :
    Result.check (Compiler.selectKeys
      { resolver := schema.resolver, backend := catalog.backend } p) =
        p.validate schema.resolver := by
  rw [sound.compiler_eq]
  exact Compiler.check_selectKeys (sound.builtIn name schema found)
    (sound.checked name schema found) p

theorem Sound.check_delete :
    Result.check (Compiler.delete { resolver := schema.resolver, backend := catalog.backend } p) =
      p.validate schema.resolver := by
  rw [sound.compiler_eq]
  exact Compiler.check_delete (sound.builtIn name schema found)
    (sound.checked name schema found) p

end Outcomes

theorem Sound.whereClause_unknown_iff (sound : catalog.Sound dialect) (name : String)
    (p : Predicate) (unknown : String) :
    catalog.whereClause name p = .error (.unknownCollection unknown) ↔
      catalog.contains name = false ∧ unknown = name := by
  rw [contains_eq_isSome]
  cases found : catalog.get? name with
  | none =>
      rw [whereClause_missing found]
      constructor
      · intro same
        cases same
        exact ⟨rfl, rfl⟩
      · rintro ⟨_, rfl⟩
        rfl
  | some schema =>
      constructor
      · intro failure
        -- the error of a collection that is there blames the predicate, not the name
        have blamed := Predicate.blamesPredicate_of_check (sound.check_whereClause found p) failure
        cases blamed
      · rintro ⟨missing, _⟩
        cases missing

/-- A catalog knows its names, and for a collection in it there are statements exactly if
the predicate as it was written passes the checks; if not, the error is that of the
checks, and it blames the predicate. -/
theorem whereClause_total (dialect : Dialect) (changes : List Change)
    (builtIn : ∀ schema, .register schema ∈ changes → schema.IsBuiltIn) (name : String)
    (p : Predicate) :
    let catalog := (empty (.standard dialect)).replay changes
    (∀ unknown, catalog.whereClause name p = .error (.unknownCollection unknown) ↔
      catalog.contains name = false ∧ unknown = name) ∧
    ∀ schema, catalog.get? name = some schema →
      let compiler : Compiler := { resolver := schema.resolver, backend := catalog.backend }
      Result.check (catalog.whereClause name p) = p.validate schema.resolver ∧
      Result.check (compiler.selectKeys p) = p.validate schema.resolver ∧
      Result.check (compiler.delete p) = p.validate schema.resolver ∧
      ∀ error, catalog.whereClause name p = .error error ∨ compiler.selectKeys p = .error error ∨
        compiler.delete p = .error error → error.blamesPredicate = true := by
  intro catalog
  have sound : catalog.Sound dialect := (sound_empty dialect).replay builtIn
  refine ⟨sound.whereClause_unknown_iff name p, ?_⟩
  intro schema found compiler
  have whereClause := sound.check_whereClause found p
  have selectKeys := sound.check_selectKeys found p
  have delete := sound.check_delete found p
  refine ⟨whereClause, selectKeys, delete, ?_⟩
  rintro error (failure | failure | failure)
  · exact Predicate.blamesPredicate_of_check whereClause failure
  · exact Predicate.blamesPredicate_of_check selectKeys failure
  · exact Predicate.blamesPredicate_of_check delete failure

/-- The second registration is refused and the removal is of another name; the collection
compiles a comparison of its split property, and refuses one with a negative number. -/
theorem whereClause_total_people :
    (∃ statement, ((empty (.standard .sqlite)).replay
        [.register Demo.schema, .register Demo.schema, .erase "others"]).whereClause "people"
          (.negate (.lessThan "balance" (.int32 120))) = .ok statement) ∧
      ((empty (.standard .sqlite)).replay
        [.register Demo.schema, .register Demo.schema, .erase "others"]).whereClause "people"
          (.lessThan "balance" (.int32 (-120))) =
        .error (.typeMismatch "balance" (.int32 (-120)) .uint64) := by
  have builtIn : ∀ schema, Change.register schema ∈
      [.register Demo.schema, .register Demo.schema, .erase "others"] → schema.IsBuiltIn := by
    intro schema member
    simp only [List.mem_cons, Change.register.injEq, reduceCtorEq, List.not_mem_nil, or_false,
      or_self] at member
    rw [member]
    exact Schema.isBuiltIn_demo
  have found : ((empty (.standard .sqlite)).replay
      [.register Demo.schema, .register Demo.schema, .erase "others"]).get? "people" =
        some Demo.schema := rfl
  have total := whereClause_total .sqlite
    [.register Demo.schema, .register Demo.schema, .erase "others"] builtIn "people"
  constructor
  · apply Result.check_eq_ok.mp
    rw [((total _).2 _ found).1]
    decide +kernel
  · apply Result.check_eq_error.mp
    rw [((total _).2 _ found).1]
    decide +kernel

end Catalog

end RecordFilter
