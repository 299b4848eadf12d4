import RecordFilter.Proofs.Schema.Registration

/-!
# What the calls on a catalog leave behind

A catalog answers calls one after the other, and only two answers change it: that a
collection has been registered, and that one has been removed. Whatever else was called in
between, a name stands for the schema of the last registration that was not refused,
unless a removal took it away afterwards.
-/

set_option autoImplicit false

namespace RecordFilter

open Sql (Backend Property Statement)

namespace Catalog

/-! ## Calls and answers -/

inductive Call where
  | register (schema : Schema)
  | get (name : String)
  | remove (name : String)
  | contains (name : String)
  | whereClause (name : String) (p : Predicate)

inductive Answer where
  | registered
  | found (schema : Schema)
  | removed (schema : Schema)
  /-- There was nothing to remove. -/
  | absent
  | known (there : Bool)
  | compiled (statement : Statement)
  | failed (error : FilterError)

def Answer.isFailure : Answer → Bool
  | absent | failed _ => true
  | registered | found _ | removed _ | known _ | compiled _ => false

def Answer.ofResult {α : Type} (answer : α → Answer) : Result α → Answer
  | .ok value => answer value
  | .error error => .failed error

/-- Whether a call asks for something without a change in mind. -/
def Call.isQuestion : Call → Bool
  | get _ | contains _ | whereClause _ _ => true
  | register _ | remove _ => false

structure Event where
  call : Call
  answer : Answer

/-- The answer to a call, and the catalog after it. -/
def respond (catalog : Catalog) : Call → Answer × Catalog
  | .register schema =>
    match catalog.register schema with
    | .ok changed => (.registered, changed)
    | .error error => (.failed error, catalog)
  | .get name => (.ofResult .found (catalog.get name), catalog)
  | .remove name =>
    match catalog.get? name with
    | some schema => (.removed schema, catalog.erase name)
    | none => (.absent, catalog.erase name)
  | .contains name => (.known (catalog.contains name), catalog)
  | .whereClause name p => (.ofResult .compiled (catalog.whereClause name p), catalog)

/-- What has happened to a catalog, the latest first, and what became of it. -/
structure History where
  events : List Event
  catalog : Catalog

def History.next (history : History) (call : Call) : History :=
  let response := history.catalog.respond call
  { events := ⟨call, response.1⟩ :: history.events, catalog := response.2 }

def history (catalog : Catalog) (calls : List Call) : History :=
  calls.foldl History.next { events := [], catalog }

/-! ## What a name stands for -/

/-- An event after which it does not matter what a name stood for. -/
inductive Event.Settles (name : String) : Event → Prop where
  | registered {schema : Schema} : schema.name = name → Settles name ⟨.register schema, .registered⟩
  | removed {schema : Schema} : Settles name ⟨.remove name, .removed schema⟩

theorem settles_registered_iff {name : String} {schema : Schema} :
    Event.Settles name ⟨.register schema, .registered⟩ ↔ schema.name = name := by
  constructor
  · intro settles
    cases settles
    assumption
  · exact .registered

theorem settles_removed_iff {name removed : String} {schema : Schema} :
    Event.Settles name ⟨.remove removed, .removed schema⟩ ↔ removed = name := by
  constructor
  · intro settles
    cases settles
    rfl
  · intro same
    cases same
    exact .removed

/-- The last event that settles a name, the latest first, is a registration of a schema. -/
def Stands (name : String) (events : List Event) (schema : Schema) : Prop :=
  ∃ later earlier, events = later ++ ⟨.register schema, .registered⟩ :: earlier ∧
    schema.name = name ∧ ∀ event ∈ later, ¬ event.Settles name

variable {name : String} {event : Event} {events : List Event} {schema : Schema}

theorem not_stands_nil : ¬ Stands name [] schema := by
  intro stands
  obtain ⟨later, earlier, split, _⟩ := stands
  exact List.append_ne_nil_of_right_ne_nil later (List.cons_ne_nil _ _) split.symm

theorem stands_registered (named : schema.name = name) {other : Schema} :
    Stands name (⟨.register schema, .registered⟩ :: events) other ↔ other = schema := by
  constructor
  · intro stands
    obtain ⟨later, earlier, split, _, unsettled⟩ := stands
    cases later with
    | nil =>
        cases split
        rfl
    | cons first later =>
        obtain ⟨rfl, _⟩ := List.cons_eq_cons.mp split
        exact (unsettled _ List.mem_cons_self (.registered named)).elim
  · intro same
    cases same
    exact ⟨[], events, rfl, named, List.forall_mem_nil _⟩

theorem not_stands_removed {other : Schema} :
    ¬ Stands name (⟨.remove name, .removed schema⟩ :: events) other := by
  intro stands
  obtain ⟨later, earlier, split, _, unsettled⟩ := stands
  cases later with
  | nil => cases split
  | cons first later =>
      obtain ⟨rfl, _⟩ := List.cons_eq_cons.mp split
      exact unsettled _ List.mem_cons_self .removed

theorem stands_cons (unsettled : ¬ event.Settles name) :
    Stands name (event :: events) schema ↔ Stands name events schema := by
  constructor
  · intro stands
    obtain ⟨later, earlier, split, named, rest⟩ := stands
    cases later with
    | nil =>
        cases split
        exact absurd (.registered named) unsettled
    | cons first later =>
        obtain ⟨_, before⟩ := List.cons_eq_cons.mp split
        exact ⟨later, earlier, before, named, fun event member =>
          rest event (List.mem_cons_of_mem _ member)⟩
  · intro stands
    obtain ⟨later, earlier, split, named, rest⟩ := stands
    cases split
    exact ⟨event :: later, earlier, rfl, named, List.forall_mem_cons.mpr ⟨unsettled, rest⟩⟩

/-! ## One call -/

def put (catalog : Catalog) (schema : Schema) : Catalog :=
  { catalog with collections := catalog.collections.insert schema.name schema }

theorem get?_put (catalog : Catalog) (schema : Schema) (name : String) :
    (catalog.put schema).get? name =
      if schema.name = name then some schema else catalog.get? name := by
  show (catalog.collections.insert schema.name schema)[name]? = _
  simp only [Std.TreeMap.getElem?_insert, Std.LawfulEqOrd.compare_eq_iff_eq]
  rfl

theorem get?_erase (catalog : Catalog) (removed name : String) :
    (catalog.erase removed).get? name = if removed = name then none else catalog.get? name := by
  show (catalog.collections.erase removed)[name]? = _
  simp only [Std.TreeMap.getElem?_erase, Std.LawfulEqOrd.compare_eq_iff_eq]
  rfl

/-- Catalogs that no call can tell apart. -/
structure Same (first second : Catalog) : Prop where
  backend : first.backend = second.backend
  collections : first.collections.Equiv second.collections

variable {catalog : Catalog}

theorem Same.get? {first second : Catalog} (same : first.Same second) (name : String) :
    first.get? name = second.get? name :=
  same.collections.getElem?_eq

theorem same_refl (catalog : Catalog) : catalog.Same catalog :=
  ⟨rfl, .rfl⟩

theorem same_erase (missing : catalog.get? name = none) : (catalog.erase name).Same catalog where
  backend := rfl
  collections := by
    apply Std.TreeMap.Equiv.of_forall_constGet?_eq
    intro other
    show (catalog.erase name).get? other = catalog.get? other
    rw [get?_erase]
    split
    next same =>
      rw [← same]
      exact missing.symm
    next => rfl

/-- What a call can do: register, remove, or leave the catalog as it is. -/
inductive Step (catalog : Catalog) : Event → Catalog → Prop where
  | registered {schema : Schema} : schema.checkBackend catalog.backend = .ok () →
      catalog.get? schema.name = none →
      Step catalog ⟨.register schema, .registered⟩ (catalog.put schema)
  | removed {name : String} {schema : Schema} : catalog.get? name = some schema →
      Step catalog ⟨.remove name, .removed schema⟩ (catalog.erase name)
  | unchanged {event : Event} {after : Catalog} : (∀ name, ¬ event.Settles name) →
      after.Same catalog → Step catalog event after

theorem register_of_checked (checked : schema.checkBackend catalog.backend = .ok ()) :
    catalog.register schema =
      if catalog.contains schema.name then .error (.duplicateCollection schema.name)
      else .ok (catalog.put schema) := by
  rw [register, checked]
  show (if _ then _ else _) = _
  cases catalog.contains schema.name <;> rfl

theorem register_of_unchecked {error : FilterError}
    (unchecked : schema.checkBackend catalog.backend = .error error) :
    catalog.register schema = .error error := by
  rw [register, unchecked]
  rfl

theorem register_eq_ok_iff {changed : Catalog} :
    catalog.register schema = .ok changed ↔
      schema.checkBackend catalog.backend = .ok () ∧ catalog.get? schema.name = none ∧
        changed = catalog.put schema := by
  cases checked : schema.checkBackend catalog.backend with
  | error error =>
      rw [register_of_unchecked checked]
      exact ⟨nofun, nofun⟩
  | ok value =>
      rw [register_of_checked checked, contains_eq_isSome]
      cases held : catalog.get? schema.name with
      | some other => exact ⟨nofun, nofun⟩
      | none =>
          constructor
          · intro success
            cases success
            exact ⟨rfl, rfl, rfl⟩
          · intro shape
            rw [shape.2.2]
            rfl

theorem exists_register_iff :
    (∃ changed, catalog.register schema = .ok changed) ↔
      schema.checkBackend catalog.backend = .ok () ∧ catalog.contains schema.name = false := by
  rw [contains_eq_isSome, Option.isSome_eq_false_iff, Option.isNone_iff_eq_none]
  constructor
  · intro success
    obtain ⟨changed, registered⟩ := success
    obtain ⟨checked, free, _⟩ := register_eq_ok_iff.mp registered
    exact ⟨checked, free⟩
  · intro ready
    exact ⟨_, register_eq_ok_iff.mpr ⟨ready.1, ready.2, rfl⟩⟩

theorem step_respond (catalog : Catalog) (call : Call) :
    catalog.Step ⟨call, (catalog.respond call).1⟩ (catalog.respond call).2 := by
  cases call with
  | register schema =>
      cases registered : catalog.register schema with
      | ok changed =>
          obtain ⟨checked, free, rfl⟩ := register_eq_ok_iff.mp registered
          simp only [respond, registered]
          exact .registered checked free
      | error error =>
          simp only [respond, registered]
          exact .unchanged nofun (same_refl catalog)
  | remove name =>
      cases held : catalog.get? name with
      | some schema =>
          simp only [respond, held]
          exact .removed held
      | none =>
          simp only [respond, held]
          exact .unchanged nofun (same_erase held)
  | get | contains | whereClause => exact .unchanged nofun (same_refl catalog)

theorem Step.same {after : Catalog} (step : catalog.Step event after)
    (quiet : event.call.isQuestion = true ∨ event.answer.isFailure = true) :
    after.Same catalog := by
  cases step with
  | registered | removed => cases quiet with
    | inl question => cases question
    | inr failure => cases failure
  | unchanged _ same => exact same

/-! ## A whole history -/

/-- A catalog holds under a name what the name stands for after the events so far, and
everything in it has passed the check of its backend. -/
structure History.Reflects (backend : Backend) (history : History) : Prop where
  serves : history.catalog.backend = backend
  stands : ∀ name schema,
    history.catalog.get? name = some schema ↔ Stands name history.events schema
  checked : ∀ name schema, history.catalog.get? name = some schema →
    schema.checkBackend backend = .ok ()

variable {backend : Backend}

theorem reflects_empty (backend : Backend) :
    History.Reflects backend { events := [], catalog := empty backend } where
  serves := rfl
  stands := fun _ _ => ⟨nofun, fun stands => absurd stands not_stands_nil⟩
  checked := nofun

theorem History.Reflects.step {after : Catalog} (reflects : Reflects backend ⟨events, catalog⟩)
    (step : catalog.Step event after) : Reflects backend ⟨event :: events, after⟩ := by
  have serves : catalog.backend = backend := reflects.serves
  cases step with
  | @registered schema checked free =>
      rw [serves] at checked
      -- the event settles one name, and says nothing of the others
      refine ⟨serves, fun name other => ?_, fun name other => ?_⟩
      · simp only [get?_put]
        by_cases named : schema.name = name
        · rw [if_pos named, stands_registered named, Option.some.injEq]
          exact eq_comm
        · rw [if_neg named, stands_cons (mt settles_registered_iff.mp named)]
          exact reflects.stands name other
      · simp only [get?_put]
        by_cases named : schema.name = name
        · rw [if_pos named]
          intro same
          cases same
          exact checked
        · rw [if_neg named]
          exact reflects.checked name other
  | @removed removed schema found =>
      refine ⟨serves, fun name other => ?_, fun name other => ?_⟩
      · simp only [get?_erase]
        by_cases named : removed = name
        · cases named
          rw [if_pos rfl]
          exact ⟨nofun, fun stands => absurd stands not_stands_removed⟩
        · rw [if_neg named, stands_cons (mt settles_removed_iff.mp named)]
          exact reflects.stands name other
      · simp only [get?_erase]
        by_cases named : removed = name
        · rw [if_pos named]
          exact nofun
        · rw [if_neg named]
          exact reflects.checked name other
  | unchanged unsettled same =>
      refine ⟨same.backend.trans serves, fun name other => ?_, fun name other => ?_⟩
      · rw [stands_cons (unsettled name), same.get?]
        exact reflects.stands name other
      · rw [same.get?]
        exact reflects.checked name other

theorem History.Reflects.foldl {history : History} (reflects : history.Reflects backend)
    (calls : List Call) : (calls.foldl History.next history).Reflects backend := by
  induction calls generalizing history with
  | nil => exact reflects
  | cons call calls ih => exact ih (reflects.step (step_respond history.catalog call))

theorem reflects_history (backend : Backend) (calls : List Call) :
    ((empty backend).history calls).Reflects backend :=
  (reflects_empty backend).foldl calls

/-! ## Names -/

theorem names_ascending (catalog : Catalog) : catalog.names.Pairwise (· < ·) :=
  Std.TreeMap.ordered_keys.imp fun {first second} smaller => by
    have ordered : compareOfLessAndEq first second = .lt := smaller
    exact compareOfLessAndEq_eq_lt.mp ordered

theorem mem_names : name ∈ catalog.names ↔ ∃ schema, catalog.get? name = some schema := by
  rw [names, Std.TreeMap.mem_keys, Std.TreeMap.mem_iff_isSome_getElem?, Option.isSome_iff_exists]
  rfl

theorem contains_iff : catalog.contains name = true ↔ ∃ schema, catalog.get? name = some schema := by
  rw [contains_eq_isSome, Option.isSome_iff_exists]

theorem length_names (catalog : Catalog) : catalog.names.length = catalog.size :=
  Std.TreeMap.length_keys

theorem get_eq_ok_iff : catalog.get name = .ok schema ↔ catalog.get? name = some schema := by
  rw [get_eq]
  cases catalog.get? name with
  | none => exact ⟨nofun, nofun⟩
  | some found => rw [Except.ok.injEq, Option.some.injEq]

end Catalog

theorem Sql.Property.checkColumns_eq_ok {property : Property} :
    property.checkColumns = .ok () ↔ property.columns.length = property.codec.columns := by
  unfold checkColumns
  by_cases counted : property.columns.length = property.codec.columns
  · simp [counted]
  · simp [counted]

theorem Schema.checkBackend_eq_ok {schema : Schema} {backend : Backend} :
    schema.checkBackend backend = .ok () ↔ ∀ property ∈ schema.properties,
      property.table = schema.table ∧ property.columns.length = property.codec.columns ∧
        (1 < property.codec.columns →
          backend.lowerings.contains property.codec.name = true) := by
  rw [checkBackend, List.forM_eq_forM, Result.forM_eq_ok]
  simp only [checkProperty_eq_ok, Property.checkColumns_eq_ok]

namespace Catalog

/-- After any calls on a new catalog, a registration succeeds exactly if its check does and
the name is free, which it is as long as it stands for nothing; what fails or only asks
leaves the catalog alone; and the catalog holds what its names stand for, all of it checked,
under names in ascending order. -/
theorem history_settled (backend : Backend) (calls : List Call) :
    let history := (empty backend).history calls
    let catalog := history.catalog
    (∀ schema, (∃ changed, catalog.register schema = .ok changed) ↔
      schema.checkBackend backend = .ok () ∧ catalog.contains schema.name = false) ∧
    (∀ schema error, schema.checkBackend backend = .error error →
      catalog.register schema = .error error) ∧
    (∀ schema, schema.checkBackend backend = .ok () → catalog.contains schema.name = true →
      catalog.register schema = .error (.duplicateCollection schema.name)) ∧
    (∀ call : Call, call.isQuestion = true ∨ (catalog.respond call).1.isFailure = true →
      (catalog.respond call).2.Same catalog) ∧
    (∀ name schema, catalog.get name = .ok schema ↔ Stands name history.events schema) ∧
    (∀ name, (∀ schema, ¬ Stands name history.events schema) →
      catalog.get name = .error (.unknownCollection name)) ∧
    (∀ name, catalog.contains name = true ↔ ∃ schema, Stands name history.events schema) ∧
    (∀ name schema, catalog.get? name = some schema →
      schema.name = name ∧ schema.checkBackend backend = .ok () ∧
        ∀ property ∈ schema.properties, property.table = schema.table ∧
          property.columns.length = property.codec.columns ∧
          (1 < property.codec.columns →
            backend.lowerings.contains property.codec.name = true)) ∧
    catalog.names.Pairwise (· < ·) ∧
    (∀ name, name ∈ catalog.names ↔ ∃ schema, Stands name history.events schema) ∧
    catalog.size = catalog.names.length := by
  have reflects := reflects_history backend calls
  generalize (empty backend).history calls = past at reflects
  intro history catalog
  have serves : catalog.backend = backend := reflects.serves
  refine ⟨?_, ?_, ?_, ?_, ?_, ?_, ?_, ?_, names_ascending catalog, ?_,
    (length_names catalog).symm⟩
  · intro schema
    rw [exists_register_iff, serves]
  · intro schema error unchecked
    rw [← serves] at unchecked
    exact register_of_unchecked unchecked
  · intro schema checked taken
    rw [← serves] at checked
    rw [register_of_checked checked, if_pos taken]
  · intro call quiet
    exact (step_respond catalog call).same quiet
  · intro name schema
    exact get_eq_ok_iff.trans (reflects.stands name schema)
  · intro name nothing
    cases held : catalog.get? name with
    | none =>
        rw [get_eq, held]
    | some schema => exact absurd ((reflects.stands name schema).mp held) (nothing schema)
  · intro name
    exact contains_iff.trans (exists_congr (reflects.stands name))
  · intro name schema held
    obtain ⟨_, _, _, named, _⟩ := (reflects.stands name schema).mp held
    have checked := reflects.checked name schema held
    exact ⟨named, checked, Schema.checkBackend_eq_ok.mp checked⟩
  · intro name
    exact mem_names.trans (exists_congr (reflects.stands name))

/-- A collection that was removed can be registered again, not twice, and nowhere where its
split property cannot be lowered. -/
theorem history_settled_people :
    let calls : List Call := [.register Demo.schema, .register Demo.schema, .remove "people",
      .remove "people", .register Demo.schema, .contains "others"]
    let catalog := ((empty (.standard .sqlite)).history calls).catalog
    let bare := ((empty (.bare .sqlite)).history calls).catalog
    catalog.get "people" = .ok Demo.schema ∧
      catalog.register Demo.schema = .error (.duplicateCollection "people") ∧
      bare.register Demo.schema = .error (.missingLowering "balance" Sql.splitName) := by
  intro calls catalog bare
  obtain ⟨_, _, refused, _, stands, _⟩ := history_settled (.standard .sqlite) calls
  obtain ⟨_, unchecked, _⟩ := history_settled (.bare .sqlite) calls
  refine ⟨(stands "people" Demo.schema).mpr ?_, refused Demo.schema ?_ ?_,
    unchecked Demo.schema _ ?_⟩
  · refine ⟨[⟨.contains "others", .known false⟩], _, rfl, rfl, ?_⟩
    rw [List.forall_mem_singleton]
    exact nofun
  · decide +kernel
  · decide +kernel
  · decide +kernel

end Catalog

end RecordFilter
