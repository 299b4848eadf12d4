import RecordFilter.Proofs.Sql.Compilation
import RecordFilter.Proofs.Sql.Literals

/-!
# Columns that a condition names

A condition names the columns of its comparisons. If a predicate is about records only, a
built-in codec puts no other columns into its condition than those in which the properties
are stored that its leaves address.
-/

set_option autoImplicit false

namespace RecordFilter

open Sql (Condition Dialect Sentence SplitColumns Statement)

/-! ## Columns of a tree -/

namespace Sql.Condition

variable {α β : Type}

/-- The columns that are named in a condition, each with its table. -/
def columns : Condition α → List (String × String)
  | constant _ _ => []
  | compare _ table column _ _ => [(table, column)]
  | among _ table column _ => [(table, column)]
  | pair _ _ left right => left.columns ++ right.columns

theorem columns_map (f : α → β) (condition : Condition α) :
    (condition.map f).columns = condition.columns := by
  induction condition with
  | constant | compare | among => rfl
  | pair negated connective left right leftIH rightIH => rw [map, columns, columns, leftIH, rightIH]

end Sql.Condition

/-- A leaf that is about no column but those of a kind. -/
def Leaf.Reads (kind : String → Prop) (leaf : Leaf) : Prop :=
  leaf.target = .column → ∀ column, leaf.property = some column → kind column

theorem Leaf.columns_asCondition? {table : String} {kind : String → Prop} {leaf : Leaf}
    (reads : leaf.Reads kind) {negated : Bool} {condition : Condition Value}
    (read : leaf.asCondition? table negated = some condition) :
    ∀ named ∈ condition.columns, named.1 = table ∧ kind named.2 := by
  unfold asCondition? at read
  split at read
  next =>
    obtain ⟨truth, _, rfl⟩ := Option.map_eq_some_iff.mp read
    exact nofun
  next column target named =>
    have single : ∀ other ∈ [(table, column)], other.1 = table ∧ kind other.2 := by
      intro other member
      rw [List.mem_singleton.mp member]
      exact ⟨rfl, reads target column named⟩
    split at read
    · split at read
      · cases read
        exact nofun
      · cases read
        exact single
    · cases read
      exact single
  next => cases read

theorem Predicate.columns_asCondition? {table : String} {kind : String → Prop} {p : Predicate}
    (reads : ∀ leaf ∈ p.leaves, leaf.Reads kind) {condition : Condition Value}
    (read : p.asCondition? table = some condition) :
    ∀ named ∈ condition.columns, named.1 = table ∧ kind named.2 := by
  induction p using Predicate.induction generalizing condition with
  | leafCase negated l =>
      rw [Sql.Compiler.asCondition?_leaf] at read
      exact Leaf.columns_asCondition? (reads l (by simp)) read
  | groupCase negated connective children ih =>
      obtain ⟨left, right, l, r, rfl, first, second, rfl⟩ := exists_pair_of_asCondition? read
      have member (child : Predicate) (listed : child ∈ [left, right]) :
          ∀ leaf ∈ child.leaves, leaf.Reads kind := by
        intro leaf found
        apply reads leaf
        rw [leaves_group]
        exact List.mem_flatMap.mpr ⟨child, listed, found⟩
      intro named found
      rcases List.mem_append.mp found with inLeft | inRight
      · exact ih left (by simp) (member left (by simp)) first named inLeft
      · exact ih right (by simp) (member right (by simp)) second named inRight

/-! ## Columns of a schema -/

namespace Schema

/-- A column in which a property is stored that a leaf addresses. -/
def Reaches (schema : Schema) (leaf : Leaf) (column : String) : Prop :=
  ∃ property, schema.Addresses leaf property ∧ column ∈ property.columns

variable {schema : Schema} {leaf : Leaf} {lowered : Predicate}

theorem reads_of_fitsColumn {kind : String → Prop} {leaf : Leaf} {column : String}
    {type : ScalarType} (fitting : leaf.FitsColumn column type) (known : kind column) :
    leaf.Reads kind := by
  intro _ other named
  cases fitting.named.symm.trans named
  exact known

/-- What a leaf about records is lowered to reads the columns that the leaf reaches. -/
theorem madeOf_reaches (logical : leaf.target ≠ .column) (shaped : leaf.checkShape = .ok ())
    (shape : leaf.Lowered schema.resolver lowered) :
    lowered.MadeOf (Leaf.Reads (schema.Reaches leaf)) := by
  cases shape with
  | unchanged => exact Predicate.madeOf_leaf shaped fun target => absurd target logical
  | @stored property type column _ resolved storedAs shape =>
      have reached : schema.Reaches leaf column := by
        refine ⟨property, addresses_of_resolve resolved, ?_⟩
        rw [storedAs.columns]
        exact List.mem_singleton_self column
      obtain ⟨leaf', rfl, fitting⟩ := shape.exists_leaf
      exact Predicate.madeOf_leaf fitting.shaped (reads_of_fitsColumn fitting reached)
  | @split property columns _ resolved split shape =>
      have addressed := addresses_of_resolve resolved
      have high : schema.Reaches leaf columns.high :=
        ⟨property, addressed, split.columns ▸ List.mem_cons_self⟩
      have low : schema.Reaches leaf columns.low :=
        ⟨property, addressed, split.columns ▸ List.mem_cons_of_mem _ List.mem_cons_self⟩
      refine shape.madeOf.mono fun leaf' member => ?_
      cases member with
      | constant => exact nofun
      | high fitting => exact reads_of_fitsColumn fitting high
      | low fitting => exact reads_of_fitsColumn fitting low

end Schema

namespace Sql.Compiler

variable {schema : Schema} {dialect : Dialect}

theorem lower_reaches (builtIn : schema.IsBuiltIn)
    (checked : schema.checkBackend (.standard dialect) = .ok ()) {p lowered : Predicate}
    (valid : p.validate schema.resolver = .ok ())
    (logical : ∀ leaf ∈ p.leaves, leaf.target ≠ .column)
    (success : (standard schema dialect).lower p = .ok lowered) :
    lowered.MadeOf (Leaf.Reads fun column => ∃ leaf ∈ p.leaves, schema.Reaches leaf column) := by
  obtain ⟨found, run, made⟩ := exists_lower_of_valid
    (fun _ lowered => lowered.MadeOf
      (Leaf.Reads fun column => ∃ leaf ∈ p.leaves, schema.Reaches leaf column))
    builtIn checked valid
    (fun negated leaf member shaped lowered shape => by
      have reaches := Schema.madeOf_reaches (logical leaf member) shaped shape
      refine (reaches.mono fun leaf' reads target column named => ?_).withNegation negated
      exact ⟨leaf, member, reads target column named⟩)
    (fun negated connective children lowered wide each =>
      Predicate.madeOf_group (by rwa [← each.length_eq]) fun member found =>
        let ⟨_, _, made⟩ := Result.exists_left_of_mem each found
        made)
  cases run.symm.trans success
  exact made

/-- The condition of a predicate about records names columns of the schema's table that the
leaves of the predicate reach. -/
theorem condition_reaches (builtIn : schema.IsBuiltIn)
    (checked : schema.checkBackend (.standard dialect) = .ok ()) {p : Predicate}
    (logical : ∀ leaf ∈ p.leaves, leaf.target ≠ .column) {statement : Statement}
    (success : (standard schema dialect).condition p = .ok statement) :
    ∃ condition, Sentence dialect condition statement.text ∧
      ∀ named ∈ condition.columns, named.1 = schema.table ∧
        ∃ leaf ∈ p.leaves, schema.Reaches leaf named.2 := by
  have valid : p.validate schema.resolver = .ok () := by
    rw [← check_condition builtIn checked p, success]
    rfl
  obtain ⟨physical, after, bound, lowered, reading, _⟩ := exists_reading_condition success
  have reaches := lower_reaches builtIn checked (Predicate.validate_normalized.trans valid)
    (by rwa [Predicate.leaves_normalized]) lowered
  rw [Predicate.leaves_normalized] at reaches
  refine ⟨_, reading.sentence, ?_⟩
  have names := Predicate.columns_asCondition? reaches.normalized.leaves reading.values
  rw [Condition.columns_map] at names ⊢
  exact names

end Sql.Compiler

end RecordFilter
