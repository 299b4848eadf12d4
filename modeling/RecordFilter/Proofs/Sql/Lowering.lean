import RecordFilter.Demo
import RecordFilter.Proofs.Predicate.PlanRun
import RecordFilter.Proofs.Record.Acceptance
import RecordFilter.Sql.Statement

/-!
# Lowering

What a leaf becomes that has been checked against a collection, one case for each way to
store a property. Lowering a tree lowers its leaves and keeps everything else, so what
holds of a leaf and its lowered form, and is kept by groups, holds of the tree.
-/

set_option autoImplicit false

namespace RecordFilter

open Sql (Property Resolver Codec SplitColumns Backend Compiler)

/-! ## Checked trees -/

namespace Predicate

variable {p : Predicate} {resolver : Resolver}

theorem validate_eq_ok :
    p.validate resolver = .ok () ↔
      p.checkShape = .ok () ∧ ∀ leaf ∈ p.leaves, leaf.checkTypes resolver = .ok () := by
  rw [validate, Result.bind_eq_ok, List.forM_eq_forM, Result.forM_eq_ok]
  constructor
  · rintro ⟨_, shaped, typed⟩
    exact ⟨shaped, typed⟩
  · rintro ⟨shaped, typed⟩
    exact ⟨(), shaped, typed⟩

theorem validate_normalized : p.normalized.validate resolver = p.validate resolver := by
  rw [validate, validate, checkShape_normalized, leaves_normalized]

end Predicate

namespace Sql

/-! ## Trees -/

theorem Compiler.lower_eq_foldM (compiler : Compiler) (p : Predicate) :
    compiler.lower p = p.foldM compiler.lowerNode :=
  Plan.run_ofPredicate compiler.lowerNode p

theorem Compiler.exists_lower (compiler : Compiler) {motive : Predicate → Predicate → Prop}
    (onGroup : ∀ negated connective children lowered, List.Forall₂ motive children lowered →
      motive (.group negated connective children) (.group negated connective lowered))
    (p : Predicate)
    (onLeaf : ∀ leaf ∈ p.leaves, ∀ negated, ∃ lowered,
      compiler.lowerLeaf negated leaf = .ok lowered ∧ motive (.leaf negated leaf) lowered) :
    ∃ lowered, compiler.lower p = .ok lowered ∧ motive p lowered := by
  rw [lower_eq_foldM]
  induction p using Predicate.induction with
  | leafCase negated leaf =>
      rw [Predicate.foldM_leaf]
      exact onLeaf leaf (by simp) negated
  | groupCase negated connective children ih =>
      have members : ∃ lowered, Predicate.foldAllM compiler.lowerNode children = .ok lowered ∧
          List.Forall₂ motive children lowered := by
        have each : ∀ child ∈ children, ∃ lowered,
            child.foldM compiler.lowerNode = .ok lowered ∧ motive child lowered := by
          intro child member
          apply ih child member
          intro leaf leafMember
          apply onLeaf leaf
          rw [Predicate.leaves_group]
          exact List.mem_flatMap.mpr ⟨child, member, leafMember⟩
        clear ih onLeaf
        induction children with
        | nil => exact ⟨[], rfl, .nil⟩
        | cons child children ih =>
            obtain ⟨first, lowered, related⟩ := each child List.mem_cons_self
            obtain ⟨others, later, rest⟩ :=
              ih fun other member => each other (List.mem_cons_of_mem _ member)
            rw [Predicate.foldAllM_cons, lowered, later]
            exact ⟨first :: others, rfl, .cons related rest⟩
      obtain ⟨lowered, run, related⟩ := members
      rw [Predicate.foldM_group, run]
      exact ⟨_, rfl, onGroup negated connective children lowered related⟩

/-! ## Layouts -/

/-- The codecs that need no registration of their own. -/
inductive Codec.IsBuiltIn : Codec → Prop where
  | native (type : ScalarType) : IsBuiltIn (.native type)
  | split : IsBuiltIn .split

namespace Property

structure StoredAs (property : Property) (type : ScalarType) (column : String) : Prop where
  codec : property.codec = .native type
  columns : property.columns = [column]

structure SplitOver (property : Property) (columns : SplitColumns) : Prop where
  codec : property.codec = .split
  columns : property.columns = [columns.high, columns.low]

theorem stored_or_split {property : Property} (builtIn : property.codec.IsBuiltIn)
    (checked : property.checkColumns = .ok ()) :
    (∃ type column, property.StoredAs type column) ∨ ∃ columns, property.SplitOver columns := by
  have counted : property.columns.length = property.codec.columns := by
    unfold checkColumns at checked
    split at checked
    · cases checked
    next same => exact not_not.mp same
  generalize codec : property.codec = stored at builtIn counted
  cases builtIn with
  | native type =>
      obtain ⟨column, columns⟩ := List.length_eq_one_iff.mp counted
      exact .inl ⟨type, column, codec, columns⟩
  | split =>
      obtain ⟨high, low, columns⟩ := List.length_eq_two.mp counted
      exact .inr ⟨⟨high, low⟩, codec, columns⟩

end Property

end Sql

/-! ## Properties of a schema -/

namespace Schema

theorem values_eq_map_toList (properties : Std.TreeMap String Property) :
    properties.values = properties.toList.map (·.2) := by
  have folded : properties.values = properties.foldr (fun _ property rest => property :: rest) [] :=
    rfl
  rw [folded, Std.TreeMap.foldr_eq_foldr_toList]
  induction properties.toList with
  | nil => rfl
  | cons entry entries ih => rw [List.foldr_cons, ih, List.map_cons]

theorem mem_values {properties : Std.TreeMap String Property} {property : Property} :
    property ∈ properties.values ↔ ∃ name : String, properties[name]? = some property := by
  rw [values_eq_map_toList, List.mem_map]
  constructor
  · rintro ⟨⟨name, _⟩, member, rfl⟩
    exact ⟨name, Std.TreeMap.mem_toList_iff_getElem?_eq_some.mp member⟩
  · rintro ⟨name, found⟩
    exact ⟨(name, property), Std.TreeMap.mem_toList_iff_getElem?_eq_some.mpr found, rfl⟩

theorem mem_values_insert {properties : Std.TreeMap String Property} {name : String}
    {added property : Property} (member : property ∈ (properties.insert name added).values) :
    property = added ∨ property ∈ properties.values := by
  obtain ⟨other, found⟩ := mem_values.mp member
  rw [Std.TreeMap.getElem?_insert] at found
  split at found
  · cases found
    exact .inl rfl
  · exact .inr (mem_values.mpr ⟨other, found⟩)

theorem mem_properties_iff {schema : Schema} {property : Property} :
    property ∈ schema.properties ↔
      property = schema.key ∨ property ∈ schema.values.values ∨
        property ∈ schema.metadata.values := by
  rw [properties, List.mem_append, List.mem_cons, or_assoc]

def IsBuiltIn (schema : Schema) : Prop :=
  ∀ property ∈ schema.properties, property.codec.IsBuiltIn

theorem isBuiltIn_empty (name table keyColumn : String) :
    (Schema.empty name table keyColumn).IsBuiltIn := by
  intro property member
  rcases mem_properties_iff.mp member with rfl | listed | listed
  · exact .native .varchar
  · cases listed
  · cases listed

theorem IsBuiltIn.withProperty {schema : Schema} (builtIn : schema.IsBuiltIn) (target : Target)
    {added : Property} (codec : added.codec.IsBuiltIn) :
    (schema.withProperty target added).IsBuiltIn := by
  have kept : ∀ property, property = schema.key ∨ property ∈ schema.values.values ∨
      property ∈ schema.metadata.values → property.codec.IsBuiltIn := fun property known =>
    builtIn property (mem_properties_iff.mpr known)
  intro property member
  cases target with
  | value =>
      rcases mem_properties_iff.mp member with same | inserted | listed
      · exact kept property (.inl same)
      · rcases mem_values_insert inserted with rfl | listed
        · exact codec
        · exact kept property (.inr (.inl listed))
      · exact kept property (.inr (.inr listed))
  | metadata =>
      rcases mem_properties_iff.mp member with same | listed | inserted
      · exact kept property (.inl same)
      · exact kept property (.inr (.inl listed))
      · rcases mem_values_insert inserted with rfl | listed
        · exact codec
        · exact kept property (.inr (.inr listed))
  | constant | key | column => exact builtIn property member

theorem isBuiltIn_demo : Demo.schema.IsBuiltIn :=
  (isBuiltIn_empty "people" "people" "id")
    |>.withProperty .value (.native .varchar)
    |>.withProperty .value (.native .int64)
    |>.withProperty .value (.native .varchar)
    |>.withProperty .value (.native .boolean)
    |>.withProperty .value .split
    |>.withProperty .metadata (.native .timestamp)

variable {schema : Schema} {property : Property}

/-- What a leaf addresses: the identity, or a property among the values or the metadata. -/
inductive Addresses (schema : Schema) (leaf : Leaf) : Property → Prop where
  | key : leaf.target = .key → Addresses schema leaf schema.key
  | value {name : String} {property : Property} : leaf.target = .value →
      leaf.property = some name → (name, property) ∈ schema.values.toList →
      Addresses schema leaf property
  | metadata {name : String} {property : Property} : leaf.target = .metadata →
      leaf.property = some name → (name, property) ∈ schema.metadata.toList →
      Addresses schema leaf property

theorem addresses_of_resolve {leaf : Leaf}
    (resolved : schema.resolver.resolve leaf = .ok property) : schema.Addresses leaf property := by
  unfold Resolver.resolve at resolved
  split at resolved
  next target =>
    cases resolved
    exact .key target
  next name target named =>
    split at resolved
    next found =>
      cases resolved
      exact .value target named (Std.TreeMap.mem_toList_iff_getElem?_eq_some.mpr found)
    next => cases resolved
  next name target named =>
    split at resolved
    next found =>
      cases resolved
      exact .metadata target named (Std.TreeMap.mem_toList_iff_getElem?_eq_some.mpr found)
    next => cases resolved
  next => cases resolved

theorem mem_properties {leaf : Leaf} (addressed : schema.Addresses leaf property) :
    property ∈ schema.properties := by
  apply mem_properties_iff.mpr
  cases addressed with
  | key => exact .inl rfl
  | value _ _ member =>
      rw [values_eq_map_toList]
      exact .inr (.inl (List.mem_map.mpr ⟨_, member, rfl⟩))
  | metadata _ _ member =>
      rw [values_eq_map_toList schema.metadata]
      exact .inr (.inr (List.mem_map.mpr ⟨_, member, rfl⟩))

theorem checkProperty_eq_ok {backend : Backend} :
    schema.checkProperty backend property = .ok () ↔
      property.table = schema.table ∧ property.checkColumns = .ok () ∧
        (1 < property.codec.columns →
          backend.lowerings.contains property.codec.name = true) := by
  unfold checkProperty
  by_cases home : property.table = schema.table
  · cases columns : property.checkColumns with
    | error error => simp [home, bind, Except.bind]
    | ok value =>
        by_cases several : 1 < property.codec.columns
        · simp [home, several, bind, Except.bind, pure, Except.pure, throw, throwThe,
            MonadExceptOf.throw]
        · simp [home, several, bind, Except.bind, pure, Except.pure]
  · simp [home, bind, Except.bind, throw, throwThe, MonadExceptOf.throw]

theorem checkColumns_of_checkBackend {backend : Backend}
    (checked : schema.checkBackend backend = .ok ()) (member : property ∈ schema.properties) :
    property.checkColumns = .ok () :=
  (checkProperty_eq_ok.mp (Result.forM_eq_ok.mp checked property member)).2.1

end Schema

/-! ## Leaves -/

open Sql (stored)

namespace Leaf

/-- A leaf about a property that is stored as it is. -/
inductive LoweredAs (leaf : Leaf) (type : ScalarType) (column : String) : Predicate → Prop where
  | ordering {coerced : Value} : leaf.comparison.isOrdering = true →
      leaf.value.coerce type = some coerced →
      LoweredAs leaf type column (.column column leaf.comparison (stored coerced))
  | oneOf {coerced : List Value} : leaf.comparison = .oneOf →
      List.Forall₂ (fun v moved => v.coerce type = some moved) leaf.values coerced →
      LoweredAs leaf type column (.columnAmong column (coerced.map stored))
  | like {text : String} : leaf.comparison = .like → type = .varchar →
      leaf.value = .string text →
      LoweredAs leaf type column (.column column .like (.string text))

/-- A leaf about a property that is split over two columns. -/
inductive LoweredOver (leaf : Leaf) (columns : SplitColumns) : Predicate → Prop where
  | ordering {word : UInt64} : leaf.comparison.isOrdering = true →
      leaf.value.coerce .uint64 = some (.uint64 word) →
      LoweredOver leaf columns (columns.ordered leaf.comparison word)
  | oneOf {words : List UInt64} : leaf.comparison = .oneOf →
      List.Forall₂ (fun v word => v.coerce .uint64 = some (.uint64 word)) leaf.values words →
      LoweredOver leaf columns (columns.anyOf (.ofList words Ord.compare))

/-- What a leaf becomes, its flag set aside. -/
inductive Lowered (resolver : Resolver) (leaf : Leaf) : Predicate → Prop where
  | unchanged :
      leaf.target = .constant ∨ leaf.target = .column → Lowered resolver leaf (.ofLeaf leaf)
  | stored {property : Property} {type : ScalarType} {column : String} {lowered : Predicate} :
      resolver.resolve leaf = .ok property → property.StoredAs type column →
      leaf.LoweredAs type column lowered → Lowered resolver leaf lowered
  | split {property : Property} {columns : SplitColumns} {lowered : Predicate} :
      resolver.resolve leaf = .ok property → property.SplitOver columns →
      leaf.LoweredOver columns lowered → Lowered resolver leaf lowered

variable {leaf : Leaf} {property : Property}

theorem encodeSingle_native {type : ScalarType} (native : property.codec = .native type)
    {v coerced : Value} (moved : v.coerce type = some coerced) :
    Compiler.encodeSingle property v = .ok (stored coerced) := by
  have encoded : property.codec.encode v = .ok [stored coerced] := by
    rw [native]
    simp only [Codec.native, Sql.nativeEncode, moved]
  rw [Compiler.encodeSingle, encoded]
  rfl

theorem columnLeaf_ordering {column : String} (ordering : leaf.comparison.isOrdering = true) :
    Compiler.columnLeaf leaf property column =
      (do
        let value ← Compiler.encodeSingle property leaf.value
        return .column column leaf.comparison value) := by
  unfold Compiler.columnLeaf
  cases comparison : leaf.comparison with
  | oneOf | like =>
      rw [comparison] at ordering
      cases ordering
  | _ => rfl

theorem columnLeaf_oneOf {column : String} (membership : leaf.comparison = .oneOf) :
    Compiler.columnLeaf leaf property column =
      (do
        let values ← leaf.values.mapM (Compiler.encodeSingle property)
        return .columnAmong column values) := by
  simp only [Compiler.columnLeaf, membership]

theorem columnLeaf_like {column : String} (pattern : leaf.comparison = .like) :
    Compiler.columnLeaf leaf property column = .ok (.column column .like leaf.value) := by
  simp only [Compiler.columnLeaf, pattern]

theorem exists_columnLeaf {type : ScalarType} {column : String}
    (storedAs : property.StoredAs type column) (fits : leaf.checkAgainst property = .ok ())
    (shaped : leaf.comparison = .like → ∃ text, leaf.value = .string text) :
    ∃ lowered, Compiler.columnLeaf leaf property column = .ok lowered ∧
      leaf.LoweredAs type column lowered := by
  have typed : property.codec.type = type := by
    rw [storedAs.codec]
    rfl
  rcases leaf.comparison.cases_isOrdering with membership | pattern | ordering
  · rw [checkAgainst_oneOf_eq_ok membership, typed] at fits
    obtain ⟨coerced, moved⟩ := Result.exists_forall₂ fits
    have encoded : leaf.values.mapM (Compiler.encodeSingle property) =
        .ok (coerced.map stored) := by
      rw [Result.mapM_eq_ok, List.forall₂_map_right_iff]
      exact moved.imp fun _ _ => encodeSingle_native storedAs.codec
    rw [columnLeaf_oneOf membership, encoded]
    exact ⟨_, rfl, .oneOf membership moved⟩
  · rw [checkAgainst_like_eq_ok pattern, typed] at fits
    obtain ⟨text, literal⟩ := shaped pattern
    rw [columnLeaf_like pattern, literal]
    exact ⟨_, rfl, .like pattern fits literal⟩
  · rw [checkAgainst_ordering ordering, checkValue_eq_ok, typed] at fits
    obtain ⟨coerced, moved⟩ := fits
    rw [columnLeaf_ordering ordering, encodeSingle_native storedAs.codec moved]
    exact ⟨_, rfl, .ordering ordering moved⟩

theorem unsignedWord_eq_ok {name : String} {v : Value} {word : UInt64} :
    Sql.unsignedWord name v = .ok word ↔ v.coerce .uint64 = some (.uint64 word) := by
  unfold Sql.unsignedWord
  split
  next other moved => simp [moved]
  next none =>
    constructor
    · exact nofun
    · intro moved
      exact absurd moved (none word)

theorem exists_coerce_uint64 {v coerced : Value} (moved : v.coerce .uint64 = some coerced) :
    ∃ word, v.coerce .uint64 = some (.uint64 word) := by
  have typed := Value.type?_of_coerce moved
  cases coerced with
  | uint64 word => exact ⟨word, moved⟩
  | _ => cases typed

section Split

variable {columns : SplitColumns} (listed : property.columns = [columns.high, columns.low])

include listed

theorem splitColumns_eq_ok : Sql.splitColumns property = .ok columns := by
  simp only [Sql.splitColumns, listed]

theorem lowerSplitLeaf_ordering (ordering : leaf.comparison.isOrdering = true) :
    Sql.lowerSplitLeaf leaf property =
      (do
        let word ← Sql.unsignedWord property.name leaf.value
        return columns.ordered leaf.comparison word) := by
  unfold Sql.lowerSplitLeaf
  rw [splitColumns_eq_ok listed]
  cases comparison : leaf.comparison with
  | oneOf | like =>
      rw [comparison] at ordering
      cases ordering
  | _ => rfl

theorem lowerSplitLeaf_oneOf (membership : leaf.comparison = .oneOf) :
    Sql.lowerSplitLeaf leaf property =
      (do
        let words ← leaf.values.mapM (Sql.unsignedWord property.name)
        return columns.anyOf (.ofList words Ord.compare)) := by
  unfold Sql.lowerSplitLeaf
  rw [splitColumns_eq_ok listed, membership]
  rfl

theorem lowerSplitLeaf_like (pattern : leaf.comparison = .like) :
    Sql.lowerSplitLeaf leaf property =
      .error (.typeMismatch property.name leaf.value .uint64) := by
  unfold Sql.lowerSplitLeaf
  rw [splitColumns_eq_ok listed, pattern]
  rfl

theorem lowerSplitLeaf_eq_ok {lowered : Predicate} :
    Sql.lowerSplitLeaf leaf property = .ok lowered ↔ leaf.LoweredOver columns lowered := by
  constructor
  · intro success
    rcases leaf.comparison.cases_isOrdering with membership | pattern | ordering
    · rw [lowerSplitLeaf_oneOf listed membership] at success
      obtain ⟨words, read, built⟩ := Result.bind_eq_ok.mp success
      cases built
      exact .oneOf membership ((Result.mapM_eq_ok.mp read).imp fun _ _ => unsignedWord_eq_ok.mp)
    · rw [lowerSplitLeaf_like listed pattern] at success
      cases success
    · rw [lowerSplitLeaf_ordering listed ordering] at success
      obtain ⟨word, read, built⟩ := Result.bind_eq_ok.mp success
      cases built
      exact .ordering ordering (unsignedWord_eq_ok.mp read)
  · intro shape
    cases shape with
    | ordering ordering moved =>
        rw [lowerSplitLeaf_ordering listed ordering, unsignedWord_eq_ok.mpr moved]
        rfl
    | @oneOf words membership read =>
        have found : leaf.values.mapM (Sql.unsignedWord property.name) = .ok words :=
          Result.mapM_eq_ok.mpr (read.imp fun _ _ => unsignedWord_eq_ok.mpr)
        rw [lowerSplitLeaf_oneOf listed membership, found]
        rfl

end Split

theorem exists_lowerSplitLeaf {columns : SplitColumns} (split : property.SplitOver columns)
    (fits : leaf.checkAgainst property = .ok ()) :
    ∃ lowered, Sql.lowerSplitLeaf leaf property = .ok lowered ∧
      leaf.LoweredOver columns lowered := by
  have typed : property.codec.type = .uint64 := by
    rw [split.codec]
    rfl
  obtain ⟨lowered, shape⟩ : ∃ lowered, leaf.LoweredOver columns lowered := by
    rcases leaf.comparison.cases_isOrdering with membership | pattern | ordering
    · rw [checkAgainst_oneOf_eq_ok membership, typed] at fits
      obtain ⟨words, read⟩ := Result.exists_forall₂ fun v member =>
        let ⟨_, moved⟩ := fits v member
        exists_coerce_uint64 moved
      exact ⟨_, .oneOf membership read⟩
    · rw [checkAgainst_like_eq_ok pattern, typed] at fits
      cases fits
    · rw [checkAgainst_ordering ordering, checkValue_eq_ok, typed] at fits
      obtain ⟨_, moved⟩ := fits
      obtain ⟨word, moved⟩ := exists_coerce_uint64 moved
      exact ⟨_, .ordering ordering moved⟩
  exact ⟨lowered, (lowerSplitLeaf_eq_ok split.columns).mpr shape, shape⟩

end Leaf

/-! ## Checked leaves can be lowered -/

namespace Sql.Compiler

variable {schema : Schema} {dialect : Dialect}

def standard (schema : Schema) (dialect : Dialect) : Compiler :=
  { resolver := schema.resolver, backend := .standard dialect }

theorem lowerings_standard (dialect : Dialect) :
    (Backend.standard dialect).lowerings[splitName]? = some lowerSplit := by
  unfold Backend.standard Backend.withLowering
  exact Std.TreeMap.getElem?_insert_self

theorem lowerLeaf_unchanged (compiler : Compiler) {leaf : Leaf}
    (kept : leaf.target = .constant ∨ leaf.target = .column) (negated : Bool) :
    compiler.lowerLeaf negated leaf = .ok ((Predicate.ofLeaf leaf).withNegation negated) := by
  rw [lowerLeaf, if_pos (by simpa using kept)]
  simp [Predicate.ofLeaf, Predicate.withNegation]

theorem lowerLeaf_stored {compiler : Compiler} {leaf : Leaf} {property : Property}
    {type : ScalarType} {column : String} {lowered : Predicate}
    (moving : ¬ (leaf.target = .constant || leaf.target = .column) = true)
    (resolved : compiler.resolver.resolve leaf = .ok property)
    (storedAs : property.StoredAs type column)
    (found : columnLeaf leaf property column = .ok lowered) (negated : Bool) :
    compiler.lowerLeaf negated leaf = .ok (lowered.withNegation negated) := by
  have single : ¬ 1 < property.codec.columns := by
    rw [storedAs.codec]
    exact Nat.lt_irrefl 1
  have inOne : property.singleColumn? = some column := by
    unfold Property.singleColumn?
    rw [storedAs.columns, storedAs.codec]
    rfl
  rw [lowerLeaf, if_neg moving, resolved]
  show (if 1 < property.codec.columns then _ else _) = _
  rw [if_neg single, inOne]
  show (columnLeaf leaf property column >>= _) = _
  rw [found]
  rfl

theorem lowerLeaf_split {compiler : Compiler} {leaf : Leaf} {property : Property}
    {columns : SplitColumns} {lowered : Predicate}
    (moving : ¬ (leaf.target = .constant || leaf.target = .column) = true)
    (resolved : compiler.resolver.resolve leaf = .ok property)
    (split : property.SplitOver columns)
    (known : compiler.backend.lowerings[splitName]? = some lowerSplit)
    (found : lowerSplitLeaf leaf property = .ok lowered) (negated : Bool) :
    compiler.lowerLeaf negated leaf = .ok (lowered.withNegation negated) := by
  have several : 1 < property.codec.columns := by
    rw [split.codec]
    exact Nat.one_lt_two
  have named : property.codec.name = splitName := by
    rw [split.codec]
    rfl
  rw [lowerLeaf, if_neg moving, resolved]
  show (if 1 < property.codec.columns then _ else _) = _
  rw [if_pos several, named, known]
  show lowerSplit (.leaf negated leaf) property = _
  rw [lowerSplit, found]
  rfl

theorem exists_lowerLeaf
    (builtIn : schema.IsBuiltIn)
    (checked : schema.checkBackend (.standard dialect) = .ok ()) {leaf : Leaf}
    (shaped : leaf.checkShape = .ok ()) (typed : leaf.checkTypes schema.resolver = .ok ())
    (negated : Bool) :
    ∃ lowered, (standard schema dialect).lowerLeaf negated leaf =
        .ok (lowered.withNegation negated) ∧ leaf.Lowered schema.resolver lowered := by
  by_cases kept : leaf.target = .constant ∨ leaf.target = .column
  · exact ⟨_, lowerLeaf_unchanged _ kept negated, .unchanged kept⟩
  · have moving : ¬ (leaf.target = .constant || leaf.target = .column) = true := by
      simpa using kept
    rw [Leaf.checkTypes, if_neg moving] at typed
    obtain ⟨property, resolved, fits⟩ := Result.bind_eq_ok.mp typed
    have member := Schema.mem_properties (Schema.addresses_of_resolve resolved)
    have counted := Schema.checkColumns_of_checkBackend checked member
    rcases Property.stored_or_split (builtIn property member) counted with
      ⟨type, column, storedAs⟩ | ⟨columns, split⟩
    · obtain ⟨lowered, found, shape⟩ := Leaf.exists_columnLeaf storedAs fits fun pattern =>
        Leaf.checkShape_like_eq_ok shaped pattern fun constant => kept (.inl constant)
      exact ⟨lowered, lowerLeaf_stored moving resolved storedAs found negated,
        .stored resolved storedAs shape⟩
    · obtain ⟨lowered, found, shape⟩ := Leaf.exists_lowerSplitLeaf split fits
      exact ⟨lowered,
        lowerLeaf_split moving resolved split (lowerings_standard dialect) found negated,
        .split resolved split shape⟩

/-- A tree that passes the checks of a collection with built-in codecs can be lowered, and
what its leaves and its groups carry over to their lowered forms holds of its own. -/
theorem exists_lower_of_valid (related : Predicate → Predicate → Prop)
    (builtIn : schema.IsBuiltIn) (checked : schema.checkBackend (.standard dialect) = .ok ())
    {p : Predicate}
    (valid : p.validate schema.resolver = .ok ())
    (onLeaf : ∀ negated, ∀ leaf ∈ p.leaves, leaf.checkShape = .ok () → ∀ lowered,
      leaf.Lowered schema.resolver lowered →
        related (.leaf negated leaf) (lowered.withNegation negated))
    (onGroup : ∀ negated connective children lowered, 2 ≤ children.length →
      List.Forall₂ related children lowered →
        related (.group negated connective children) (.group negated connective lowered)) :
    ∃ lowered, (standard schema dialect).lower p = .ok lowered ∧ related p lowered := by
  obtain ⟨shaped, typed⟩ := Predicate.validate_eq_ok.mp valid
  -- the width of a group comes from its shape, so the shape is a premise of the induction
  have carried : ∃ lowered, (standard schema dialect).lower p = .ok lowered ∧
      (p.checkShape = .ok () → related p lowered) := by
    apply exists_lower _ (motive := fun p lowered => p.checkShape = .ok () → related p lowered)
    · intro negated connective children lowered each groupShaped
      obtain ⟨wide, childrenShaped⟩ := Predicate.checkShape_group_eq_ok.mp groupShaped
      apply onGroup negated connective children lowered wide
      clear groupShaped wide
      induction each with
      | nil => exact .nil
      | cons head _ ih =>
          refine .cons (head (childrenShaped _ List.mem_cons_self)) (ih ?_)
          exact fun child member => childrenShaped child (List.mem_cons_of_mem _ member)
    · intro leaf member negated
      have leafShaped := Predicate.checkShape_of_mem_leaves shaped member
      obtain ⟨lowered, run, shape⟩ :=
        exists_lowerLeaf builtIn checked leafShaped (typed leaf member) negated
      exact ⟨_, run, fun _ => onLeaf negated leaf member leafShaped lowered shape⟩
  obtain ⟨lowered, run, holds⟩ := carried
  exact ⟨lowered, run, holds shaped⟩

end Sql.Compiler

end RecordFilter
