import RecordFilter.Proofs.Schema.Fields
import RecordFilter.Proofs.Sql.Codecs

/-!
# Mirrored stores

A store of columns mirrors a store of records if it has the same keys and its columns hold
what the codecs make of the fields. A predicate that passes the checks of the schema has
one answer for the records, and its lowered form has the same answer for the columns.
-/

set_option autoImplicit false

namespace RecordFilter

open Sql (Property SplitColumns SplitWord Backend Compiler Dialect stored)

/-! ## Fields and their columns -/

namespace Sql.Property

/-- The fields that a property admits: values of its type and, if it has one column, null
and nothing at all. -/
inductive Admits (property : Property) : Option Value → Prop where
  | absent : property.codec.columns = 1 → Admits property none
  | null : property.codec.columns = 1 → Admits property (some .null)
  | typed {v : Value} : v.type? = some property.codec.type → Admits property (some v)

/-- The columns of a property hold the encoding of a field; for a field that is absent or
null, they are missing or null. -/
inductive Mirrored (property : Property) (cells : Bag) : Option Value → Prop where
  | missing {field : Option Value} : (∀ v, field = some v → v.isNull = true) →
      (∀ column ∈ property.columns, ∀ v, cells[column]? = some v → v.isNull = true) →
      Mirrored property cells field
  | encoded {v : Value} {encoded : List Value} : v.isNull = false →
      property.codec.encode v = .ok encoded →
      property.columns.map (cells[·]?) = encoded.map some → Mirrored property cells (some v)

variable {property : Property} {field : Option Value}

theorem admits_none_iff : property.Admits none ↔ property.codec.columns = 1 := by
  constructor
  · intro admitted
    cases admitted with
    | absent one => exact one
  · exact .absent

theorem admits_some_iff {v : Value} :
    property.Admits (some v) ↔
      v = .null ∧ property.codec.columns = 1 ∨ v.type? = some property.codec.type := by
  constructor
  · intro admitted
    cases admitted with
    | null one => exact .inl ⟨rfl, one⟩
    | typed typed => exact .inr typed
  · rintro (⟨rfl, one⟩ | typed)
    · exact .null one
    · exact .typed typed

instance (property : Property) : (field : Option Value) → Decidable (property.Admits field)
  | none => decidable_of_iff' _ admits_none_iff
  | some _ => decidable_of_iff' _ admits_some_iff

theorem encode_stored {type : ScalarType} {column : String}
    (storedAs : property.StoredAs type column) {v : Value} (typed : v.type? = some type) :
    property.codec.encode v = .ok [stored v] := by
  rw [storedAs.codec]
  exact nativeEncode_of_coerce (Value.coerce_of_type? typed)

theorem encode_split {columns : SplitColumns} (split : property.SplitOver columns)
    (word : UInt64) :
    property.codec.encode (.uint64 word) = .ok (SplitWord.ofWord word).columns := by
  rw [split.codec]
  exact splitEncode_word word

theorem Admits.stored_cases {type : ScalarType} {column : String} (admitted : property.Admits field)
    (storedAs : property.StoredAs type column) :
    (∀ v, field = some v → v.isNull = true) ∨ ∃ v, field = some v ∧ v.type? = some type := by
  cases admitted with
  | absent => exact .inl nofun
  | null =>
      left
      intro v same
      cases same
      rfl
  | @typed v typed =>
      rw [storedAs.codec] at typed
      exact .inr ⟨v, rfl, typed⟩

theorem Admits.split_cases {columns : SplitColumns} (admitted : property.Admits field)
    (split : property.SplitOver columns) : ∃ word, field = some (.uint64 word) := by
  have several : property.codec.columns = 2 := by
    rw [split.codec]
    rfl
  cases admitted with
  | absent one =>
      rw [several] at one
      cases one
  | null one =>
      rw [several] at one
      cases one
  | @typed v typed =>
      rw [split.codec] at typed
      cases v with
      | uint64 word => exact ⟨word, rfl⟩
      | _ => cases typed

theorem Mirrored.stored_cell {cells : Bag} {type : ScalarType} {column : String} {v : Value}
    (mirrored : property.Mirrored cells (some v)) (storedAs : property.StoredAs type column)
    (typed : v.type? = some type) : cells[column]? = some (stored v) := by
  cases mirrored with
  | missing null =>
      have absurd := null v rfl
      rw [Value.isNull_of_type? typed] at absurd
      cases absurd
  | encoded _ encoding held =>
      rw [encode_stored storedAs typed] at encoding
      cases encoding
      rw [storedAs.columns] at held
      exact List.head_eq_of_cons_eq held

theorem Mirrored.missing_cell {cells : Bag} {type : ScalarType} {column : String}
    (mirrored : property.Mirrored cells field) (storedAs : property.StoredAs type column)
    (null : ∀ v, field = some v → v.isNull = true) :
    ∀ v, cells[column]? = some v → v.isNull = true := by
  cases mirrored with
  | missing _ held =>
      apply held column
      rw [storedAs.columns]
      exact List.mem_singleton_self column
  | encoded present =>
      rw [null _ rfl] at present
      cases present

theorem Mirrored.split_cells {cells : Bag} {columns : SplitColumns} {word : UInt64}
    (mirrored : property.Mirrored cells (some (.uint64 word)))
    (split : property.SplitOver columns) :
    cells[columns.high]? = some (.int64 (SplitWord.ofWord word).high) ∧
      cells[columns.low]? = some (.int64 (SplitWord.ofWord word).low) := by
  cases mirrored with
  | missing null => cases null _ rfl
  | encoded _ encoding held =>
      rw [encode_split split] at encoding
      cases encoding
      rw [split.columns] at held
      obtain ⟨high, rest⟩ := List.cons_eq_cons.mp held
      exact ⟨high, List.head_eq_of_cons_eq rest⟩

end Sql.Property

/-! ## Stores -/

namespace Schema

variable {schema : Schema} {logical physical : Store}

def Conforms (schema : Schema) (store : Store) : Prop :=
  ∀ key record, store.get? key = some record →
    ∀ entry ∈ schema.fields key record, entry.1.Admits entry.2

theorem conforms_iff {store : Store} :
    schema.Conforms store ↔ ∀ entry ∈ store.records.toList,
      ∀ field ∈ schema.fields entry.1 entry.2, field.1.Admits field.2 :=
  Store.forall_get?_iff

instance (schema : Schema) (store : Store) : Decidable (schema.Conforms store) :=
  decidable_of_iff' _ conforms_iff

/-- A store of columns has the keys of a store of records, and its columns hold the
encodings of the declared fields. -/
structure Mirrors (schema : Schema) (logical physical : Store) : Prop where
  keys : ∀ key, (∃ cells, physical.get? key = some cells) ↔
    ∃ record, logical.get? key = some record
  fields : ∀ key record cells, logical.get? key = some record → physical.get? key = some cells →
    ∀ entry ∈ schema.fields key record, entry.1.Mirrored cells.values entry.2

theorem Conforms.fits (conforms : schema.Conforms logical) : schema.Fits logical := by
  rintro key record found ⟨property, field⟩ member v held
  cases conforms key record found _ member with
  | absent => cases held
  | null =>
      cases held
      exact .inl rfl
  | typed typed =>
      cases held
      exact .inr ⟨v, Value.coerce_of_type? typed⟩

theorem Mirrors.mem_keys (mirrors : schema.Mirrors logical physical) {key : String} :
    key ∈ physical.keys ↔ key ∈ logical.keys := by
  rw [Store.mem_keys, Store.mem_keys]
  exact mirrors.keys key

/-! ## Leaves -/

section Leaves

variable (conforms : schema.Conforms logical) (mirrors : schema.Mirrors logical physical)
  {leaf : Leaf} {lowered : Predicate}

include conforms mirrors

theorem exists_mirrored {property : Property}
    (resolved : schema.resolver.resolve leaf = .ok property) {key : String}
    (member : key ∈ logical.keys) :
    ∃ field cells, property.Admits field ∧ property.Mirrored cells field ∧
      (∀ column, physical.population.cell key column = cells[column]?) ∧
      logical.population.leafHolds leaf key =
        field.any fun actual => !actual.isNull && leaf.agrees actual := by
  obtain ⟨record, found⟩ := Store.mem_keys.mp member
  obtain ⟨cells, held⟩ := (mirrors.keys key).mpr ⟨record, found⟩
  obtain ⟨field, entry, truth⟩ := exists_field (addresses_of_resolve resolved) key record
  refine ⟨field, cells.values, conforms key record found _ entry,
    mirrors.fields key record cells found held _ entry, fun column => ?_,
    truth logical.population found⟩
  have recorded : physical.population.record? key = some cells := held
  rw [Population.cell, recorded]
  rfl

variable (shape : leaf.Lowered schema.resolver lowered) (logicalTarget : leaf.target ≠ .column)

include shape logicalTarget

/-- At every key a lowered leaf is true of the columns if the leaf is true of the record. -/
theorem holds_lowered {key : String} (member : key ∈ logical.keys) :
    physical.population.holds lowered key = logical.population.leafHolds leaf key := by
  cases shape with
  | unchanged kept =>
      have constant := kept.resolve_right logicalTarget
      rw [Predicate.ofLeaf, Population.holds_leaf, Bool.false_xor]
      simp only [Population.leafHolds, constant]
  | stored resolved storedAs shape =>
      obtain ⟨field, cells, admitted, mirrored, cell, truth⟩ :=
        exists_mirrored conforms mirrors resolved member
      rw [truth]
      rcases admitted.stored_cases storedAs with null | ⟨v, rfl, typed⟩
      · have missing := mirrored.missing_cell storedAs null
        simp only [← cell] at missing
        rw [shape.holds_missing missing]
        cases field with
        | none => rfl
        | some v => simp [null v rfl]
      · have stored := mirrored.stored_cell storedAs typed
        rw [← cell] at stored
        rw [shape.holds_iff typed stored, Option.any_some, Value.isNull_of_type? typed]
        rfl
  | split resolved split shape =>
      obtain ⟨field, cells, admitted, mirrored, cell, truth⟩ :=
        exists_mirrored conforms mirrors resolved member
      rw [truth]
      obtain ⟨word, rfl⟩ := admitted.split_cases split
      obtain ⟨high, low⟩ := mirrored.split_cells split
      rw [← cell] at high low
      rw [shape.holds_iff ⟨high, low⟩]
      rfl

theorem madeOf_lowered (shaped : leaf.checkShape = .ok ()) :
    lowered.MadeOf fun leaf' => ∃ chosen, physical.population.leafKeys leaf' = .ok chosen := by
  cases shape with
  | unchanged kept =>
      have constant := kept.resolve_right logicalTarget
      exact Predicate.madeOf_leaf shaped (Population.exists_leafKeys_constant shaped constant)
  | stored resolved storedAs shape =>
      obtain ⟨leaf', rfl, fitting⟩ := shape.exists_leaf
      refine Predicate.madeOf_leaf fitting.shaped (Population.exists_leafKeys_fitting fitting ?_)
      intro key member actual asked
      obtain ⟨field, cells, admitted, mirrored, cell, _⟩ :=
        exists_mirrored conforms mirrors resolved (mirrors.mem_keys.mp member)
      rw [cell] at asked
      rcases admitted.stored_cases storedAs with null | ⟨v, rfl, typed⟩
      · exact .inl (mirrored.missing_cell storedAs null actual asked)
      · rw [mirrored.stored_cell storedAs typed] at asked
        cases asked
        exact .inr (Value.type?_stored typed)
  | @split property columns lowered resolved split shape =>
      apply shape.madeOf_asked
      intro key member
      obtain ⟨field, cells, admitted, mirrored, cell, _⟩ :=
        exists_mirrored conforms mirrors resolved (mirrors.mem_keys.mp member)
      obtain ⟨word, rfl⟩ := admitted.split_cases split
      obtain ⟨high, low⟩ := mirrored.split_cells split
      rw [← cell] at high low
      exact ⟨word, high, low⟩

end Leaves

/-! ## A store of columns for every store of records -/

def encodedField (property : Property) : Option Value → List Value
  | some v =>
    if v.isNull then property.columns.map fun _ => .null
    else
      match property.codec.encode v with
      | .ok encoded => encoded
      | .error _ => []
  | none => property.columns.map fun _ => .null

def cells (schema : Schema) (key : String) (record : Record) : List (String × Value) :=
  (schema.fields key record).flatMap fun entry =>
    entry.1.columns.zip (encodedField entry.1 entry.2)

def mirror (schema : Schema) (store : Store) : Store :=
  ⟨store.records.map fun key record =>
    { key, values := Std.TreeMap.ofList (schema.cells key record), metadata := ∅ }⟩

theorem map_getElem?_zip {cells : Bag} {columns : List String} {values : List Value}
    (sized : values.length = columns.length)
    (each : ∀ pair ∈ columns.zip values, cells[pair.1]? = some pair.2) :
    columns.map (cells[·]?) = values.map some := by
  induction columns generalizing values with
  | nil => rw [List.length_eq_zero_iff.mp sized, List.map_nil, List.map_nil]
  | cons column columns ih =>
      cases values with
      | nil => cases sized
      | cons value values =>
          rw [List.map_cons, List.map_cons, ih (Nat.succ.inj sized)]
          · rw [each (column, value) List.mem_cons_self]
          · exact fun pair member => each pair (List.mem_cons_of_mem _ member)

/-- Values for the columns of a property that mirror a field. -/
structure Filling (property : Property) (field : Option Value) (values : List Value) : Prop where
  sized : values.length = property.columns.length
  mirrored : ∀ cells : Bag, property.columns.map (cells[·]?) = values.map some →
    property.Mirrored cells field

theorem filling_missing (property : Property) {field : Option Value}
    (null : ∀ v, field = some v → v.isNull = true) :
    Filling property field (encodedField property field) := by
  have nulls : encodedField property field = property.columns.map fun _ => .null := by
    cases field with
    | none => rfl
    | some v => exact if_pos (null v rfl)
  rw [nulls]
  refine ⟨List.length_map _, fun cells held => .missing null fun column member v found => ?_⟩
  rw [List.map_map] at held
  rw [List.map_inj_left.mp held column member] at found
  cases found
  rfl

theorem filling_encoded {property : Property} {v : Value} {encoded : List Value}
    (present : v.isNull = false) (encoding : property.codec.encode v = .ok encoded)
    (sized : encoded.length = property.columns.length) :
    Filling property (some v) (encodedField property (some v)) := by
  have same : encodedField property (some v) = encoded := by
    simp only [encodedField, present, encoding, Bool.false_eq_true, ↓reduceIte]
  rw [same]
  exact ⟨sized, fun cells held => .encoded present encoding held⟩

theorem filling_encodedField {property : Property} (builtIn : property.codec.IsBuiltIn)
    (counted : property.checkColumns = .ok ()) {field : Option Value}
    (admitted : property.Admits field) :
    Filling property field (encodedField property field) := by
  rcases Property.stored_or_split builtIn counted with ⟨type, column, storedAs⟩ | ⟨columns, split⟩
  · rcases admitted.stored_cases storedAs with null | ⟨v, rfl, typed⟩
    · exact filling_missing property null
    · apply filling_encoded (Value.isNull_of_type? typed) (Property.encode_stored storedAs typed)
      rw [storedAs.columns]
      rfl
  · obtain ⟨word, rfl⟩ := admitted.split_cases split
    apply filling_encoded rfl (Property.encode_split split word)
    rw [split.columns]
    rfl

theorem map_fst_cells {key : String} {record : Record}
    (filled : ∀ entry ∈ schema.fields key record,
      Filling entry.1 entry.2 (encodedField entry.1 entry.2)) :
    (schema.cells key record).map (·.1) = schema.properties.flatMap (·.columns) := by
  rw [← map_fst_fields key record, cells, List.map_flatMap, List.flatMap_map]
  apply List.flatMap_congr
  intro entry member
  exact List.map_fst_zip (Nat.le_of_eq (filled entry member).sized.symm)

/-- The columns of a schema that uses no column twice can hold every conforming store. -/
theorem mirrors_mirror (builtIn : schema.IsBuiltIn)
    (counted : ∀ property ∈ schema.properties, property.checkColumns = .ok ())
    (distinct : (schema.properties.flatMap (·.columns)).Nodup)
    (conforms : schema.Conforms logical) : schema.Mirrors logical (schema.mirror logical) := by
  have recorded : ∀ key, (schema.mirror logical).get? key =
      (logical.get? key).map fun record =>
        { key, values := Std.TreeMap.ofList (schema.cells key record), metadata := ∅ } := by
    intro key
    exact Std.TreeMap.getElem?_map
  refine ⟨fun key => ?_, fun key record cells found held entry member => ?_⟩
  · rw [recorded]
    simp
  · rw [recorded, found] at held
    cases held
    have filled : ∀ entry ∈ schema.fields key record,
        Filling entry.1 entry.2 (encodedField entry.1 entry.2) := by
      intro entry member
      have declared : entry.1 ∈ schema.properties := by
        rw [← map_fst_fields key record]
        exact List.mem_map_of_mem member
      exact filling_encodedField (builtIn _ declared) (counted _ declared)
        (conforms key record found entry member)
    have apart : (schema.cells key record).Pairwise fun a b => ¬ compare a.1 b.1 = .eq := by
      rw [← map_fst_cells filled] at distinct
      refine (List.pairwise_map.mp distinct).imp fun different same => different ?_
      exact Std.LawfulEqOrd.compare_eq_iff_eq.mp same
    apply (filled entry member).mirrored
    apply map_getElem?_zip (filled entry member).sized
    intro pair pairMember
    have listed : (pair.1, pair.2) ∈ schema.cells key record :=
      List.mem_flatMap.mpr ⟨entry, member, pairMember⟩
    exact Std.TreeMap.getElem?_ofList_of_mem Std.ReflOrd.compare_self apart listed

end Schema

end RecordFilter
