import Mathlib.Algebra.Group.Nat.Defs
import RecordFilter.Proofs.Result
import RecordFilter.Wire.Decoder
import RecordFilter.Wire.Encoder

/-!
# What the readers accept

Each reader accepts exactly the bytes that begin with what the writer makes of some thing,
gives that thing, and leaves the bytes behind it. A length is written in eight bytes, so
this is about texts and lists whose length fits in them.
-/

set_option autoImplicit false

namespace RecordFilter

/-! ## Lengths -/

/-- A length that can be written in eight bytes, like that of all that fits in memory. -/
def Wire.IsLength (length : Nat) : Prop :=
  length < 256 ^ 8

instance (length : Nat) : Decidable (Wire.IsLength length) :=
  inferInstanceAs (Decidable (length < 256 ^ 8))

/-- Values whose texts have such lengths. -/
def Value.IsBounded (v : Value) : Prop :=
  ∀ text ∈ v.text?, Wire.IsLength text.utf8ByteSize

theorem Value.isBounded_of_text?_eq_none {v : Value} (none : v.text? = none) : v.IsBounded := by
  intro text member
  rw [none] at member
  cases member

theorem Value.isBounded_string {text : String} :
    (Value.string text).IsBounded ↔ Wire.IsLength text.utf8ByteSize := by
  simp [Value.IsBounded, Value.text?]

structure Leaf.IsBounded (l : Leaf) : Prop where
  property : ∀ text ∈ l.property, Wire.IsLength text.utf8ByteSize
  value : l.value.IsBounded
  count : Wire.IsLength l.values.length
  values : ∀ v ∈ l.values, v.IsBounded

namespace Wire

/-! ## Steps of a reader -/

section Steps

variable {α β : Type} {bytes rest : List UInt8}

theorem bind_eq_ok {reader : Reader α} {next : α → Reader β} {b : β} :
    (reader >>= next) bytes = .ok (b, rest) ↔
      ∃ a middle, reader bytes = .ok (a, middle) ∧ next a middle = .ok (b, rest) := by
  show reader bytes >>= (fun (a, middle) => next a middle) = _ ↔ _
  rw [Result.bind_eq_ok, Prod.exists]

theorem pure_eq_ok {a b : α} :
    (pure a : Reader α) bytes = .ok (b, rest) ↔ b = a ∧ bytes = rest := by
  show (Except.ok (a, bytes) : Except Fault _) = _ ↔ _
  rw [Except.ok.injEq, Prod.mk.injEq, eq_comm]

theorem throw_ne_ok {fault : Fault} {b : β} :
    (throw fault : Reader β) bytes ≠ .ok (b, rest) := by
  rintro ⟨⟩

end Steps

/-! ## Numbers -/

theorem ofLittleEndian_littleEndian {width n : Nat} (fits : n < 256 ^ width) :
    ofLittleEndian (littleEndian width n) = n := by
  induction width generalizing n with
  | zero =>
      have zero : n = 0 := by simpa using fits
      rw [zero]
      rfl
  | succ width ih =>
      rw [Nat.pow_succ] at fits
      rw [littleEndian, ofLittleEndian, ih (by omega), UInt8.toNat_ofNat']
      omega

theorem littleEndian_ofLittleEndian (bytes : List UInt8) :
    littleEndian bytes.length (ofLittleEndian bytes) = bytes := by
  induction bytes with
  | nil => rfl
  | cons byte bytes ih =>
      have small := byte.toNat_lt
      have low : (byte.toNat + 256 * ofLittleEndian bytes) % 256 = byte.toNat := by omega
      have high : (byte.toNat + 256 * ofLittleEndian bytes) / 256 = ofLittleEndian bytes := by
        omega
      rw [List.length_cons, ofLittleEndian, littleEndian, low, high, ih, UInt8.ofNat_toNat]

theorem ofLittleEndian_lt (bytes : List UInt8) :
    ofLittleEndian bytes < 256 ^ bytes.length := by
  induction bytes with
  | nil => decide
  | cons byte bytes ih =>
      have small := byte.toNat_lt
      rw [ofLittleEndian, List.length_cons, Nat.pow_succ]
      omega

variable {bytes rest : List UInt8}

theorem readBytes_eq_ok {count : Nat} {fault : Fault} {taken : List UInt8} :
    readBytes count fault bytes = .ok (taken, rest) ↔
      taken.length = count ∧ bytes = taken ++ rest := by
  simp only [readBytes]
  constructor
  · intro read
    split at read
    next => cases read
    next enough =>
      cases read
      have most := List.length_take_le count bytes
      exact ⟨by omega, (List.take_append_drop count bytes).symm⟩
  · intro written
    obtain ⟨rfl, rfl⟩ := written
    rw [List.take_left, List.drop_left]
    simp

theorem readNat_eq_ok {width n : Nat} :
    readNat width bytes = .ok (n, rest) ↔ n < 256 ^ width ∧ bytes = littleEndian width n ++ rest := by
  simp only [readNat, bind_eq_ok, readBytes_eq_ok, pure_eq_ok]
  constructor
  · intro accepted
    obtain ⟨taken, _, ⟨rfl, rfl⟩, rfl, rfl⟩ := accepted
    exact ⟨ofLittleEndian_lt taken, by rw [littleEndian_ofLittleEndian]⟩
  · intro written
    obtain ⟨fits, rfl⟩ := written
    exact ⟨littleEndian width n, rest, ⟨length_littleEndian width n, rfl⟩,
      (ofLittleEndian_littleEndian fits).symm, rfl⟩

theorem readByte_eq_ok {byte : UInt8} :
    readByte bytes = .ok (byte, rest) ↔ bytes = byte :: rest := by
  simp only [readByte, bind_eq_ok, readNat_eq_ok, pure_eq_ok]
  constructor
  · intro accepted
    obtain ⟨n, _, ⟨small, rfl⟩, rfl, rfl⟩ := accepted
    simp [littleEndian, Nat.mod_eq_of_lt (show n < 256 from small)]
  · intro written
    subst written
    exact ⟨byte.toNat, rest, ⟨byte.toNat_lt, by simp [littleEndian]⟩,
      UInt8.ofNat_toNat.symm, rfl⟩

theorem readTruth_eq_ok {truth : Bool} :
    readTruth bytes = .ok (truth, rest) ↔ bytes = encodeTruth truth ++ rest := by
  simp only [readTruth, bind_eq_ok, readByte_eq_ok]
  constructor
  · intro accepted
    obtain ⟨byte, _, rfl, read⟩ := accepted
    split at read
    next =>
      obtain ⟨rfl, rfl⟩ := pure_eq_ok.mp read
      rfl
    next =>
      obtain ⟨rfl, rfl⟩ := pure_eq_ok.mp read
      rfl
    next => exact absurd read throw_ne_ok
  · intro written
    subst written
    cases truth with
    | false => exact ⟨0, rest, rfl, rfl⟩
    | true => exact ⟨1, rest, rfl, rfl⟩

/-! ## Choices -/

theorem readChoice_eq_ok {α : Type} {choices : List α} (few : choices.length ≤ 256 ^ 4)
    {choice : α} :
    readChoice choices bytes = .ok (choice, rest) ↔
      ∃ place, choices[place]? = some choice ∧ bytes = encodeTag place ++ rest := by
  simp only [readChoice, bind_eq_ok, readNat_eq_ok]
  constructor
  · intro accepted
    obtain ⟨place, _, ⟨_, rfl⟩, read⟩ := accepted
    cases found : choices[place]? with
    | none =>
        rw [found] at read
        exact absurd read throw_ne_ok
    | some other =>
        rw [found] at read
        obtain ⟨rfl, rfl⟩ := pure_eq_ok.mp read
        exact ⟨place, found, rfl⟩
  · intro written
    obtain ⟨place, found, rfl⟩ := written
    obtain ⟨inside, _⟩ := List.getElem?_eq_some_iff.mp found
    refine ⟨place, rest, ⟨by omega, rfl⟩, ?_⟩
    rw [found]
    rfl

/-- Choices that are written by a tag, each the place at which it stands. -/
theorem readChoice_tag_eq_ok {α : Type} {choices : List α} {tag : α → Nat}
    (few : choices.length ≤ 256 ^ 4) (once : choices.Nodup)
    (listed : ∀ choice, choices[tag choice]? = some choice) {choice : α} :
    readChoice choices bytes = .ok (choice, rest) ↔ bytes = encodeTag (tag choice) ++ rest := by
  rw [readChoice_eq_ok few]
  constructor
  · intro accepted
    obtain ⟨place, found, rfl⟩ := accepted
    obtain ⟨inside, _⟩ := List.getElem?_eq_some_iff.mp found
    have same := (List.getElem?_inj inside once).mp (found.trans (listed choice).symm)
    rw [same]
  · intro written
    subst written
    exact ⟨tag choice, listed choice, rfl⟩

theorem readTarget_eq_ok {target : Target} :
    readChoice targets bytes = .ok (target, rest) ↔
      bytes = encodeTag (targetTag target) ++ rest :=
  readChoice_tag_eq_ok (by decide) (by decide) (by rintro ⟨⟩ <;> rfl)

theorem readComparison_eq_ok {comparison : Comparison} :
    readChoice comparisons bytes = .ok (comparison, rest) ↔
      bytes = encodeTag (comparisonTag comparison) ++ rest :=
  readChoice_tag_eq_ok (by decide) (by decide) (by rintro ⟨⟩ <;> rfl)

theorem readConnective_eq_ok {connective : Connective} :
    readChoice connectives bytes = .ok (connective, rest) ↔
      bytes = encodeTag (connectiveTag connective) ++ rest :=
  readChoice_tag_eq_ok (by decide) (by decide) (by rintro ⟨⟩ <;> rfl)

/-! ## Texts and lists -/

theorem fromUTF8?_eq_some {content : ByteArray} {text : String} :
    String.fromUTF8? content = some text ↔ content = text.toUTF8 := by
  unfold String.fromUTF8?
  constructor
  · intro read
    split at read
    next valid =>
      cases read
      rfl
    next => cases read
  · intro written
    subst written
    exact dif_pos text.isValidUTF8

theorem readText_eq_ok {text : String} :
    readText bytes = .ok (text, rest) ↔
      IsLength text.utf8ByteSize ∧ bytes = encodeText text ++ rest := by
  simp only [readText, bind_eq_ok, readNat_eq_ok, readBytes_eq_ok]
  constructor
  · intro accepted
    obtain ⟨length, _, ⟨short, rfl⟩, content, _, ⟨rfl, rfl⟩, read⟩ := accepted
    cases found : String.fromUTF8? ⟨content.toArray⟩ with
    | none =>
        rw [found] at read
        exact absurd read throw_ne_ok
    | some other =>
        rw [found] at read
        obtain ⟨rfl, rfl⟩ := pure_eq_ok.mp read
        have same := fromUTF8?_eq_some.mp found
        have listed : content = text.toUTF8.data.toList := by rw [← same]
        have size : content.length = text.toUTF8.size := by rw [← same]; rfl
        rw [size] at short
        refine ⟨short, ?_⟩
        rw [encodeText, encodeLength, ← size, ← listed, List.append_assoc]
  · intro written
    obtain ⟨short, rfl⟩ := written
    have listed : text.toUTF8.data.toList.length = text.toUTF8.size := rfl
    have read : String.fromUTF8? ⟨text.toUTF8.data.toList.toArray⟩ = some text :=
      fromUTF8?_eq_some.mpr rfl
    rw [encodeText, encodeLength, List.append_assoc]
    refine ⟨_, _, ⟨short, rfl⟩, _, rest, ⟨listed, rfl⟩, ?_⟩
    rw [read]
    rfl

theorem readOptionalText_eq_ok {property : Option String} :
    readOptionalText bytes = .ok (property, rest) ↔
      (∀ text ∈ property, IsLength text.utf8ByteSize) ∧
        bytes = encodeOptionalText property ++ rest := by
  simp only [readOptionalText, bind_eq_ok, readByte_eq_ok]
  constructor
  · intro accepted
    obtain ⟨byte, _, rfl, read⟩ := accepted
    split at read
    next =>
      obtain ⟨rfl, rfl⟩ := pure_eq_ok.mp read
      exact ⟨by simp, rfl⟩
    next =>
      simp only [bind_eq_ok, readText_eq_ok, pure_eq_ok] at read
      obtain ⟨text, _, ⟨short, rfl⟩, rfl, rfl⟩ := read
      exact ⟨by simpa using short, rfl⟩
    next => exact absurd read throw_ne_ok
  · intro written
    obtain ⟨short, rfl⟩ := written
    cases property with
    | none => exact ⟨0, rest, rfl, rfl⟩
    | some text =>
        refine ⟨1, encodeText text ++ rest, rfl, ?_⟩
        exact bind_eq_ok.mpr ⟨text, rest, readText_eq_ok.mpr ⟨short text rfl, rfl⟩, rfl⟩

theorem readMany_eq_ok {α : Type} {reader : Reader α} {write : α → List UInt8}
    {fits : α → Prop}
    (reads : ∀ bytes a rest,
      reader bytes = .ok (a, rest) ↔ fits a ∧ bytes = write a ++ rest)
    {count : Nat} {items : List α} :
    readMany reader count bytes = .ok (items, rest) ↔
      items.length = count ∧ (∀ a ∈ items, fits a) ∧ bytes = items.flatMap write ++ rest := by
  induction count generalizing bytes rest items with
  | zero =>
      rw [readMany, pure_eq_ok, List.length_eq_zero_iff]
      constructor
      · intro accepted
        obtain ⟨rfl, rfl⟩ := accepted
        exact ⟨rfl, by simp, rfl⟩
      · intro written
        obtain ⟨rfl, _, rfl⟩ := written
        exact ⟨rfl, rfl⟩
  | succ count ih =>
      simp only [readMany, bind_eq_ok, reads, ih, pure_eq_ok]
      constructor
      · intro accepted
        obtain ⟨first, _, ⟨fit, rfl⟩, others, _, ⟨rfl, fits, rfl⟩, rfl, rfl⟩ := accepted
        refine ⟨rfl, List.forall_mem_cons.mpr ⟨fit, fits⟩, ?_⟩
        rw [List.flatMap_cons, List.append_assoc]
      · intro written
        obtain ⟨same, fits, rfl⟩ := written
        cases items with
        | nil => cases same
        | cons first others =>
            obtain ⟨fit, later⟩ := List.forall_mem_cons.mp fits
            rw [List.flatMap_cons, List.append_assoc]
            exact ⟨first, _, ⟨fit, rfl⟩, others, rest, ⟨Nat.succ.inj same, later, rfl⟩, rfl, rfl⟩

/-! ## Values and leaves -/

theorem readWord32_eq_ok (wrap : UInt32 → Value) {v : Value} :
    (do return wrap (UInt32.ofNat (← readNat 4)) : Reader Value) bytes = .ok (v, rest) ↔
      ∃ word, v = wrap word ∧ bytes = littleEndian 4 word.toNat ++ rest := by
  simp only [bind_eq_ok, readNat_eq_ok, pure_eq_ok]
  constructor
  · intro accepted
    obtain ⟨n, _, ⟨small, rfl⟩, rfl, rfl⟩ := accepted
    exact ⟨.ofNat n, rfl, by rw [UInt32.toNat_ofNat_of_lt' small]⟩
  · intro written
    obtain ⟨word, rfl, rfl⟩ := written
    exact ⟨word.toNat, rest, ⟨word.toNat_lt, rfl⟩, by rw [UInt32.ofNat_toNat], rfl⟩

theorem readWord64_eq_ok (wrap : UInt64 → Value) {v : Value} :
    (do return wrap (UInt64.ofNat (← readNat 8)) : Reader Value) bytes = .ok (v, rest) ↔
      ∃ word, v = wrap word ∧ bytes = littleEndian 8 word.toNat ++ rest := by
  simp only [bind_eq_ok, readNat_eq_ok, pure_eq_ok]
  constructor
  · intro accepted
    obtain ⟨n, _, ⟨small, rfl⟩, rfl, rfl⟩ := accepted
    exact ⟨.ofNat n, rfl, by rw [UInt64.toNat_ofNat_of_lt' small]⟩
  · intro written
    obtain ⟨word, rfl, rfl⟩ := written
    exact ⟨word.toNat, rest, ⟨word.toNat_lt, rfl⟩, by rw [UInt64.ofNat_toNat], rfl⟩

/-- What a reader in the table accepts is written with its place in front. -/
theorem of_valueReader {place : Nat} {reader : Reader Value} {v : Value}
    (listed : valueReaders[place]? = some reader) (read : reader bytes = .ok (v, rest)) :
    v.IsBounded ∧ encodeTag place ++ bytes = encodeValue v ++ rest := by
  match place, listed with
  | 0, rfl =>
      obtain ⟨rfl, rfl⟩ := pure_eq_ok.mp read
      exact ⟨Value.isBounded_of_text?_eq_none rfl, rfl⟩
  | 1, rfl =>
      simp only [bind_eq_ok, readTruth_eq_ok, pure_eq_ok] at read
      obtain ⟨b, _, rfl, rfl, rfl⟩ := read
      exact ⟨Value.isBounded_of_text?_eq_none rfl, rfl⟩
  | 2, rfl =>
      obtain ⟨word, rfl, rfl⟩ := (readWord32_eq_ok fun word => .int32 word.toInt32).mp read
      exact ⟨Value.isBounded_of_text?_eq_none rfl, rfl⟩
  | 3, rfl =>
      obtain ⟨word, rfl, rfl⟩ := (readWord64_eq_ok fun word => .int64 word.toInt64).mp read
      exact ⟨Value.isBounded_of_text?_eq_none rfl, rfl⟩
  | 4, rfl =>
      obtain ⟨word, rfl, rfl⟩ := (readWord64_eq_ok fun word => .uint64 word).mp read
      exact ⟨Value.isBounded_of_text?_eq_none rfl, rfl⟩
  | 5, rfl =>
      obtain ⟨word, rfl, rfl⟩ := (readWord64_eq_ok fun word => .float64 ⟨word⟩).mp read
      exact ⟨Value.isBounded_of_text?_eq_none rfl, rfl⟩
  | 6, rfl =>
      simp only [bind_eq_ok, readText_eq_ok, pure_eq_ok] at read
      obtain ⟨text, _, ⟨short, rfl⟩, rfl, rfl⟩ := read
      exact ⟨Value.isBounded_string.mpr short, rfl⟩
  | 7, rfl =>
      obtain ⟨word, rfl, rfl⟩ := (readWord64_eq_ok fun word => .timestamp word.toInt64).mp read
      exact ⟨Value.isBounded_of_text?_eq_none rfl, rfl⟩

theorem exists_valueReader {v : Value} (bounded : v.IsBounded) (rest : List UInt8) :
    ∃ place reader bytes, valueReaders[place]? = some reader ∧
      encodeValue v ++ rest = encodeTag place ++ bytes ∧ reader bytes = .ok (v, rest) := by
  cases v with
  | null => exact ⟨0, _, _, rfl, rfl, rfl⟩
  | boolean b =>
      exact ⟨1, _, _, rfl, List.append_assoc _ _ _,
        bind_eq_ok.mpr ⟨b, rest, readTruth_eq_ok.mpr rfl, rfl⟩⟩
  | int32 n =>
      exact ⟨2, _, _, rfl, List.append_assoc _ _ _,
        (readWord32_eq_ok fun word => .int32 word.toInt32).mpr ⟨n.toUInt32, rfl, rfl⟩⟩
  | int64 n =>
      exact ⟨3, _, _, rfl, List.append_assoc _ _ _,
        (readWord64_eq_ok fun word => .int64 word.toInt64).mpr ⟨n.toUInt64, rfl, rfl⟩⟩
  | uint64 n =>
      exact ⟨4, _, _, rfl, List.append_assoc _ _ _,
        (readWord64_eq_ok .uint64).mpr ⟨n, rfl, rfl⟩⟩
  | float64 x =>
      exact ⟨5, _, _, rfl, List.append_assoc _ _ _,
        (readWord64_eq_ok fun word => .float64 ⟨word⟩).mpr ⟨x.bits, rfl, rfl⟩⟩
  | string text =>
      exact ⟨6, _, _, rfl, List.append_assoc _ _ _,
        bind_eq_ok.mpr ⟨text, rest, readText_eq_ok.mpr ⟨Value.isBounded_string.mp bounded, rfl⟩, rfl⟩⟩
  | timestamp t =>
      exact ⟨7, _, _, rfl, List.append_assoc _ _ _,
        (readWord64_eq_ok fun word => .timestamp word.toInt64).mpr ⟨t.toUInt64, rfl, rfl⟩⟩

theorem readValue_eq_ok {v : Value} :
    readValue bytes = .ok (v, rest) ↔ v.IsBounded ∧ bytes = encodeValue v ++ rest := by
  have few : valueReaders.length ≤ 256 ^ 4 := by decide
  simp only [readValue, bind_eq_ok, readChoice_eq_ok few]
  constructor
  · intro accepted
    obtain ⟨reader, _, ⟨place, listed, rfl⟩, read⟩ := accepted
    exact of_valueReader listed read
  · intro written
    obtain ⟨bounded, rfl⟩ := written
    obtain ⟨place, reader, bytes, listed, written, read⟩ := exists_valueReader bounded rest
    exact ⟨reader, bytes, ⟨place, listed, written⟩, read⟩

theorem readLeaf_eq_ok {l : Leaf} :
    readLeaf bytes = .ok (l, rest) ↔ l.IsBounded ∧ bytes = encodeLeaf l ++ rest := by
  simp only [readLeaf, bind_eq_ok, readTarget_eq_ok, readComparison_eq_ok,
    readOptionalText_eq_ok, readValue_eq_ok, readNat_eq_ok,
    readMany_eq_ok fun _ _ _ => readValue_eq_ok, pure_eq_ok]
  constructor
  · intro accepted
    obtain ⟨target, _, rfl, comparison, _, rfl, property, _, ⟨propertyFits, rfl⟩, value, _,
      ⟨valueFits, rfl⟩, _, _, ⟨count, rfl⟩, values, _, ⟨rfl, valuesFit, rfl⟩, rfl, rfl⟩ := accepted
    refine ⟨⟨propertyFits, valueFits, count, valuesFit⟩, ?_⟩
    simp only [encodeLeaf, encodeLength, List.append_assoc]
  · intro written
    obtain ⟨fits, rfl⟩ := written
    simp only [encodeLeaf, encodeLength, List.append_assoc]
    exact ⟨l.target, _, rfl, l.comparison, _, rfl, l.property, _, ⟨fits.property, rfl⟩, l.value, _,
      ⟨fits.value, rfl⟩, l.values.length, _, ⟨fits.count, rfl⟩, l.values, rest,
      ⟨rfl, fits.values, rfl⟩, rfl, rfl⟩

end Wire

end RecordFilter
