import RecordFilter.Proofs.Sql.LoweredTruth
import RecordFilter.Proofs.Sql.SplitOrder

/-!
# Codecs undo themselves

A built-in codec stores exactly the values that move into its type, and restores what was
moved. The two columns of a split word are its highest bit and the other bits; nothing else in
columns is read as a word, and the pairs are ordered as the words are.
-/

set_option autoImplicit false

namespace RecordFilter

namespace Value

theorem isNull_of_type? {v : Value} {type : ScalarType} (typed : v.type? = some type) :
    v.isNull = false := by
  cases v <;> first
    | rfl
    | cases typed

/-- A timestamp is restored from its milliseconds, and every other value is stored as it is. -/
theorem coerce_stored {v : Value} {type : ScalarType} (typed : v.type? = some type) :
    (Sql.stored v).coerce type = some v := by
  cases v with
  | timestamp t =>
      cases typed
      have fits := int64?_eq_some_iff.mpr (Eq.refl t.toInt)
      simp only [Sql.stored, coerce, integer?, Option.bind_some, fits, Option.map_some]
  | null | boolean | int32 | int64 | uint64 | float64 | string => exact coerce_of_type? typed

end Value

namespace Sql

/-! ## What a codec stores -/

/-- A codec stores a value if it moves into the type of the codec. It gives the columns that
it promises, none of them null, and restores the moved value from them. -/
structure Codec.Inverts (codec : Codec) (v : Value) : Prop where
  restores : ∀ coerced, v.coerce codec.type = some coerced →
    ∃ columns, codec.encode v = .ok columns ∧ columns.length = codec.columns ∧
      (∀ column ∈ columns, column ≠ .null) ∧ codec.decode columns = .ok coerced
  refuses : v.coerce codec.type = none → ∃ error, codec.encode v = .error error

theorem nativeEncode_of_coerce {type : ScalarType} {v coerced : Value}
    (moved : v.coerce type = some coerced) : nativeEncode type v = .ok [stored coerced] := by
  simp only [nativeEncode, moved]

theorem nativeDecode_single {type : ScalarType} {column v : Value} (filled : column.isNull = false)
    (moved : column.coerce type = some v) : nativeDecode type [column] = .ok v := by
  cases column with
  | null => cases filled
  | boolean | int32 | int64 | uint64 | float64 | string | timestamp =>
      simp only [nativeDecode, moved]

theorem inverts_native (type : ScalarType) (v : Value) : (Codec.native type).Inverts v where
  restores := by
    intro coerced moved
    have typed := Value.type?_of_coerce moved
    have filled : (stored coerced).isNull = false :=
      (Value.isNull_stored coerced).trans (Value.isNull_of_type? typed)
    refine ⟨[stored coerced], nativeEncode_of_coerce moved, rfl, ?_,
      nativeDecode_single filled (Value.coerce_stored typed)⟩
    intro column member same
    rw [List.mem_singleton.mp member] at same
    rw [same] at filled
    cases filled
  refuses := by
    intro stays
    refine ⟨unstorable type v, ?_⟩
    have stays : v.coerce type = none := stays
    simp only [Codec.native, nativeEncode, stays]

/-! ## Split words -/

namespace SplitWord

/-- The parts of a word as its bits are moved: the highest bit shifted down, the others
masked. -/
def ofBits (word : UInt64) : SplitWord :=
  { high := (word >>> 63).toInt64, low := (word &&& 0x7fffffffffffffff).toInt64 }

theorem ofWord_eq_ofBits (word : UInt64) : ofWord word = ofBits word := by
  have small := word.toNat_lt
  have high : UInt64.ofNat (word.toNat / highBit) = word >>> 63 := by
    have fits := Nat.lt_of_le_of_lt (Nat.div_le_self word.toNat highBit) small
    rw [← UInt64.toNat_inj, UInt64.toNat_shiftRight, UInt64.toNat_ofNat_of_lt' fits]
    exact (Nat.shiftRight_eq_div_pow word.toNat 63).symm
  have low : UInt64.ofNat (word.toNat % highBit) = word &&& 0x7fffffffffffffff := by
    have fits := Nat.lt_of_le_of_lt (Nat.mod_le word.toNat highBit) small
    rw [← UInt64.toNat_inj, UInt64.toNat_and, UInt64.toNat_ofNat_of_lt' fits]
    exact (Nat.and_two_pow_sub_one_eq_mod word.toNat 63).symm
  rw [ofBits, ← high, ← low, UInt64.toInt64_ofNat', UInt64.toInt64_ofNat', ofWord]

theorem eq_ofWord_iff {parts : SplitWord} {word : UInt64} :
    parts = ofWord word ↔
      parts.high.toInt = word.toNat / highBit ∧ parts.low.toInt = word.toNat % highBit := by
  constructor
  · rintro rfl
    exact ⟨toInt_high word, toInt_low word⟩
  · intro same
    have high : parts.high = (ofWord word).high :=
      Int64.toInt_inj.mp (same.1.trans (toInt_high word).symm)
    have low : parts.low = (ofWord word).low :=
      Int64.toInt_inj.mp (same.2.trans (toInt_low word).symm)
    exact congrArg₂ mk high low

/-- Two signed words are joined to a word if the first is a bit and the second not negative. -/
theorem toWord?_eq_some {parts : SplitWord} {word : UInt64} :
    parts.toWord? = some word ↔
      (0 ≤ parts.high.toInt ∧ parts.high.toInt ≤ 1 ∧ 0 ≤ parts.low.toInt) ∧
        (word.toNat : Int) = parts.high.toInt * highBit + parts.low.toInt := by
  have bounded := parts.low.toInt_lt
  unfold toWord?
  dsimp only
  split
  next range =>
    have fits : parts.high.toInt.toNat * highBit + parts.low.toInt.toNat < UInt64.size := by
      unfold highBit UInt64.size
      omega
    rw [Option.some_inj, ← UInt64.toNat_inj, UInt64.toNat_ofNat_of_lt' fits, and_iff_right range]
    unfold highBit
    omega
  next outside =>
    constructor
    · exact nofun
    · intro joined
      exact absurd joined.1 outside

/-- Two signed words are joined to a word exactly if they are its parts. -/
theorem toWord?_eq_some_iff {parts : SplitWord} {word : UInt64} :
    parts.toWord? = some word ↔ parts = ofWord word := by
  have bounded := parts.low.toInt_lt
  have small := word.toNat_lt
  rw [toWord?_eq_some, eq_ofWord_iff]
  unfold highBit
  omega

/-- Pairs of signed words, the high parts first. -/
def Below (first second : SplitWord) : Prop :=
  first.high < second.high ∨ first.high = second.high ∧ first.low < second.low

theorem below_ofWord_iff {first second : UInt64} :
    (ofWord first).Below (ofWord second) ↔ first < second := by
  rw [Below, Int64.lt_iff_toInt_lt, Int64.lt_iff_toInt_lt, ← Int64.toInt_inj, toInt_high,
    toInt_high, toInt_low, toInt_low, UInt64.lt_iff_toNat_lt]
  unfold highBit
  omega

end SplitWord

theorem splitEncode_of_coerce {v : Value} {word : UInt64}
    (moved : v.coerce .uint64 = some (.uint64 word)) :
    splitEncode v = .ok (SplitWord.ofWord word).columns := by
  have read : unsignedWord splitName v = .ok word := by simp only [unsignedWord, moved]
  rw [splitEncode, read]
  rfl

theorem splitEncode_word (word : UInt64) :
    splitEncode (.uint64 word) = .ok (SplitWord.ofWord word).columns :=
  splitEncode_of_coerce (Value.coerce_of_type? rfl)

theorem map_toWord_eq_ok {parts : SplitWord} {word : UInt64} :
    parts.toWord.map Value.uint64 = .ok (.uint64 word) ↔ parts = SplitWord.ofWord word := by
  rw [← SplitWord.toWord?_eq_some_iff, SplitWord.toWord]
  cases parts.toWord? with
  | none => exact iff_of_false nofun nofun
  | some found => simp [Except.map]

theorem splitDecode_eq_word {columns : List Value} {word : UInt64} :
    splitDecode columns = .ok (.uint64 word) ↔ columns = (SplitWord.ofWord word).columns := by
  unfold splitDecode
  split
  next => exact iff_of_false nofun nofun
  next high low =>
    rw [map_toWord_eq_ok]
    constructor
    · intro same
      rw [← same]
      rfl
    · intro same
      cases same
      rfl
  next other =>
    exact iff_of_false nofun fun same => other _ _ same

/-- Columns are restored to a word, or to null, or refused by the codec. -/
theorem splitDecode_cases (columns : List Value) :
    (∃ word, splitDecode columns = .ok (.uint64 word)) ∨
      (splitDecode columns = .ok .null ∧ columns = [.null, .null]) ∨
      ∃ fault, splitDecode columns = .error (.codec splitName fault) := by
  unfold splitDecode
  split
  next => exact .inr (.inl ⟨rfl, rfl⟩)
  next high low =>
    unfold SplitWord.toWord
    cases (SplitWord.mk high low).toWord? with
    | none => exact .inr (.inr ⟨_, rfl⟩)
    | some word => exact .inl ⟨word, rfl⟩
  next => exact .inr (.inr ⟨_, rfl⟩)

theorem splitDecode_eq_null {columns : List Value} :
    splitDecode columns = .ok .null ↔ columns = [.null, .null] := by
  constructor
  · intro restored
    rcases splitDecode_cases columns with ⟨word, read⟩ | ⟨_, same⟩ | ⟨fault, refused⟩
    · rw [read] at restored
      cases restored
    · exact same
    · rw [refused] at restored
      cases restored
  · rintro rfl
    rfl

theorem splitDecode_eq_error {columns : List Value} :
    (∃ fault, splitDecode columns = .error (.codec splitName fault)) ↔
      columns ≠ [.null, .null] ∧ ∀ word, columns ≠ (SplitWord.ofWord word).columns := by
  constructor
  · rintro ⟨fault, refused⟩
    refine ⟨fun same => ?_, fun word same => ?_⟩
    · rw [splitDecode_eq_null.mpr same] at refused
      cases refused
    · rw [splitDecode_eq_word.mpr same] at refused
      cases refused
  · intro unlike
    rcases splitDecode_cases columns with ⟨word, read⟩ | ⟨_, same⟩ | refused
    · exact absurd (splitDecode_eq_word.mp read) (unlike.2 word)
    · exact absurd same unlike.1
    · exact refused

theorem inverts_split (v : Value) : Codec.split.Inverts v where
  restores := by
    intro coerced moved
    have typed := Value.type?_of_coerce moved
    cases coerced <;> cases typed
    next word =>
      exact ⟨_, splitEncode_of_coerce moved, rfl, by simp [SplitWord.columns],
        splitDecode_eq_word.mpr rfl⟩
  refuses := by
    intro stays
    have stays : v.coerce .uint64 = none := stays
    refine ⟨.typeMismatch splitName v .uint64, ?_⟩
    have refused : unsignedWord splitName v = .error (.typeMismatch splitName v .uint64) := by
      simp only [unsignedWord, stays]
    show splitEncode v = _
    rw [splitEncode, refused]
    rfl

/-- The built-in codecs store exactly the values that move into their types and restore them.
The columns of the split codec hold the bits of a word; of all other columns only two nulls
are read, and two words are ordered as their columns are. -/
theorem codecs_invert :
    (∀ type v, (Codec.native type).Inverts v) ∧ (∀ v, Codec.split.Inverts v) ∧
      (∀ word, Codec.split.encode (.uint64 word) = .ok (SplitWord.ofBits word).columns) ∧
      (∀ columns word, Codec.split.decode columns = .ok (.uint64 word) ↔
        Codec.split.encode (.uint64 word) = .ok columns) ∧
      (∀ columns, Codec.split.decode columns = .ok .null ↔ columns = [.null, .null]) ∧
      (∀ columns, (∃ fault, Codec.split.decode columns = .error (.codec splitName fault)) ↔
        columns ≠ [.null, .null] ∧ ∀ word, Codec.split.encode (.uint64 word) ≠ .ok columns) ∧
      ∀ first second : UInt64, first < second ↔
        (SplitWord.ofBits first).Below (SplitWord.ofBits second) := by
  have encoded : ∀ word columns, Codec.split.encode (.uint64 word) = .ok columns ↔
      columns = (SplitWord.ofWord word).columns := by
    intro word columns
    show splitEncode (.uint64 word) = .ok columns ↔ _
    rw [splitEncode_word, Except.ok.injEq]
    exact eq_comm
  refine ⟨inverts_native, inverts_split, ?_, ?_, fun columns => splitDecode_eq_null, ?_, ?_⟩
  · intro word
    rw [encoded, SplitWord.ofWord_eq_ofBits]
  · intro columns word
    rw [encoded]
    exact splitDecode_eq_word
  · intro columns
    simp only [ne_eq, encoded]
    exact splitDecode_eq_error
  · intro first second
    rw [← SplitWord.ofWord_eq_ofBits, ← SplitWord.ofWord_eq_ofBits, SplitWord.below_ofWord_iff]

/-- A whole number becomes a timestamp that is stored as its milliseconds, a negative one has
no split columns, and the highest word with a clear highest bit is below the one behind it. -/
theorem codecs_invert_edges :
    (∃ columns, (Codec.native .timestamp).encode (.int32 5) = .ok columns ∧
      columns.length = 1 ∧ (Codec.native .timestamp).decode columns = .ok (.timestamp 5)) ∧
    (∃ error, Codec.split.encode (.int64 (-1)) = .error error) ∧
    Codec.split.encode (.uint64 0x8000000000000000) = .ok [.int64 1, .int64 0] ∧
    (∃ fault, Codec.split.decode [.int64 2, .int64 0] = .error (.codec splitName fault)) ∧
    (SplitWord.ofBits 0x7fffffffffffffff).Below (SplitWord.ofBits 0x8000000000000000) := by
  obtain ⟨native, split, bits, _, _, refused, ordered⟩ := codecs_invert
  obtain ⟨columns, encoded, length, _, decoded⟩ :=
    (native .timestamp (.int32 5)).restores (.timestamp 5) (by decide +kernel)
  refine ⟨⟨columns, encoded, length, decoded⟩, (split (.int64 (-1))).refuses (by decide +kernel),
    bits 0x8000000000000000, (refused [.int64 2, .int64 0]).mpr ⟨by decide, ?_⟩,
    (ordered _ _).mp (by decide)⟩
  intro word same
  rw [bits, ← SplitWord.ofWord_eq_ofBits] at same
  have columns := Except.ok.inj same
  simp only [SplitWord.columns, List.cons.injEq, Value.int64.injEq] at columns
  have high : (SplitWord.ofWord word).high = 2 := columns.1
  rcases SplitWord.high_eq_zero_or_one word with clear | set
  · rw [clear] at high
    cases high
  · rw [set] at high
    cases high

end Sql

end RecordFilter
