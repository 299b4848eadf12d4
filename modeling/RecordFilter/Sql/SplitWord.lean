import RecordFilter.Sql.Codec

/-!
# Unsigned words in two signed columns

An unsigned word of 64 bits is split into its highest bit and the other 63. Both parts
fit a signed word and neither is negative, so pairs are ordered as the words are.
-/

set_option autoImplicit false

namespace RecordFilter.Sql

/-- The two parts of an unsigned word. -/
structure SplitWord where
  /-- The highest bit. -/
  high : Int64
  /-- The other bits. -/
  low : Int64
  deriving DecidableEq

def splitName : String :=
  "uint64-split"

/-- What the highest bit of a word of 64 bits stands for. -/
def highBit : Nat :=
  0x8000000000000000

namespace SplitWord

def ofWord (word : UInt64) : SplitWord :=
  { high := Int64.ofNat (word.toNat / highBit), low := Int64.ofNat (word.toNat % highBit) }

/-- The word that is split into two given parts, if there is one. -/
def toWord? (parts : SplitWord) : Option UInt64 :=
  let high := parts.high.toInt
  let low := parts.low.toInt
  if 0 ≤ high ∧ high ≤ 1 ∧ 0 ≤ low then
    some (UInt64.ofNat (high.toNat * highBit + low.toNat))
  else none

def toWord (parts : SplitWord) : Result UInt64 :=
  match parts.toWord? with
  | some word => .ok word
  | none => .error (.codec splitName (.splitPair parts.high parts.low))

def columns (parts : SplitWord) : List Value :=
  [.int64 parts.high, .int64 parts.low]

end SplitWord

def unsignedWord (property : String) (v : Value) : Result UInt64 :=
  match v.coerce .uint64 with
  | some (.uint64 word) => .ok word
  | _ => .error (.typeMismatch property v .uint64)

def splitEncode (v : Value) : Result (List Value) := do
  let word ← unsignedWord splitName v
  return (SplitWord.ofWord word).columns

/-- Restores an unsigned word from two columns; two nulls are null. -/
def splitDecode : List Value → Result Value
  | [.null, .null] => .ok .null
  | [.int64 high, .int64 low] => (SplitWord.toWord ⟨high, low⟩).map .uint64
  | columns => .error (.codec splitName (.splitColumns columns))

def Codec.split : Codec :=
  { name := splitName
    type := .uint64
    columns := 2
    encode := splitEncode
    decode := splitDecode }

end RecordFilter.Sql
