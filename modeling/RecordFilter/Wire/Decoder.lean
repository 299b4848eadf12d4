import RecordFilter.Error
import RecordFilter.Predicate.Basic
import RecordFilter.Wire.TextCheck

/-!
# Reading the binary form

Bytes are read from the front; what a predicate does not use is left over. A predicate
inside another lies behind bytes of the outer one, so the number of bytes bounds how
deep predicates are nested.
-/

set_option autoImplicit false

namespace RecordFilter.Wire

/-- Reads something from the front of the bytes. -/
abbrev Reader : Type → Type :=
  StateT (List UInt8) (Except Fault)

/-! ## Scalars -/

def ofLittleEndian : List UInt8 → Nat
  | [] => 0
  | byte :: bytes => byte.toNat + 256 * ofLittleEndian bytes

/-- The next bytes, or a fault if there are not as many. -/
def readBytes (count : Nat) (fault : Fault) : Reader (List UInt8) := fun bytes =>
  let taken := bytes.take count
  if taken.length < count then .error fault else .ok (taken, bytes.drop count)

def readNat (width : Nat) : Reader Nat := do
  return ofLittleEndian (← readBytes width .endOfInput)

def readByte : Reader UInt8 := do
  return UInt8.ofNat (← readNat 1)

def readTruth : Reader Bool := do
  match ← readByte with
  | 0 => return false
  | 1 => return true
  | other => throw (.truthByte other)

def readChoice {α : Type} (choices : List α) : Reader α := do
  let place ← readNat 4
  match choices[place]? with
  | some choice => return choice
  | none => throw (.tag place choices.length)

def readText : Reader String := do
  let length ← readNat 8
  let bytes ← readBytes length .shortText
  match String.fromUTF8? ⟨bytes.toArray⟩ with
  | some text => return text
  | none => throw (.text (textFault bytes))

def readOptionalText : Reader (Option String) := do
  match ← readByte with
  | 0 => return none
  | 1 => return some (← readText)
  | other => throw (.presenceByte other)

def readMany {α : Type} (reader : Reader α) : Nat → Reader (List α)
  | 0 => return []
  | count + 1 => do
    let first ← reader
    let others ← readMany reader count
    return first :: others

/-! ## Values and predicates -/

/-- The readers of the values of each type, in the order of their places. -/
def valueReaders : List (Reader Value) :=
  [ return .null,
    return .boolean (← readTruth),
    return .int32 (UInt32.ofNat (← readNat 4)).toInt32,
    return .int64 (UInt64.ofNat (← readNat 8)).toInt64,
    return .uint64 (UInt64.ofNat (← readNat 8)),
    return .float64 ⟨UInt64.ofNat (← readNat 8)⟩,
    return .string (← readText),
    return .timestamp (UInt64.ofNat (← readNat 8)).toInt64 ]

def readValue : Reader Value := do
  let reader ← readChoice valueReaders
  reader

def targets : List Target :=
  [.constant, .key, .value, .metadata, .column]

def comparisons : List Comparison :=
  [.equal, .notEqual, .greater, .greaterOrEqual, .less, .lessOrEqual, .oneOf, .like]

def connectives : List Connective :=
  [.and, .or]

def readLeaf : Reader Leaf := do
  let target ← readChoice targets
  let comparison ← readChoice comparisons
  let property ← readOptionalText
  let value ← readValue
  let count ← readNat 8
  let values ← readMany readValue count
  return { target, comparison, property, value, values }

inductive NodeKind where
  | leaf
  | group

/-- One node, the members of a group by a reader of their own. -/
def readNode (reader : Reader Predicate) : Reader Predicate := do
  let negated ← readTruth
  match ← readChoice [NodeKind.leaf, NodeKind.group] with
  | .leaf => return .leaf negated (← readLeaf)
  | .group =>
    let connective ← readChoice connectives
    let count ← readNat 8
    let children ← readMany reader count
    return .group negated connective children

/-- A predicate of at most the given number of levels. Beyond them no bytes are left. -/
def readPredicate : Nat → Reader Predicate
  | 0 => throw .endOfInput
  | levels + 1 => readNode (readPredicate levels)

/-- The predicate at the front of some bytes and the bytes behind it. Levels for which there
are no bytes are never reached: a node is read with this very function for the members of a
group, whatever comes of it (`decode_eq_readNode`). -/
def decode (bytes : List UInt8) : Except Fault (Predicate × List UInt8) :=
  (readPredicate (bytes.length + 1)).run bytes

end RecordFilter.Wire

def RecordFilter.Predicate.ofBytes (bytes : List UInt8) :
    RecordFilter.Result RecordFilter.Predicate :=
  ((RecordFilter.Wire.decode bytes).map (·.1)).mapError .wire
