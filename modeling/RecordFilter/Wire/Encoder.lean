import RecordFilter.Predicate.Basic

/-!
# Writing the binary form

A predicate in bytes: numbers in little-endian order at a fixed width, a choice by its
place among the choices in four bytes, a text and a list by their length in eight bytes
and what they hold, the presence of a text and a truth value in one byte.
-/

set_option autoImplicit false

namespace RecordFilter.Wire

/-- The lowest bytes of a number, the lowest first. -/
def littleEndian : Nat → Nat → List UInt8
  | 0, _ => []
  | count + 1, n => UInt8.ofNat (n % 256) :: littleEndian count (n / 256)

def encodeTag (place : Nat) : List UInt8 :=
  littleEndian 4 place

def encodeLength (length : Nat) : List UInt8 :=
  littleEndian 8 length

def encodeTruth (truth : Bool) : List UInt8 :=
  [if truth then 1 else 0]

/-- A text: the number of its bytes in UTF-8, and the bytes. -/
def encodeText (text : String) : List UInt8 :=
  encodeLength text.toUTF8.size ++ text.toUTF8.data.toList

def encodeOptionalText : Option String → List UInt8
  | none => [0]
  | some text => 1 :: encodeText text

def targetTag : Target → Nat
  | .constant => 0
  | .key => 1
  | .value => 2
  | .metadata => 3
  | .column => 4

def comparisonTag : Comparison → Nat
  | .equal => 0
  | .notEqual => 1
  | .greater => 2
  | .greaterOrEqual => 3
  | .less => 4
  | .lessOrEqual => 5
  | .oneOf => 6
  | .like => 7

def connectiveTag : Connective → Nat
  | .and => 0
  | .or => 1

/-- A value: the place of its type, and the value itself. -/
def encodeValue : Value → List UInt8
  | .null => encodeTag 0
  | .boolean b => encodeTag 1 ++ encodeTruth b
  | .int32 n => encodeTag 2 ++ littleEndian 4 n.toUInt32.toNat
  | .int64 n => encodeTag 3 ++ littleEndian 8 n.toUInt64.toNat
  | .uint64 n => encodeTag 4 ++ littleEndian 8 n.toNat
  | .float64 x => encodeTag 5 ++ littleEndian 8 x.bits.toNat
  | .string s => encodeTag 6 ++ encodeText s
  | .timestamp t => encodeTag 7 ++ littleEndian 8 t.toUInt64.toNat

def encodeLeaf (l : Leaf) : List UInt8 :=
  encodeTag (targetTag l.target) ++ encodeTag (comparisonTag l.comparison)
    ++ encodeOptionalText l.property ++ encodeValue l.value
    ++ encodeLength l.values.length ++ l.values.flatMap encodeValue

/-- A node: its flag, whether it is a leaf or a group, and what it holds. -/
def encode : Predicate → List UInt8 :=
  Predicate.fold
    (fun negated l => encodeTruth negated ++ encodeTag 0 ++ encodeLeaf l)
    (fun negated connective members =>
      encodeTruth negated ++ encodeTag 1 ++ encodeTag (connectiveTag connective)
        ++ encodeLength members.length ++ members.flatten)

@[simp] theorem encode_leaf (negated : Bool) (l : Leaf) :
    encode (.leaf negated l) = encodeTruth negated ++ encodeTag 0 ++ encodeLeaf l := by
  simp [encode]

@[simp] theorem encode_group (negated : Bool) (connective : Connective)
    (children : List Predicate) :
    encode (.group negated connective children) =
      encodeTruth negated ++ encodeTag 1 ++ encodeTag (connectiveTag connective)
        ++ encodeLength children.length ++ children.flatMap encode := by
  simp [encode, List.flatMap]

theorem length_littleEndian (count n : Nat) : (littleEndian count n).length = count := by
  induction count generalizing n with
  | zero => rfl
  | succ count ih => simp [littleEndian, ih]

end RecordFilter.Wire
