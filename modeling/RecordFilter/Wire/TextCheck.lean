import RecordFilter.Wire.Fault

/-!
# Where a text in UTF-8 breaks

The first byte of a character tells how many bytes follow it and which ones the second
may be; all others lie between `0x80` and `0xbf`. A fault is given by the offset of the
character it lies in and by the number of bytes that were right.
-/

set_option autoImplicit false

namespace RecordFilter.Wire

/-- A character of which some bytes have been seen. -/
structure PartialCharacter where
  start : Nat
  seen : Nat
  missing : Nat
  /-- The lowest and the highest byte that may come next. -/
  low : Nat
  high : Nat

/-- The character that a byte beyond ASCII begins at an offset. -/
def beginCharacter (start : Nat) (byte : UInt8) : Option PartialCharacter :=
  let b := byte.toNat
  if 0xc2 ≤ b ∧ b ≤ 0xdf then some ⟨start, 1, 1, 0x80, 0xbf⟩
  else if b = 0xe0 then some ⟨start, 1, 2, 0xa0, 0xbf⟩
  else if b = 0xed then some ⟨start, 1, 2, 0x80, 0x9f⟩
  else if 0xe1 ≤ b ∧ b ≤ 0xef then some ⟨start, 1, 2, 0x80, 0xbf⟩
  else if b = 0xf0 then some ⟨start, 1, 3, 0x90, 0xbf⟩
  else if 0xf1 ≤ b ∧ b ≤ 0xf3 then some ⟨start, 1, 3, 0x80, 0xbf⟩
  else if b = 0xf4 then some ⟨start, 1, 3, 0x80, 0x8f⟩
  else none

/-- The first fault of the bytes from an offset on, behind a character that may not be
complete. -/
def findTextFault (offset : Nat) : Option PartialCharacter → List UInt8 → Option TextFault
  | none, [] => none
  | some character, [] => some (.incomplete character.start)
  | none, byte :: bytes =>
    if byte.toNat < 0x80 then findTextFault (offset + 1) none bytes
    else
      match beginCharacter offset byte with
      | none => some (.invalid offset 1)
      | some character => findTextFault (offset + 1) (some character) bytes
  | some character, byte :: bytes =>
    if character.low ≤ byte.toNat ∧ byte.toNat ≤ character.high then
      if character.missing ≤ 1 then findTextFault (offset + 1) none bytes
      else
        findTextFault (offset + 1)
          (some ⟨character.start, character.seen + 1, character.missing - 1, 0x80, 0xbf⟩) bytes
    else some (.invalid character.start character.seen)

def textFault (bytes : List UInt8) : TextFault :=
  (findTextFault 0 none bytes).getD (.invalid 0 1)

end RecordFilter.Wire
