/-
# Rewind.Text.Hexadecimal -- bytes as pairs of hexadecimal digits

A byte is written as two lower-case digits, high digit first; either case is read.

Main statement: `bytes?_digits` (what was written is read back).
-/
import Rewind.Bytes

namespace Rewind.Text

set_option autoImplicit false

/-- The two digits of a byte. -/
def byteDigits (b : UInt8) : List Char :=
  [Nat.digitChar (b.toNat / 16), Nat.digitChar (b.toNat % 16)]

def digits (bytes : Bytes) : List Char := bytes.flatMap byteDigits

def digitValue? (c : Char) : Option Nat :=
  if '0' ≤ c ∧ c ≤ '9' then some (c.toNat - 48)
  else if 'a' ≤ c ∧ c ≤ 'f' then some (c.toNat - 87)
  else if 'A' ≤ c ∧ c ≤ 'F' then some (c.toNat - 55)
  else none

/-- Read pairs of digits in front of bytes that were read before, last first. -/
def readPairs? : List Char → Bytes → Option Bytes
  | [], read => some read.reverse
  | [_], _ => none
  | high :: low :: rest, read =>
      match digitValue? high, digitValue? low with
      | some h, some l => readPairs? rest (UInt8.ofNat (16 * h + l) :: read)
      | _, _ => none

/-- The bytes that digits stand for. -/
def bytes? (chars : List Char) : Option Bytes := readPairs? chars []

theorem digitValue?_digitChar : ∀ n : Fin 16, digitValue? (Nat.digitChar n.val) = some n.val := by
  decide

theorem readPairs?_digits (bytes read : Bytes) :
    readPairs? (digits bytes) read = some (read.reverse ++ bytes) := by
  induction bytes generalizing read with
  | nil => simp [digits, readPairs?]
  | cons b rest ih =>
      have small : b.toNat < 256 := b.toNat_lt
      have high : digitValue? (Nat.digitChar (b.toNat / 16)) = some (b.toNat / 16) :=
        digitValue?_digitChar ⟨b.toNat / 16, by omega⟩
      have low : digitValue? (Nat.digitChar (b.toNat % 16)) = some (b.toNat % 16) :=
        digitValue?_digitChar ⟨b.toNat % 16, by omega⟩
      have whole : UInt8.ofNat (16 * (b.toNat / 16) + b.toNat % 16) = b := by
        rw [Nat.div_add_mod]
        simp
      have split : digits (b :: rest) =
          Nat.digitChar (b.toNat / 16) :: Nat.digitChar (b.toNat % 16) :: digits rest := rfl
      rw [split]
      simp only [readPairs?, high, low, whole]
      rw [ih]
      simp

/-- What was written is read back. -/
theorem bytes?_digits (bytes : Bytes) : bytes? (digits bytes) = some bytes := by
  rw [bytes?, readPairs?_digits]
  rfl

end Rewind.Text
