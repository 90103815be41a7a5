/-
# Rewind.Bytes -- byte strings and little-endian words

What guest and host exchange is bytes.  A number of `width` bytes is written with
its lowest byte first (`ofNat`) and read back the same way (`toNat`).

Main statements: `length_ofNat`, `toNat_ofNat` (reading what was written gives the
number modulo `limit width`) and `ofNat_toNat` (writing what was read gives the
bytes back).
-/

namespace Rewind

set_option autoImplicit false

abbrev Bytes := List UInt8

namespace Bytes

/-- The `width` lowest bytes of a number, lowest first. -/
def ofNat : Nat → Nat → Bytes
  | 0, _ => []
  | width + 1, n => UInt8.ofNat n :: ofNat width (n / 256)

/-- The number that a byte string spells, lowest byte first. -/
def toNat : Bytes → Nat
  | [] => 0
  | b :: rest => b.toNat + 256 * toNat rest

/-- How many numbers `width` bytes spell: the first number that needs one byte more. -/
def limit : Nat → Nat
  | 0 => 1
  | width + 1 => 256 * limit width

@[simp] theorem length_ofNat (width n : Nat) : (ofNat width n).length = width := by
  induction width generalizing n with
  | zero => rfl
  | succ width ih => simp [ofNat, ih]

/-- What does not fit into the bytes is lost from the top. -/
theorem toNat_ofNat (width n : Nat) : toNat (ofNat width n) = n % limit width := by
  induction width generalizing n with
  | zero => simp [ofNat, toNat, limit, Nat.mod_one]
  | succ width ih =>
      have head : (UInt8.ofNat n).toNat = n % 256 := by simp
      rw [ofNat, toNat, ih, head, limit, Nat.mod_mul]

theorem toNat_lt (bytes : Bytes) : toNat bytes < limit bytes.length := by
  induction bytes with
  | nil => simp [toNat, limit]
  | cons b rest ih =>
      have small : b.toNat < 256 := b.toNat_lt
      rw [toNat, List.length_cons, limit]
      omega

/-- Byte strings of one length spell different numbers. -/
theorem ofNat_toNat (bytes : Bytes) : ofNat bytes.length (toNat bytes) = bytes := by
  induction bytes with
  | nil => rfl
  | cons b rest ih =>
      have small : b.toNat < 256 := b.toNat_lt
      have low : UInt8.ofNat (b.toNat + 256 * toNat rest) = b := by
        apply UInt8.toNat_inj.mp
        simp only [UInt8.toNat_ofNat']
        omega
      have high : (b.toNat + 256 * toNat rest) / 256 = toNat rest := by omega
      rw [List.length_cons, toNat, ofNat, low, high, ih]

end Bytes

end Rewind
