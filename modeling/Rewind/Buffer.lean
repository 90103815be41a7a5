/-
# Rewind.Buffer -- fixed-size byte buffers that start as zeros

A fresh buffer holds zeros only, and most of a large buffer is never written, so a
buffer keeps its size and the bytes up to the last one written; the zeros behind
them are implied.  `toList` is the whole content, and every operation is known by
what it does to `toList`.

Main statements: `toList_zeros`, `toList_ofList`, `take_eq`, `toList_blit` (the
bytes replace what stood there, those past the end are dropped), `length_toList`.
-/
import Rewind.Bytes

namespace Rewind

set_option autoImplicit false

/-- A byte buffer: the bytes that were written, then zeros up to the size. -/
structure Buffer where
  size : Nat
  written : Bytes
  fits : written.length ≤ size

namespace Buffer

def zeros (size : Nat) : Buffer := ⟨size, [], Nat.zero_le _⟩

def ofList (bytes : Bytes) : Buffer := ⟨bytes.length, bytes, Nat.le_refl _⟩

/-- A buffer of a given size that starts with the bytes, as far as they fit. -/
def padded (size : Nat) (bytes : Bytes) : Buffer :=
  ⟨size, bytes.take size, List.length_take_le _ _⟩

def toList (b : Buffer) : Bytes :=
  b.written ++ List.replicate (b.size - b.written.length) 0

/-- The first `n` bytes, or all if there are fewer. -/
def take (b : Buffer) (n : Nat) : Bytes :=
  let kept := b.written.take n
  kept ++ List.replicate (min n b.size - kept.length) 0

/-- The first `n` bytes as a buffer. -/
def front (b : Buffer) (n : Nat) : Buffer where
  size := min n b.size
  written := b.written.take n
  fits := by
    have := b.fits
    simp only [List.length_take]
    omega

def drop (b : Buffer) (start : Nat) : Buffer where
  size := b.size - start
  written := b.written.drop start
  fits := by
    have := b.fits
    simp only [List.length_drop]
    omega

/-- Replace the bytes from `start` on; what would stand past the end is dropped. -/
def blit (b : Buffer) (start : Nat) (bytes : Bytes) : Buffer :=
  if bytes = [] then b else
  let kept := bytes.take (b.size - start)
  let before := b.written.take start
  let gap := List.replicate (min start b.size - before.length) 0
  { size := b.size
    written := before ++ gap ++ kept ++ b.written.drop (start + kept.length)
    fits := by
      have := b.fits
      have : kept.length ≤ b.size - start := List.length_take_le _ _
      have : before.length ≤ start := List.length_take_le _ _
      have : before.length ≤ b.written.length := List.length_take_le' _ _
      simp only [gap, List.length_append, List.length_replicate, List.length_drop]
      omega }

/-- Make the first byte a one, if there is a first byte. -/
def mark (b : Buffer) : Buffer := b.blit 0 [1]

@[simp] theorem size_zeros (size : Nat) : (zeros size).size = size := rfl

@[simp] theorem size_ofList (bytes : Bytes) : (ofList bytes).size = bytes.length := rfl

@[simp] theorem size_blit (b : Buffer) (start : Nat) (bytes : Bytes) :
    (b.blit start bytes).size = b.size := by
  unfold blit
  split <;> rfl

@[simp] theorem size_mark (b : Buffer) : b.mark.size = b.size := size_blit b 0 [1]

@[simp] theorem length_toList (b : Buffer) : b.toList.length = b.size := by
  have := b.fits
  simp only [toList, List.length_append, List.length_replicate]
  omega

@[simp] theorem toList_zeros (size : Nat) : (zeros size).toList = List.replicate size 0 := by
  simp [zeros, toList]

@[simp] theorem size_padded (size : Nat) (bytes : Bytes) : (padded size bytes).size = size := rfl

theorem toList_padded (size : Nat) (bytes : Bytes) :
    (padded size bytes).toList =
      bytes.take size ++ List.replicate (size - bytes.length) 0 := by
  simp only [padded, toList, List.length_take]
  congr 2
  omega

@[simp] theorem toList_ofList (bytes : Bytes) : (ofList bytes).toList = bytes := by
  simp [ofList, toList]

/-- Bytes that were never written read as zeros. -/
theorem take_eq (b : Buffer) (n : Nat) : b.take n = b.toList.take n := by
  have := b.fits
  simp only [take, toList, List.take_append, List.take_replicate, List.length_take]
  congr 2
  omega

theorem toList_front (b : Buffer) (n : Nat) : (b.front n).toList = b.toList.take n := by
  rw [← take_eq]
  rfl

theorem toList_drop (b : Buffer) (start : Nat) :
    (b.drop start).toList = b.toList.drop start := by
  have := b.fits
  simp only [drop, toList, List.drop_append, List.drop_replicate, List.length_drop]
  congr 2
  omega

/-- Bytes past the end of the buffer are dropped, so that its size stays. -/
theorem toList_blit (b : Buffer) (start : Nat) (bytes : Bytes) :
    (b.blit start bytes).toList =
      b.toList.take start ++ bytes.take (b.size - start) ++
        b.toList.drop (start + bytes.length) := by
  unfold blit
  split
  · next empty => simp [empty]
  · let kept := bytes.take (b.size - start)
    have before : b.written.take start ++
        List.replicate (min start b.size - (b.written.take start).length) 0 =
          b.toList.take start := take_eq b start
    have behind : b.written.drop (start + kept.length) ++ List.replicate
        (b.size - (start + kept.length) - (b.written.drop (start + kept.length)).length) 0 =
          b.toList.drop (start + bytes.length) := by
      have same : b.toList.drop (start + kept.length) = b.toList.drop (start + bytes.length) := by
        rw [List.drop_eq_drop_iff, length_toList, List.length_take]
        omega
      rw [← same]
      exact toList_drop b (start + kept.length)
    -- What is behind the new bytes is filled up with as many zeros as the whole.
    have filled : b.size - (start + kept.length) - (b.written.drop (start + kept.length)).length =
        b.size - (b.toList.take start ++ kept ++
          b.written.drop (start + kept.length)).length := by
      simp only [kept, List.length_append, List.length_take, length_toList]
      omega
    rw [toList]
    dsimp only
    rw [before, ← behind, filled, List.append_assoc (b.toList.take start ++ kept)]

/-- A buffer that is filled from end to end holds just the new bytes. -/
theorem toList_blit_whole {b : Buffer} {bytes : Bytes} (length : bytes.length = b.size) :
    (b.blit 0 bytes).toList = bytes := by
  rw [toList_blit, List.take_zero, List.nil_append, Nat.sub_zero, Nat.zero_add, length,
    List.take_of_length_le (Nat.le_of_eq length), List.drop_of_length_le (by simp), List.append_nil]

/-- Bytes at the front of a buffer, and what is left of the old ones behind them. -/
theorem toList_blit_front {b : Buffer} {bytes : Bytes} (inside : bytes.length ≤ b.size) :
    (b.blit 0 bytes).toList = bytes ++ b.toList.drop bytes.length := by
  rw [toList_blit, List.take_zero, List.nil_append, Nat.sub_zero, Nat.zero_add,
    List.take_of_length_le inside]

/-- An empty buffer has no byte to mark. -/
theorem toList_mark (b : Buffer) :
    b.mark.toList = if b.size = 0 then [] else 1 :: b.toList.tail := by
  rw [mark, toList_blit]
  split
  · next none =>
      have empty : b.toList = [] := List.eq_nil_of_length_eq_zero (by simpa using none)
      simp [none, empty]
  · next some =>
      have : b.size - 0 = (b.size - 1) + 1 := by omega
      simp [this]

end Buffer

end Rewind
