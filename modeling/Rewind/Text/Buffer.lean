/-
# Rewind.Text.Buffer -- texts in fixed storage

A report is built where nothing may be allocated, so its text has a fixed store.
What does not fit is dropped: a cut report is still worth delivering.  The store
may hold bytes behind the text, left from before a `clear`; `bytes` is the text.

Main statements: `bytes_push` (a push keeps the first `capacity` bytes of what was
there and what is added), `bytes_foldl`, `bytes_clear`, `bytes_terminate`, and `cString_eq` (what
the host reads is the text up to its first NUL).
-/
import Rewind.Text.Utf8

namespace Rewind

set_option autoImplicit false

/-- A text of at most `capacity` bytes in a store that has `spare` bytes more. -/
structure TextBuffer (capacity spare : Nat) where
  store : Bytes
  len : Nat
  length_store : store.length = capacity + spare
  len_le : len ≤ capacity

namespace TextBuffer

variable {capacity spare : Nat}

/-- No text, in a store of zeros. -/
def empty : TextBuffer capacity spare where
  store := List.replicate (capacity + spare) 0
  len := 0
  length_store := List.length_replicate
  len_le := Nat.zero_le _

def bytes (t : TextBuffer capacity spare) : Bytes :=
  t.store.take t.len

/-- Append bytes, as many as fit. -/
def push (t : TextBuffer capacity spare) (piece : Bytes) : TextBuffer capacity spare :=
  let kept := piece.take (capacity - t.len)
  { store := t.store.take t.len ++ kept ++ t.store.drop (t.len + kept.length)
    len := t.len + kept.length
    length_store := by
      have := t.length_store
      have := t.len_le
      have : kept.length ≤ capacity - t.len := List.length_take_le _ _
      simp only [List.length_append, List.length_take, List.length_drop]
      omega
    len_le := by
      have := t.len_le
      have : kept.length ≤ capacity - t.len := List.length_take_le _ _
      omega }

/-- Append a text, as many of its bytes as fit. -/
def pushText (t : TextBuffer capacity spare) (text : String) : TextBuffer capacity spare :=
  t.push (Utf8.ofString text)

/-- Forget the text.  The store keeps its bytes. -/
def clear (t : TextBuffer capacity spare) : TextBuffer capacity spare :=
  { t with len := 0, len_le := Nat.zero_le _ }

/-- The text is as long as it can be. -/
def isFull (t : TextBuffer capacity spare) : Bool :=
  t.len = capacity

def isEmpty (t : TextBuffer capacity spare) : Bool :=
  t.len = 0

/-- The longest readable start of the text: a character cut at its end is left out. -/
def text (t : TextBuffer capacity spare) : String :=
  Utf8.text t.bytes

/-- The text written from the start into an empty buffer. -/
def ofText (text : String) : TextBuffer capacity spare :=
  empty.pushText text

@[simp] theorem bytes_empty : (empty : TextBuffer capacity spare).bytes = [] := by
  simp [empty, bytes]

@[simp] theorem length_bytes (t : TextBuffer capacity spare) : t.bytes.length = t.len := by
  have := t.length_store
  have := t.len_le
  simp only [bytes, List.length_take]
  omega

theorem take_bytes (t : TextBuffer capacity spare) : t.bytes.take capacity = t.bytes := by
  have fits := t.len_le
  exact List.take_of_length_le (by rwa [length_bytes])

theorem bytes_push (t : TextBuffer capacity spare) (piece : Bytes) :
    (t.push piece).bytes = (t.bytes ++ piece).take capacity := by
  have fits := t.len_le
  have size : (t.store.take t.len).length = t.len := t.length_bytes
  have kept : t.bytes ++ piece.take (capacity - t.len) = (t.bytes ++ piece).take capacity := by
    rw [List.take_append, length_bytes, take_bytes]
  rw [← kept]
  simp only [push, bytes]
  rw [List.take_append_of_le_length (by simp only [List.length_append, size]; omega)]
  exact List.take_of_length_le (by simp only [List.length_append, size]; omega)

/-- To cut after each piece comes to the same as to cut once at the end. -/
theorem take_append_of_take (n : Nat) (front back : Bytes) :
    (front.take n ++ back).take n = (front ++ back).take n := by
  rw [List.take_append, List.take_append, List.take_take, Nat.min_self, List.length_take]
  congr 2
  omega

/-- Steps that each append what is their own append all of it, one after another.  A step may
keep more than the text. -/
theorem bytes_foldl {α β : Type} (text : β → TextBuffer capacity spare) {step : β → α → β}
    {added : α → Bytes}
    (appends : ∀ b a, (text (step b a)).bytes = ((text b).bytes ++ added a).take capacity)
    (b : β) (steps : List α) :
    (text (steps.foldl step b)).bytes = ((text b).bytes ++ steps.flatMap added).take capacity := by
  induction steps generalizing b with
  | nil => rw [List.foldl_nil, List.flatMap_nil, List.append_nil, take_bytes]
  | cons a rest ih =>
      rw [List.foldl_cons, ih, appends, take_append_of_take, List.append_assoc, List.flatMap_cons]

@[simp] theorem bytes_clear (t : TextBuffer capacity spare) : t.clear.bytes = [] := by
  simp [clear, bytes]

theorem isFull_iff (t : TextBuffer capacity spare) :
    t.isFull = true ↔ t.bytes.length = capacity := by
  simp [isFull]

theorem isEmpty_iff (t : TextBuffer capacity spare) : t.isEmpty = true ↔ t.bytes = [] := by
  rw [← List.length_eq_zero_iff, length_bytes]
  exact decide_eq_true_iff

/-! ## The C string the host reads -/

/-- Put a NUL behind the text. -/
def terminate (t : TextBuffer capacity (spare + 1)) : TextBuffer capacity (spare + 1) :=
  { t with
    store := t.store.set t.len 0
    length_store := by rw [List.length_set]; exact t.length_store }

/-- The bytes that stand before the first NUL of the store, once the text is
terminated: the C string at the address handed to the host. -/
def cString (t : TextBuffer capacity (spare + 1)) : Bytes :=
  t.terminate.store.takeWhile (· != 0)

/-- The NUL stands in the spare byte, so the text keeps all of its bytes. -/
@[simp] theorem bytes_terminate (t : TextBuffer capacity (spare + 1)) :
    t.terminate.bytes = t.bytes := by
  simp only [terminate, bytes]
  exact List.take_set_of_le (Nat.le_refl _)

theorem terminate_store (t : TextBuffer capacity (spare + 1)) :
    t.terminate.store = t.bytes ++ 0 :: t.store.drop (t.len + 1) := by
  have := t.length_store
  have := t.len_le
  simp only [terminate, bytes]
  rw [List.set_eq_take_append_cons_drop, if_pos (by omega)]

/-- A NUL inside the text ends the C string early. -/
theorem cString_eq (t : TextBuffer capacity (spare + 1)) :
    t.cString = t.bytes.takeWhile (· != 0) := by
  rw [cString, terminate_store]
  induction t.bytes with
  | nil => rfl
  | cons b rest ih => by_cases h : b = 0 <;> simp_all

end TextBuffer

/-- The number of bytes of a text handed to the host, its NUL included. -/
def hostStringSize : Nat := 0x1000

/-- The longest text that can be handed to the host. -/
def hostCapacity : Nat := hostStringSize - 1

/-- A text for the host: a byte of its store is kept for the NUL. -/
abbrev HostString := TextBuffer hostCapacity 1

/-- What the host reads of a text that is handed to it. -/
def hostText (text : String) : Bytes :=
  (TextBuffer.ofText text : HostString).cString

/-- The host reads the first bytes of a text, up to a NUL that stands in them. -/
theorem hostText_eq (text : String) :
    hostText text = ((Utf8.ofString text).take hostCapacity).takeWhile (· != 0) := by
  rw [hostText, TextBuffer.cString_eq, TextBuffer.ofText, TextBuffer.pushText,
    TextBuffer.bytes_push, TextBuffer.bytes_empty, List.nil_append]

/-- A line of at most `size` bytes that goes into a report. -/
abbrev Reason (size : Nat) := TextBuffer size 0

end Rewind
