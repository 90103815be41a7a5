/-
# Rewind.Text.Utf8 -- texts as bytes, and bytes as texts

A text crosses to the host as UTF-8.  Reading goes two ways: `text` keeps the
longest readable start of the bytes, `lossy` reads all of them and puts one U+FFFD
for each maximal piece of an ill-formed sequence.

Main statements: `next?_encodeChar_append` and `eq_of_next?` (one character is read
exactly where its encoding stands), `encode_append`.
-/
import Rewind.Bytes

namespace Rewind.Utf8

set_option autoImplicit false

def encode (chars : List Char) : Bytes :=
  chars.flatMap String.utf8EncodeChar

def ofString (text : String) : Bytes :=
  encode text.toList

@[simp] theorem encode_nil : encode [] = [] := rfl

@[simp] theorem encode_cons (c : Char) (chars : List Char) :
    encode (c :: chars) = String.utf8EncodeChar c ++ encode chars := rfl

@[simp] theorem encode_append (a b : List Char) : encode (a ++ b) = encode a ++ encode b := by
  simp [encode]

/-- The first character of a byte string and the bytes behind it, where the bytes
start with the encoding of a character. -/
def next? (bytes : Bytes) : Option (Char × Bytes) :=
  (ByteArray.utf8DecodeChar? ⟨(bytes.take 4).toArray⟩ 0).map fun c => (c, bytes.drop c.utf8Size)

theorem take_four_utf8EncodeChar (c : Char) (rest : Bytes) :
    (String.utf8EncodeChar c ++ rest).take 4 =
      String.utf8EncodeChar c ++ rest.take (4 - c.utf8Size) := by
  rw [List.take_append, String.length_utf8EncodeChar,
    List.take_of_length_le (by simpa using c.utf8Size_le_four)]

/-- A character is read back, whatever stands behind it. -/
theorem next?_encodeChar_append (c : Char) (rest : Bytes) :
    next? (String.utf8EncodeChar c ++ rest) = some (c, rest) := by
  have split : (⟨((String.utf8EncodeChar c ++ rest).take 4).toArray⟩ : ByteArray) =
      (String.utf8EncodeChar c).toByteArray ++ ⟨(rest.take (4 - c.utf8Size)).toArray⟩ := by
    apply ByteArray.ext
    simp [take_four_utf8EncodeChar]
  simp only [next?, split, ByteArray.utf8DecodeChar?_utf8EncodeChar_append, Option.map_some]
  simp

/-- Only the encoding of a character is read as one. -/
theorem eq_of_next? {bytes rest : Bytes} {c : Char} (read : next? bytes = some (c, rest)) :
    bytes = String.utf8EncodeChar c ++ rest := by
  simp only [next?, Option.map_eq_some_iff, Prod.mk.injEq] at read
  obtain ⟨d, decoded, rfl, rfl⟩ := read
  obtain ⟨tail, whole⟩ := ByteArray.exists_of_utf8DecodeChar?_eq_some decoded
  have head : bytes.take 4 = String.utf8EncodeChar d ++ tail.data.toList := by
    simpa using congrArg (fun b : ByteArray => b.data.toList) whole
  have same : (bytes.take 4).take d.utf8Size = String.utf8EncodeChar d := by
    rw [head, List.take_append_of_le_length (by simp), List.take_of_length_le (by simp)]
  rw [List.take_take, Nat.min_eq_left d.utf8Size_le_four] at same
  rw [← same, List.take_append_drop]

theorem length_lt_of_next? {bytes rest : Bytes} {c : Char} (read : next? bytes = some (c, rest)) :
    rest.length < bytes.length := by
  rw [eq_of_next? read, List.length_append, String.length_utf8EncodeChar]
  have := c.utf8Size_pos
  omega

/-- The characters of the longest start of a byte string that is well-formed UTF-8. -/
def chars (bytes : Bytes) : List Char :=
  match _ : next? bytes with
  | none => []
  | some (c, rest) => c :: chars rest
termination_by bytes.length
decreasing_by exact length_lt_of_next? ‹_›

/-- The longest start of a byte string that is well-formed UTF-8, as a text. -/
def text (bytes : Bytes) : String :=
  String.ofList (chars bytes)

/-- The text that a byte string is, if it is well-formed UTF-8 throughout. -/
def text? (bytes : Bytes) : Option String :=
  if encode (chars bytes) = bytes then some (text bytes) else none

/-- A byte that may follow the first byte of a character. -/
def isContinuation (b : UInt8) : Bool :=
  0x80 ≤ b && b ≤ 0xBF

/-- For the first byte of a character of several bytes: the least and the greatest
second byte, and how many bytes follow in all. -/
def following? (b : UInt8) : Option (UInt8 × UInt8 × Nat) :=
  if 0xC2 ≤ b && b ≤ 0xDF then some (0x80, 0xBF, 1)
  else if b = 0xE0 then some (0xA0, 0xBF, 2)
  else if b = 0xED then some (0x80, 0x9F, 2)
  else if 0xE1 ≤ b && b ≤ 0xEF then some (0x80, 0xBF, 2)
  else if b = 0xF0 then some (0x90, 0xBF, 3)
  else if 0xF1 ≤ b && b ≤ 0xF3 then some (0x80, 0xBF, 3)
  else if b = 0xF4 then some (0x80, 0x8F, 3)
  else none

/-- How many bytes behind a first byte still belong to the character it starts. -/
def belonging (b : UInt8) (rest : Bytes) : Nat :=
  match following? b, rest with
  | some (least, greatest, more), c :: tail =>
      if least ≤ c && c ≤ greatest then
        1 + ((tail.take (more - 1)).takeWhile isContinuation).length
      else 0
  | _, _ => 0

/-- All bytes as characters: each maximal start of a character that is not finished,
and each byte that starts none, is one U+FFFD. -/
def lossyChars (bytes : Bytes) : List Char :=
  match bytes with
  | [] => []
  | b :: rest =>
      match _ : next? (b :: rest) with
      | some (c, tail) => c :: lossyChars tail
      | none => Char.ofNat 0xFFFD :: lossyChars (rest.drop (belonging b rest))
termination_by bytes.length
decreasing_by
  · exact length_lt_of_next? ‹_›
  · simp only [List.length_drop, List.length_cons]
    omega

/-- All bytes as a text, with U+FFFD for what is ill-formed. -/
def lossy (bytes : Bytes) : String :=
  String.ofList (lossyChars bytes)

end Rewind.Utf8
