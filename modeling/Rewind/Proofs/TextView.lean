/-
# Rewind.Proofs.TextView -- a text is read up to its last whole character

A bounded text may end in the middle of a character, and bytes that were pushed need not be
UTF-8 at all.  Reading stops in front of what cannot be read.  `Cells.view?` is that reading
as it is carried out: the bytes are read, and where that fails, those of the store up to the
place of the failure are read again; a range that is not there is a fault.

Nothing is written behind a character that was cut: a text is cut only when it is full.

Main statements: `Utf8.longestStart_chars` (what is read of bytes is their longest start that is
UTF-8), `Utf8.longestStart_take` (what is read of a text that is cut), `Cells.view?_cells` and
`cut_at_characters`.
-/
import Rewind.Proofs.HostTexts
import Rewind.Proofs.Saturation

namespace Rewind

set_option autoImplicit false

/-- Of the starts of `whole` that are `good` the longest is `start`. -/
structure LongestStart {α : Type} (good : List α → Prop) (whole start : List α) : Prop where
  isStart : start <+: whole
  isGood : good start
  longest : ∀ other, other <+: whole → good other → other <+: start

/-- It is all of `whole` if that is good. -/
theorem LongestStart.eq_whole {α : Type} {good : List α → Prop} {whole start : List α}
    (longest : LongestStart good whole start) (all : good whole) : start = whole :=
  longest.isStart.eq_of_length_le (longest.longest whole (List.prefix_refl _) all).length_le

namespace Utf8

/-- The bytes are the UTF-8 of some text. -/
def Valid (bytes : Bytes) : Prop := ∃ chars, bytes = encode chars

/-! ## The longest start that is UTF-8 -/

theorem chars_encode_append (front : List Char) (rest : Bytes) :
    chars (encode front ++ rest) = front ++ chars rest := by
  induction front with
  | nil => rfl
  | cons c more ih =>
      rw [encode_cons, List.append_assoc, chars_of_next? (next?_encodeChar_append c _), ih,
        List.cons_append]

theorem chars_encode (text : List Char) : chars (encode text) = text := by
  have none : chars [] = [] := chars_of_none (by decide)
  have read := chars_encode_append text []
  rwa [List.append_nil, none, List.append_nil] at read

theorem encode_chars_start (bytes : Bytes) : encode (chars bytes) <+: bytes := by
  induction bytes using chars.induct with
  | case1 bytes nothing =>
      rw [chars_of_none nothing]
      exact List.nil_prefix
  | case2 bytes c rest read ih =>
      rw [chars_of_next? read, encode_cons, eq_of_next? read]
      exact (List.prefix_append_right_inj _).mpr ih

theorem longestStart_chars (bytes : Bytes) :
    LongestStart Valid bytes (encode (chars bytes)) where
  isStart := encode_chars_start bytes
  isGood := ⟨_, rfl⟩
  longest := by
    rintro other ⟨rest, rfl⟩ ⟨text, rfl⟩
    rw [chars_encode_append, encode_append]
    exact List.prefix_append _ _

/-! ## Characters of a text that is cut -/

theorem length_encode_le_of_start {front whole : List Char} (start : front <+: whole) :
    (encode front).length ≤ (encode whole).length := by
  obtain ⟨rest, rfl⟩ := start
  rw [encode_append, List.length_append]
  exact Nat.le_add_right _ _

/-- What is read of a text that is cut is as much of it as fits. -/
theorem longestStart_take (text : List Char) (n : Nat) :
    LongestStart (fun start => (encode start).length ≤ n) text (chars ((encode text).take n)) := by
  obtain ⟨kept, lost, split, read, short, ends⟩ := chars_take_encode text n
  rw [read]
  refine ⟨⟨lost, split.symm⟩, short, ?_⟩
  intro other start fits
  rcases ends with rfl | ⟨c, rest, rfl, beyond⟩
  · rwa [split, List.append_nil] at start
  · -- A longer start has the character that was cut, for which there is no room.
    have ahead : kept ++ [c] <+: text := ⟨rest, by rw [split, List.append_assoc]; rfl⟩
    have behind : ¬ kept ++ [c] <+: other := by
      intro inside
      have more := length_encode_le_of_start inside
      rw [encode_append, List.length_append, encode_cons, encode_nil, List.append_nil,
        String.length_utf8EncodeChar] at more
      omega
    rcases Nat.lt_or_ge kept.length other.length with longer | shorter
    · refine absurd (List.prefix_of_prefix_length_le ahead start ?_) behind
      rw [List.length_append]
      exact longer
    · exact List.prefix_of_prefix_length_le start ⟨_, split.symm⟩ shorter

/-- Of the last character that is cut at most three bytes stay, and only where the text does
not fit. -/
theorem length_chars_take (text : List Char) (n : Nat) :
    let kept := (encode (chars ((encode text).take n))).length
    kept ≤ ((encode text).take n).length ∧ ((encode text).take n).length ≤ kept + 3 ∧
      (kept ≠ ((encode text).take n).length → n < (encode text).length) := by
  obtain ⟨kept, lost, split, read, short, ends⟩ := chars_take_encode text n
  have size : (encode text).length = (encode kept).length + (encode lost).length := by
    rw [split, encode_append, List.length_append]
  simp only [read, List.length_take]
  rcases ends with rfl | ⟨c, rest, rfl, beyond⟩
  · have none : (encode []).length = 0 := rfl
    omega
  · have narrow := c.utf8Size_le_four
    have cut : (encode (c :: rest)).length = c.utf8Size + (encode rest).length := by
      rw [encode_cons, List.length_append, String.length_utf8EncodeChar]
    omega

/-- Read bytes as a text.  Where that cannot be, tell how many of them can be read. -/
def read (bytes : Bytes) : Except Nat String :=
  match text? bytes with
  | some text => .ok text
  | none => .error (encode (chars bytes)).length

theorem read_encode (text : List Char) : read (encode text) = .ok (String.ofList text) := by
  have found : text? (encode text) = some (String.ofList text) := by
    rw [text?, Utf8.text, chars_encode, if_pos rfl]
  rw [read, found]

/-- Bytes are read whole, or up to the end of their longest start that is UTF-8. -/
theorem read_cases (bytes : Bytes) :
    read bytes = .ok (text bytes) ∨ read bytes = .error (encode (chars bytes)).length := by
  unfold read text?
  split
  · next found =>
      split at found
      · exact .inl (congrArg Except.ok (Option.some.inj found).symm)
      · cases found
  · exact .inr rfl

end Utf8

/-! ## Reading a text in memory -/

/-- The text, up to what cannot be read. -/
def Cells.view? (cells : Cells) : Option String := do
  match Utf8.read (← cells.read?) with
  | .ok text => return text
  | .error upTo =>
      match Utf8.read (← cells.store.slice? 0 upTo) with
      | .ok text => return text
      | .error _ => return ""

section

variable {capacity spare : Nat}

theorem TextBuffer.take_bytes_of_le (t : TextBuffer capacity spare) {n : Nat} (within : n ≤ t.len) :
    t.bytes.take n = t.store.take n := by
  rw [bytes, List.take_take, Nat.min_eq_left within]

/-- Reading a text comes to an end without a fault, at the second attempt at the latest. -/
theorem Cells.view?_cells (t : TextBuffer capacity spare) : t.cells.view? = some t.text := by
  have bytes := read?_cells t
  rcases Utf8.read_cases t.bytes with whole | cut
  · simp only [view?, bytes, Option.bind_eq_bind, Option.bind_some, whole]
    rfl
  · obtain ⟨rest, split⟩ := Utf8.encode_chars_start t.bytes
    have shorter : (Utf8.encode (Utf8.chars t.bytes)).length ≤ t.len := by
      have size := congrArg List.length split
      rw [List.length_append, TextBuffer.length_bytes] at size
      omega
    have inside : (Utf8.encode (Utf8.chars t.bytes)).length ≤ t.cells.store.length := by
      have fits := t.len_le
      have size := t.length_store
      show _ ≤ t.store.length
      omega
    have start : t.cells.store.take (Utf8.encode (Utf8.chars t.bytes)).length =
        Utf8.encode (Utf8.chars t.bytes) := by
      calc t.store.take (Utf8.encode (Utf8.chars t.bytes)).length
          = t.bytes.take (Utf8.encode (Utf8.chars t.bytes)).length := by
            rw [TextBuffer.take_bytes_of_le t shorter]
        _ = Utf8.encode (Utf8.chars t.bytes) :=
            (List.prefix_iff_eq_take.mp (Utf8.encode_chars_start t.bytes)).symm
    simp only [view?, bytes, Option.bind_eq_bind, Option.bind_some, cut,
      Bytes.slice?_zero inside, start, Utf8.read_encode]
    rfl

/-- A text that was written in pieces has the start of all of it. -/
theorem bytes_pieces (pieces : List String) :
    (pieces.foldl TextBuffer.pushText (TextBuffer.empty : TextBuffer capacity spare)).bytes =
      (Utf8.ofString (String.join pieces)).take capacity := by
  rw [TextBuffer.foldl_pushText, TextBuffer.bytes_push, TextBuffer.bytes_empty, List.nil_append,
    Utf8.ofString_join]

/-- What is read of it is as much of it as fits. -/
theorem TextBuffer.longestStart_pieces (pieces : List String) :
    LongestStart (fun start => (Utf8.encode start).length ≤ capacity) (String.join pieces).toList
      (pieces.foldl pushText (empty : TextBuffer capacity spare)).text.toList := by
  rw [TextBuffer.text, bytes_pieces, Utf8.text, String.toList_ofList]
  exact Utf8.longestStart_take _ capacity

theorem TextBuffer.longestStart_ofText (text : String) :
    LongestStart (fun start => (Utf8.encode start).length ≤ capacity) text.toList
      (ofText text : TextBuffer capacity spare).text.toList := by
  have read : LongestStart _ (String.join [text]).toList
      (ofText text : TextBuffer capacity spare).text.toList := longestStart_pieces [text]
  rwa [String.join_cons, String.join_nil, String.append_empty] at read

end

/-- Text that is written into a new buffer of any capacity, in whatever pieces, is read up to
the last character that fits whole: all of it where there is room, and otherwise at most three
bytes less than the buffer holds, which then is full.  Of a text for the host, whatever bytes
were pushed and whatever else was done to it, the longest start is read that is UTF-8.  Neither
leads to a fault. -/
theorem cut_at_characters :
    (∀ (capacity spare : Nat) (pieces : List String),
      let buffer : TextBuffer capacity spare := pieces.foldl TextBuffer.pushText TextBuffer.empty
      let whole := String.join pieces
      (Cells.writePieces capacity pieces).run (Cells.fresh (capacity + spare)) =
          some (.ok (), buffer.cells) ∧
        buffer.cells.view? = some buffer.text ∧
        LongestStart (fun start => (Utf8.encode start).length ≤ capacity) whole.toList
          buffer.text.toList ∧
        (buffer.text = whole ↔ (Utf8.ofString whole).length ≤ capacity) ∧
        (Utf8.ofString buffer.text).length ≤ buffer.len ∧
        buffer.len ≤ (Utf8.ofString buffer.text).length + 3 ∧
        ((Utf8.ofString buffer.text).length ≠ buffer.len → buffer.isFull = true)) ∧
    ∀ edits : List Edit,
      let text : HostString := edited edits
      text.cells.view? = some text.text ∧
        LongestStart Utf8.Valid text.bytes (Utf8.ofString text.text) := by
  constructor
  · intro capacity spare pieces buffer whole
    have carried : (Cells.writePieces capacity pieces).run (Cells.fresh (capacity + spare)) = _ :=
      Cells.writePieces_run (TextBuffer.empty : TextBuffer capacity spare) pieces
    have bytes : buffer.bytes = (Utf8.encode whole.toList).take capacity :=
      bytes_pieces pieces
    have chars : buffer.text.toList = Utf8.chars ((Utf8.encode whole.toList).take capacity) := by
      rw [TextBuffer.text, bytes, Utf8.text, String.toList_ofList]
    have longest := Utf8.longestStart_take whole.toList capacity
    have sizes := Utf8.length_chars_take whole.toList capacity
    rw [← chars] at longest
    rw [← chars, ← bytes, TextBuffer.length_bytes] at sizes
    obtain ⟨least, most, cut⟩ := sizes
    refine ⟨carried, Cells.view?_cells buffer, longest, ?_, least, most, ?_⟩
    · constructor
      · intro same
        have fits := longest.isGood
        rwa [same] at fits
      · intro fits
        have all := longest.longest whole.toList (List.prefix_refl _) fits
        exact String.toList_inj.mp (longest.isStart.eq_of_length_le all.length_le)
    · intro short
      have beyond := cut short
      rw [TextBuffer.isFull_iff, bytes, List.length_take]
      omega
  · intro edits text
    refine ⟨Cells.view?_cells text, ?_⟩
    rw [TextBuffer.text, Utf8.text, Utf8.ofString, String.toList_ofList]
    exact Utf8.longestStart_chars text.bytes

/-- Of a character that is cut nothing is read, and nothing is written behind it. -/
theorem cut_at_characters_split :
    let buffer : Reason 4 := ["abc", "é", "d"].foldl TextBuffer.pushText TextBuffer.empty
    (Utf8.ofString buffer.text).length ≠ buffer.len ∧ buffer.isFull = true := by
  intro buffer
  have short : (Utf8.ofString buffer.text).length ≠ buffer.len := by
    decide +kernel
  obtain ⟨-, -, -, -, -, -, full⟩ := cut_at_characters.1 4 0 ["abc", "é", "d"]
  exact ⟨short, full short⟩

end Rewind
