/-
# Rewind.Proofs.ReasonCut -- a reason that was cut costs a report nothing

A reason passes two limits.  It is collected in a text of 4096 bytes of its own, which is read
up to its last whole character; what was read loses the white space at its end and goes into the
report, behind the fixed lines, as far as the 4095 bytes of a report reach.  So a longer reason
is cut twice, and the first cut may leave white space at the end that was none before.

The first cut is not seen where the report is full before it gets there (`room`).  Trimming keeps
what is in front (`Text.trimEnd_start`), so both reasons then fill the report with the same bytes,
and what is appended to a full report is dropped (`bytes_frames_of_full`).

Main statements: `bytes_format_of_start` (a reason and a start of it that fills the report lead to
the same report) and `reason_cut_unseen`.
-/
import Rewind.Proofs.ReportLayout
import Rewind.Proofs.TextView
import Rewind.Proofs.Trimming

namespace Rewind.Report

set_option autoImplicit false

/-! ## A report that is full -/

section

variable {σ : Type}

/-- A rendering that may look at the report and keep a state of its own, and changes nothing of
what was written before. -/
def OnlyAppends (render : HostString → UInt64 → StateM σ HostString) : Prop :=
  ∀ out frame state, out.bytes <+: ((render out frame).run state).1.bytes

variable {render : HostString → UInt64 → StateM σ HostString}

/-- Bytes that go behind a text as far as they fit leave it in front. -/
theorem start_bytes_append (out : HostString) (more : Bytes) :
    out.bytes <+: (out.bytes ++ more).take hostCapacity := by
  refine List.prefix_take_iff.mpr ⟨List.prefix_append _ _, ?_⟩
  rw [TextBuffer.length_bytes]
  exact out.len_le

theorem Appends.onlyAppends {text : UInt64 → Bytes} (appends : Appends render text) :
    OnlyAppends render := by
  intro out frame state
  rw [appends]
  exact start_bytes_append out (text frame)

theorem bytes_frameLine_start (appends : OnlyAppends render) (out : HostString) (frame : UInt64)
    (state : σ) : out.bytes <+: ((frameLine render out frame).run state).1.bytes := by
  refine (appends out frame state).trans ?_
  show _ <+: (((render out frame).run state).1.pushText "\n").bytes
  rw [TextBuffer.pushText, TextBuffer.bytes_push]
  exact start_bytes_append _ _

/-- Frames are appended to what is there. -/
theorem bytes_frames_start (appends : OnlyAppends render) (out : HostString)
    (frames : List UInt64) (state : σ) :
    out.bytes <+: ((frames.foldlM (frameLine render) out).run state).1.bytes := by
  induction frames generalizing out state with
  | nil => exact List.prefix_refl _
  | cons frame rest ih =>
      rw [List.foldlM_cons, Vm.bind_run]
      exact (bytes_frameLine_start appends out frame state).trans (ih _ _)

/-- So a report that is full stays as it is. -/
theorem bytes_frames_of_full (appends : OnlyAppends render) {out : HostString}
    (full : out.isFull = true) (frames : List UInt64) (state : σ) :
    ((frames.foldlM (frameLine render) out).run state).1.bytes = out.bytes := by
  refine ((bytes_frames_start appends out frames state).eq_of_length_le ?_).symm
  rw [(TextBuffer.isFull_iff out).mp full, TextBuffer.length_bytes]
  exact ((frames.foldlM (frameLine render) out).run state).1.len_le

end

/-! ## The room for a reason -/

/-- The lines in front of the reason. -/
def fixedLines (frames : Nat) : Bytes :=
  Utf8.ofString (line header) ++
    if maxFrames ≤ frames then Utf8.ofString (line truncationMarker) else []

/-- The bytes of a report that the lines in front of the reason leave. -/
def room (frames : Nat) : Nat := hostCapacity - (fixedLines frames).length

theorem room_eq (frames : Nat) : room frames = if 50 ≤ frames then 4042 else 4071 := by
  unfold room fixedLines maxFrames
  split <;> decide

theorem length_fixedLines (frames : Nat) :
    (fixedLines frames).length + room frames = hostCapacity := by
  have fits : (fixedLines frames).length ≤ hostCapacity := by
    unfold fixedLines
    split <;> decide
  exact Nat.add_sub_cancel' fits

theorem bytes_preamble_some {out : HostString} (unwritten : out.isEmpty = true) (reason : String)
    (frames : Nat) :
    (preamble out (some reason) frames).bytes =
      fixedLines frames ++ (Utf8.ofString (line (trimmed reason))).take (room frames) := by
  have lines : ((preambleLines (some reason) frames).flatMap fun text =>
      Utf8.ofString (line text)) =
        fixedLines frames ++ Utf8.ofString (line (trimmed reason)) := by
    unfold preambleLines fixedLines
    split <;> simp
  have size := length_fixedLines frames
  rw [bytes_preamble, lines, (TextBuffer.isEmpty_iff out).mp unwritten, List.nil_append,
    List.take_append, List.take_of_length_le (by omega), ← size, Nat.add_sub_cancel_left]

/-- Where the room is filled by a start of one reason that another has too, the lines before the
frames are the same and leave no room for any. -/
theorem preamble_of_start {out : HostString} (unwritten : out.isEmpty = true)
    {early late : String} {frames : Nat}
    (start : (trimmed early).toList <+: (trimmed late).toList)
    (filled : room frames ≤ (Utf8.ofString (trimmed early)).length) :
    let written := preamble out (some early) frames
    written.isFull = true ∧ (preamble out (some late) frames).bytes = written.bytes := by
  intro written
  obtain ⟨rest, split⟩ := start
  have longer : Utf8.ofString (trimmed late) =
      Utf8.ofString (trimmed early) ++ Utf8.encode rest := by
    rw [Utf8.ofString, ← split, Utf8.encode_append]
    rfl
  have bytes : written.bytes =
      fixedLines frames ++ (Utf8.ofString (trimmed early)).take (room frames) := by
    rw [bytes_preamble_some unwritten, line, Utf8.ofString_append,
      List.take_append_of_le_length filled]
  constructor
  · have size := length_fixedLines frames
    rw [TextBuffer.isFull_iff, bytes, List.length_append, List.length_take,
      Nat.min_eq_left filled, size]
  · rw [bytes, bytes_preamble_some unwritten, line, Utf8.ofString_append, longer,
      List.append_assoc, List.take_append_of_le_length filled]

/-! ## Two reasons, one report -/

section

variable {σ : Type} {render : HostString → UInt64 → StateM σ HostString}

theorem bytes_format_of_start (appends : OnlyAppends render) {out : HostString}
    (unwritten : out.isEmpty = true) {early late : String}
    (start : early.toList <+: late.toList) (frames : List UInt64)
    (filled : room frames.length ≤ (Utf8.ofString (trimmed early)).length) (state : σ) :
    ((format render out (some early) frames).run state).1.bytes =
      ((format render out (some late) frames).run state).1.bytes := by
  have trimmedStart : (trimmed early).toList <+: (trimmed late).toList := by
    rw [trimmed, trimmed, String.toList_ofList, String.toList_ofList]
    exact Text.trimEnd_start start
  obtain ⟨full, same⟩ := preamble_of_start unwritten trimmedStart filled
  have fullToo : (preamble out (some late) frames.length).isFull = true := by
    rw [TextBuffer.isFull_iff, same]
    exact (TextBuffer.isFull_iff _).mp full
  unfold format
  rw [bytes_frames_of_full appends full, bytes_frames_of_full appends fullToo, same]

/-- A reason, however it was written, and what is read of it in a text of 4096 bytes lead to the
same report, for every stack and every rendering that only appends, if the reason has at most
4096 bytes, or if what is read of it fills the report without the white space at its end. -/
theorem reason_cut_unseen (appends : OnlyAppends render) {out : HostString}
    (unwritten : out.isEmpty = true) (pieces : List String) (frames : List UInt64) (state : σ) :
    let reason := String.join pieces
    let buffer : Reason 4096 := pieces.foldl TextBuffer.pushText TextBuffer.empty
    (Utf8.ofString reason).length ≤ 4096 ∨
        room frames.length ≤ (Utf8.ofString (trimmed buffer.text)).length →
      ((format render out (some buffer.text) frames).run state).1.bytes =
        ((format render out (some reason) frames).run state).1.bytes := by
  intro reason buffer unseen
  have read : LongestStart (fun start => (Utf8.encode start).length ≤ 4096) reason.toList
      buffer.text.toList := TextBuffer.longestStart_pieces pieces
  rcases unseen with fits | filled
  · rw [show buffer.text = reason from String.toList_inj.mp (read.eq_whole fits)]
  · exact bytes_format_of_start appends unwritten read.isStart frames filled state

end

/-- A reason of characters of three bytes each. -/
def manyMarks (n : Nat) : List Char := List.replicate n '€'

theorem length_manyMarks (n : Nat) : (Utf8.encode (manyMarks n)).length = n * 3 := by
  have size : '€'.utf8Size = 3 := by decide
  simp [manyMarks, Utf8.encode, size]

theorem trimEnd_manyMarks (n : Nat) : Text.trimEnd (manyMarks n) = manyMarks n := by
  refine Text.Solid.trimEnd fun c member => ?_
  rw [List.eq_of_mem_replicate member]
  decide

/-- The first limit cuts the 1366th of them, and the second one the 1348th. -/
theorem reason_cut_unseen_overlong :
    let pieces := [String.ofList (manyMarks 1400)]
    let render := renderPlace fun _ => none
    let buffer : Reason 4096 := pieces.foldl TextBuffer.pushText TextBuffer.empty
    let out : HostString := TextBuffer.empty
    OnlyAppends render ∧ out.isEmpty = true ∧
      room deepStack.length ≤ (Utf8.ofString (trimmed buffer.text)).length ∧
      ((format render out (some buffer.text) deepStack).run ()).1.bytes =
        ((format render out (some (String.join pieces)) deepStack).run ()).1.bytes := by
  intro pieces render buffer out
  have appends : OnlyAppends render := (appends_renderPlace _).onlyAppends
  -- What is read has at least as many of the characters as fit.
  have fits : manyMarks 1365 <+: buffer.text.toList := by
    refine (TextBuffer.longestStart_pieces pieces).longest _ ⟨manyMarks 35, ?_⟩ ?_
    · rw [String.join_cons, String.join_nil, String.append_empty, String.toList_ofList]
      exact List.replicate_append_replicate
    · rw [length_manyMarks]
      decide
  have filled : room deepStack.length ≤ (Utf8.ofString (trimmed buffer.text)).length := by
    have start := Text.trimEnd_start fits
    have size := Utf8.length_encode_le_of_start start
    rw [trimEnd_manyMarks, length_manyMarks] at size
    rw [room_eq, Utf8.ofString, trimmed, String.toList_ofList]
    exact Nat.le_trans (by decide) size
  exact ⟨appends, rfl, filled, reason_cut_unseen appends rfl pieces deepStack () (.inr filled)⟩

end Rewind.Report
