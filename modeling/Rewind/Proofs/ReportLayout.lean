/-
# Rewind.Proofs.ReportLayout -- a report is the start of the whole report

A report is written piece by piece into a text that may fill up inside any of them: the
header, the note on its depth, the reason, a frame or the end of its line.  What is written is
the start of the layout that would be there without an end to the room (`Report.layout`).

How a frame is rendered is not known here.  A rendering may keep a state of its own, and only
appends to what is there (`Report.Appends`).  `Report.noting` sees which frames it is asked for.

Main statements: `Report.noted` (each frame up to the fiftieth is rendered once, in order, full
or not), `Report.bytes_format` and `Report.layout_kept`.
-/
import Rewind.Proofs.Actions
import Rewind.Proofs.HostTexts
import Rewind.Report

namespace Rewind

set_option autoImplicit false

/-- A fold with a state, as a fold over what is reached. -/
theorem Vm.foldlM_run {α β τ : Type} (step : β → α → StateM τ β) (b : β) (steps : List α)
    (state : τ) :
    (steps.foldlM step b).run state =
      steps.foldl (fun reached a => (step reached.1 a).run reached.2) (b, state) := by
  induction steps generalizing b state with
  | nil => rfl
  | cons a rest ih =>
      rw [List.foldlM_cons, List.foldl_cons, Vm.bind_run]
      exact ih _ _

namespace Report

/-- The whole report, were there room for it: the header, a note where there are as many frames
as a report can have, the reason without the white space at its end, and a line for each of the
first frames. -/
def layout (reason : Option String) (text : UInt64 → Bytes) (frames : List UInt64) : Bytes :=
  Utf8.ofString (line header) ++
    (if maxFrames ≤ frames.length then Utf8.ofString (line truncationMarker) else []) ++
    (match reason with
      | some reason => Utf8.ofString (line (trimmed reason))
      | none => []) ++
    (frames.take maxFrames).flatMap fun frame => text frame ++ Utf8.ofString "\n"

variable {σ : Type} {render : HostString → UInt64 → StateM σ HostString}
  {text : UInt64 → Bytes}

/-- A rendering that only appends a text of the frame, as much of it as there is room for. -/
def Appends (render : HostString → UInt64 → StateM σ HostString) (text : UInt64 → Bytes) :
    Prop :=
  ∀ out frame state, ((render out frame).run state).1.bytes =
    (out.bytes ++ text frame).take hostCapacity

/-- The rendering, with a note of each frame that it is asked for. -/
def noting (render : HostString → UInt64 → StateM σ HostString) (out : HostString)
    (frame : UInt64) : StateT (List UInt64) (StateM σ) HostString := do
  modify (· ++ [frame])
  render out frame

/-! ## Which frames are rendered -/

theorem noting_run (out : HostString) (frame : UInt64) (notes : List UInt64) (state : σ) :
    ((noting render out frame).run notes).run state =
      let rendered := (render out frame).run state
      ((rendered.1, notes ++ [frame]), rendered.2) := rfl

theorem noted_frames (out : HostString) (frames notes : List UInt64) (state : σ) :
    ((frames.foldlM (frameLine (noting render)) out).run notes).run state =
      let rendered := (frames.foldlM (frameLine render) out).run state
      ((rendered.1, notes ++ frames), rendered.2) := by
  induction frames generalizing out notes state with
  | nil => rw [List.append_nil]; rfl
  | cons frame rest ih =>
      simp only [List.foldlM_cons, frameLine, Vm.stacked_bind_run, noting_run, Vm.stacked_pure_run,
        Vm.bind_run, Vm.pure_run]
      rw [ih, List.append_assoc]
      rfl

/-- The frames that are rendered are the first of those there are, one after another, and taking
notes changes nothing of the report. -/
theorem noted (out : HostString) (reason : Option String) (frames : List UInt64) (state : σ) :
    ((format (noting render) out reason frames).run []).run state =
      let written := (format render out reason frames).run state
      ((written.1, frames.take maxFrames), written.2) :=
  noted_frames _ _ [] state

/-! ## What is written -/

theorem bytes_frameLine (appends : Appends render text) (out : HostString) (frame : UInt64)
    (state : σ) :
    ((frameLine render out frame).run state).1.bytes =
      (out.bytes ++ (text frame ++ Utf8.ofString "\n")).take hostCapacity := by
  show (((render out frame).run state).1.pushText "\n").bytes = _
  rw [TextBuffer.pushText, TextBuffer.bytes_push, appends, TextBuffer.take_append_of_take,
    List.append_assoc]

theorem layout_eq (reason : Option String) (text : UInt64 → Bytes) (frames : List UInt64) :
    layout reason text frames =
      ((preambleLines reason frames.length).flatMap fun text => Utf8.ofString (line text)) ++
        (frames.take maxFrames).flatMap fun frame => text frame ++ Utf8.ofString "\n" := by
  unfold layout preambleLines
  rw [List.flatMap_append, List.flatMap_append]
  cases reason <;> split <;> simp

/-- A report has the start of what was there and the whole layout behind it. -/
theorem bytes_format (appends : Appends render text) (out : HostString)
    (reason : Option String) (frames : List UInt64) (state : σ) :
    ((format render out reason frames).run state).1.bytes =
      (out.bytes ++ layout reason text frames).take hostCapacity := by
  have frameLines := TextBuffer.bytes_foldl (Prod.fst : HostString × σ → HostString)
    (fun reached frame => bytes_frameLine appends reached.1 frame reached.2)
    (preamble out reason frames.length, state) (frames.take maxFrames)
  rw [format, Vm.foldlM_run]
  refine frameLines.trans ?_
  rw [bytes_preamble, TextBuffer.take_append_of_take, layout_eq, List.append_assoc]

/-- A report is the start of what was there before it and the whole layout, for every text that
it is written behind, every reason, every stack and every rendering that only appends.  Each of
the first fifty frames is rendered once and in order, whether or not there is room for it. -/
theorem layout_kept (appends : Appends render text) (out : HostString)
    (reason : Option String) (frames : List UInt64) (state : σ) :
    let whole := out.bytes ++ layout reason text frames
    ∃ written after,
      ((format (noting render) out reason frames).run []).run state =
          ((written, frames.take 50), after) ∧
        (frames.take 50).length = min 50 frames.length ∧
        (format render out reason frames).run state = (written, after) ∧
        written.bytes = whole.take 4095 ∧ written.len ≤ 4095 ∧
        (whole.length ≤ 4095 → written.bytes = whole ∧
          ∀ frame ∈ frames.take 50, text frame ++ Utf8.ofString "\n" <:+: written.bytes) := by
  intro whole
  let ran := (format render out reason frames).run state
  have bytes : ran.1.bytes = whole.take hostCapacity :=
    bytes_format appends out reason frames state
  refine ⟨ran.1, ran.2, noted out reason frames state, List.length_take, rfl, bytes,
    ran.1.len_le, ?_⟩
  intro fits
  have all : ran.1.bytes = whole := by
    rw [bytes]
    exact List.take_of_length_le fits
  refine ⟨all, ?_⟩
  intro frame member
  have inside : text frame ++ Utf8.ofString "\n" <:+:
      (frames.take maxFrames).flatMap fun frame => text frame ++ Utf8.ofString "\n" := by
    rw [List.flatMap_def]
    exact List.infix_of_mem_flatten (List.mem_map_of_mem member)
  rw [all]
  exact inside.trans ((List.suffix_append _ _).trans (List.suffix_append _ _)).isInfix

/-- A frame is rendered by where it lies. -/
def renderPlace (places : UInt64 → Option Place) (out : HostString) (frame : UInt64) :
    StateM Unit HostString :=
  return symbolize places out frame

theorem appends_renderPlace (places : UInt64 → Option Place) :
    Appends (renderPlace places) fun frame => Utf8.ofString (frameText (places frame) frame) := by
  intro out frame state
  exact TextBuffer.bytes_push out _

/-- Where frames are texts, the whole report is lines of text. -/
theorem layout_texts (reason : Option String) (texts : UInt64 → String) (frames : List UInt64) :
    layout reason (fun frame => Utf8.ofString (texts frame)) frames =
      ((preambleLines reason frames.length).map line ++
        (frames.take maxFrames).map fun frame => texts frame ++ "\n").flatMap Utf8.ofString := by
  simp only [layout_eq, List.flatMap_append, List.flatMap_map, Utf8.ofString_append]

/-- A stack of eighty frames, all in one function. -/
def deepStack : List UInt64 := [0x1010, 0x1020] ++ List.replicate 78 0x1030

/-- The function that they lie in. -/
def insideMain (_ : UInt64) : Option Place := some ⟨some "target", 0, some ("main", 0x1000)⟩

/-- It leaves a report of fifty frames, which is there as a whole. -/
theorem layout_kept_deep :
    Appends (renderPlace insideMain)
        (fun frame => Utf8.ofString (frameText (insideMain frame) frame)) ∧
      ∃ written after,
        ((format (noting (renderPlace insideMain)) TextBuffer.empty (some "caught signal: 11 \n")
          deepStack).run []).run () = ((written, deepStack.take 50), after) ∧
        written.bytes = (["====== BACKTRACE ======\n", "(backtrace may be truncated)\n",
          "caught signal: 11\n", "target(main+0x10) [0x1010]\n",
          "target(main+0x20) [0x1020]\n"] ++
            List.replicate 48 "target(main+0x30) [0x1030]\n").flatMap Utf8.ofString := by
  have appends := appends_renderPlace insideMain
  obtain ⟨written, after, ran, -, -, -, -, whole⟩ :=
    layout_kept appends TextBuffer.empty (some "caught signal: 11 \n") deepStack ()
  have before : (preambleLines (some "caught signal: 11 \n") deepStack.length).map line =
      ["====== BACKTRACE ======\n", "(backtrace may be truncated)\n", "caught signal: 11\n"] := by
    decide +kernel
  have frames : (deepStack.take maxFrames).map
      (fun frame => frameText (insideMain frame) frame ++ "\n") =
        ["target(main+0x10) [0x1010]\n", "target(main+0x20) [0x1020]\n"] ++
          List.replicate 48 "target(main+0x30) [0x1030]\n" := by
    decide +kernel
  rw [TextBuffer.bytes_empty, List.nil_append, layout_texts, before, frames] at whole
  exact ⟨appends, written, after, ran, (whole (by decide +kernel)).1⟩

end Report

end Rewind
