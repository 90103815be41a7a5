/-
# Rewind.Proofs.CrashReport -- what the host reads of a crash report

A report is laid out in a fixed store and handed over as a C string.  What the store holds
is the start of the whole report (`Report.whole`), as many bytes as fit; what the host reads
of that ends at the first NUL.  A stack and its symbols have no NUL, but the message of a
panic is any text.

Main statements: `Report.bytes_hostReport` (the store holds the start of the report),
`Report.trimmed_panicReason` (a reason that is cut loses nothing of a report that fits),
`Subject.left_panic` and `Subject.received_iff`.
-/
import Rewind.Proofs.HostTexts
import Rewind.Proofs.Process
import Rewind.Proofs.ReportLayout
import Rewind.Proofs.TextView
import Rewind.Proofs.Trimming

namespace Rewind

set_option autoImplicit false

/-! ## The whole report -/

namespace Report

/-- The report of a reason and of the texts of all frames, were there room for all of it. -/
def whole (reason : Option String) (frames : List String) : String :=
  preambleText reason frames.length ++ String.join (frames.map line)

theorem ofString_lines (texts : List String) :
    Utf8.ofString (String.join (texts.map line)) =
      texts.flatMap fun text => Utf8.ofString (line text) := by
  rw [Utf8.ofString_join, List.flatMap_map]

theorem ofString_whole (reason : Option String) (frames : List String) :
    Utf8.ofString (whole reason frames) =
      (preambleLines reason frames.length ++ frames).flatMap
        fun text => Utf8.ofString (line text) := by
  rw [whole, Utf8.ofString_append, preambleText, ofString_lines, ofString_lines,
    List.flatMap_append]

/-- The report of a process is the one whose frames are rendered by where they lie. -/
theorem hostReport_eq (places : UInt64 → Option Place) (reason : Option String)
    (frames : List UInt64) :
    hostReport places reason frames =
      ((format (renderPlace places) TextBuffer.empty reason frames).run ()).1 := by
  rw [hostReport, format, format, List.idRun_foldlM, Vm.foldlM_run]
  -- read from the right, where the state is a pair, the step of the pairs is found
  symm
  exact (List.foldl_hom (Prod.fst : HostString × Unit → HostString) fun _ _ => rfl).symm

/-- The store holds the start of the whole report. -/
theorem bytes_hostReport (places : UInt64 → Option Place) (reason : Option String)
    {frames : List UInt64} (few : frames.length ≤ maxFrames) :
    (hostReport places reason frames).bytes =
      (Utf8.ofString (whole reason (frames.map fun addr => frameText (places addr) addr))).take
        hostCapacity := by
  rw [hostReport_eq, bytes_format (appends_renderPlace places), TextBuffer.bytes_empty,
    List.nil_append, layout_eq, List.take_of_length_le few, ofString_whole, List.flatMap_append,
    List.length_map, List.flatMap_map]
  simp only [line, Utf8.ofString_append]

/-- What the host reads of a report that fits ends at its first NUL. -/
theorem cString_hostReport (places : UInt64 → Option Place) {reason : Option String}
    {frames : List UInt64} (few : frames.length ≤ maxFrames)
    (fits : (Utf8.ofString
      (whole reason (frames.map fun addr => frameText (places addr) addr))).length ≤ hostCapacity) :
    (hostReport places reason frames).cString =
      (Utf8.ofString (whole reason (frames.map fun addr => frameText (places addr) addr))).takeWhile
        (· != 0) := by
  rw [TextBuffer.cString_eq, bytes_hostReport places reason few, List.take_of_length_le fits]

/-! ## NUL in a report -/

theorem nul_mem_line {text : String} : '\x00' ∈ (line text).toList ↔ '\x00' ∈ text.toList := by
  rw [line, String.toList_append, List.mem_append, or_iff_left (by decide)]

theorem nul_mem_trimmed {reason : String} :
    '\x00' ∈ (trimmed reason).toList ↔ '\x00' ∈ reason.toList := by
  rw [trimmed, String.toList_ofList, Text.nul_mem_trimEnd]

/-- Frames without a NUL leave only the reason to have one. -/
theorem nul_mem_whole {reason : String} {frames : List String}
    (clean : ∀ text ∈ frames, '\x00' ∉ text.toList) :
    0 ∈ Utf8.ofString (whole (some reason) frames) ↔ '\x00' ∈ reason.toList := by
  have fixed : ∀ text ∈ [header] ++ if maxFrames ≤ frames.length then [truncationMarker] else [],
      '\x00' ∉ text.toList := by
    split <;> decide
  rw [ofString_whole, List.mem_flatMap]
  constructor
  · rintro ⟨text, member, zero⟩
    have nul := nul_mem_line.mp (Utf8.zero_mem_ofString.mp zero)
    rcases List.mem_append.mp member with before | frame
    · rcases List.mem_append.mp before with early | last
      · exact absurd nul (fixed text early)
      · obtain rfl := List.mem_singleton.mp last
        exact nul_mem_trimmed.mp nul
    · exact absurd nul (clean text frame)
  · intro nul
    refine ⟨trimmed reason, ?_, ?_⟩
    · simp [preambleLines]
    · exact Utf8.zero_mem_ofString.mpr (nul_mem_line.mpr (nul_mem_trimmed.mpr nul))

/-! ## A reason that is cut -/

/-- A report is longer than its header and its reason. -/
theorem length_whole (reason : String) (frames : List String) :
    header.toList.length + (Utf8.ofString (trimmed reason)).length <
      (Utf8.ofString (whole (some reason) frames)).length := by
  have first : header.toList.length < (Utf8.ofString (line header)).length := by decide
  have last : (Utf8.ofString (trimmed reason)).length ≤
      (Utf8.ofString (line (trimmed reason))).length := by
    rw [line, Utf8.ofString_append, List.length_append]
    exact Nat.le_add_right _ _
  rw [ofString_whole]
  simp only [preambleLines, Option.map_some, Option.toList_some, List.flatMap_append,
    List.flatMap_cons, List.flatMap_nil, List.append_nil, List.length_append]
  omega

/-- A reason that is cut loses nothing that a report that fits would show. -/
theorem trimmed_panicReason {location : Option Location} {message : String}
    {frames : List String}
    (fits : (Utf8.ofString (whole (some (panicText location message)) frames)).length ≤
      hostCapacity) :
    trimmed (panicReason location message) = trimmed (panicText location message) := by
  have read : LongestStart (fun start => (Utf8.encode start).length ≤ hostStringSize)
      (panicText location message).toList (panicReason location message).toList :=
    TextBuffer.longestStart_ofText _
  -- All that trimming leaves has room in the report, so it is not cut.
  have kept : Text.trimEnd (panicText location message).toList <+:
      (panicReason location message).toList := by
    refine read.longest _ (Text.start_trimEnd _) ?_
    have room := length_whole (panicText location message) frames
    rw [trimmed, Utf8.ofString, String.toList_ofList] at room
    simp only [hostCapacity] at fits
    omega
  obtain ⟨lost, split⟩ := read.isStart
  rw [trimmed, trimmed, Text.trimEnd_of_start split.symm kept.length_le]

end Report

namespace Subject

/-! ## From the panic to the host -/

/-- The frames on the stack of a process as texts. -/
def frames (p : Subject) : List String :=
  p.stack.map fun addr => Report.frameText (p.places addr) addr

/-- What is reported leaves one crash report, whether or not the host ends the process on it. -/
theorem left_panicWithBacktrace {α : Type} {p : Subject} {channel : Channel}
    (sink : p.crashChannel = some channel) (reason : Option String) :
    left (panicWithBacktrace reason : SubjectM α) p =
      p.grown [.called channel (.panicExtended
        (Report.hostReport p.places reason p.stack).cString) none] := by
  let report := Report.hostReport p.places reason p.stack
  have sees : channel.sees (.panicExtended report.cString) = true := Bool.or_true _
  have told := left_call channel (.panicExtended report.cString) none p
  rw [traced, if_pos sees] at told
  have reported : (panicWithBacktrace reason : SubjectM α).run.run p = (do
      call channel (.panicExtended report.cString) none
      finish .spinning : SubjectM α).run.run p := by
    refine ((returns_get p).run_bind _).trans ?_
    simp only [sink]
    rfl
  rw [left, reported]
  show left _ p = _
  rcases returns_or_ends (call channel (.panicExtended report.cString) none) p with
    ⟨_, returns⟩ | ⟨how, ends⟩
  · rw [(returns.ends (ends_finish _ _)).left_eq, told]
  · rw [(ends.bind _).left_eq, told]

/-- So does a panic. -/
theorem left_panic {α : Type} {p : Subject} {channel : Channel} (hooked : p.hooked = true)
    (sink : p.crashChannel = some channel) (location : Option Report.Location)
    (payload : Payload) :
    left (panic location payload : SubjectM α) p =
      p.grown [.called channel (.panicExtended (Report.hostReport p.places
        (some (Report.panicReason location payload.message)) p.stack).cString) none] := by
  have reported : (panic location payload : SubjectM α).run.run p =
      (panicWithBacktrace (some (Report.panicReason location payload.message)) :
        SubjectM α).run.run p := by
    refine ((returns_get p).run_bind _).trans ?_
    rw [if_pos hooked]
  rw [left, reported]
  exact left_panicWithBacktrace sink _

/-- What the host receives of a panic, for any message and any stack of at most fifty frames
whose texts have no NUL, where the whole report fits: the report up to its first NUL.  So it
receives the whole report just if the reason has no NUL. -/
theorem received_iff {p : Subject} {channel : Channel} (hooked : p.hooked = true)
    (sink : p.crashChannel = some channel) (few : p.stack.length ≤ Report.maxFrames)
    (clean : ∀ text ∈ p.frames, '\x00' ∉ text.toList) (location : Option Report.Location)
    (payload : Payload) :
    let reason := Report.panicReason location payload.message
    let report := Report.whole (some reason) p.frames
    let full := Report.whole (some (Report.panicText location payload.message)) p.frames
    ((Utf8.ofString report).length ≤ hostCapacity → ∃ received,
      left (panic location payload : SubjectM Empty) p =
        p.grown [.called channel (.panicExtended received) none] ∧
      received = (Utf8.ofString report).takeWhile (· != 0) ∧
      (received = Utf8.ofString report ↔ '\x00' ∉ reason.toList)) ∧
    ((Utf8.ofString full).length ≤ hostCapacity → report = full) := by
  intro reason report full
  constructor
  · intro fits
    have read := Report.cString_hostReport p.places few fits
    refine ⟨_, left_panic hooked sink location payload, read, ?_⟩
    rw [read]
    show (Utf8.ofString report).takeWhile (· != 0) = Utf8.ofString report ↔ _
    rw [List.takeWhile_eq_self_iff, ← Report.nul_mem_whole clean]
    constructor
    · intro plain zero
      exact absurd (plain 0 zero) (by decide)
    · intro plain byte member
      rw [bne_iff_ne]
      rintro rfl
      exact plain member
  · intro fits
    have same := Report.trimmed_panicReason fits
    simp only [report, full, reason, Report.whole, Report.preambleText, Report.preambleLines,
      Option.map_some, same]

/-- A process that reports panics, with one return address on its stack. -/
def reporting : Subject :=
  let vm := Vm.fresh .ordinary .absent (Host.fresh (.compatible 8 64))
  { Subject.fresh vm (.standard 0) true (fun _ => none) with
    hooked := true, crashChannel := some (.standard 0), stack := [0x1000] }

def somewhere : Option Report.Location := some ⟨"src/lib.rs", 7⟩

theorem reporting_clean : ∀ text ∈ reporting.frames, '\x00' ∉ text.toList := by
  decide +kernel

theorem received_iff_plain :
    reporting.hooked = true ∧ reporting.crashChannel = some (.standard 0) ∧
      reporting.stack.length ≤ Report.maxFrames ∧
      (∀ text ∈ reporting.frames, '\x00' ∉ text.toList) ∧ ∃ received,
        left (panic somewhere (.text "out of range") : SubjectM Empty) reporting =
          reporting.grown [.called (.standard 0) (.panicExtended received) none] ∧
        received = Utf8.ofString
          "====== BACKTRACE ======\npanicked at src/lib.rs:7: out of range\n[0x1000]\n" := by
  refine ⟨rfl, rfl, by decide, reporting_clean, ?_⟩
  have sink : reporting.crashChannel = some (.standard 0) := rfl
  obtain ⟨reported, -⟩ :=
    received_iff rfl sink (by decide) reporting_clean somewhere (.text "out of range")
  obtain ⟨received, left, -, entire⟩ := reported (by decide +kernel)
  refine ⟨received, left, (entire.mpr (by decide +kernel)).trans ?_⟩
  decide +kernel

/-- The report of a message with a NUL fits, and the host does not read what stands behind
the NUL: not the message, nor the line end, nor any frame. -/
theorem report_cut_at_nul :
    let payload : Payload := .text "lost\x00and found"
    let report := Report.whole (some (Report.panicText somewhere payload.message))
      reporting.frames
    reporting.hooked = true ∧ reporting.crashChannel = some (.standard 0) ∧
      reporting.stack.length ≤ Report.maxFrames ∧
      (∀ text ∈ reporting.frames, '\x00' ∉ text.toList) ∧
      (Utf8.ofString report).length ≤ hostCapacity ∧ ∃ received,
        left (panic somewhere payload : SubjectM Empty) reporting =
          reporting.grown [.called (.standard 0) (.panicExtended received) none] ∧
        received = Utf8.ofString "====== BACKTRACE ======\npanicked at src/lib.rs:7: lost" ∧
        received ≠ Utf8.ofString report := by
  intro payload report
  have fits : (Utf8.ofString report).length ≤ hostCapacity := by decide +kernel
  refine ⟨rfl, rfl, by decide, reporting_clean, fits, _, left_panic rfl rfl _ _, ?_⟩
  have read : (Report.hostReport reporting.places
      (some (Report.panicReason somewhere payload.message)) reporting.stack).cString =
      Utf8.ofString "====== BACKTRACE ======\npanicked at src/lib.rs:7: lost" := by
    decide +kernel
  refine ⟨read, ?_⟩
  rw [read]
  decide +kernel

end Subject

end Rewind
