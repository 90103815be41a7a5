/-
# Rewind.Proofs.ReasonLine -- the reason stands as a line of its own

Triage on the host looks for whole lines of a report.  The reason of a caught signal or of a
failed assertion is written into a bounded text first, loses the white space at its end, and
then stands in front of the frames in a text that is bounded too.  Frames may overflow that, but
what is in front of them is not cut (`Report.begins_hostReport`).

Main statements: `Report.signalReason_eq` and `Report.assertionReason_eq` (nothing is lost on
the way), `Exports.read_tells` (what a C string says), and `Subject.reason_line_shown`.
-/
import Rewind.Proofs.CrashReport
import Rewind.Proofs.TextView

namespace Rewind

set_option autoImplicit false

/-! ## Texts that fit -/

namespace TextBuffer

variable {capacity spare : Nat}

/-- A text that fits is read as it was written. -/
theorem text_ofText {text : String} (fits : (Utf8.ofString text).length ≤ capacity) :
    (ofText text : TextBuffer capacity spare).text = text :=
  String.toList_inj.mp ((longestStart_ofText text).eq_whole fits)

end TextBuffer

namespace Utf8

/-- Of ASCII characters each is one byte. -/
theorem length_encode_of_ascii {chars : List Char} (ascii : ∀ c ∈ chars, c.utf8Size = 1) :
    (encode chars).length = chars.length := by
  induction chars with
  | nil => rfl
  | cons c rest ih =>
      have later := ih fun d member => ascii d (List.mem_cons_of_mem c member)
      rw [encode_cons, List.length_append, String.length_utf8EncodeChar,
        ascii c List.mem_cons_self, later, List.length_cons, Nat.add_comm]

end Utf8

/-! ## Numbers at the end of a line -/

namespace Text

/-- A decimal number ends in a digit. -/
theorem exists_toDigits (n : Nat) :
    ∃ front, Nat.toDigits 10 n = front ++ [Nat.digitChar (n % 10)] := by
  rw [Nat.toDigits_eq_if (by decide)]
  split
  · next single => exact ⟨[], by rw [Nat.mod_eq_of_lt single]; rfl⟩
  · exact ⟨_, rfl⟩

section

variable (holds : Char → Prop) (digits : ∀ n : Fin 16, holds (Nat.digitChar n)) (n : Int)

include digits in
theorem forall_mem_signedDecimal (minus : holds '-') : ∀ c ∈ (signedDecimal n).toList, holds c := by
  have number : ∀ c ∈ (decimal n.natAbs).toList, holds c := by
    rw [decimal, String.toList_ofList]
    exact forall_mem_toDigits holds digits (by decide) (by decide) _
  unfold signedDecimal
  split
  · intro c member
    rw [String.toList_append] at member
    rcases List.mem_append.mp member with sign | digit
    · obtain rfl := List.mem_singleton.mp sign
      exact minus
    · exact number c digit
  · exact number

end

/-- So does a number with a sign, and a digit is no white space. -/
theorem exists_signedDecimal (n : Int) :
    ∃ front digit, (signedDecimal n).toList = front ++ [digit] ∧ isBlank digit = false := by
  have solid : ∀ n : Fin 16, isBlank (Nat.digitChar n) = false := by decide
  obtain ⟨front, number⟩ := exists_toDigits n.natAbs
  have last := solid ⟨n.natAbs % 10, by omega⟩
  have toList : (decimal n.natAbs).toList = front ++ [Nat.digitChar (n.natAbs % 10)] := by
    rw [decimal, String.toList_ofList, number]
  unfold signedDecimal
  split
  · refine ⟨'-' :: front, _, ?_, last⟩
    rw [String.toList_append, toList]
    rfl
  · exact ⟨front, _, toList, last⟩

theorem length_signedDecimal (n : Int32) : (signedDecimal n.toInt).toList.length ≤ 11 := by
  have number : (decimal n.toInt.natAbs).toList.length ≤ 10 := by
    have low := n.le_toInt
    have high := n.toInt_lt
    have small : n.toInt.natAbs < 10 ^ 10 := by omega
    rw [decimal, String.toList_ofList]
    exact (Nat.length_toDigits_le_iff (by decide) (by decide)).mpr small
  unfold signedDecimal
  split
  · rw [String.toList_append, List.length_append]
    exact Nat.add_le_add (Nat.le_refl 1) number
  · exact Nat.le_succ_of_le number

end Text

/-! ## Reasons that are not cut -/

namespace Report

/-- A text with something at its end that is no white space is not trimmed. -/
theorem trimmed_of_ends {text : String} {front : List Char} {c : Char}
    (ends : text.toList = front ++ [c]) (mark : Text.isBlank c = false) : trimmed text = text := by
  rw [trimmed, ends, Text.trimEnd_append_mark front mark, ← ends, String.ofList_toList]

def signalText (number : Int) : String := "caught signal: " ++ Text.signedDecimal number

theorem toList_signalText (number : Int) :
    (signalText number).toList = "caught signal: ".toList ++ (Text.signedDecimal number).toList :=
  String.toList_append

/-- What holds of its letters and of each digit holds of each of its characters. -/
theorem forall_mem_signalText (holds : Char → Bool) (fixed : "caught signal: -".toList.all holds)
    (digits : ∀ n : Fin 16, holds (Nat.digitChar n)) (number : Int) :
    ∀ c ∈ (signalText number).toList, holds c := by
  have letters := List.all_eq_true.mp fixed
  intro c member
  rw [toList_signalText] at member
  rcases List.mem_append.mp member with front | back
  · exact letters c (List.mem_append_left ['-'] front)
  · have minus := letters '-' (List.mem_append_right "caught signal: ".toList List.mem_cons_self)
    exact Text.forall_mem_signedDecimal (holds · = true) digits number minus c back

theorem length_signalText (number : Int32) :
    (Utf8.ofString (signalText number.toInt)).length ≤ 26 := by
  have ascii : ∀ c ∈ (signalText number.toInt).toList, c.utf8Size = 1 := fun c member =>
    beq_iff_eq.mp (forall_mem_signalText (·.utf8Size == 1) (by decide) (by decide) _ c member)
  have short := Text.length_signedDecimal number
  rw [Utf8.ofString, Utf8.length_encode_of_ascii ascii, toList_signalText, List.length_append]
  exact Nat.add_le_add (Nat.le_refl 15) short

/-- What is none of its letters and no digit is not in it. -/
theorem not_mem_signalText {c : Char} (letter : "caught signal: -".toList.all (· != c))
    (digit : ∀ n : Fin 16, Nat.digitChar n != c) (number : Int) :
    c ∉ (signalText number).toList := fun member =>
  bne_iff_ne.mp (forall_mem_signalText (· != c) letter digit number c member) rfl

/-- The line of a signal fits into its reason, whatever the number. -/
theorem signalReason_eq (number : Int32) :
    signalReason number.toInt = signalText number.toInt :=
  TextBuffer.text_ofText (Nat.le_trans (length_signalText number) (by decide))

theorem trimmed_signalText (number : Int) : trimmed (signalText number) = signalText number := by
  obtain ⟨front, digit, decimal, mark⟩ := Text.exists_signedDecimal number
  have ends : (signalText number).toList = ("caught signal: ".toList ++ front) ++ [digit] := by
    rw [toList_signalText, decimal, List.append_assoc]
  exact trimmed_of_ends ends mark

/-- The line of an assertion fits into its reason if it fits into a report. -/
theorem assertionReason_eq {expr function file : String} {lineNumber : UInt32}
    (fits : (Utf8.ofString (assertionText expr function file lineNumber)).length ≤ hostStringSize) :
    assertionReason expr function file lineNumber = assertionText expr function file lineNumber :=
  TextBuffer.text_ofText fits

theorem trimmed_assertionText (expr function file : String) (lineNumber : UInt32) :
    trimmed (assertionText expr function file lineNumber) =
      assertionText expr function file lineNumber := by
  obtain ⟨front, ends⟩ : ∃ front,
      (assertionText expr function file lineNumber).toList = front ++ [')'] :=
    ⟨_, String.toList_append⟩
  exact trimmed_of_ends ends (by decide)

/-! ## What stands in front of the frames -/

/-- The lines in front of the frames, for a reason that is not trimmed. -/
def opening (reason : String) (frames : Nat) : List String :=
  [header] ++ (if maxFrames ≤ frames then [truncationMarker] else []) ++ [reason]

/-- A text begins with these lines, each of them whole. -/
def BeginsWith (text : Bytes) (lines : List String) : Prop :=
  Utf8.ofString (String.join (lines.map line)) <+: text ∧ ∀ one ∈ lines, '\n' ∉ one.toList

/-- A report has room for its opening if the reason leaves as much as the other two lines
take. -/
theorem length_opening {reason : String} {frames : Nat}
    (short : (Utf8.ofString reason).length ≤ 4041) :
    (Utf8.ofString (String.join ((opening reason frames).map line))).length ≤ hostCapacity := by
  have first : (Utf8.ofString (line header)).length = 24 := by decide
  have second : (Utf8.ofString (line truncationMarker)).length = 29 := by decide
  have last : (Utf8.ofString (line reason)).length = (Utf8.ofString reason).length + 1 := by
    rw [line, Utf8.ofString_append, List.length_append]
    rfl
  have room : hostCapacity = 4095 := rfl
  rw [ofString_lines, opening]
  split <;> simp [first, second, last] <;> omega

/-- Nothing of the opening is cut, however much the frames overflow the report. -/
theorem begins_format {σ : Type} {render : HostString → UInt64 → StateM σ HostString}
    {text : UInt64 → Bytes} (appends : Appends render text) {reason : String}
    (kept : trimmed reason = reason) (short : (Utf8.ofString reason).length ≤ 4041)
    (frames : List UInt64) (state : σ) :
    Utf8.ofString (String.join ((opening reason frames.length).map line)) <+:
      ((format render TextBuffer.empty (some reason) frames).run state).1.bytes := by
  have same : preambleLines (some reason) frames.length = opening reason frames.length := by
    rw [preambleLines, Option.map_some, kept]
    rfl
  rw [bytes_format appends, TextBuffer.bytes_empty, List.nil_append, layout_eq, same,
    ← ofString_lines]
  exact List.prefix_take_iff.mpr ⟨List.prefix_append _ _, length_opening short⟩

/-- A property of the fixed lines and of the reason is one of all lines of the opening. -/
theorem forall_mem_opening (holds : String → Prop)
    (fixed : ∀ text ∈ [header, truncationMarker], holds text) {reason : String}
    (last : holds reason) (frames : Nat) : ∀ text ∈ opening reason frames, holds text := by
  intro text member
  unfold opening at member
  split at member
  · simp only [List.cons_append, List.nil_append, List.mem_cons, List.not_mem_nil,
      or_false] at member
    rcases member with rfl | rfl | rfl
    · exact fixed _ (by simp)
    · exact fixed _ (by simp)
    · exact last
  · simp only [List.append_nil, List.cons_append, List.nil_append, List.mem_cons,
      List.not_mem_nil, or_false] at member
    rcases member with rfl | rfl
    · exact fixed _ (by simp)
    · exact last

/-- What the host reads of a report has its whole opening, wherever the frames lie. -/
theorem begins_hostReport (places : UInt64 → Option Place) {reason : String}
    (kept : trimmed reason = reason) (short : (Utf8.ofString reason).length ≤ 4041)
    (plain : '\x00' ∉ reason.toList) (oneLine : '\n' ∉ reason.toList) (frames : List UInt64) :
    BeginsWith (hostReport places (some reason) frames).cString
      (opening reason frames.length) := by
  have start := begins_format (appends_renderPlace places) kept short frames ()
  have noNul : 0 ∉ Utf8.ofString (String.join ((opening reason frames.length).map line)) := by
    rw [ofString_lines, List.mem_flatMap]
    rintro ⟨text, member, zero⟩
    have nul := nul_mem_line.mp (Utf8.zero_mem_ofString.mp zero)
    exact forall_mem_opening (fun text => '\x00' ∉ text.toList) (by decide) plain _ text member nul
  refine ⟨?_, forall_mem_opening _ (by decide) oneLine _⟩
  rw [TextBuffer.cString_eq, hostReport_eq]
  obtain ⟨rest, whole⟩ := start
  rw [← whole, Bytes.takeWhile_append_of_not_mem noNul]
  exact List.prefix_append _ _

end Report

/-! ## What a C string says -/

namespace Exports

/-- What a C string says: its bytes up to the first NUL where these are UTF-8, and a question
mark where there is no string or they are not. -/
inductive Tells : CText → String → Prop
  | text {bytes : Bytes} {shown : String}
      (whole : bytes.takeWhile (· != 0) = Utf8.ofString shown) : Tells (some bytes) shown
  | null : Tells none "?"
  | unreadable {bytes : Bytes} (broken : ¬ Utf8.Valid (bytes.takeWhile (· != 0))) :
      Tells (some bytes) "?"

theorem read_tells (text : CText) : Tells text (read text) := by
  cases text with
  | none => exact .null
  | some bytes =>
      show Tells (some bytes) ((Utf8.text? (bytes.takeWhile (· != 0))).getD "?")
      unfold Utf8.text?
      split
      · next whole =>
          refine .text ?_
          rw [Option.getD_some, Utf8.text, Utf8.ofString, String.toList_ofList, whole]
      · next cut =>
          refine .unreadable ?_
          rintro ⟨chars, whole⟩
          rw [whole, Utf8.chars_encode] at cut
          exact cut rfl

/-- A C string has no NUL in what it says. -/
theorem Tells.noNul {text : CText} {shown : String} (tells : Tells text shown) :
    '\x00' ∉ shown.toList := by
  cases tells with
  | text whole =>
      intro nul
      have zero := Utf8.zero_mem_ofString.mpr nul
      rw [← whole] at zero
      exact Bytes.nul_not_mem_takeWhile _ zero
  | null => decide
  | unreadable broken => decide

/-- So the line of an assertion about C strings has none either. -/
theorem nul_not_mem_assertionText (expr function file : CText) (lineNumber : UInt32) :
    '\x00' ∉
      (Report.assertionText (read expr) (read function) (read file) lineNumber).toList := by
  have plain (text : CText) : Plain (read text) (read text).toList.length :=
    ⟨Nat.le_refl _, (read_tells text).noNul⟩
  have failed : Plain "assertion failed: \"" 19 := ⟨by decide, by decide⟩
  have inside : Plain "\" in " 5 := ⟨by decide, by decide⟩
  have opened : Plain " (" 2 := ⟨by decide, by decide⟩
  have colon : Plain ":" 1 := ⟨by decide, by decide⟩
  have closed : Plain ")" 1 := ⟨by decide, by decide⟩
  have number := Text.plain_decimal lineNumber
  exact ((((((((failed.append (plain expr)).append inside).append (plain function)).append
    opened).append (plain file)).append colon).append number).append closed).noNul

end Exports

/-! ## From the failure to the host -/

namespace Subject

/-- What is reported of a signal is its whole line. -/
theorem handleFault_eq {α : Type} (number : Int32) :
    (handleFault number.toInt : SubjectM α) =
      panicWithBacktrace (some (Report.signalText number.toInt)) := by
  rw [handleFault, Report.signalReason_eq]

/-- So is what is reported of a failed assertion if it fits. -/
theorem assertionFailed_eq {α : Type} {expr function file : String} {line : UInt32}
    (fits : (Utf8.ofString (Report.assertionText expr function file line)).length ≤
      hostStringSize) :
    (assertionFailed expr function file line : SubjectM α) =
      panicWithBacktrace (some (Report.assertionText expr function file line)) := by
  rw [assertionFailed, Report.assertionReason_eq fits]

/-- What the host receives of a reason that needs no trimming begins with the lines in front of
the frames. -/
theorem received_begins {α : Type} {p : Subject} {channel : Channel}
    (sink : p.crashChannel = some channel) {reason : String}
    (kept : Report.trimmed reason = reason) (short : (Utf8.ofString reason).length ≤ 4041)
    (plain : '\x00' ∉ reason.toList) (oneLine : '\n' ∉ reason.toList) :
    ∃ received,
      left (panicWithBacktrace (some reason) : SubjectM α) p =
        p.grown [.called channel (.panicExtended received) none] ∧
      Report.BeginsWith received (Report.opening reason p.stack.length) :=
  ⟨_, left_panicWithBacktrace sink _,
    Report.begins_hostReport p.places kept short plain oneLine p.stack⟩

/-- The report of a signal begins with the header, the note that there may be more frames where
there are as many as are captured, and the line of the signal, however long the frames are.  A
failed assertion is reported alike whichever of the two functions tells of it, and its line
stands there too, for any C strings that make one line for which there is room. -/
theorem reason_line_shown {p : Subject} {channel : Channel}
    (sink : p.crashChannel = some channel) :
    (∀ number : Int32, ∃ received,
      left (handleFault number.toInt : SubjectM Empty) p =
        p.grown [.called channel (.panicExtended received) none] ∧
      Report.BeginsWith received
        (Report.opening (Report.signalText number.toInt) p.stack.length)) ∧
    (∀ (expr function file : Exports.CText) (line : UInt32) (line' : Int32),
      line'.toBitVec = line.toBitVec →
      (Exports.assertBsd function file line' expr : SubjectM Empty) =
        Exports.assertGnu expr file line function) ∧
    (∀ (expr function file : Exports.CText) (line : UInt32),
      let text := Report.assertionText (Exports.read expr) (Exports.read function)
        (Exports.read file) line
      '\n' ∉ text.toList → (Utf8.ofString text).length ≤ 4041 → ∃ received,
        left (Exports.assertGnu expr file line function : SubjectM Empty) p =
          p.grown [.called channel (.panicExtended received) none] ∧
        Report.BeginsWith received (Report.opening text p.stack.length)) ∧
    ∀ text, Exports.Tells text (Exports.read text) := by
  refine ⟨?_, ?_, ?_, Exports.read_tells⟩
  · intro number
    have kept := Report.trimmed_signalText number.toInt
    have short : (Utf8.ofString (Report.signalText number.toInt)).length ≤ 4041 :=
      Nat.le_trans (Report.length_signalText number) (by decide)
    have plain : '\x00' ∉ (Report.signalText number.toInt).toList :=
      Report.not_mem_signalText (by decide) (by decide) _
    have oneLine : '\n' ∉ (Report.signalText number.toInt).toList :=
      Report.not_mem_signalText (by decide) (by decide) _
    rw [handleFault_eq]
    exact received_begins sink kept short plain oneLine
  · intro expr function file line line' same
    have bits : line'.toUInt32 = line := UInt32.toBitVec_inj.mp same
    rw [Exports.assertBsd, bits]
    rfl
  · intro expr function file line text oneLine short
    have fits : (Utf8.ofString text).length ≤ hostStringSize := Nat.le_trans short (by decide)
    have plain := Exports.nul_not_mem_assertionText expr function file line
    rw [Exports.assertGnu, assertionFailed_eq fits]
    exact received_begins sink (Report.trimmed_assertionText _ _ _ _) short plain oneLine

/-- A process that reports panics, with a stack as deep as is captured, whose frames all lie in
an image with a name that alone is longer than a report. -/
def overflowing : Subject :=
  { reporting with
    stack := List.replicate 50 0x1000
    places := fun _ => some ⟨some (String.ofList (List.replicate 5000 'x')), 0, none⟩ }

/-- A failed assertion in a function without a name, on the last line there can be. -/
theorem reason_line_shown_overflowing :
    let heading := ["====== BACKTRACE ======", "(backtrace may be truncated)"]
    let expr := some (Utf8.ofString "x > 0")
    let file := some (Utf8.ofString "a.c")
    overflowing.crashChannel = some (.standard 0) ∧
      (-1 : Int32).toBitVec = (0xffffffff : UInt32).toBitVec ∧
      (∃ received,
        left (handleFault (11 : Int32).toInt : SubjectM Empty) overflowing =
          overflowing.grown [.called (.standard 0) (.panicExtended received) none] ∧
        Report.BeginsWith received (heading ++ ["caught signal: 11"])) ∧
      ∃ received,
        left (Exports.assertBsd none file (-1) expr : SubjectM Empty) overflowing =
          overflowing.grown [.called (.standard 0) (.panicExtended received) none] ∧
        Report.BeginsWith received
          (heading ++ ["assertion failed: \"x > 0\" in ? (a.c:4294967295)"]) := by
  intro heading expr file
  have sink : overflowing.crashChannel = some (.standard 0) := rfl
  have bits : (-1 : Int32).toBitVec = (0xffffffff : UInt32).toBitVec := by decide
  obtain ⟨faults, same, assertions, -⟩ := reason_line_shown sink
  have text : Report.assertionText (Exports.read expr) (Exports.read none) (Exports.read file)
      0xffffffff = "assertion failed: \"x > 0\" in ? (a.c:4294967295)" := by
    decide +kernel
  have asserted := assertions expr none file 0xffffffff
  rw [text] at asserted
  rw [same expr none file _ _ bits]
  exact ⟨sink, bits, faults 11, asserted (by decide) (by decide +kernel)⟩

end Subject

end Rewind
