/-
# Rewind.Report -- the layout of a crash report

A report is a header line, a note that the stack may have been deeper, the reason,
and a line for each frame.  It is written into a host text, so what does not fit is
cut; every frame is rendered all the same.

The reason has no label in front of it: triage on the host matches whole lines such
as `caught signal: 11`.

Main statements: `bytes_preamble` (what stands before the frames is the first bytes of
the whole preamble).
-/
import Rewind.Text.Blank
import Rewind.Text.Buffer
import Rewind.Text.Numeral

namespace Rewind.Report

set_option autoImplicit false

/-- The first line of every report. -/
def header : String := "====== BACKTRACE ======"

/-- The line that says that the stack may have been deeper. -/
def truncationMarker : String := "(backtrace may be truncated)"

def maxFrames : Nat := 50

/-- A reason without the white space at its end. -/
def trimmed (reason : String) : String :=
  String.ofList (Text.trimEnd reason.toList)

/-- A text with a line end. -/
def line (text : String) : String := text ++ "\n"

/-- The lines before the frames. -/
def preambleLines (reason : Option String) (frames : Nat) : List String :=
  [header] ++ (if maxFrames ≤ frames then [truncationMarker] else []) ++
    (reason.map trimmed).toList

def preambleText (reason : Option String) (frames : Nat) : String :=
  String.join ((preambleLines reason frames).map line)

def preamble (out : HostString) (reason : Option String) (frames : Nat) : HostString :=
  (preambleLines reason frames).foldl (fun out text => out.pushText (line text)) out

section

variable {m : Type → Type} [Monad m]

/-- Write one frame, rendered by `symbolize`, as a line. -/
def frameLine (symbolize : HostString → UInt64 → m HostString) (out : HostString)
    (frame : UInt64) : m HostString := do
  return (← symbolize out frame).pushText "\n"

/-- Write a report.  As many frames as a report can have mean that there may have been
more. -/
def format (symbolize : HostString → UInt64 → m HostString) (out : HostString)
    (reason : Option String) (frames : List UInt64) : m HostString :=
  (frames.take maxFrames).foldlM (frameLine symbolize) (preamble out reason frames.length)

end

/-! ## Frames -/

/-- Where in a loaded image an address lies: the file of the image, where the image
begins, and the symbol at or before the address with its own address. -/
structure Place where
  image : Option String
  base : UInt64
  symbol : Option (String × UInt64)
  deriving DecidableEq, Repr

/-- A frame as text: the image and the distance from the symbol, or from the start of
the image; the address alone where it lies in no image. -/
def frameText (place : Option Place) (addr : UInt64) : String :=
  let bracketed := "[" ++ Text.hex addr.toNat ++ "]"
  match place with
  | none => bracketed
  | some place =>
      let distance := match place.symbol with
        | some (symbol, start) => symbol ++ "+" ++ Text.hex (addr - start).toNat
        | none => "+" ++ Text.hex (addr - place.base).toNat
      place.image.getD "??" ++ "(" ++ distance ++ ") " ++ bracketed

/-- Write a frame as text, given where each address lies. -/
def symbolize (places : UInt64 → Option Place) (out : HostString) (addr : UInt64) : HostString :=
  out.pushText (frameText (places addr) addr)

/-- The C string of a report that the host is handed. -/
def hostReport (places : UInt64 → Option Place) (reason : Option String)
    (frames : List UInt64) : HostString :=
  Id.run (format (fun out addr => pure (symbolize places out addr)) TextBuffer.empty reason frames)

/-! ## Reasons -/

def signalReason (number : Int) : String :=
  (TextBuffer.ofText ("caught signal: " ++ Text.signedDecimal number) : Reason 64).text

def assertionText (expr function file : String) (lineNumber : UInt32) : String :=
  "assertion failed: \"" ++ expr ++ "\" in " ++ function ++ " (" ++ file ++ ":" ++
    Text.decimal lineNumber.toNat ++ ")"

def assertionReason (expr function file : String) (lineNumber : UInt32) : String :=
  (TextBuffer.ofText (assertionText expr function file lineNumber) : Reason hostStringSize).text

def errnoAssertionReason (function file : String) (lineNumber : UInt32) : String :=
  (TextBuffer.ofText ("assert_perror: in " ++ function ++ " (" ++ file ++ ":" ++
    Text.decimal lineNumber.toNat ++ ")") : Reason 1024).text

/-- Where in a source file something happened. -/
structure Location where
  file : String
  line : Nat
  deriving DecidableEq, Repr

def panicText (location : Option Location) (message : String) : String :=
  match location with
  | some at_ => "panicked at " ++ at_.file ++ ":" ++ Text.decimal at_.line ++ ": " ++ message
  | none => "panicked: " ++ message

def panicReason (location : Option Location) (message : String) : String :=
  (TextBuffer.ofText (panicText location message) : Reason hostStringSize).text

/-! ## What stands before the frames -/

/-- Lines that are pushed one after another are cut once, where the report is full. -/
theorem bytes_foldl_pushText (texts : List String) (out : HostString) :
    (texts.foldl (fun out text => out.pushText (line text)) out).bytes =
      (out.bytes ++ texts.flatMap fun text => Utf8.ofString (line text)).take hostCapacity :=
  TextBuffer.bytes_foldl id (fun out text => out.bytes_push (Utf8.ofString (line text))) out texts

theorem bytes_preamble (out : HostString) (reason : Option String) (frames : Nat) :
    (preamble out reason frames).bytes =
      (out.bytes ++ (preambleLines reason frames).flatMap
        fun text => Utf8.ofString (line text)).take hostCapacity :=
  bytes_foldl_pushText _ out

end Rewind.Report
