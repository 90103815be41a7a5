/-
# Rewind.Exports -- what a target finds in place of the C library's functions

The agent's library is loaded in front of the C library.  It offers a harness the
calls of the session, and it stands in for the functions by which a target could end
unseen or take over the signals of a crash.

A text given by a null pointer, or one that is not UTF-8, is read as `?`.
-/
import Rewind.Subject.Session

namespace Rewind.Exports

set_option autoImplicit false

open Subject

/-- A C string that is handed in, if the pointer to it is not null. -/
abbrev CText := Option Bytes

def read (text : CText) : String :=
  (text.bind fun bytes => Utf8.text? (bytes.takeWhile (· != 0))).getD "?"

/-! ## The session -/

/-- Shake hands with the host, the first time; the size of the greatest input. -/
def start : SubjectM Nat := do
  let agent ← hostSession
  leaveSession agent false
  return agent.maxInputSize

/-- Copy the next input to the start of `dest`: its length, and `dest` with it. -/
def getFuzzData (dest : Buffer) : SubjectM (Nat × Buffer) := do
  let (result, agent) ← guest _ ((Agent.acquire dest).run (← hostSession))
  match result with
  | .error error => abortWith error
  | .ok delivered =>
      leaveSession agent false
      return delivered

/-- Rewind to the snapshot. -/
def release : SubjectM Unit := do
  let (_, agent) ← guest _ (Agent.release.run (← hostSession))
  leaveSession agent false

def print (text : CText) : SubjectM Unit :=
  guest _ (Vm.hostPrint (read text))

/-! ## Signals and the end of the process -/

/-- Register a signal action, through the filter.  Where there can be none, there is no such
function. -/
def sigaction (request : SignalRequest) : SubjectM Registered := do
  match ← register request with
  | .ok answer => return answer
  | .error _ => return ⟨-1, .notImplemented, none⟩

/-- End the process with a report, whichever name the function has. -/
def abort {α : Type} : SubjectM α := panicWithBacktrace (some "abort")

/-- A failed assertion, with the arguments in the order of the BSD function. -/
def assertBsd {α : Type} (function file : CText) (line : Int32) (expr : CText) : SubjectM α :=
  assertionFailed (read expr) (read function) (read file) line.toUInt32

/-- A failed assertion, with the arguments in the order of the GNU function. -/
def assertGnu {α : Type} (expr file : CText) (line : UInt32) (function : CText) : SubjectM α :=
  assertionFailed (read expr) (read function) (read file) line

def assertErrno {α : Type} (_errno : Int32) (file : CText) (line : UInt32) (function : CText) :
    SubjectM α :=
  panicWithBacktrace (some (Report.errnoAssertionReason (read function) (read file) line))

end Rewind.Exports
