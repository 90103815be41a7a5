/-
# Rewind.Subject.Crash -- signals, panics and assertions become reports

Each way a target can fail ends in `panicWithBacktrace`: the host is handed a report
and the process spins, or, where there is no host to report to, the report goes to
standard error.  None of them comes back.

Main statement: `panicWithBacktrace_ends`.
-/
import Rewind.Subject

namespace Rewind.Subject

set_option autoImplicit false

/-! ## Reports -/

/-- Report the stack and a reason, and never come back. -/
def panicWithBacktrace {α : Type} (reason : Option String) : SubjectM α := do
  let p ← get
  let report := Report.hostReport p.places reason p.stack
  match p.crashChannel with
  | some channel =>
      call channel (.panicExtended report.cString) none
      finish .spinning
  | none =>
      writeError report.bytes
      finish (.exited 1)

def handleFault {α : Type} (number : Int) : SubjectM α :=
  panicWithBacktrace (some (Report.signalReason number))

def assertionFailed {α : Type} (expr function file : String) (line : UInt32) : SubjectM α :=
  panicWithBacktrace (some (Report.assertionReason expr function file line))

/-- What a panic carries: a text, or something else. -/
inductive Payload
  | text (message : String)
  | other
  deriving DecidableEq, Repr

def Payload.message : Payload → String
  | text message => message
  | other => "Box<dyn Any>"

/-- Unwind out of the process. -/
def panic {α : Type} (location : Option Report.Location) (payload : Payload) : SubjectM α := do
  if (← get).hooked then
    panicWithBacktrace (some (Report.panicReason location payload.message))
  else finish (.exited 101)

/-! ## Signals -/

/-- The signals that do nothing by themselves. -/
def harmless : List Int := [17, 18, 23, 28]

def action (p : Subject) (number : Int) : SignalAction :=
  (p.actions.lookup number).getD .standard

def setAction (p : Subject) (number : Int) (new : SignalAction) : Subject :=
  { p with actions := (number, new) :: p.actions.filter fun entry => entry.1 != number }

def lastSignal : Int := 64

/-- The kernel knows no such signal, or keeps it to the C library. -/
def isForeign (number : Int) : Bool :=
  number < 1 || lastSignal < number || number = 32 || number = 33

/-- Why the kernel refuses a request, if it does. -/
def refusal? (p : Subject) (request : SignalRequest) : Option Errno :=
  if isForeign request.number then some .invalidArgument
  else
    match p.refusals.lookup request.number with
    | some errno => some errno
    | none =>
        if request.action.isSome &&
            (request.number = Signal.kill.number || request.number = Signal.stop.number) then
          some .invalidArgument
        else none

/-- The kernel's own registration of signal actions.  A refusal that gives no reason
looks like success, though nothing changes. -/
def sigaction (request : SignalRequest) : SubjectM Registered := do
  let p ← get
  match p.refusal? request with
  | some ⟨0⟩ => return ⟨0, ⟨0⟩, none⟩
  | some errno => return ⟨-1, errno, none⟩
  | none =>
      if let some new := request.action then
        set (p.setAction request.number new)
      return ⟨0, ⟨0⟩, if request.wantsOld then some (p.action request.number) else none⟩

/-- Whether the filter blocks overrides.  The filter is made when it is first asked for, and
blocks them from then on, until told otherwise.  It cannot be made where the registration behind
it is not found. -/
def filter : SubjectM (Except AgentError Bool) := do
  let p ← get
  match p.blocks with
  | some blocks => return .ok blocks
  | none =>
      if !p.sigactionFound then return .error .missingSigaction
      set { p with blocks := some true }
      return .ok true

def setBlocking (blocks : Bool) : SubjectM (Except AgentError Unit) := do
  match ← filter with
  | .error error => return .error error
  | .ok _ =>
      modify fun p => { p with blocks := some blocks }
      return .ok ()

/-- Register a signal action for the target, through the filter. -/
def register (request : SignalRequest) : SubjectM (Except AgentError Registered) := do
  match ← filter with
  | .error error => return .error error
  | .ok blocks => return .ok (← Filter.register sigaction log blocks request)

/-- The greatest number that can say why the kernel refused. -/
def lastErrno : Int := 4095

/-- Let the kernel refuse to register for a signal from now on.  It keeps the low 16 bits
of the reason, or the greatest reason if they are more than that. -/
def refuse (number : Int) (errno : Errno) : SubjectM Unit :=
  let reason : Errno := ⟨min (errno.number % 0x10000) lastErrno⟩
  modify fun p => { p with refusals := (number, reason) :: p.refusals }

def act (number : Int) : SubjectM Unit := do
  if number = Signal.kill.number then finish (.killed number)
  match ((← get).action number).handler with
  | .crashReport => handleFault number
  | .own =>
      note (.handled number)
      finish (.exited 0)
  | .ignore => return ()
  | .standard => if !harmless.contains number then finish (.killed number)

/-- Send a signal to the process itself: 0 if the target can send it, or -1.  The number 0
only asks. -/
def raise (number : Int) : SubjectM Int := do
  if number = 0 then return 0
  if isForeign number then return -1
  act number
  return 0

/-- Have a handler of the target's own run when the process aborts, if the kernel
registers it. -/
def catchAbort : SubjectM Unit := do
  discard (sigaction ⟨Signal.abrt.number, some .own, false⟩)

/-- The processor raises a signal, which cannot be ignored. -/
def trap {α : Type} (number : Int) : SubjectM α := do
  if ((← get).action number).handler ≠ .ignore then act number
  finish (.killed number)

/-- Abort the process.  Where the signal is ignored its action is reset and it is raised
again; where the kernel refuses that, an instruction that is not allowed ends the
process. -/
def abort {α : Type} : SubjectM α := do
  if (← get).overridesAbort then panicWithBacktrace (some "abort")
  act Signal.abrt.number
  if (← sigaction ⟨Signal.abrt.number, some .standard, false⟩).ret ≠ 0 then
    trap Signal.segv.number
  act Signal.abrt.number
  trap Signal.segv.number

/-! ## Installation -/

def hookPanics : SubjectM Unit :=
  modify fun p => { p with hooked := true }

/-- Report crashes to a host.  The first host stays; later calls set the filter and put
the handlers in place again. -/
def install (channel : Channel) (options : Options) : SubjectM (Except AgentError Unit) := do
  modify fun p => { p with crashChannel := p.crashChannel.or (some channel) }
  match ← setBlocking options.blockTargetOverrides with
  | .error error => return .error error
  | .ok () =>
      match ← Filter.installHandlers sigaction with
      | .error error => return .error error
      | .ok () =>
          hookPanics
          log ⟨.debug, "crash handlers installed for " ++ Text.decimal Signal.fatal.length ++
            " signals"⟩
          return .ok ()

/-! ## The end -/

/-- Whether or not there is a host to report to, a report is the end of the process. -/
theorem panicWithBacktrace_ends {α : Type} (reason : Option String) (p : Subject) :
    ∃ ending, ((panicWithBacktrace reason : SubjectM α).run.run p).1 = .error ending := by
  suffices ends : ∀ crashChannel, ∃ ending, ((panicWithBacktrace reason : SubjectM α).run.run
      { p with crashChannel := crashChannel }).1 = .error ending from ends p.crashChannel
  intro crashChannel
  cases crashChannel with
  | none => exact ⟨_, rfl⟩
  | some channel =>
      obtain ⟨id, stopsOnAbort, lingers, textOnly⟩ := channel
      cases lingers <;> cases textOnly <;> exact ⟨_, rfl⟩

end Rewind.Subject
