/-
# Rewind.Filter -- who may handle a fatal signal

The crash handlers must stay in place, so requests of the target to handle a signal
pass a filter.  A request to replace the action of a fatal signal is dropped while
overrides are blocked; the target is told that it went through, and it still gets the
action that is in place, so that programs that save and restore actions keep working.
Every other request is passed on as it is.

The primitive behind the filter is any action of any monad, so what is said of the
filter holds of every such primitive.

Main statements: `register_of_passes` and `register_of_blocked`.
-/
import Rewind.Error
import Rewind.Log

namespace Rewind

set_option autoImplicit false

inductive Handler
  /-- What the kernel does by itself. -/
  | standard
  /-- Nothing. -/
  | ignore
  /-- A crash report. -/
  | crashReport
  /-- A function of the target's own. -/
  | own
  deriving DecidableEq, Repr

structure SignalAction where
  handler : Handler
  flags : UInt32
  /-- The signals held back while the handler runs, as a set of bits. -/
  mask : UInt64
  deriving DecidableEq, Repr

namespace SignalAction

/-- The handler is given the details of the signal. -/
def withDetails : UInt32 := 4

/-- The action that reports a crash. -/
def crashReport : SignalAction := ⟨.crashReport, withDetails, 0⟩

/-- The action of a fresh process. -/
def standard : SignalAction := ⟨.standard, 0, 0⟩

def ignore : SignalAction := ⟨.ignore, 0, 0⟩

/-- The action runs a function of the target's own. -/
def own : SignalAction := ⟨.own, 0, 0⟩

end SignalAction

/-- The answer to a request to register a signal action. -/
structure Registered where
  /-- 0, or -1 where the request was refused. -/
  ret : Int
  /-- Why it was refused. -/
  errno : Errno
  /-- The action that was in place, where it was asked for. -/
  old : Option SignalAction
  deriving DecidableEq, Repr

/-- A request to register a signal action: the number of the signal, the action, if one
is to be put in place, and whether the action in place is asked for. -/
structure SignalRequest where
  number : Int
  action : Option SignalAction
  wantsOld : Bool
  deriving DecidableEq, Repr

namespace Filter

section

variable {m : Type → Type} [Monad m]

def warning (number : Int) : LogRecord where
  level := .warn
  text := "target attempts to install own " ++
    ((Signal.ofNumber? number).map Signal.name).getD "?" ++ " handler (ignoring)"

/-- The request would take a fatal signal over. -/
def takesOver (request : SignalRequest) : Bool :=
  request.action.isSome && Signal.isFatal request.number

/-- Serve a request of the target, with the primitive behind the filter. -/
def register (primitive : SignalRequest → m Registered) (log : LogRecord → m Unit)
    (blocks : Bool) (request : SignalRequest) : m Registered := do
  if takesOver request && blocks then
    log (warning request.number)
    if request.wantsOld then
      return ⟨0, ⟨0⟩, (← primitive { request with action := none }).old⟩
    else return ⟨0, ⟨0⟩, none⟩
  else primitive request

/-- Put the crash report in place for each of the signals, up to the first refusal. -/
def install (primitive : SignalRequest → m Registered) :
    List Signal → m (Except AgentError Unit)
  | [] => return .ok ()
  | signal :: rest => do
      let answer ← primitive ⟨signal.number, some .crashReport, false⟩
      if answer.ret = -1 then return .error (.signalInstall signal answer.errno)
      install primitive rest

/-- Put the crash report in place for every fatal signal, past the filter. -/
def installHandlers (primitive : SignalRequest → m Registered) : m (Except AgentError Unit) :=
  install primitive Signal.fatal

/-- A request that takes no fatal signal over reaches the primitive as it is, and so do all where
the filter does not block. -/
theorem register_of_passes (primitive : SignalRequest → m Registered) (log : LogRecord → m Unit)
    {blocks : Bool} {request : SignalRequest} (passes : (takesOver request && blocks) = false) :
    register primitive log blocks request = primitive request := by
  simp [register, passes]

/-- A request for a fatal signal is dropped with a warning.  The primitive is asked at most which
action is in place, and the target is told that it succeeded. -/
theorem register_of_blocked (primitive : SignalRequest → m Registered)
    (log : LogRecord → m Unit) {request : SignalRequest} (taking : takesOver request = true) :
    register primitive log true request = do
      log (warning request.number)
      if request.wantsOld then
        return ⟨0, ⟨0⟩, (← primitive { request with action := none }).old⟩
      else return ⟨0, ⟨0⟩, none⟩ := by
  simp [register, taking]

end

end Filter

end Rewind
