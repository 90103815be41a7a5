/-
# Rewind.Subject.Session -- attaching a process to the hypervisor

Attaching claims the hypervisor, sends the log and the crash reports there and shakes
hands.  It happens once in a process, when the session is first asked for; every
failure on the way ends the process.

The abort channel carries an error to the host.  A host that does not end the process
then makes it abort, so that nothing runs on.
-/
import Rewind.Subject.Guest

namespace Rewind.Subject

set_option autoImplicit false

/-- Report an error to a host and stop. -/
def hostAbort {α : Type} (channel : Channel) (reason : String) : SubjectM α := do
  call channel (.userAbort (hostText reason)) none
  abort

/-- Report an error of the agent to the host behind the hypercall instruction. -/
def abortWith {α : Type} (error : AgentError) : SubjectM α := do
  hostAbort (← get).channel error.message

/-- Take the hypervisor.  Only one agent of a process can have it. -/
def claim : SubjectM (Except AgentError Unit) := do
  let p ← get
  if !p.present then return .error .hostUnavailable
  if p.claimed then return .error .hostClaimed
  set { p with claimed := true }
  return .ok ()

/-- Send log records to a host, unless they go somewhere already. -/
def initLogger (channel : Channel) (threshold : Threshold) : SubjectM Bool := do
  let p ← get
  if p.logger.isSome then return false
  set { p with logger := some (channel, threshold), maxLevel := threshold }
  return true

def attach (options : Options) : SubjectM Agent := do
  match ← claim with
  | .error error =>
      writeError (Utf8.ofString ("snapagent: " ++ error.message ++ "\n"))
      abort
  | .ok () =>
      let channel := (← get).channel
      if !(← initLogger channel options.logLevel) then
        log ⟨.debug, "a logger is already installed, keeping it"⟩
      match ← install channel options with
      | .error error => abortWith error
      | .ok () =>
          match ← guest _ (Agent.negotiate options) with
          | .error error => abortWith error
          | .ok agent => return agent

def readOptions : SubjectM Options := do
  let (options, warnings) := Options.fromLookup (← get).environment
  warnings.forM log
  return options

/-- The session of the process, for which it attaches when it is first asked for. -/
def hostSession : SubjectM Agent := do
  let (result, slot) ← (← get).session.lock do attach (← readOptions)
  modify fun p => { p with session := slot }
  match result with
  | .ok agent => return agent
  | .error error => abortWith error

def leaveSession (agent : Agent) (unwinding : Bool) : SubjectM Unit :=
  modify fun p => { p with session := p.session.unlock agent unwinding }

def openFuzzer : SubjectM Fuzzer := do
  return Fuzzer.ofAgent (← hostSession)

def closeFuzzer (fuzzer : Fuzzer) : SubjectM Unit := leaveSession fuzzer.agent false

section

variable {m : Type → Type} [Monad m] [MonadLiftT SubjectM m]

/-- Run a target on the next input.  An error goes to the host and ends the process. -/
def runFuzzer (fuzzer : Fuzzer) (target : Bytes → m Outcome) : m (Outcome × Fuzzer) := do
  match ← (Fuzzer.tryRun (fun α action => (liftM (guest α action) : m α)) target).run fuzzer with
  | (.ok outcome, fuzzer) => return (outcome, fuzzer)
  | (.error error, _) => (abortWith error : SubjectM _)

/-- Shake hands with the host behind the hypercall instruction and run a target once,
outside the session. -/
def runOnce (options : Options) (target : Bytes → m Outcome) : m Outcome := do
  match ← (guest _ (Fuzzer.connect options) : SubjectM _) with
  | .error error => (abortWith error : SubjectM _)
  | .ok fuzzer => return (← runFuzzer fuzzer target).1

end

end Rewind.Subject
