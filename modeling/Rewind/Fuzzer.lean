/-
# Rewind.Fuzzer -- running a target on one input after another

A fuzzer holds an agent and a buffer for its inputs.  Each run acquires an input, calls
the target on it once and releases.  A target that returns is released, however early
it returned; one that unwinds takes the release with it.

Outside a snapshot the same harness runs on the bytes it was given, once.
-/
import Rewind.Agent

namespace Rewind

set_option autoImplicit false

inductive Outcome
  | returned
  | unwound
  deriving DecidableEq, Repr

/-- An agent and the buffer its inputs are copied to. -/
structure Fuzzer where
  agent : Agent
  input : Buffer

abbrev FuzzerT (m : Type → Type) := StateT Fuzzer m

namespace Fuzzer

/-- Drive an agent, with room for every input its host may deliver. -/
def ofAgent (agent : Agent) : Fuzzer := ⟨agent, Buffer.zeros agent.maxInputSize⟩

/-- Shake hands with the host and drive the agent. -/
def connect (options : Options) : VmM (Except AgentError Fuzzer) := do
  return (← Agent.negotiate options).map ofAgent

def maxInputSize (fuzzer : Fuzzer) : Nat := fuzzer.input.size

section

variable {m : Type → Type} [Monad m]

/-- Do something with the agent.  `guest` runs actions of the guest. -/
def onAgent {α : Type} (guest : ∀ β : Type, VmM β → m β) (action : AgentM α) : FuzzerT m α := do
  let fuzzer ← get
  let (result, agent) ← guest _ (action.run fuzzer.agent)
  set { fuzzer with agent := agent }
  return result

def nextInput (guest : ∀ β : Type, VmM β → m β) : FuzzerT m (Except AgentError Bytes) := do
  match ← onAgent guest (Agent.acquire (← get).input) with
  | .error error => return .error error
  | .ok (len, input) =>
      modify fun fuzzer => { fuzzer with input := input }
      return .ok (input.take len)

/-- Run a target on the next input. -/
def tryRun (guest : ∀ β : Type, VmM β → m β) (target : Bytes → m Outcome) :
    FuzzerT m (Except AgentError Outcome) := do
  match ← nextInput guest with
  | .error error => return .error error
  | .ok input =>
      match ← target input with
      | .unwound => return .ok .unwound
      | .returned =>
          onAgent guest Agent.release
          return .ok .returned

end

/-! ## Without a snapshot -/

section

variable {m : Type → Type} [Monad m]

def runOn (bytes : Bytes) (target : Bytes → m Outcome) : m Outcome := target bytes

/-- The entry point of a harness: what it runs, it runs on the given bytes. -/
def entryPoint {α : Type} (harness : ((Bytes → m Outcome) → m Outcome) → m α) (bytes : Bytes) :
    m α :=
  harness (runOn bytes)

end

end Fuzzer

end Rewind
