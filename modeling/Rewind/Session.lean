/-
# Rewind.Session -- taking turns at one agent

A session is the slot of the agent together with whoever drives it now.  Taking a turn
locks the slot; the turn ends when its holder gives the agent back, in peace or while
unwinding.
-/
import Rewind.Fuzzer
import Rewind.Slot

namespace Rewind

set_option autoImplicit false

/-- The slot, the turn that is being taken, and how often the host was asked for a
handshake. -/
structure Session where
  slot : Slot
  turn : Option Fuzzer
  handshakes : Nat

abbrev SessionT (m : Type → Type) := StateT Session m

namespace Session

/-- Nobody asked for the agent yet. -/
def empty : Session := ⟨.empty, none, 0⟩

def connect (options : Options) : ExceptT AgentError (StateT Nat VmM) Agent := do
  modify (· + 1)
  ExceptT.mk (Agent.negotiate options : VmM _)

section

variable {m : Type → Type} [Monad m]

/-- Take a turn: the agent as it was left, unless someone has it, or the one that a
handshake with these options makes.  `guest` runs actions of the guest. -/
def lockWith (options : Options) (guest : ∀ β : Type, VmM β → m β) :
    SessionT m (Except AgentError Agent) := do
  let s ← get
  match ← guest _ ((s.slot.lock (connect options)).run.run s.handshakes) with
  | (.error error, handshakes) =>
      set { s with handshakes := handshakes }
      return .error error
  | (.ok (.error error, slot), handshakes) =>
      set { s with slot := slot, handshakes := handshakes }
      return .error error
  | (.ok (.ok agent, slot), handshakes) =>
      set (⟨slot, some (Fuzzer.ofAgent agent), handshakes⟩ : Session)
      return .ok agent

/-- Take a turn with the options that everyone starts from. -/
def lock (guest : ∀ β : Type, VmM β → m β) : SessionT m (Except AgentError Agent) :=
  lockWith Options.standard guest

/-- End the turn, if one is being taken. -/
def leave (unwinding : Bool) : SessionT m Bool := do
  let s ← get
  match s.turn with
  | none => return false
  | some fuzzer =>
      set { s with slot := s.slot.unlock fuzzer.agent unwinding, turn := none }
      return true

/-- Run a target on the next input, if a turn is being taken. -/
def tryRun (guest : ∀ β : Type, VmM β → m β) (target : Bytes → m Outcome) :
    SessionT m (Option (Except AgentError Outcome)) := do
  let s ← get
  match s.turn with
  | none => return none
  | some fuzzer =>
      let (result, fuzzer) ← (Fuzzer.tryRun guest target).run fuzzer
      set { s with turn := some fuzzer }
      return some result

end

end Session

end Rewind
