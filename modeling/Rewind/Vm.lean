/-
# Rewind.Vm -- a guest, the host behind it, and what happened between them

The state of a virtual machine: the memory both sides see, the globals that the
target exports, the host, and the history of what happened, oldest first.  What runs
in the guest is an action on that state (`VmM`).

Locking memory leaves its mark in the history too, so that the history shows which
ranges were locked at each hypercall.
-/
import Rewind.Error
import Rewind.Host
import Rewind.Instrumentation
import Rewind.Log
import Rewind.Text.Buffer

namespace Rewind

set_option autoImplicit false

inductive Event
  /-- The guest made a hypercall; with the announced trace buffer as it was then. -/
  | called (call : Call) (trace : Option Buffer)
  /-- The guest logged a record. -/
  | logged (record : LogRecord)
  /-- The guest locked a range of memory. -/
  | locked (addr : UInt64) (len : Nat)
  /-- The guest unlocked a range of memory. -/
  | unlocked (addr : UInt64) (len : Nat)

namespace Event

def call? : Event → Option Call
  | called call _ => some call
  | _ => none

def record? : Event → Option LogRecord
  | logged record => some record
  | _ => none

end Event

/-- A guest and the host behind it. -/
structure Vm where
  memory : Memory
  instrumentation : Instrumentation
  host : Host
  /-- What happened, oldest first. -/
  history : List Event

/-- An action of a guest. -/
abbrev VmM := StateM Vm

namespace Vm

def fresh (kernel : Kernel) (instrumentation : Instrumentation) (host : Host) : Vm where
  memory := Memory.fresh kernel
  instrumentation := instrumentation
  host := host
  history := []

/-- The hypercalls that were made, oldest first. -/
def calls (vm : Vm) : List Call := vm.history.filterMap Event.call?

/-- The records that were logged, oldest first. -/
def records (vm : Vm) : List LogRecord := vm.history.filterMap Event.record?

def append (vm : Vm) (event : Event) : Vm :=
  { vm with history := vm.history ++ [event] }

def note (event : Event) : VmM Unit := modify fun vm => vm.append event

def log (level : Level) (text : String) : VmM Unit := note (.logged ⟨level, text⟩)

/-- The guest makes a hypercall and the host serves it. -/
def serve (vm : Vm) (call : Call) : Vm :=
  let served := vm.host.serve vm.memory call
  { vm with
    host := served.1
    memory := served.2
    history := vm.history ++ [.called call (vm.host.trace? vm.memory)] }

def hypercall (call : Call) : VmM Unit := modify fun vm => vm.serve call

/-- Ask the host what it can do. -/
def fetchConfig : VmM HostConfig := do
  hypercall .getHostConfig
  return (← get).host.config

def read (region : Region) : VmM Buffer := do
  return (← get).memory.read region

def change (region : Region) (f : Buffer → Buffer) : VmM Unit :=
  modify fun vm => { vm with memory := vm.memory.modify region.addr f }

/-- Map a region of `len` bytes, all zero.  There are no empty regions. -/
def map (len : Nat) : VmM (Except AgentError Region) := do
  if len = 0 then return .error .emptyRegion
  let vm ← get
  let (result, memory) := vm.memory.map len
  set { vm with memory := memory }
  return result.mapError (.map len)

def lock (addr : UInt64) (len : Nat) : VmM (Except AgentError Unit) := do
  let vm ← get
  let (refusal, memory) := vm.memory.lock addr len
  set { vm with memory := memory }
  match refusal with
  | some errno => return .error (.pin addr len errno)
  | none =>
      note (.locked addr len)
      return .ok ()

/-- Unlock a range of memory; a failure is only warned about. -/
def unlock (addr : UInt64) (len : Nat) : VmM Unit := do
  match (← get).memory.unlockRefusal addr with
  | some errno =>
      log .warn ("munlock of " ++ Text.hex len ++ " bytes at " ++ Text.hex addr.toNat ++
        " failed: " ++ errno.message)
  | none => note (.unlocked addr len)

/-- Run an action while a range is locked. -/
def whileLocked {m : Type → Type} [Monad m] [MonadLiftT VmM m] {α : Type} (addr : UInt64)
    (len : Nat) (action : m (Except AgentError α)) : m (Except AgentError α) := do
  match ← (lock addr len : VmM _) with
  | .error error => return .error error
  | .ok () =>
      let result ← action
      (unlock addr len : VmM _)
      return result

/-- Print a text on the console of the host, as much of it as a host text holds. -/
def hostPrint (text : String) : VmM Unit :=
  hypercall (.printf (hostText text))

end Vm

end Rewind
