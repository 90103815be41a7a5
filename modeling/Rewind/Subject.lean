/-
# Rewind.Subject -- the process that is being fuzzed

Everything of a process that a report, a session or a signal depends on, and the
actions that run in it.  A process may end in the middle of an action: it exits, a
signal kills it, or it spins until the host tears it down.  What it did before stays
on its trail, oldest first.

The process may talk to several hosts.  A channel says how the host at its other end
treats the process.
-/
import Rewind.Filter
import Rewind.Fuzzer
import Rewind.Logger
import Rewind.Report
import Rewind.Slot

namespace Rewind

set_option autoImplicit false

/-- A host as a process reaches it. -/
structure Channel where
  id : Nat
  /-- A user abort ends the process. -/
  stopsOnAbort : Bool
  /-- A crash report does not end the process, which then spins. -/
  lingers : Bool
  /-- Only calls that carry a text are seen. -/
  textOnly : Bool
  deriving DecidableEq, Repr

namespace Channel

/-- A host that ends the process at each terminal report. -/
def standard (id : Nat) : Channel := ⟨id, true, false, false⟩

/-- The call is seen at the other end. -/
def sees (channel : Channel) (call : Call) : Bool :=
  !channel.textOnly || call.text?.isSome

end Channel

inductive Ending
  | exited (code : Nat)
  | killed (signal : Int)
  /-- It spins: it has reported a crash and must not run on. -/
  | spinning
  deriving DecidableEq, Repr

inductive Occurrence
  /-- It made a hypercall; with the announced trace buffer as it was then. -/
  | called (channel : Channel) (call : Call) (trace : Option Buffer)
  /-- The target's own handler ran. -/
  | handled (signal : Int)

/-- The state of a process. -/
structure Subject where
  /-- Its memory, and the host behind the hypercall instruction. -/
  vm : Vm
  /-- The way to that host. -/
  channel : Channel
  /-- There is a hypervisor, as the processor tells. -/
  present : Bool
  /-- Something else serves the hypercall instruction, as a test does that stands in for the
  hypervisor. -/
  emulated : Bool
  environment : Options.Lookup
  /-- The signal actions that were registered. -/
  actions : List (Int × SignalAction)
  /-- The signals for which the kernel refuses to register, and why. -/
  refusals : List (Int × Errno)
  /-- The C library's own registration is found behind the filter. -/
  sigactionFound : Bool
  /-- Whether the filter blocks overrides, once the filter was used. -/
  blocks : Option Bool
  /-- Where crash reports go, once that is set. -/
  crashChannel : Option Channel
  /-- A panic is reported. -/
  hooked : Bool
  /-- The hypervisor was handed out. -/
  claimed : Bool
  /-- Where log records go and which of them, once that is set. -/
  logger : Option (Channel × Threshold)
  /-- The records that reach the logger at all. -/
  maxLevel : Threshold
  session : Slot
  /-- The agent's library stands in front of the C library's `abort`. -/
  overridesAbort : Bool
  /-- The return addresses on the stack, innermost first. -/
  stack : List UInt64
  /-- Where an address lies. -/
  places : UInt64 → Option Report.Place
  stderr : Bytes
  /-- What happened, oldest first. -/
  trail : List Occurrence

/-- An action of a process, which may end it. -/
abbrev SubjectM := ExceptT Ending (StateM Subject)

namespace Subject

/-- The signal that a broken pipe raises. -/
def brokenPipe : Int := 13

def fresh (vm : Vm) (channel : Channel) (present : Bool) (environment : Options.Lookup) :
    Subject where
  vm := vm
  channel := channel
  present := present
  emulated := false
  environment := environment
  actions := [(brokenPipe, .ignore)]
  refusals := []
  sigactionFound := true
  blocks := none
  crashChannel := none
  hooked := false
  claimed := false
  logger := none
  maxLevel := .off
  session := .empty
  overridesAbort := false
  stack := []
  places := fun _ => none
  stderr := []
  trail := []

/-- The hypercall instruction is served.  Where it is not the processor does not know it. -/
def served (p : Subject) : Bool := p.present || p.emulated

/-- The hypercalls that were made to a host, oldest first. -/
def callsTo (p : Subject) (channel : Channel) : List Call :=
  p.trail.filterMap fun
    | .called other call _ => if other = channel then some call else none
    | .handled _ => none

def finish {α : Type} (ending : Ending) : SubjectM α := throw ending

def note (occurrence : Occurrence) : SubjectM Unit :=
  modify fun p => { p with trail := p.trail ++ [occurrence] }

def writeError (bytes : Bytes) : SubjectM Unit :=
  modify fun p => { p with stderr := p.stderr ++ bytes }

/-- Make a hypercall, after which the host may end the process. -/
def call (channel : Channel) (call : Call) (trace : Option Buffer) : SubjectM Unit := do
  if channel.sees call then note (.called channel call trace)
  match call with
  | .panicExtended _ => if !channel.lingers then finish (.exited 0)
  | .userAbort _ => if channel.stopsOnAbort then finish (.exited 0)
  | _ => return ()

/-- Log a record: the logger prints it, if there is one and both thresholds let the
record through. -/
def log (record : LogRecord) : SubjectM Unit := do
  let p ← get
  if !p.maxLevel.admits record.level then return ()
  match p.logger with
  | none => return ()
  | some (channel, threshold) =>
      if let some print := Logger.call? threshold record then call channel print none

def limitLocking (limit : Nat) : SubjectM Unit :=
  modify fun p =>
    { p with vm := { p.vm with memory :=
      { p.vm.memory with kernel := p.vm.memory.kernel.lockingAtMost limit } } }

end Subject

end Rewind
