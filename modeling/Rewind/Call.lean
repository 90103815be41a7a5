/-
# Rewind.Call -- a hypercall and what its argument leads to

The argument of a hypercall is a number or an address.  Where it is the address of a
text or a structure, the host reads that at once, so a call carries what is read: the
bytes of the C string, the fields of the structure.  Only the payload buffer is kept
by its address, for the host writes there later.
-/
import Rewind.Buffer
import Rewind.Hypercall
import Rewind.Wire

namespace Rewind

set_option autoImplicit false

/-- One hypercall, with what the host reads of its argument. -/
inductive Call
  /-- Ask what the host can do. -/
  | getHostConfig
  /-- Declare what the agent does. -/
  | setAgentConfig (config : AgentConfig)
  /-- Say where inputs are to be written. -/
  | getPayload (addr : UInt64)
  /-- Say how the target runs. -/
  | userSubmitMode (mode : UInt64)
  /-- Take the snapshot, or resume from it, with the next input in place. -/
  | userFastAcquire (arg : UInt64)
  /-- Rewind to the snapshot. -/
  | release (arg : UInt64)
  /-- Print a text on the console of the host. -/
  | printf (text : Bytes)
  /-- Report a crash. -/
  | panicExtended (text : Bytes)
  /-- Report that the agent cannot go on. -/
  | userAbort (text : Bytes)
  /-- Store a named file: its name, the bytes and where they lie, and whether they go
  behind what the file holds. -/
  | dumpFile (name : Bytes) (data : UInt64) (content : Buffer) (append : UInt8)

namespace Call

def op : Call → Hypercall
  | getHostConfig => .getHostConfig
  | setAgentConfig _ => .setAgentConfig
  | getPayload _ => .getPayload
  | userSubmitMode _ => .userSubmitMode
  | userFastAcquire _ => .userFastAcquire
  | release _ => .release
  | printf _ => .printf
  | panicExtended _ => .panicExtended
  | userAbort _ => .userAbort
  | dumpFile .. => .dumpFile

def text? : Call → Option Bytes
  | printf text | panicExtended text | userAbort text => some text
  | _ => none

/-- The call reports the end of the process. -/
def isTerminal : Call → Bool
  | panicExtended _ | userAbort _ => true
  | _ => false

/-- A call of an opcode that takes a number. -/
def ofNumber? (op : Hypercall) (n : UInt64) : Option Call :=
  match op with
  | .getPayload => some (getPayload n)
  | .userSubmitMode => some (userSubmitMode n)
  | .userFastAcquire => some (userFastAcquire n)
  | .release => some (release n)
  | _ => none

/-- A call whose argument is the address of a text.  An opcode that takes a number takes the
address, and one that takes a structure finds the bytes of the text in its place; a request
to store a file would name places that do not exist. -/
def ofText? (op : Hypercall) (addr : UInt64) (text : Bytes) : Option Call :=
  match op with
  | .printf => some (printf text)
  | .panicExtended => some (panicExtended text)
  | .userAbort => some (userAbort text)
  | .getHostConfig => some getHostConfig
  | .setAgentConfig =>
      let size := (Packed.layout AgentConfig).size
      (Packed.decode? ((text ++ List.replicate size 0).take size)).map setAgentConfig
  | .dumpFile => none
  | .getPayload | .userSubmitMode | .userFastAcquire | .release => ofNumber? op addr

theorem op_of_ofNumber? {op : Hypercall} {n : UInt64} {call : Call}
    (h : ofNumber? op n = some call) : call.op = op := by
  cases op <;> simp_all [ofNumber?] <;> subst h <;> rfl

/-- Whatever is made of the text, the call is one of the opcode. -/
theorem op_of_ofText? {op : Hypercall} {addr : UInt64} {text : Bytes} {call : Call}
    (h : ofText? op addr text = some call) : call.op = op := by
  cases op with
  | printf | panicExtended | userAbort | getHostConfig => exact Option.some.inj h ▸ rfl
  | setAgentConfig =>
      obtain ⟨config, _, rfl⟩ := Option.map_eq_some_iff.1 h
      rfl
  | dumpFile => exact nomatch h
  | getPayload | userSubmitMode | userFastAcquire | release => exact op_of_ofNumber? h

end Call

end Rewind
