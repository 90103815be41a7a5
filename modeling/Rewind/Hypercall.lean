/-
# Rewind.Hypercall -- what a guest can ask of the snapshot hypervisor

A hypercall is a trap with an opcode and one argument.  This module numbers the
opcodes and names the constants both sides agree on.

Main statements: `ofCode?_code` and `code_of_ofCode?` (the numbers and the opcodes
belong to each other one to one).
-/

namespace Rewind

set_option autoImplicit false

/-- What a guest can ask of its host. -/
inductive Hypercall
  | getPayload
  | release
  | printf
  | userSubmitMode
  | userFastAcquire
  | userAbort
  | panicExtended
  | getHostConfig
  | setAgentConfig
  | dumpFile
  deriving DecidableEq, Repr

namespace Hypercall

/-- Every opcode an agent issues, by increasing number. -/
def all : List Hypercall :=
  [getPayload, release, printf, userSubmitMode, userFastAcquire, userAbort, panicExtended,
   getHostConfig, setAgentConfig, dumpFile]

def code : Hypercall → UInt64
  | getPayload => 1
  | release => 4
  | printf => 13
  | userSubmitMode => 17
  | userFastAcquire => 18
  | userAbort => 20
  | panicExtended => 32
  | getHostConfig => 35
  | setAgentConfig => 36
  | dumpFile => 37

def ofCode? (raw : UInt64) : Option Hypercall :=
  all.find? fun op => op.code == raw

def name : Hypercall → String
  | getPayload => "GetPayload"
  | release => "Release"
  | printf => "Printf"
  | userSubmitMode => "UserSubmitMode"
  | userFastAcquire => "UserFastAcquire"
  | userAbort => "UserAbort"
  | panicExtended => "PanicExtended"
  | getHostConfig => "GetHostConfig"
  | setAgentConfig => "SetAgentConfig"
  | dumpFile => "DumpFile"

def ofName? (text : String) : Option Hypercall :=
  all.find? fun op => op.name == text

theorem ofCode?_code (op : Hypercall) : ofCode? op.code = some op := by
  cases op <;> rfl

/-- No two numbers stand for the same opcode. -/
theorem code_of_ofCode? {raw : UInt64} {op : Hypercall} (h : ofCode? raw = some op) :
    op.code = raw := by
  simpa using List.find?_some h

end Hypercall

/-- The value that marks a trap as one for the snapshot hypervisor. -/
def hypercallMark : UInt64 := 0x1f

/-- The magic a host answers with: `NyxH`. -/
def hostMagic : UInt32 := 0x4878794e

/-- The protocol revision of the host that this agent speaks. -/
def hostVersion : UInt32 := 2

/-- The magic an agent declares itself with: `NyxA`. -/
def agentMagic : UInt32 := 0x4178794e

/-- The protocol revision of the agent. -/
def agentVersion : UInt32 := 1

/-- The execution mode submitted before the snapshot. -/
def mode64 : UInt64 := 0

/-- The bytes of the count that the host writes in front of an input. -/
def payloadHeaderSize : Nat := 4

end Rewind
