/-
# Rewind.Agent.Operation -- everything that can be asked of an agent

The operations of an agent as values, so that a whole run is a list of them, and what
can come from outside between two of them: the host gets an input or another count to
declare, writes into the trace buffer, or the coverage runtime moves its globals.
-/
import Rewind.Agent

namespace Rewind

set_option autoImplicit false

namespace Agent

inductive Operation
  | acquire (dest : Buffer)
  | release
  | print (text : String)
  | setCoverage (map : CoverageMap)
  | uploadFile (name : Bytes) (data : Slice) (append : Bool)
  | uploadDictionary (data : Slice)

inductive Answer
  | done
  /-- An input of that length is at the start of the destination. -/
  | delivered (len : Nat) (dest : Buffer)
  | failed (error : AgentError)

namespace Answer

/-- The answer of an operation that gives nothing but may fail. -/
def ofResult : Except AgentError Unit → Answer
  | .ok () => done
  | .error error => failed error

end Answer

def perform : Operation → AgentM Answer
  | .acquire dest => do
      match ← acquire dest with
      | .ok (len, dest) => return .delivered len dest
      | .error error => return .failed error
  | .release => do
      release
      return .done
  | .print text => do
      print text
      return .done
  | .setCoverage map => do
      setCoverage map
      return .done
  | .uploadFile name data append => do
      return .ofResult (← (uploadFile name data append : VmM _))
  | .uploadDictionary data => do
      return .ofResult (← (uploadDictionary data : VmM _))

end Agent

namespace Vm

/-- Something that comes from outside. -/
inductive Stimulus
  | push (input : Bytes)
  | declare (count : Option Int32)
  | scribble (bytes : Bytes)
  | globals (values : Instrumentation)

/-- Let it come.  Only a trace buffer that was announced can be written into. -/
def stimulate (vm : Vm) : Stimulus → Option Vm
  | .push input => some { vm with host := vm.host.push input }
  | .declare count => some { vm with host := vm.host.declare count }
  | .scribble bytes =>
      (vm.host.scribble? vm.memory bytes).map fun memory => { vm with memory := memory }
  | .globals values => some { vm with instrumentation := vm.instrumentation.update values }

end Vm

end Rewind
