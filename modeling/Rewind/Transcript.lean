/-
# Rewind.Transcript -- what a host saw of a guest

The calls of a guest, read back as a host would keep them: what was printed and
reported, the files that were stored, what the guest said about itself last, and the
first bytes of the trace buffer at each release.
-/
import Rewind.Vm

namespace Rewind

set_option autoImplicit false

structure StoredFile where
  name : Bytes
  content : Buffer
  append : Bool

structure Transcript where
  ops : List Hypercall
  agentConfig : Option AgentConfig
  payload : Option UInt64
  mode : Option UInt64
  traceHeads : List Bytes
  printed : List Bytes
  panics : List Bytes
  aborts : List Bytes
  files : List StoredFile

namespace Transcript

/-- The most bytes of a trace buffer that are kept. -/
def headSize : Nat := 16

def empty : Transcript := ⟨[], none, none, none, [], [], [], [], []⟩

/-- The first bytes of the trace buffer, as many as the coverage bitmap has.  Of a bitmap
without bytes there are none, wherever the buffer is said to be. -/
def traceHead (config : HostConfig) (trace : Option Buffer) : Bytes :=
  (trace.getD (Buffer.zeros 0)).take (min config.bitmapSize.toNat headSize)

def see (config : HostConfig) (t : Transcript) (call : Call) (trace : Option Buffer) :
    Transcript :=
  let t := { t with ops := t.ops ++ [call.op] }
  match call with
  | .setAgentConfig declared => { t with agentConfig := some declared }
  | .getPayload addr => { t with payload := some addr }
  | .userSubmitMode mode => { t with mode := some mode }
  | .release _ =>
      { t with traceHeads := t.traceHeads ++
        (t.agentConfig.map fun _ => traceHead config trace).toList }
  | .printf text => { t with printed := t.printed ++ [text] }
  | .panicExtended text => { t with panics := t.panics ++ [text] }
  | .userAbort text => { t with aborts := t.aborts ++ [text] }
  | .dumpFile name _ content append =>
      { t with files := t.files ++ [⟨name, content, append != 0⟩] }
  | .getHostConfig | .userFastAcquire _ => t

/-- See what happened in a guest. -/
def ofHistory (config : HostConfig) (history : List Event) : Transcript :=
  history.foldl (fun t event =>
    match event with
    | .called call trace => t.see config call trace
    | _ => t) empty

/-- How many calls of an opcode were seen. -/
def count (t : Transcript) (op : Hypercall) : Nat := t.ops.count op

end Transcript

end Rewind
