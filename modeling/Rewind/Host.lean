/-
# Rewind.Host -- the host's side of every hypercall

A host keeps a queue of inputs.  At each fast acquire it takes the next one and puts
it into the payload buffer that the guest announced: the byte count, then the bytes,
as many as fit.  It may be told to declare another count than the real one.

Main statements: `serve_config` (no call changes what the host can do), `deliver_of_no_payload`,
`deliver_of_no_room`, `deliver_eq` (what stands in the buffer after a delivery).
-/
import Rewind.Call
import Rewind.Memory

namespace Rewind

set_option autoImplicit false

/-- The host behind a guest. -/
structure Host where
  config : HostConfig
  /-- The inputs to come, next first. -/
  inputs : List Bytes
  /-- The count to declare in place of the real one. -/
  declared : Option Int32
  /-- What the guest declared about itself, last. -/
  agentConfig : Option AgentConfig
  /-- Where the guest wants its inputs. -/
  payload : Option UInt64
  snapshots : Nat
  resumes : Nat
  releases : Nat

namespace HostConfig

/-- Both sides speak the same protocol. -/
def isCompatible (c : HostConfig) : Bool :=
  c.hostMagic == Rewind.hostMagic && c.hostVersion == Rewind.hostVersion

/-- The bytes of the trace buffer: at least one, for the mark of life. -/
def traceSize (c : HostConfig) : Nat :=
  max c.bitmapSize.toNat 1

/-- A host that speaks the protocol, with the given sizes. -/
def compatible (bitmapSize payloadBufferSize : UInt32) : HostConfig where
  hostMagic := Rewind.hostMagic
  hostVersion := Rewind.hostVersion
  bitmapSize := bitmapSize
  ijonBitmapSize := 0x1000
  payloadBufferSize := payloadBufferSize
  workerId := 0

end HostConfig

namespace Host

def fresh (config : HostConfig) : Host where
  config := config
  inputs := []
  declared := none
  agentConfig := none
  payload := none
  snapshots := 0
  resumes := 0
  releases := 0

def push (h : Host) (input : Bytes) : Host :=
  { h with inputs := h.inputs ++ [input] }

/-- Declare this count in place of the real one; `none` declares the real one again. -/
def declare (h : Host) (count : Option Int32) : Host :=
  { h with declared := count }

/-- The bytes of an input that a payload buffer has room for, if it has room for the
count. -/
def delivered? (h : Host) (input : Bytes) : Option Bytes :=
  if payloadHeaderSize ≤ h.config.payloadBufferSize.toNat then
    some (input.take (h.config.payloadBufferSize.toNat - payloadHeaderSize))
  else none

/-- The count in front of the delivered bytes, in the four bytes it takes. -/
def count (h : Host) (bytes : Bytes) : Bytes :=
  Bytes.ofNat payloadHeaderSize (h.declared.getD (Int32.ofNat bytes.length)).toUInt32.toNat

/-- Take the next input, or an empty one, and put it into the announced buffer. -/
def deliver (h : Host) (m : Memory) : Host × Memory :=
  match h.payload with
  | none => (h, m)
  | some addr =>
      let after := { h with inputs := h.inputs.tail }
      match h.delivered? (h.inputs.headD []) with
      | none => (after, m)
      | some bytes => (after, m.modify addr fun buffer => buffer.blit 0 (h.count bytes ++ bytes))

/-- The trace buffer that the guest announced, as it is now. -/
def trace? (h : Host) (m : Memory) : Option Buffer :=
  h.agentConfig.bind fun config => m.region? config.traceBufferVaddr

/-- Write into the announced trace buffer from its start, as far as it goes; nothing
comes of it before there is one. -/
def scribble? (h : Host) (m : Memory) (bytes : Bytes) : Option Memory :=
  h.agentConfig.map fun config =>
    m.modify config.traceBufferVaddr fun trace => trace.blit 0 (bytes.take h.config.traceSize)

def serve (h : Host) (m : Memory) (call : Call) : Host × Memory :=
  match call with
  | .setAgentConfig config => ({ h with agentConfig := some config }, m)
  | .getPayload addr => ({ h with payload := some addr }, m)
  | .userFastAcquire _ =>
      let counted :=
        if h.snapshots = 0 then { h with snapshots := 1 } else { h with resumes := h.resumes + 1 }
      counted.deliver m
  | .release _ => ({ h with releases := h.releases + 1 }, m)
  | _ => (h, m)

/-- Before a buffer is announced the input stays in the queue. -/
theorem deliver_of_no_payload {h : Host} {m : Memory} (none : h.payload = none) :
    h.deliver m = (h, m) := by
  rw [deliver, none]

/-- A buffer with no room for the count loses the input. -/
theorem deliver_of_no_room {h : Host} {m : Memory} {addr : UInt64} (at_addr : h.payload = some addr)
    (small : h.config.payloadBufferSize.toNat < payloadHeaderSize) :
    h.deliver m = ({ h with inputs := h.inputs.tail }, m) := by
  have refused : h.delivered? (h.inputs.headD []) = none := if_neg (by omega)
  rw [deliver, at_addr]
  simp only [refused]

/-- The input is cut to the room behind the count, and the count is that of the bytes that are
left, unless another was declared. -/
theorem deliver_eq {h : Host} {m : Memory} {addr : UInt64} (at_addr : h.payload = some addr)
    (room : payloadHeaderSize ≤ h.config.payloadBufferSize.toNat) :
    h.deliver m =
      let bytes := (h.inputs.headD []).take (h.config.payloadBufferSize.toNat - payloadHeaderSize)
      ({ h with inputs := h.inputs.tail },
        m.modify addr fun buffer => buffer.blit 0 (h.count bytes ++ bytes)) := by
  have accepted : h.delivered? (h.inputs.headD []) = some
      ((h.inputs.headD []).take (h.config.payloadBufferSize.toNat - payloadHeaderSize)) :=
    if_pos room
  rw [deliver, at_addr]
  simp only [accepted]

theorem deliver_config (h : Host) (m : Memory) : (h.deliver m).1.config = h.config := by
  unfold deliver
  split
  · rfl
  · split <;> rfl

theorem serve_config (h : Host) (m : Memory) (call : Call) :
    (h.serve m call).1.config = h.config := by
  cases call with
  | userFastAcquire arg =>
      simp only [serve, deliver_config]
      split <;> rfl
  | _ => rfl

end Host

end Rewind
