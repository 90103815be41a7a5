/-
# Rewind.Agent -- the guest's side: handshake and snapshot cycle

An agent exists once the handshake went through, so a host that speaks another
protocol is asked for its configuration and for nothing else.  From then on:

    negotiated --> bufferRegistered --> snapshotPending --> running
                                              ^                |
                                              +--- released <--+

The first fast acquire makes the host take the snapshot.  Each release makes it
rewind the guest to the point behind that call, with the next input in the payload
buffer.

Main statements: `payload_cases` with `decodePayload_of_short`, `decodePayload_of_fits` and
`decodePayload_of_misfit` (an input is handed out whole or not at all).
-/
import Rewind.Options
import Rewind.Vm

namespace Rewind

set_option autoImplicit false

/-- Where an agent is in the snapshot cycle. -/
inductive Lifecycle
  /-- The handshake went through. -/
  | negotiated
  /-- The host knows the payload buffer. -/
  | bufferRegistered
  /-- An input was asked for. -/
  | snapshotPending
  /-- An input was delivered and is being run on. -/
  | running
  /-- The host was asked to rewind. -/
  | released
  deriving DecidableEq, Repr

namespace Lifecycle

def name : Lifecycle → String
  | negotiated => "Negotiated"
  | bufferRegistered => "BufferRegistered"
  | snapshotPending => "SnapshotPending"
  | running => "Running"
  | released => "Released"

end Lifecycle

/-- A guest that went through the handshake. -/
structure Agent where
  hostConfig : HostConfig
  state : Lifecycle
  /-- The coverage buffer that the host reads. -/
  trace : Region
  /-- The buffer the host writes inputs into, once it knows of it. -/
  payload : Option Region
  /-- Where the coverage comes from, if it is bridged. -/
  coverage : Option CoverageMap

abbrev AgentM := StateT Agent VmM

namespace Agent

open Vm

/-- The name under which the host keeps the dictionary. -/
def dictionaryFile : String := "afl_autodict.txt"

def declaration (trace : Region) : AgentConfig where
  agentMagic := Rewind.agentMagic
  agentVersion := Rewind.agentVersion
  timeoutDetection := 0
  tracing := 1
  ijonTracing := 0
  nonReloadMode := 0
  traceBufferVaddr := trace.addr
  ijonTraceBufferVaddr := 0
  coverageBitmapSize := 0
  inputBufferSize := 0
  dumpPayloads := 0

def maxInputSize (agent : Agent) : Nat := agent.hostConfig.payloadBufferSize.toNat

/-! ## The handshake -/

/-- Store bytes under a name on the host.  Nothing is done for no bytes. -/
def uploadFile (name : Bytes) (data : Slice) (append : Bool) : VmM (Except AgentError Unit) := do
  if data.content.size = 0 then return .ok ()
  whileLocked data.addr data.content.size do
    hypercall (.dumpFile (name.takeWhile (· != 0)) data.addr data.content append.toUInt8)
    return .ok ()

/-- Hand the host the tokens its mutator starts from. -/
def uploadDictionary (data : Slice) : VmM (Except AgentError Unit) := do
  log .info ("uploading " ++ Text.hex data.content.size ++ " bytes of auto-dictionary")
  uploadFile (Utf8.ofString dictionaryFile) data true

/-- Why a configuration is refused, if it is. -/
def incompatibility? (config : HostConfig) : Option AgentError :=
  if config.hostMagic ≠ Rewind.hostMagic then
    some (.hostMagic config.hostMagic Rewind.hostMagic)
  else if config.hostVersion ≠ Rewind.hostVersion then
    some (.hostVersion config.hostVersion Rewind.hostVersion)
  else none

def logCapabilities (config : HostConfig) : VmM Unit := do
  log .info ("[capabilities] host_config.bitmap_size: " ++ Text.hex config.bitmapSize.toNat)
  log .info ("[capabilities] host_config.ijon_bitmap_size: " ++
    Text.hex config.ijonBitmapSize.toNat)
  log .info ("[capabilities] host_config.payload_buffer_size: " ++
    Text.hex config.payloadBufferSize.toNat)

/-- Where coverage is to be bridged from. -/
def discoverCoverage (options : Options) : VmM (Option CoverageMap) := do
  if !options.bridgeCoverage then return none
  let found := CoverageMap.discover (← get).instrumentation
  if found.isSome then
    log .debug "bridging instrumentation coverage into the trace buffer"
  return found

/-- The handshake.  Nothing but the configuration is asked of a host that does not
speak the protocol; the others learn of the trace buffer and, where there is one, of
the dictionary. -/
def negotiate (options : Options) : VmM (Except AgentError Agent) := do
  let config ← fetchConfig
  if let some error := incompatibility? config then return .error error
  logCapabilities config
  match ← map config.traceSize with
  | .error error => return .error error
  | .ok trace =>
      hypercall (.setAgentConfig (declaration trace))
      let coverage ← discoverCoverage options
      let agent : Agent :=
        { hostConfig := config, state := .negotiated, trace := trace, payload := none
          coverage := coverage }
      if !options.uploadDictionary then return .ok agent
      match (← get).instrumentation.dictionary? with
      | none => return .ok agent
      | some dictionary => return (← uploadDictionary dictionary).map fun _ => agent

/-! ## The snapshot cycle -/

/-- The byte count in front of a payload. -/
def declaredSize (payload : Buffer) : Int :=
  (UInt32.ofNat (Bytes.toNat (payload.take payloadHeaderSize))).toInt32.toInt

/-- Copy an input out of a payload buffer to the start of `dest`.  The count that the
host declared is held against both buffers first. -/
def decodePayload (payload dest : Buffer) : Except AgentError (Nat × Buffer) :=
  if payload.size < payloadHeaderSize then .error (.payloadHeader payload.size)
  else
    let declared := declaredSize payload
    let capacity := min (payload.size - payloadHeaderSize) dest.size
    if 0 ≤ declared ∧ declared ≤ capacity then
      .ok (declared.toNat, dest.blit 0 ((payload.drop payloadHeaderSize).take declared.toNat))
    else .error (.payloadSize declared capacity)

/-- Map the payload buffer and say where it is. -/
def registerPayload : AgentM (Except AgentError Region) := do
  match ← (map (← get).maxInputSize : VmM _) with
  | .error error => return .error error
  | .ok region =>
      let announced ← whileLocked region.addr region.len do
        hypercall (.getPayload region.addr)
        return Except.ok ()
      match announced with
      | .error error => return .error error
      | .ok () =>
          log .info ("[init] payload buffer is mapped at " ++ Text.hex region.addr.toNat ++
            " (size: " ++ Text.hex region.len ++ ")")
          modify fun agent => { agent with payload := some region, state := .bufferRegistered }
          return .ok region

/-- The payload buffer, which is registered if it is not yet. -/
def payloadRegion : AgentM (Except AgentError Region) := do
  match (← get).payload with
  | some region => return .ok region
  | none => registerPayload

/-- Have the host deliver the next input into the payload buffer.  The first time this
takes the snapshot, and the execution mode is submitted before. -/
def fastAcquire : AgentM Unit := do
  if (← get).state = .bufferRegistered then
    hypercall (.userSubmitMode mode64)
  modify fun agent => { agent with state := .snapshotPending }
  hypercall (.userFastAcquire 0)
  modify fun agent => { agent with state := .running }
  change (← get).trace Buffer.mark

/-- Receive the next input at the start of `dest`: its length, and `dest` with it.  On
an error `dest` stays as it is. -/
def acquire (dest : Buffer) : AgentM (Except AgentError (Nat × Buffer)) := do
  match ← payloadRegion with
  | .error error => return .error error
  | .ok payload =>
      whileLocked payload.addr payload.len do
        fastAcquire
        return decodePayload (← read payload) dest

/-- Put the coverage into the trace buffer, with the mark of life on its first byte. -/
def bridgeCoverage : AgentM Unit := do
  let agent ← get
  if let some coverage := agent.coverage then
    let instrumentation := (← (get : VmM Vm)).instrumentation
    change agent.trace fun trace => (coverage.bridge instrumentation trace).mark

/-- End the run on an input: the host is asked to rewind. -/
def release : AgentM Unit := do
  bridgeCoverage
  modify fun agent => { agent with state := .released }
  hypercall (.release 0)

def setCoverage (map : CoverageMap) : AgentM Unit :=
  modify fun agent => { agent with coverage := some map }

def print (text : String) : AgentM Unit := hostPrint text

/-! ## What is handed out -/

/-- How things stand with a payload buffer and a destination of so many bytes: there is no room
for a count, or the count fits both, or it does not. -/
theorem payload_cases (payload : Buffer) (size : Nat) :
    payload.size < payloadHeaderSize ∨
    (payloadHeaderSize ≤ payload.size ∧ ∃ n : Nat, declaredSize payload = n ∧
      n ≤ min (payload.size - payloadHeaderSize) size) ∨
    (payloadHeaderSize ≤ payload.size ∧ (declaredSize payload < 0 ∨
      (min (payload.size - payloadHeaderSize) size : Nat) < declaredSize payload)) := by
  rcases Nat.lt_or_ge payload.size payloadHeaderSize with short | room
  · exact .inl short
  · by_cases fits : 0 ≤ declaredSize payload ∧
        declaredSize payload ≤ (min (payload.size - payloadHeaderSize) size : Nat)
    · exact .inr (.inl ⟨room, (declaredSize payload).toNat, by omega, by omega⟩)
    · exact .inr (.inr ⟨room, by omega⟩)

/-- A payload buffer with no room for the count is an error. -/
theorem decodePayload_of_short {payload : Buffer} (dest : Buffer)
    (short : payload.size < payloadHeaderSize) :
    decodePayload payload dest = .error (.payloadHeader payload.size) := if_pos short

/-- A count that both buffers hold is believed: so many bytes behind the header are copied. -/
theorem decodePayload_of_fits {payload dest : Buffer} {n : Nat}
    (room : payloadHeaderSize ≤ payload.size) (declared : declaredSize payload = n)
    (fits : n ≤ min (payload.size - payloadHeaderSize) dest.size) :
    decodePayload payload dest =
      .ok (n, dest.blit 0 ((payload.drop payloadHeaderSize).take n)) := by
  rw [decodePayload, if_neg (by omega)]
  simp only [declared, Int.toNat_natCast]
  exact if_pos ⟨Int.natCast_nonneg n, Int.ofNat_le.mpr fits⟩

/-- A count below zero, or one that either buffer is too short for, is an error and names both. -/
theorem decodePayload_of_misfit {payload dest : Buffer}
    (room : payloadHeaderSize ≤ payload.size)
    (misfit : declaredSize payload < 0 ∨
      (min (payload.size - payloadHeaderSize) dest.size : Nat) < declaredSize payload) :
    decodePayload payload dest = .error (.payloadSize (declaredSize payload)
      (min (payload.size - payloadHeaderSize) dest.size)) := by
  rw [decodePayload, if_neg (by omega)]
  exact if_neg (by omega)

end Agent

end Rewind
