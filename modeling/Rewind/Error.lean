/-
# Rewind.Error -- what can go wrong before a target runs

A crash of the target is no error: it ends in a report (`Rewind.Report`).  An error
is a handshake that fails, memory that cannot be had, an input that does not fit, or
a session that is taken.  `AgentError.message` has the wording.
-/
import Rewind.Errno
import Rewind.Signal

namespace Rewind

set_option autoImplicit false

/-- Why the agent could not go on. -/
inductive AgentError
  /-- The host answered the handshake with another magic. -/
  | hostMagic (found expected : UInt32)
  /-- The host speaks another revision of the protocol. -/
  | hostVersion (found expected : UInt32)
  /-- There is no hypervisor. -/
  | hostUnavailable
  /-- Another agent of the process has the hypervisor. -/
  | hostClaimed
  /-- A region of no bytes was asked for. -/
  | emptyRegion
  /-- A region could not be mapped. -/
  | map (size : Nat) (source : Errno)
  /-- Memory could not be locked for a hypercall. -/
  | pin (addr : UInt64) (size : Nat) (source : Errno)
  /-- The host declared more bytes than fit. -/
  | payloadSize (declared : Int) (capacity : Nat)
  /-- The payload buffer has no room for the byte count. -/
  | payloadHeader (len : Nat)
  /-- The session is held by another handle. -/
  | sessionBusy
  /-- The registration primitive behind ours could not be found. -/
  | missingSigaction
  /-- A crash handler could not be installed. -/
  | signalInstall (signal : Signal) (source : Errno)
  deriving DecidableEq, Repr

namespace AgentError

open Text

def message : AgentError → String
  | hostMagic found expected =>
      "host magic " ++ hex found.toNat ++ " does not match " ++ hex expected.toNat ++
        ", the hypervisor is probably outdated"
  | hostVersion found expected =>
      "host version " ++ decimal found.toNat ++ " does not match " ++ decimal expected.toNat ++
        ", the hypervisor is probably outdated"
  | hostUnavailable => "no snapshot hypervisor detected, run the target inside the snapshot VM"
  | hostClaimed => "the hypervisor handle was already claimed by another agent"
  | emptyRegion => "refusing to map an empty shared region"
  | map size source =>
      "failed to map " ++ hex size ++ " bytes of shared memory: " ++ source.message
  | pin addr size source =>
      "failed to pin " ++ hex size ++ " bytes at " ++ hex addr.toNat ++ ": " ++ source.message
  | payloadSize declared capacity =>
      "host declared a payload of " ++ signedDecimal declared ++ " bytes but only " ++
        decimal capacity ++ " fit"
  | payloadHeader len =>
      "payload buffer of " ++ decimal len ++ " bytes cannot hold the size header"
  | sessionBusy => "the snapshot session is already in use by another fuzz handle"
  | missingSigaction => "unable to resolve the real \x60sigaction\x60"
  | signalInstall signal source =>
      "failed to install the " ++ signal.name ++ " handler: " ++ source.message

/-- The refusal of the kernel that an error passes on. -/
def source? : AgentError → Option Errno
  | map _ source | pin _ _ source | signalInstall _ source => some source
  | _ => none

def kind : AgentError → String
  | hostMagic .. => "HostMagic"
  | hostVersion .. => "HostVersion"
  | hostUnavailable => "HostUnavailable"
  | hostClaimed => "HostClaimed"
  | emptyRegion => "EmptyRegion"
  | map .. => "Map"
  | pin .. => "Pin"
  | payloadSize .. => "PayloadSize"
  | payloadHeader .. => "PayloadHeader"
  | sessionBusy => "SessionBusy"
  | missingSigaction => "MissingSigaction"
  | signalInstall .. => "SignalInstall"

end AgentError

end Rewind
