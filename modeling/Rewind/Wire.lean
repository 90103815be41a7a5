/-
# Rewind.Wire -- the structures shared byte for byte

Host and guest read each other's structures out of memory, so their layout is fixed:
the fields stand one behind the other in the order of a table, lowest byte first,
without padding.  Reading accepts exactly as many bytes as writing gives.

Main statements: `Packed.length_encode`, `Packed.decode?_encode` (what was written is
read back) and `Packed.encode_of_decode?` (what was read is written back).
-/
import Rewind.Bytes

namespace Rewind

set_option autoImplicit false

/-- The fields of a structure in memory order: their names and their widths in bytes. -/
abbrev Layout := List (String × Nat)

namespace Layout

/-- The bytes that a structure takes. -/
def size : Layout → Nat
  | [] => 0
  | (_, width) :: rest => width + size rest

def encode : Layout → List Nat → Bytes
  | (_, width) :: fields, value :: values => Bytes.ofNat width value ++ encode fields values
  | _, _ => []

def values : Layout → Bytes → List Nat
  | [], _ => []
  | (_, width) :: fields, bytes =>
      Bytes.toNat (bytes.take width) :: values fields (bytes.drop width)

def decode? (layout : Layout) (bytes : Bytes) : Option (List Nat) :=
  if bytes.length = layout.size then some (layout.values bytes) else none

/-- Each value fits its field, and there is one for each. -/
def Fits : Layout → List Nat → Prop
  | [], [] => True
  | (_, width) :: fields, value :: values => value < Bytes.limit width ∧ Fits fields values
  | _, _ => False

theorem length_encode {layout : Layout} {values : List Nat} (fits : layout.Fits values) :
    (layout.encode values).length = layout.size := by
  induction layout generalizing values with
  | nil => rfl
  | cons field fields ih =>
      cases values with
      | nil => exact fits.elim
      | cons value rest => simp [encode, size, ih fits.2]

/-- What was written is read back, field by field. -/
theorem values_encode {layout : Layout} {values : List Nat} (fits : layout.Fits values) :
    layout.values (layout.encode values) = values := by
  induction layout generalizing values with
  | nil =>
      cases values with
      | nil => rfl
      | cons value rest => exact fits.elim
  | cons field fields ih =>
      cases values with
      | nil => exact fits.elim
      | cons value rest =>
          have width : (Bytes.ofNat field.2 value).length = field.2 := Bytes.length_ofNat _ _
          rw [encode, Layout.values, List.take_left' width, List.drop_left' width, ih fits.2,
            Bytes.toNat_ofNat, Nat.mod_eq_of_lt fits.1]

/-- Every byte belongs to some field. -/
theorem encode_values {layout : Layout} {bytes : Bytes} (size : bytes.length = layout.size) :
    layout.encode (layout.values bytes) = bytes := by
  induction layout generalizing bytes with
  | nil => exact (List.eq_nil_of_length_eq_zero size).symm
  | cons field fields ih =>
      have width : (bytes.take field.2).length = field.2 := by
        simp only [Layout.size] at size
        simp only [List.length_take]
        omega
      have rest : (bytes.drop field.2).length = Layout.size fields := by
        simp only [Layout.size] at size
        simp only [List.length_drop]
        omega
      have front := Bytes.ofNat_toNat (bytes.take field.2)
      rw [width] at front
      rw [values, encode, ih rest, front, List.take_append_drop]

theorem decode?_encode {layout : Layout} {values : List Nat} (fits : layout.Fits values) :
    layout.decode? (layout.encode values) = some values := by
  rw [decode?, if_pos (length_encode fits), values_encode fits]

/-- What is read out of a field fits it. -/
theorem fits_values (layout : Layout) (bytes : Bytes) (size : bytes.length = layout.size) :
    layout.Fits (layout.values bytes) := by
  induction layout generalizing bytes with
  | nil => trivial
  | cons field fields ih =>
      simp only [Layout.size] at size
      have width : (bytes.take field.2).length = field.2 := by
        simp only [List.length_take]
        omega
      refine ⟨?_, ih _ (by simp only [List.length_drop]; omega)⟩
      calc Bytes.toNat (bytes.take field.2) < Bytes.limit (bytes.take field.2).length :=
            Bytes.toNat_lt _
        _ = Bytes.limit field.2 := by rw [width]

theorem fits_of_decode? {layout : Layout} {bytes : Bytes} {values : List Nat}
    (read : layout.decode? bytes = some values) : layout.Fits values := by
  unfold decode? at read
  split at read
  · next size =>
      obtain rfl := Option.some.inj read
      exact fits_values layout bytes size
  · simp at read

theorem encode_of_decode? {layout : Layout} {bytes : Bytes} {values : List Nat}
    (read : layout.decode? bytes = some values) : layout.encode values = bytes := by
  unfold decode? at read
  split at read
  · next size =>
      obtain rfl := Option.some.inj read
      exact encode_values size
  · simp at read

end Layout

/-- A structure with a layout: its fields can be taken out as values in memory order,
and values that fit make a structure again. -/
class Packed (α : Type) where
  layout : Layout
  values : α → List Nat
  /-- The structure with these values, of which the low bits count. -/
  ofValues? : List Nat → Option α
  fits : ∀ a, layout.Fits (values a)
  ofValues?_values : ∀ a, ofValues? (values a) = some a
  exists_of_fits : ∀ numbers, layout.Fits numbers →
    ∃ a, ofValues? numbers = some a ∧ values a = numbers

namespace Packed

variable {α : Type} [Packed α]

def encode (a : α) : Bytes := (layout α).encode (values a)

def decode? (bytes : Bytes) : Option α := ((layout α).decode? bytes).bind ofValues?

@[simp] theorem length_encode (a : α) : (encode a).length = (layout α).size :=
  Layout.length_encode (fits a)

theorem decode?_encode (a : α) : decode? (encode a) = some a := by
  rw [decode?, encode, Layout.decode?_encode (fits a), Option.bind_some, ofValues?_values]

theorem encode_of_decode? {bytes : Bytes} {a : α} (read : decode? bytes = some a) :
    encode a = bytes := by
  obtain ⟨numbers, found, made⟩ := Option.bind_eq_some_iff.1 read
  obtain ⟨b, made', same⟩ := exists_of_fits numbers (Layout.fits_of_decode? found)
  obtain rfl : a = b := Option.some.inj (made.symm.trans made')
  rw [encode, same, Layout.encode_of_decode? found]

end Packed

/-- What a host can do, fetched once during the handshake. -/
structure HostConfig where
  hostMagic : UInt32
  hostVersion : UInt32
  bitmapSize : UInt32
  ijonBitmapSize : UInt32
  payloadBufferSize : UInt32
  workerId : UInt32
  deriving DecidableEq, Repr

namespace HostConfig

def layout : Layout :=
  [("host_magic", 4), ("host_version", 4), ("bitmap_size", 4), ("ijon_bitmap_size", 4),
   ("payload_buffer_size", 4), ("worker_id", 4)]

def values (c : HostConfig) : List Nat :=
  [c.hostMagic.toNat, c.hostVersion.toNat, c.bitmapSize.toNat, c.ijonBitmapSize.toNat,
   c.payloadBufferSize.toNat, c.workerId.toNat]

/-- The configuration with these values, of which the low bits count. -/
def ofValues? : List Nat → Option HostConfig
  | [a, b, c, d, e, f] => some ⟨.ofNat a, .ofNat b, .ofNat c, .ofNat d, .ofNat e, .ofNat f⟩
  | _ => none

instance : Packed HostConfig where
  layout := layout
  values := values
  ofValues? := ofValues?
  fits c :=
    ⟨c.hostMagic.toNat_lt, c.hostVersion.toNat_lt, c.bitmapSize.toNat_lt,
      c.ijonBitmapSize.toNat_lt, c.payloadBufferSize.toNat_lt, c.workerId.toNat_lt, trivial⟩
  ofValues?_values c := by simp [values, ofValues?]
  exists_of_fits numbers fit := by
    rcases numbers with _ | ⟨a, _ | ⟨b, _ | ⟨c, _ | ⟨d, _ | ⟨e, _ | ⟨f, _ | ⟨_, _⟩⟩⟩⟩⟩⟩⟩ <;>
      simp only [layout, Layout.Fits, Bytes.limit, Nat.reduceMul, and_false, and_true] at fit
    refine ⟨_, rfl, ?_⟩
    simp only [values, UInt32.toNat_ofNat', List.cons.injEq, and_true]
    omega

def zero : HostConfig := ⟨0, 0, 0, 0, 0, 0⟩

end HostConfig

/-- What an agent declares about itself, sent once after the handshake. -/
structure AgentConfig where
  agentMagic : UInt32
  agentVersion : UInt32
  timeoutDetection : UInt8
  tracing : UInt8
  ijonTracing : UInt8
  nonReloadMode : UInt8
  traceBufferVaddr : UInt64
  ijonTraceBufferVaddr : UInt64
  coverageBitmapSize : UInt32
  inputBufferSize : UInt32
  dumpPayloads : UInt8
  deriving DecidableEq, Repr

namespace AgentConfig

def layout : Layout :=
  [("agent_magic", 4), ("agent_version", 4), ("timeout_detection", 1), ("tracing", 1),
   ("ijon_tracing", 1), ("non_reload_mode", 1), ("trace_buffer_vaddr", 8),
   ("ijon_trace_buffer_vaddr", 8), ("coverage_bitmap_size", 4), ("input_buffer_size", 4),
   ("dump_payloads", 1)]

def values (c : AgentConfig) : List Nat :=
  [c.agentMagic.toNat, c.agentVersion.toNat, c.timeoutDetection.toNat, c.tracing.toNat,
   c.ijonTracing.toNat, c.nonReloadMode.toNat, c.traceBufferVaddr.toNat,
   c.ijonTraceBufferVaddr.toNat, c.coverageBitmapSize.toNat, c.inputBufferSize.toNat,
   c.dumpPayloads.toNat]

/-- The configuration with these values, of which the low bits count. -/
def ofValues? : List Nat → Option AgentConfig
  | [a, b, c, d, e, f, g, h, i, j, k] =>
      some ⟨.ofNat a, .ofNat b, .ofNat c, .ofNat d, .ofNat e, .ofNat f, .ofNat g, .ofNat h,
        .ofNat i, .ofNat j, .ofNat k⟩
  | _ => none

instance : Packed AgentConfig where
  layout := layout
  values := values
  ofValues? := ofValues?
  fits c :=
    ⟨c.agentMagic.toNat_lt, c.agentVersion.toNat_lt, c.timeoutDetection.toNat_lt,
      c.tracing.toNat_lt, c.ijonTracing.toNat_lt, c.nonReloadMode.toNat_lt,
      c.traceBufferVaddr.toNat_lt, c.ijonTraceBufferVaddr.toNat_lt, c.coverageBitmapSize.toNat_lt,
      c.inputBufferSize.toNat_lt, c.dumpPayloads.toNat_lt, trivial⟩
  ofValues?_values c := by simp [values, ofValues?]
  exists_of_fits numbers fit := by
    rcases numbers with _ | ⟨a, _ | ⟨b, _ | ⟨c, _ | ⟨d, _ | ⟨e, _ | ⟨f, _ |
      ⟨g, _ | ⟨h, _ | ⟨i, _ | ⟨j, _ | ⟨k, _ | ⟨_, _⟩⟩⟩⟩⟩⟩⟩⟩⟩⟩⟩⟩ <;>
      simp only [layout, Layout.Fits, Bytes.limit, Nat.reduceMul, and_false, and_true] at fit
    refine ⟨_, rfl, ?_⟩
    simp only [values, UInt8.toNat_ofNat', UInt32.toNat_ofNat', UInt64.toNat_ofNat',
      List.cons.injEq, and_true]
    omega

end AgentConfig

/-- A request to store a named file on the host. -/
structure DumpFile where
  fileNamePtr : UInt64
  dataPtr : UInt64
  bytes : UInt64
  append : UInt8
  deriving DecidableEq, Repr

namespace DumpFile

def layout : Layout := [("file_name_ptr", 8), ("data_ptr", 8), ("bytes", 8), ("append", 1)]

def values (f : DumpFile) : List Nat :=
  [f.fileNamePtr.toNat, f.dataPtr.toNat, f.bytes.toNat, f.append.toNat]

/-- The request with these values, of which the low bits count. -/
def ofValues? : List Nat → Option DumpFile
  | [a, b, c, d] => some ⟨.ofNat a, .ofNat b, .ofNat c, .ofNat d⟩
  | _ => none

instance : Packed DumpFile where
  layout := layout
  values := values
  ofValues? := ofValues?
  fits f :=
    ⟨f.fileNamePtr.toNat_lt, f.dataPtr.toNat_lt, f.bytes.toNat_lt, f.append.toNat_lt, trivial⟩
  ofValues?_values f := by simp [values, ofValues?]
  exists_of_fits numbers fit := by
    rcases numbers with _ | ⟨a, _ | ⟨b, _ | ⟨c, _ | ⟨d, _ | ⟨_, _⟩⟩⟩⟩⟩ <;>
      simp only [layout, Layout.Fits, Bytes.limit, Nat.reduceMul, and_false, and_true] at fit
    refine ⟨_, rfl, ?_⟩
    simp only [values, UInt8.toNat_ofNat', UInt64.toNat_ofNat', List.cons.injEq, and_true]
    omega

end DumpFile

end Rewind
