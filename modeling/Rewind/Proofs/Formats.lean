/-
# Rewind.Proofs.Formats -- where each field of a shared structure stands

Host and guest agree on three structures by the offset of every field.  A `Field` is a
field with its place among the bytes, and a `Format` says what it means that a list of
fields is the whole structure: the fields stand one behind the other, each of their bytes
is eight bits of the value, lowest first, and writing and reading undo each other.

What has to be looked up for one structure is little (`Described`): its table of names and
widths, its values, and that a setter replaces one value.  Everything else follows for any
list of fields.

Main statements: `encode_set` (changing one field replaces its bytes and no others),
`Described.format` and `shared_formats` (the formats of the three structures).
-/
import Rewind.Wire

namespace Rewind

set_option autoImplicit false

/-- A byte of a written number is the eight bits at its place. -/
theorem Bytes.getElem?_ofNat {width i : Nat} (inside : i < width) (n : Nat) :
    (Bytes.ofNat width n)[i]? = some (UInt8.ofNat (n >>> (8 * i))) := by
  induction i generalizing width n with
  | zero =>
      cases width with
      | zero => omega
      | succ width => simp [Bytes.ofNat]
  | succ i ih =>
      cases width with
      | zero => omega
      | succ width =>
          have further : n >>> (8 * (i + 1)) = (n / 256) >>> (8 * i) := by
            rw [show 8 * (i + 1) = 8 + 8 * i by omega, Nat.shiftRight_add,
              Nat.shiftRight_eq_div_pow n 8]
          rw [Bytes.ofNat, List.getElem?_cons_succ, ih (by omega), further]

namespace Packed

/-- A field of a structure: its name, the bytes that it takes, and how it is read and
replaced. -/
structure Field (α : Type) where
  name : String
  start : Nat
  width : Nat
  get : α → Nat
  set : α → Nat → α

/-- The fields follow each other without a gap, the first at `start`, the last up to `stop`. -/
def Consecutive {α : Type} : Nat → List (Field α) → Nat → Prop
  | start, [], stop => start = stop
  | start, f :: rest, stop => f.start = start ∧ Consecutive (start + f.width) rest stop

/-- The fields are all that the bytes of a structure hold, `size` bytes of them. -/
structure Format {α : Type} [Packed α] (fields : List (Field α)) (size : Nat) : Prop where
  consecutive : Consecutive 0 fields size
  table : Packed.layout α = fields.map fun f => (f.name, f.width)
  length : ∀ a : α, (encode a).length = size
  byte : ∀ a : α, ∀ f ∈ fields, ∀ i < f.width,
    (encode a)[f.start + i]? = some (UInt8.ofNat (f.get a >>> (8 * i)))
  read : ∀ a : α, decode? (encode a) = some a
  written : ∀ bytes : Bytes, bytes.length = size →
    ∃ a : α, decode? bytes = some a ∧ encode a = bytes
  refused : ∀ bytes : Bytes, bytes.length ≠ size → (decode? bytes : Option α) = none
  get_set : ∀ a : α, ∀ f ∈ fields, ∀ v < Bytes.limit f.width, f.get (f.set a v) = v
  get_set_other : ∀ a : α, ∀ f ∈ fields, ∀ v < Bytes.limit f.width, ∀ g ∈ fields,
    g.start ≠ f.start → g.get (f.set a v) = g.get a
  replaced : ∀ a : α, ∀ f ∈ fields, ∀ v < Bytes.limit f.width,
    encode (f.set a v) =
      (encode a).take f.start ++ Bytes.ofNat f.width v ++ (encode a).drop (f.start + f.width)

/-- What is looked up for one structure: its table, its values in memory order, and that a
field in the list replaces the value at its own index. -/
structure Described {α : Type} [Packed α] (fields : List (Field α)) : Prop where
  table : Packed.layout α = fields.map fun f => (f.name, f.width)
  consecutive : Consecutive 0 fields (Packed.layout α).size
  values : ∀ a : α, Packed.values a = fields.map fun f => f.get a
  values_set : ∀ (i : Nat) (f : Field α), fields[i]? = some f → ∀ (a : α) (v : Nat),
    v < Bytes.limit f.width → Packed.values (f.set a v) = (Packed.values a).set i v

section Fields

variable {α : Type} {fields : List (Field α)} {start stop : Nat}

def Field.encodeAll (fields : List (Field α)) (values : List Nat) : Bytes :=
  Layout.encode (fields.map fun f => (f.name, f.width)) values

@[simp] theorem Field.encodeAll_cons (f : Field α) (value : Nat) (values : List Nat) :
    Field.encodeAll (f :: fields) (value :: values) =
      Bytes.ofNat f.width value ++ Field.encodeAll fields values := rfl

theorem Consecutive.le_start (consecutive : Consecutive start fields stop) {f : Field α}
    (listed : f ∈ fields) : start ≤ f.start := by
  induction fields generalizing start with
  | nil => simp at listed
  | cons g rest ih =>
      obtain ⟨first, later⟩ := consecutive
      rcases List.mem_cons.1 listed with rfl | listed
      · omega
      · have behind := ih later listed
        omega

/-- The bytes of the field at an index stand between those of the fields before it and those of
the fields behind it, whatever its value is. -/
theorem encodeAll_between (consecutive : Consecutive start fields stop) {values : List Nat}
    (complete : values.length = fields.length) {k : Nat} {f : Field α}
    (found : fields[k]? = some f) :
    ∃ front back, front.length = f.start - start ∧ ∀ v,
      Field.encodeAll fields (values.set k v) = front ++ (Bytes.ofNat f.width v ++ back) := by
  induction fields generalizing start values k with
  | nil => simp at found
  | cons g rest ih =>
      obtain ⟨first, later⟩ := consecutive
      cases values with
      | nil => simp at complete
      | cons w ws =>
          cases k with
          | zero =>
              obtain rfl := Option.some.inj found
              have front : ([] : Bytes).length = g.start - start := by
                rw [first, Nat.sub_self]
                rfl
              exact ⟨[], Field.encodeAll rest ws, front, fun v => rfl⟩
          | succ k =>
              rw [List.getElem?_cons_succ] at found
              have behind := later.le_start (List.mem_of_getElem? found)
              obtain ⟨front, back, length, between⟩ := ih later (Nat.succ.inj complete) found
              refine ⟨Bytes.ofNat g.width w ++ front, back, ?_, fun v => ?_⟩
              · rw [List.length_append, Bytes.length_ofNat, length]
                omega
              · rw [List.set_cons_succ, Field.encodeAll_cons, between, List.append_assoc]

/-- Each byte of the field at an index. -/
theorem getElem?_encodeAll (consecutive : Consecutive start fields stop) {values : List Nat}
    (complete : values.length = fields.length) {k i value : Nat} {f : Field α}
    (found : fields[k]? = some f) (held : values[k]? = some value) (inside : i < f.width) :
    (Field.encodeAll fields values)[f.start - start + i]? =
      some (UInt8.ofNat (value >>> (8 * i))) := by
  obtain ⟨listed, rfl⟩ := List.getElem?_eq_some_iff.mp held
  obtain ⟨front, back, length, between⟩ := encodeAll_between consecutive complete found
  have whole := between values[k]
  rw [List.set_getElem_self] at whole
  rw [whole, ← length, List.getElem?_append_right (Nat.le_add_right _ _), Nat.add_sub_cancel_left,
    List.getElem?_append_left (by rwa [Bytes.length_ofNat]), Bytes.getElem?_ofNat inside]

/-- Replacing the value at an index replaces the bytes of its field. -/
theorem encodeAll_set (consecutive : Consecutive start fields stop) {values : List Nat}
    (complete : values.length = fields.length) {k : Nat} {f : Field α}
    (found : fields[k]? = some f) (v : Nat) :
    Field.encodeAll fields (values.set k v) =
      (Field.encodeAll fields values).take (f.start - start) ++ Bytes.ofNat f.width v ++
        (Field.encodeAll fields values).drop (f.start - start + f.width) := by
  obtain ⟨listed, -⟩ := List.getElem?_eq_some_iff.mp found
  have held : k < values.length := by rwa [complete]
  obtain ⟨front, back, length, between⟩ := encodeAll_between consecutive complete found
  have whole := between values[k]
  rw [List.set_getElem_self] at whole
  have past (old : Nat) : (front ++ Bytes.ofNat f.width old).length = front.length + f.width := by
    rw [List.length_append, Bytes.length_ofNat]
  rw [between, whole, ← length, List.take_left, ← List.append_assoc front _ back,
    ← List.append_assoc front _ back, List.drop_left' (past _)]

end Fields

namespace Described

variable {α : Type} [Packed α] {fields : List (Field α)}

theorem encode_eq (described : Described fields) (a : α) :
    encode a = Field.encodeAll fields (fields.map fun f => f.get a) := by
  rw [encode, described.table, described.values, Field.encodeAll]

/-- What the setter of one field does to every field. -/
theorem get_set (described : Described fields) {j k : Nat} {f g : Field α}
    (found : fields[j]? = some f) (other : fields[k]? = some g) (a : α) {v : Nat}
    (small : v < Bytes.limit f.width) :
    g.get (f.set a v) = if j = k then v else g.get a := by
  have replaced := described.values_set j f found a v small
  rw [described.values, described.values] at replaced
  have at_k := congrArg (·[k]?) replaced
  have inside : j < fields.length := (List.getElem?_eq_some_iff.1 found).1
  simp only [List.getElem?_map, other, Option.map_some, List.getElem?_set, List.length_map,
    inside, if_true] at at_k
  split at at_k
  · next same => simpa [same] using at_k
  · next apart => simpa [apart] using at_k

theorem encode_set (described : Described fields) {k : Nat} {f : Field α}
    (found : fields[k]? = some f) (a : α) {v : Nat} (small : v < Bytes.limit f.width) :
    encode (f.set a v) =
      (encode a).take f.start ++ Bytes.ofNat f.width v ++ (encode a).drop (f.start + f.width) := by
  have replaced := described.values_set k f found a v small
  rw [described.values, described.values] at replaced
  have complete : (fields.map fun f => f.get a).length = fields.length := List.length_map _
  have bytes := encodeAll_set described.consecutive complete found v
  rw [described.encode_eq, described.encode_eq, replaced, bytes, Nat.sub_zero]

/-- Every list of fields that describes a structure is its format. -/
theorem format (described : Described fields) : Format fields (Packed.layout α).size where
  consecutive := described.consecutive
  table := described.table
  length := length_encode
  byte a f listed i inside := by
    obtain ⟨k, found⟩ := List.mem_iff_getElem?.1 listed
    have held : (fields.map fun f => f.get a)[k]? = some (f.get a) := by simp [found]
    have bytes :=
      getElem?_encodeAll described.consecutive (List.length_map _) found held inside
    rwa [Nat.sub_zero, ← described.encode_eq] at bytes
  read := decode?_encode
  written bytes size := by
    obtain ⟨a, made, -⟩ : ∃ a : α, _ ∧ _ := exists_of_fits _ (Layout.fits_values _ bytes size)
    have read : decode? bytes = some a := by
      rw [decode?, Layout.decode?, if_pos size, Option.bind_some, made]
    exact ⟨a, read, encode_of_decode? read⟩
  refused bytes size := by
    rw [decode?, Layout.decode?, if_neg size, Option.bind_none]
  get_set a f listed v small := by
    obtain ⟨k, found⟩ := List.mem_iff_getElem?.1 listed
    rw [described.get_set found found a small, if_pos rfl]
  get_set_other a f listed v small g other apart := by
    obtain ⟨j, found⟩ := List.mem_iff_getElem?.1 listed
    obtain ⟨k, found'⟩ := List.mem_iff_getElem?.1 other
    have distinct : j ≠ k := by
      rintro rfl
      obtain rfl := Option.some.inj (found.symm.trans found')
      exact apart rfl
    rw [described.get_set found found' a small, if_neg distinct]
  replaced a f listed v small := by
    obtain ⟨k, found⟩ := List.mem_iff_getElem?.1 listed
    exact described.encode_set found a small

end Described

end Packed

open Packed

def HostConfig.fields : List (Packed.Field HostConfig) :=
  [⟨"host_magic", 0, 4, (·.hostMagic.toNat), fun c v => { c with hostMagic := .ofNat v }⟩,
   ⟨"host_version", 4, 4, (·.hostVersion.toNat), fun c v => { c with hostVersion := .ofNat v }⟩,
   ⟨"bitmap_size", 8, 4, (·.bitmapSize.toNat), fun c v => { c with bitmapSize := .ofNat v }⟩,
   ⟨"ijon_bitmap_size", 12, 4, (·.ijonBitmapSize.toNat),
     fun c v => { c with ijonBitmapSize := .ofNat v }⟩,
   ⟨"payload_buffer_size", 16, 4, (·.payloadBufferSize.toNat),
     fun c v => { c with payloadBufferSize := .ofNat v }⟩,
   ⟨"worker_id", 20, 4, (·.workerId.toNat), fun c v => { c with workerId := .ofNat v }⟩]

def AgentConfig.fields : List (Packed.Field AgentConfig) :=
  [⟨"agent_magic", 0, 4, (·.agentMagic.toNat), fun c v => { c with agentMagic := .ofNat v }⟩,
   ⟨"agent_version", 4, 4, (·.agentVersion.toNat), fun c v => { c with agentVersion := .ofNat v }⟩,
   ⟨"timeout_detection", 8, 1, (·.timeoutDetection.toNat),
     fun c v => { c with timeoutDetection := .ofNat v }⟩,
   ⟨"tracing", 9, 1, (·.tracing.toNat), fun c v => { c with tracing := .ofNat v }⟩,
   ⟨"ijon_tracing", 10, 1, (·.ijonTracing.toNat), fun c v => { c with ijonTracing := .ofNat v }⟩,
   ⟨"non_reload_mode", 11, 1, (·.nonReloadMode.toNat),
     fun c v => { c with nonReloadMode := .ofNat v }⟩,
   ⟨"trace_buffer_vaddr", 12, 8, (·.traceBufferVaddr.toNat),
     fun c v => { c with traceBufferVaddr := .ofNat v }⟩,
   ⟨"ijon_trace_buffer_vaddr", 20, 8, (·.ijonTraceBufferVaddr.toNat),
     fun c v => { c with ijonTraceBufferVaddr := .ofNat v }⟩,
   ⟨"coverage_bitmap_size", 28, 4, (·.coverageBitmapSize.toNat),
     fun c v => { c with coverageBitmapSize := .ofNat v }⟩,
   ⟨"input_buffer_size", 32, 4, (·.inputBufferSize.toNat),
     fun c v => { c with inputBufferSize := .ofNat v }⟩,
   ⟨"dump_payloads", 36, 1, (·.dumpPayloads.toNat),
     fun c v => { c with dumpPayloads := .ofNat v }⟩]

def DumpFile.fields : List (Packed.Field DumpFile) :=
  [⟨"file_name_ptr", 0, 8, (·.fileNamePtr.toNat), fun f v => { f with fileNamePtr := .ofNat v }⟩,
   ⟨"data_ptr", 8, 8, (·.dataPtr.toNat), fun f v => { f with dataPtr := .ofNat v }⟩,
   ⟨"bytes", 16, 8, (·.bytes.toNat), fun f v => { f with bytes := .ofNat v }⟩,
   ⟨"append", 24, 1, (·.append.toNat), fun f v => { f with append := .ofNat v }⟩]

theorem HostConfig.described : Described HostConfig.fields where
  table := rfl
  consecutive := by simp [Consecutive, fields, Packed.layout, layout, Layout.size]
  values a := rfl
  values_set i f found a v small := by
    rcases i with _ | _ | _ | _ | _ | _ | i <;>
      simp only [fields, List.getElem?_cons_zero, List.getElem?_cons_succ, Option.some.injEq,
        List.getElem?_nil, reduceCtorEq] at found <;> subst found <;>
      simp only [Bytes.limit, Nat.reduceMul] at small <;>
      simp [Packed.values, values, Nat.mod_eq_of_lt small]

theorem AgentConfig.described : Described AgentConfig.fields where
  table := rfl
  consecutive := by simp [Consecutive, fields, Packed.layout, layout, Layout.size]
  values a := rfl
  values_set i f found a v small := by
    rcases i with _ | _ | _ | _ | _ | _ | _ | _ | _ | _ | _ | i <;>
      simp only [fields, List.getElem?_cons_zero, List.getElem?_cons_succ, Option.some.injEq,
        List.getElem?_nil, reduceCtorEq] at found <;> subst found <;>
      simp only [Bytes.limit, Nat.reduceMul] at small <;>
      simp [Packed.values, values, Nat.mod_eq_of_lt small]

theorem DumpFile.described : Described DumpFile.fields where
  table := rfl
  consecutive := by simp [Consecutive, fields, Packed.layout, layout, Layout.size]
  values a := rfl
  values_set i f found a v small := by
    rcases i with _ | _ | _ | _ | i <;>
      simp only [fields, List.getElem?_cons_zero, List.getElem?_cons_succ, Option.some.injEq,
        List.getElem?_nil, reduceCtorEq] at found <;> subst found <;>
      simp only [Bytes.limit, Nat.reduceMul] at small <;>
      simp [Packed.values, values, Nat.mod_eq_of_lt small]

/-- The three structures that host and guest share, byte for byte: what is written is read
back, whatever has the right length is read and written back, and each field has its own
bytes behind those of the fields before it. -/
theorem shared_formats :
    Format HostConfig.fields 24 ∧ Format AgentConfig.fields 37 ∧ Format DumpFile.fields 25 :=
  ⟨HostConfig.described.format, AgentConfig.described.format, DumpFile.described.format⟩

example :
    encode (DumpFile.mk 0x0102 0x1122334455667788 3 1) =
      [2, 1, 0, 0, 0, 0, 0, 0, 0x88, 0x77, 0x66, 0x55, 0x44, 0x33, 0x22, 0x11,
        3, 0, 0, 0, 0, 0, 0, 0, 1] := by
  decide

end Rewind
