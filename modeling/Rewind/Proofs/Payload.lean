/-
# Rewind.Proofs.Payload -- an input through the payload buffer

The host writes a count of four bytes and the input behind it, over whatever an earlier
input left in the buffer; the guest reads the count, holds it against both buffers and
copies as many bytes, over whatever an earlier input left in its own.  Of the bytes that
are handed out none is an older one.

Main statements: `Agent.decodePayload_of_written` (what the host writes is what the
guest reads), `Agent.Readies.delivers`, `Buffer.take_blit_front`,
`Guest.Granted.acquire_delivers` (an acquire hands out the next input, as much of it as fits).
-/
import Rewind.Proofs.Runs

namespace Rewind

set_option autoImplicit false

namespace Buffer

theorem take_blit_front {b : Buffer} {front rest : Bytes}
    (fits : (front ++ rest).length ≤ b.size) :
    (b.blit 0 (front ++ rest)).take front.length = front := by
  rw [take_eq, toList_blit, List.take_zero, List.nil_append, Nat.sub_zero,
    List.take_of_length_le fits, List.append_assoc, List.take_left']
  rfl

theorem take_drop_blit {b : Buffer} {front rest : Bytes}
    (fits : (front ++ rest).length ≤ b.size) :
    ((b.blit 0 (front ++ rest)).drop front.length).take rest.length = rest := by
  rw [take_eq, toList_drop, toList_blit, List.take_zero, List.nil_append, Nat.sub_zero,
    List.take_of_length_le fits, List.append_assoc, List.drop_left', List.take_left']
  · rfl
  · rfl

/-- What was written at the start of a buffer is read from its start. -/
theorem take_blit {b : Buffer} {bytes : Bytes} (fits : bytes.length ≤ b.size) :
    (b.blit 0 bytes).take bytes.length = bytes := by
  have whole : (b.blit 0 (bytes ++ [])).take bytes.length = bytes :=
    take_blit_front (by simpa using fits)
  rwa [List.append_nil] at whole

end Buffer

namespace Agent

/-- The counts that four bytes with a sign hold. -/
def countLimit : Nat := 0x80000000

/-- The number that 32 bits spell, the highest of them the sign. -/
def signed (bits : Nat) : Int :=
  if bits < countLimit then bits else (bits : Int) - 0x100000000

theorem signed_of_small {bits : Nat} (small : bits < countLimit) : signed bits = bits :=
  if_pos small

theorem signed_neg {bits : Nat} (large : countLimit ≤ bits) (word : bits < 0x100000000) :
    signed bits < 0 := by
  rw [signed, if_neg (by omega)]
  omega

theorem toInt_toInt32 {bits : Nat} (word : bits < 0x100000000) :
    (UInt32.ofNat bits).toInt32.toInt = signed bits := by
  have value : (BitVec.ofNat 32 bits).toNat = bits := by
    rw [BitVec.toNat_ofNat]
    omega
  show (UInt32.ofNat bits).toBitVec.toInt = signed bits
  rw [UInt32.toBitVec_ofNat', BitVec.toInt_eq_toNat_cond, value, signed, countLimit]
  by_cases small : bits < 0x80000000
  · rw [if_pos small, if_pos (by omega)]
  · rw [if_neg small, if_neg (by omega)]
    rfl

theorem toNat_toUInt32 {n : Nat} (word : n < 0x100000000) : (Int32.ofNat n).toUInt32.toNat = n := by
  show (BitVec.ofNat 32 n).toNat = n
  rw [BitVec.toNat_ofNat]
  omega

theorem toNat_header_lt (payload : Buffer) :
    Bytes.toNat (payload.take payloadHeaderSize) < 0x100000000 := by
  have limits : ∀ width ≤ payloadHeaderSize, Bytes.limit width ≤ 0x100000000 := by decide
  have short : (payload.take payloadHeaderSize).length ≤ payloadHeaderSize := by
    rw [Buffer.take_eq]
    exact List.length_take_le _ _
  exact Nat.lt_of_lt_of_le (Bytes.toNat_lt _) (limits _ short)

theorem declaredSize_eq (payload : Buffer) :
    declaredSize payload = signed (Bytes.toNat (payload.take payloadHeaderSize)) :=
  toInt_toInt32 (toNat_header_lt payload)

theorem count_of_undeclared {h : Host} {bytes : Bytes} (undeclared : h.declared = none)
    (word : bytes.length < 0x100000000) :
    h.count bytes = Bytes.ofNat payloadHeaderSize bytes.length := by
  rw [Host.count, undeclared, Option.getD_none, toNat_toUInt32 word]

/-- What the host writes into a payload buffer is what the guest reads out of it, whatever
stood in either buffer, if the destination has room for it and its length is no negative
count. -/
theorem decodePayload_of_written {h : Host} {content : Buffer} {bytes : Bytes} (dest : Buffer)
    (undeclared : h.declared = none) (word : bytes.length < 0x100000000)
    (fits : payloadHeaderSize + bytes.length ≤ content.size) :
    decodePayload (content.blit 0 (h.count bytes ++ bytes)) dest =
      if bytes.length ≤ dest.size ∧ bytes.length < countLimit then
        .ok (bytes.length, dest.blit 0 bytes)
      else .error (.payloadSize (signed bytes.length)
        (min (content.size - payloadHeaderSize) dest.size)) := by
  have count := count_of_undeclared undeclared word
  have header : (h.count bytes).length = payloadHeaderSize := by
    rw [count, Bytes.length_ofNat]
  have whole : (h.count bytes ++ bytes).length ≤ content.size := by
    rwa [List.length_append, header]
  have head := Buffer.take_blit_front whole
  have tail := Buffer.take_drop_blit whole
  rw [header] at head tail
  have limit : Bytes.limit payloadHeaderSize = 0x100000000 := by decide
  have declared : declaredSize (content.blit 0 (h.count bytes ++ bytes)) = signed bytes.length := by
    rw [declaredSize_eq, head, count, Bytes.toNat_ofNat, limit, Nat.mod_eq_of_lt word]
  have size : (content.blit 0 (h.count bytes ++ bytes)).size = content.size :=
    Buffer.size_blit _ _ _
  have room : payloadHeaderSize ≤ (content.blit 0 (h.count bytes ++ bytes)).size := by
    rw [size]
    omega
  by_cases counted : bytes.length < countLimit
  · rw [signed_of_small counted] at declared
    by_cases taken : bytes.length ≤ dest.size
    · rw [if_pos ⟨taken, counted⟩, decodePayload_of_fits room declared (by rw [size]; omega), tail]
    · rw [if_neg fun both => taken both.1, decodePayload_of_misfit room, declared, size,
        signed_of_small counted]
      rw [declared, size]
      omega
  · have negative := signed_neg (Nat.le_of_not_lt counted) word
    rw [if_neg fun both => counted both.2,
      decodePayload_of_misfit room (.inl (by rw [declared]; exact negative)), declared, size]

end Agent

/-! ## What an acquire hands out -/

namespace Host

/-- The host after it counted an acquire: the first takes the snapshot, each later one
resumes from it. -/
def counted (h : Host) : Host :=
  if h.snapshots = 0 then { h with snapshots := 1 } else { h with resumes := h.resumes + 1 }

/-- The next input, as much of it as a payload buffer of this size has room for. -/
def nextInput (h : Host) (size : Nat) : Bytes :=
  (h.inputs.headD []).take (size - payloadHeaderSize)

theorem serve_userFastAcquire {h : Host} {addr : UInt64} (m : Memory) (arg : UInt64)
    (known : h.payload = some addr)
    (room : payloadHeaderSize ≤ h.config.payloadBufferSize.toNat) :
    h.serve m (.userFastAcquire arg) =
      let input := h.nextInput h.config.payloadBufferSize.toNat
      ({ h.counted with inputs := h.inputs.tail },
        m.modify addr fun buffer => buffer.blit 0 (h.count input ++ input)) := by
  by_cases first : h.snapshots = 0
  · simp only [serve, counted, if_pos first]
    exact deliver_eq (h := { h with snapshots := 1 }) known room
  · simp only [serve, counted, if_neg first]
    exact deliver_eq (h := { h with resumes := h.resumes + 1 }) known room

end Host

namespace Agent

open Vm

section

variable {agent known : Agent} {vm ready : Vm} {region : Region}

/-- Once the payload buffer is known, the host is as before but for its address. -/
theorem Readies.host (readies : Readies agent vm region known ready) (placed : Placed agent vm) :
    ready.host = { vm.host with payload := some region.addr } := by
  cases readies with
  | known payload =>
      have announced := (placed.payload region payload).1
      rw [← announced]
  | registered new sized mapped granted => rfl

/-- What a fast acquire does where the payload buffer is known: the host counts it and has
one input less, and the payload buffer holds the input that it had. -/
theorem fastAcquired_delivers (placed : Placed agent vm) (payload : agent.payload = some region)
    (room : payloadHeaderSize ≤ region.len) :
    let input := vm.host.nextInput region.len
    (agent.fastAcquired vm).host = { vm.host.counted with inputs := vm.host.inputs.tail } ∧
      ∃ content : Buffer, content.size = region.len ∧
        (agent.fastAcquired vm).memory.read region =
          content.blit 0 (vm.host.count input ++ input) := by
  obtain ⟨announced, ⟨content, found, size⟩, apart, len⟩ := placed.payload region payload
  have capacity : vm.host.config.payloadBufferSize.toNat = region.len := by
    rw [placed.config, len, maxInputSize]
  have known : (agent.submitted vm).host.payload = some region.addr := by
    rw [submitted_host, announced]
  have served := Host.serve_userFastAcquire (h := (agent.submitted vm).host)
    (agent.submitted vm).memory 0 known (by rw [submitted_host, capacity]; exact room)
  rw [submitted_host, submitted_memory, capacity] at served
  intro input
  constructor
  · show ((agent.submitted vm).host.serve (agent.submitted vm).memory (.userFastAcquire 0)).1 = _
    rw [submitted_host, submitted_memory, served]
  · refine ⟨content, size, ?_⟩
    show (((agent.submitted vm).host.serve (agent.submitted vm).memory
      (.userFastAcquire 0)).2.modify agent.trace.addr Buffer.mark).read region = _
    rw [submitted_host, submitted_memory, served]
    simp only [Memory.read]
    rw [Memory.region?_modify_ne _ _ apart, Memory.region?_modify_self, found]
    rfl

/-- What is read of the payload buffer once the host was asked is the input that it had next, if
the destination has room for it and its length is no negative count. -/
theorem Readies.delivers (readies : Readies agent vm region known ready) (placed : Placed agent vm)
    (undeclared : vm.host.declared = none) (room : payloadHeaderSize ≤ region.len)
    (dest : Buffer) :
    let input := vm.host.nextInput region.len
    let asked := known.fastAcquired (ready.held region.addr region.len)
    asked.host = { vm.host.counted with
      inputs := vm.host.inputs.tail, payload := some region.addr } ∧
      decodePayload (asked.memory.read region) dest =
        if input.length ≤ dest.size ∧ input.length < countLimit then
          .ok (input.length, dest.blit 0 input)
        else .error (.payloadSize (signed input.length)
          (min (region.len - payloadHeaderSize) dest.size)) := by
  intro input asked
  have locked := ready.settled_held region.addr region.len
  have held := (readies.placed placed).lasts locked.toLasts
  have host : (ready.held region.addr region.len).host =
      { vm.host with payload := some region.addr } := readies.host placed
  obtain ⟨counted, content, size, delivered⟩ := fastAcquired_delivers held readies.payload room
  have declared : (ready.held region.addr region.len).host.declared = none := by
    rw [host]
    exact undeclared
  have next : (ready.held region.addr region.len).host.nextInput region.len = input := by
    rw [host]
    rfl
  rw [next] at delivered
  rw [host] at counted
  constructor
  · refine counted.trans ?_
    unfold Host.counted
    split <;> rfl
  · have cut : input.length ≤ region.len - payloadHeaderSize := List.length_take_le _ _
    have own : region.len = known.maxInputSize := (held.payload region readies.payload).2.2.2
    have word := Guest.maxInputSize_lt known
    rw [← own, Memory.regionLimit] at word
    have read : asked.memory.read region = _ := delivered
    rw [read, decodePayload_of_written dest declared (by omega) (by omega), size]

end

end Agent

namespace Guest

open Agent Vm

/-- An acquire hands out the next input, as much of it as the payload buffer has room for,
at the start of the destination.  The host has one input less and counted the acquire. -/
theorem Granted.acquire_delivers {guest : Guest} {region : Region}
    (granted : guest.Granted region) (room : payloadHeaderSize ≤ region.len)
    (undeclared : guest.vm.host.declared = none)
    (short : (guest.vm.host.inputs.headD []).length < countLimit) {dest : Buffer}
    (sized : dest.size = region.len) :
    let input := guest.vm.host.nextInput region.len
    ∃ known ready, Readies guest.agent guest.vm region known ready ∧
      ((acquire dest).run guest.agent).run guest.vm =
        ((.ok (input.length, dest.blit 0 input), { known with state := .running }),
          known.acquiredIn region ready) ∧
      (known.acquiredIn region ready).host =
        { guest.vm.host.counted with
          inputs := guest.vm.host.inputs.tail, payload := some region.addr } := by
  obtain ⟨known, ready, readies, ran⟩ := granted.acquires dest
  obtain ⟨host, decoded⟩ := readies.delivers granted.placed undeclared room dest
  intro input
  refine ⟨known, ready, readies, ?_, host⟩
  have whole : input.length ≤ (guest.vm.host.inputs.headD []).length := List.length_take_le' _ _
  have cut : input.length ≤ region.len - payloadHeaderSize := List.length_take_le _ _
  have counted : input.length < countLimit := Nat.lt_of_le_of_lt whole short
  have taken : input.length ≤ dest.size := by omega
  rw [ran, decoded, if_pos ⟨taken, counted⟩]

end Guest

end Rewind
