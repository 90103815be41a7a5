/-
# Rewind.Proofs.Decoding -- an input is copied out whole or not at all

The count in front of an input is the host's word: any four bytes may stand there, and the
highest of their bits is a sign.  `Agent.copyOut` is the decoding as it is carried out, on a
payload buffer and a destination that are changed in place.  Each range is taken on its own
account, and one that does not lie in its buffer is a fault.

No content of the payload buffer and no destination leads to a fault, and what comes of
`copyOut` is what `decodePayload` says (`Agent.copyOut_run`).

Main statements: `Agent.copiedOut` (every outcome, for all bytes that a host can write),
`Guest.acquire_of_asked` (what an acquire makes of the count that the host writes) and
`Guest.input_copied`.
-/
import Rewind.Proofs.Payload
import Rewind.Proofs.Saturation
import Rewind.Proofs.TraceBuffer

namespace Rewind

set_option autoImplicit false

namespace Buffer

/-- The bytes from `start` up to `stop`; nothing where that range is not in the buffer. -/
def slice? (b : Buffer) (start stop : Nat) : Option Bytes :=
  if start ≤ stop ∧ stop ≤ b.size then some ((b.drop start).take (stop - start)) else none

/-- The buffer with these bytes from `start` up to `stop`; nothing where that range is not
in the buffer or takes another number of bytes. -/
def fill? (b : Buffer) (start stop : Nat) (bytes : Bytes) : Option Buffer :=
  if start ≤ stop ∧ stop ≤ b.size ∧ bytes.length = stop - start then some (b.blit start bytes)
  else none

theorem slice?_eq_some {b : Buffer} {start stop : Nat} (ordered : start ≤ stop)
    (inside : stop ≤ b.size) : b.slice? start stop = some ((b.drop start).take (stop - start)) :=
  if_pos ⟨ordered, inside⟩

theorem slice?_eq_none {b : Buffer} {start stop : Nat} (outside : b.size < stop) :
    b.slice? start stop = none :=
  if_neg fun both => Nat.not_le_of_lt outside both.2

theorem slice?_zero {b : Buffer} {stop : Nat} (inside : stop ≤ b.size) :
    b.slice? 0 stop = some (b.take stop) := by
  rw [slice?_eq_some (Nat.zero_le stop) inside, take_eq, take_eq, toList_drop, List.drop_zero,
    Nat.sub_zero]

theorem fill?_eq_some {b : Buffer} {start stop : Nat} {bytes : Bytes} (ordered : start ≤ stop)
    (inside : stop ≤ b.size) (length : bytes.length = stop - start) :
    b.fill? start stop bytes = some (b.blit start bytes) :=
  if_pos ⟨ordered, inside, length⟩

@[simp] theorem length_take (b : Buffer) (n : Nat) : (b.take n).length = min n b.size := by
  rw [take_eq, List.length_take, length_toList]

end Buffer

namespace Agent

/-- A payload buffer and the destination of its input. -/
structure Buffers where
  payload : Buffer
  dest : Buffer

/-- Copy an input out of the payload buffer to the start of the destination.  The header and
the room behind it are asked for; every other range is taken, or it is a fault. -/
def copyOut : StateT Buffers Option (Except AgentError Nat) := do
  let payload := (← get).payload
  let room := if payloadHeaderSize ≤ payload.size then some (payload.size - payloadHeaderSize)
    else none
  match payload.slice? 0 payloadHeaderSize, room with
  | some header, some room =>
      let raw ← (Buffer.zeros payloadHeaderSize).fill? 0 payloadHeaderSize header
      let declared := (UInt32.ofNat (Bytes.toNat raw.toList)).toInt32.toInt
      let capacity := min room (← get).dest.size
      if declared < 0 ∨ capacity < declared.toNat then
        return .error (.payloadSize declared capacity)
      let len := declared.toNat
      let input ← payload.slice? payloadHeaderSize (payloadHeaderSize + len)
      let filled ← (← get).dest.fill? 0 len input
      modify fun buffers => { buffers with dest := filled }
      return .ok len
  | _, _ => return .error (.payloadHeader payload.size)

section

variable {payload : Buffer}

/-- The count is read from the four bytes that were copied out of the header. -/
theorem declaredSize_of_raw (room : payloadHeaderSize ≤ payload.size) :
    (UInt32.ofNat (Bytes.toNat ((Buffer.zeros payloadHeaderSize).blit 0
      (payload.take payloadHeaderSize)).toList)).toInt32.toInt = declaredSize payload := by
  have header :
      (payload.take payloadHeaderSize).length = (Buffer.zeros payloadHeaderSize).size := by
    rw [Buffer.length_take, Buffer.size_zeros]
    omega
  rw [Buffer.toList_blit_whole header, declaredSize]

theorem copyOut_of_short (dest : Buffer) (short : payload.size < payloadHeaderSize) :
    copyOut.run ⟨payload, dest⟩ =
      some (.error (.payloadHeader payload.size), ⟨payload, dest⟩) := by
  have header : payload.slice? 0 payloadHeaderSize = none := Buffer.slice?_eq_none short
  simp only [copyOut, StateT.run_bind, StateT.run_get, Option.pure_def, Option.bind_eq_bind,
    Option.bind_some, header]
  rfl

theorem copyOut_of_room (dest : Buffer) (room : payloadHeaderSize ≤ payload.size) :
    copyOut.run ⟨payload, dest⟩ =
      if declaredSize payload < 0 ∨
          min (payload.size - payloadHeaderSize) dest.size < (declaredSize payload).toNat then
        some (.error (.payloadSize (declaredSize payload)
          (min (payload.size - payloadHeaderSize) dest.size)), ⟨payload, dest⟩)
      else
        some (.ok (declaredSize payload).toNat, ⟨payload, dest.blit 0
          ((payload.drop payloadHeaderSize).take (declaredSize payload).toNat)⟩) := by
  have header := Buffer.slice?_zero room
  have raw : (Buffer.zeros payloadHeaderSize).fill? 0 payloadHeaderSize
      (payload.take payloadHeaderSize) = some ((Buffer.zeros payloadHeaderSize).blit 0
        (payload.take payloadHeaderSize)) :=
    Buffer.fill?_eq_some (Nat.zero_le _) (Nat.le_refl _)
      (by rw [Buffer.length_take, Nat.min_eq_left room, Nat.sub_zero])
  simp only [copyOut, StateT.run_bind, StateT.run_get, Option.pure_def, Option.bind_eq_bind,
    Option.bind_some, header, if_pos room, run_of_there raw, declaredSize_of_raw room]
  split
  · rfl
  · next fits =>
      have input : payload.slice? payloadHeaderSize
          (payloadHeaderSize + (declaredSize payload).toNat) = _ :=
        Buffer.slice?_eq_some (Nat.le_add_right _ _) (by omega)
      rw [Nat.add_sub_cancel_left] at input
      have filled : dest.fill? 0 (declaredSize payload).toNat
          ((payload.drop payloadHeaderSize).take (declaredSize payload).toNat) =
            some (dest.blit 0
              ((payload.drop payloadHeaderSize).take (declaredSize payload).toNat)) := by
        refine Buffer.fill?_eq_some (Nat.zero_le _) (by omega) ?_
        rw [Buffer.length_take]
        show min _ (payload.size - payloadHeaderSize) = _
        omega
      simp only [StateT.run_bind, StateT.run_get, Option.pure_def, Option.bind_eq_bind,
        Option.bind_some, run_of_there input, run_of_there filled]
      rfl

/-- Copying out comes to an end without a fault and as `decodePayload` has it, and leaves
the payload buffer alone. -/
theorem copyOut_run (payload dest : Buffer) :
    copyOut.run ⟨payload, dest⟩ =
      match decodePayload payload dest with
      | .ok (len, filled) => some (.ok len, ⟨payload, filled⟩)
      | .error error => some (.error error, ⟨payload, dest⟩) := by
  rcases payload_cases payload dest.size with short | ⟨room, n, len, fits⟩ | ⟨room, misfit⟩
  · rw [copyOut_of_short dest short, decodePayload_of_short dest short]
  · have taken : decodePayload payload dest = _ := decodePayload_of_fits room len fits
    rw [copyOut_of_room dest room, if_neg (by omega), taken, len, Int.toNat_natCast]
  · have refused : decodePayload payload dest = _ := decodePayload_of_misfit room misfit
    rw [copyOut_of_room dest room, if_pos (by omega), refused]

/-- What copying out comes to for every content of the payload buffer (`region`) and of the
destination (`before`): the result, and what the destination is `after`. -/
structure CopiedOut (region before : Bytes) (result : Except AgentError Nat) (after : Bytes) :
    Prop where
  headerless : region.length < 4 → result = .error (.payloadHeader region.length)
  taken_iff : 4 ≤ region.length →
    ((∃ n, result = .ok n) ↔ 0 ≤ signed (Bytes.toNat (region.take 4)) ∧
      signed (Bytes.toNat (region.take 4)) ≤ (min (region.length - 4) before.length : Nat))
  taken : ∀ n : Nat, result = .ok n → signed (Bytes.toNat (region.take 4)) = n ∧
    after = (region.drop 4).take n ++ before.drop n
  refused : 4 ≤ region.length → (∀ n, result ≠ .ok n) →
    result = .error (.payloadSize (signed (Bytes.toNat (region.take 4)))
      (min (region.length - 4) before.length))
  kept : (∀ n, result ≠ .ok n) → after = before

theorem copiedOut_of_short {region : Bytes} (before : Bytes) (short : region.length < 4) :
    CopiedOut region before (.error (.payloadHeader region.length)) before where
  headerless _ := rfl
  taken_iff room := absurd short (Nat.not_lt_of_le room)
  taken n same := by cases same
  refused room := absurd short (Nat.not_lt_of_le room)
  kept _ := rfl

theorem copiedOut_of_fits {region before : Bytes} {n : Nat} (room : 4 ≤ region.length)
    (count : signed (Bytes.toNat (region.take 4)) = n)
    (fits : n ≤ min (region.length - 4) before.length) :
    CopiedOut region before (.ok n) ((region.drop 4).take n ++ before.drop n) where
  headerless short := absurd short (Nat.not_lt_of_le room)
  taken_iff _ := by
    rw [count]
    exact iff_of_true ⟨n, rfl⟩ ⟨Int.natCast_nonneg n, Int.ofNat_le.mpr fits⟩
  taken m same := by
    obtain rfl := Except.ok.inj same
    exact ⟨count, rfl⟩
  refused _ none := absurd rfl (none n)
  kept none := absurd rfl (none n)

theorem copiedOut_of_misfit {region before : Bytes} (room : 4 ≤ region.length)
    (misfit : ¬ (0 ≤ signed (Bytes.toNat (region.take 4)) ∧
      signed (Bytes.toNat (region.take 4)) ≤ (min (region.length - 4) before.length : Nat))) :
    CopiedOut region before (.error (.payloadSize (signed (Bytes.toNat (region.take 4)))
      (min (region.length - 4) before.length))) before where
  headerless short := absurd short (Nat.not_lt_of_le room)
  taken_iff _ := by
    refine iff_of_false ?_ misfit
    rintro ⟨n, same⟩
    cases same
  taken n same := by cases same
  refused _ _ := rfl
  kept _ := rfl

theorem copiedOut (payload dest : Buffer) :
    ∃ result filled, copyOut.run ⟨payload, dest⟩ = some (result, ⟨payload, filled⟩) ∧
      decodePayload payload dest = result.map (fun n => (n, filled)) ∧
      CopiedOut payload.toList dest.toList result filled.toList := by
  have sizes := payload.length_toList
  have dests := dest.length_toList
  have declared : declaredSize payload = signed (Bytes.toNat (payload.toList.take 4)) := by
    rw [declaredSize_eq, Buffer.take_eq]
    rfl
  rw [copyOut_run]
  rcases payload_cases payload dest.size with short | ⟨room, n, len, fits⟩ | ⟨room, misfit⟩
  · refine ⟨_, dest, ?_, ?_, copiedOut_of_short _ (by rwa [sizes])⟩
    · rw [decodePayload_of_short dest short, sizes]
    · rw [decodePayload_of_short dest short, sizes]
      rfl
  · have taken : decodePayload payload dest = _ := decodePayload_of_fits room len fits
    have input : (payload.drop payloadHeaderSize).take n = (payload.toList.drop 4).take n := by
      rw [Buffer.take_eq, Buffer.toList_drop]
      rfl
    have whole : ((payload.toList.drop 4).take n).length = n := by
      rw [List.length_take, List.length_drop, sizes]
      show min n (payload.size - payloadHeaderSize) = n
      omega
    have filled : (dest.blit 0 ((payload.toList.drop 4).take n)).toList =
        (payload.toList.drop 4).take n ++ dest.toList.drop n := by
      rw [Buffer.toList_blit_front (by rw [whole]; omega), whole]
    refine ⟨.ok n, dest.blit 0 ((payload.toList.drop 4).take n), ?_, ?_, ?_⟩
    · rw [taken, input]
    · rw [taken, input]
      rfl
    · rw [filled]
      refine copiedOut_of_fits (by rwa [sizes]) (declared.symm.trans len) ?_
      rw [sizes, dests]
      exact fits
  · have refused : decodePayload payload dest = _ := decodePayload_of_misfit room misfit
    have misfits : ¬ (0 ≤ declaredSize payload ∧
        declaredSize payload ≤ (min (payload.size - payloadHeaderSize) dest.size : Nat)) := by
      omega
    rw [declared] at refused misfits
    refine ⟨_, dest, ?_, ?_, copiedOut_of_misfit (by rwa [sizes]) (by rwa [sizes, dests])⟩
    · rw [refused, sizes, dests]
      rfl
    · rw [refused, sizes, dests]
      rfl

end

end Agent

namespace Guest

open Agent Vm

/-- What an acquire comes to whose host delivers `n` bytes of an input and counts them, into
a destination and out of a payload buffer with this much room behind the count. -/
structure Received (input : Bytes) (n room : Nat) (dest : Buffer)
    (result : Except AgentError (Nat × Buffer)) : Prop where
  ok_iff : (∃ filled, result = .ok (n, filled)) ↔ n ≤ dest.size ∧ n < 0x80000000
  ok : ∀ len filled, result = .ok (len, filled) →
    len = n ∧ filled.toList = input.take n ++ dest.toList.drop n
  refused : (∀ len filled, result ≠ .ok (len, filled)) →
    result = .error (.payloadSize (signed n) (min room dest.size))
  negative : 0x80000000 ≤ n → signed n < 0

theorem received {input bytes : Bytes} {n room : Nat} {dest : Buffer} (cut : input.take n = bytes)
    (length : bytes.length = n) (word : n < 0x100000000) :
    Received input n room dest
      (if bytes.length ≤ dest.size ∧ bytes.length < countLimit then
        .ok (bytes.length, dest.blit 0 bytes)
      else .error (.payloadSize (signed bytes.length) (min room dest.size))) := by
  rw [length]
  by_cases fits : n ≤ dest.size ∧ n < countLimit
  · rw [if_pos fits]
    refine ⟨iff_of_true ⟨_, rfl⟩ fits, ?_, fun none => absurd rfl (none _ _), ?_⟩
    · intro len filled same
      obtain ⟨rfl, rfl⟩ := Prod.mk.inj (Except.ok.inj same)
      refine ⟨rfl, ?_⟩
      rw [Buffer.toList_blit_front (by rw [length]; exact fits.1), length, cut]
    · exact fun large => signed_neg large word
  · rw [if_neg fits]
    refine ⟨iff_of_false ?_ fits, ?_, fun _ => rfl, fun large => signed_neg large word⟩
    · rintro ⟨filled, same⟩
      cases same
    · intro len filled same
      cases same

section

variable {guest : Guest}

/-- An acquire that gets to ask the host receives the next input, as far as the payload
buffer holds it. -/
theorem received_of_asked (placed : Placed guest.agent guest.vm)
    (undeclared : guest.vm.host.declared = none) {room : Nat}
    (sized : guest.agent.maxInputSize = room) (counts : payloadHeaderSize ≤ room) {dest : Buffer}
    {calls : List Call}
    (made : guest.vm.Made (((acquire dest).run guest.agent).run guest.vm).2 calls)
    (asked : Asked calls) :
    Received (guest.vm.host.inputs.headD [])
      (min (guest.vm.host.inputs.headD []).length (room - payloadHeaderSize))
      (room - payloadHeaderSize) dest (((acquire dest).run guest.agent).run guest.vm).1.1 := by
  obtain ⟨result, left, after, ran, ways⟩ := Agent.acquires guest.agent guest.vm dest
  rw [ran] at made
  rw [ran]
  cases ways with
  | unready new unready =>
      have none : calls = [] := List.append_cancel_left (made.calls.symm.trans unready.made.calls)
      rw [none] at asked
      exact absurd asked not_asked_nil
  | @unlocked region known ready errno readies refused =>
      have announced := readies.made.trans (made_tried ready region.addr region.len)
      have same := List.append_cancel_left (made.calls.symm.trans announced.calls)
      rw [List.append_nil] at same
      rw [same] at asked
      exact absurd asked (not_asked_announcement _ _)
  | @acquired region known ready readies granted =>
      let input := guest.vm.host.nextInput room
      have len : region.len = room := by
        have size := ((readies.placed placed).payload region readies.payload).2.2.2
        cases readies <;> exact size.trans sized
      obtain ⟨-, decoded⟩ := readies.delivers placed undeclared (by rwa [len]) dest
      have whole : input.length =
          min (guest.vm.host.inputs.headD []).length (room - payloadHeaderSize) := by
        rw [Nat.min_comm]
        exact List.length_take
      have cut : (guest.vm.host.inputs.headD []).take
          (min (guest.vm.host.inputs.headD []).length (room - payloadHeaderSize)) = input := by
        show _ = (guest.vm.host.inputs.headD []).take (room - payloadHeaderSize)
        rw [List.take_eq_take_iff]
        omega
      have word := maxInputSize_lt guest.agent
      rw [sized, Memory.regionLimit] at word
      show Received _ _ _ dest (decodePayload
        ((known.fastAcquired (ready.held region.addr region.len)).memory.read region) dest)
      rw [decoded, len]
      exact received cut whole (by omega)

/-- Where memory is granted every acquire asks the host. -/
theorem Granted.asks {region : Region} (granted : guest.Granted region) (dest : Buffer) :
    ∃ calls, guest.vm.Made (((acquire dest).run guest.agent).run guest.vm).2 calls ∧
      Asked calls := by
  obtain ⟨known, ready, readies, ran⟩ := granted.acquires dest
  rw [ran]
  exact ⟨_, readies.made.trans (known.made_acquiredIn region ready), asked_question known _⟩

end

/-- Whatever the host wrote, an input is copied out whole or not at all, without a fault and
without a change to the payload buffer.  An acquire at any point of any run, on a host that
counts what it delivers, hands out the input if the destination has room for it and its
count is not negative; it gets to ask for an input wherever memory is granted. -/
theorem input_copied :
    (∀ payload dest : Buffer, ∃ result filled,
      copyOut.run ⟨payload, dest⟩ = some (result, ⟨payload, filled⟩) ∧
        decodePayload payload dest = result.map (fun n => (n, filled)) ∧
        CopiedOut payload.toList dest.toList result filled.toList) ∧
    ∀ (options : Options) (vm ready : Vm) (agent : Agent) (moves : List Move) (dest : Buffer),
      (negotiate options).run vm = (.ok agent, ready) →
      let size := vm.host.config.payloadBufferSize.toNat
      let guest := (⟨agent, ready⟩ : Guest).play moves
      let input := guest.vm.host.inputs.headD []
      let ran := ((acquire dest).run guest.agent).run guest.vm
      4 ≤ size → guest.vm.host.declared = none →
      (vm.memory.kernel.Grants → vm.memory.HasRoom 2 →
        ∃ calls, guest.vm.Made ran.2 calls ∧ Asked calls) ∧
      ∀ calls, guest.vm.Made ran.2 calls → Asked calls →
        Received input (min input.length (size - 4)) (size - 4) dest ran.1.1 := by
  refine ⟨copiedOut, ?_⟩
  intro options vm ready agent moves dest negotiated size guest input ran counts undeclared
  have met := negotiated_of_run negotiated
  have own : agent.maxInputSize = size := by
    rw [maxInputSize, met.hostConfig]
  have sized : guest.agent.maxInputSize = size := by
    rw [maxInputSize, play_hostConfig]
    exact own
  constructor
  · intro grants space
    have start := granted_of_negotiated met grants space (by omega)
    exact (start.play moves).asks dest
  · intro calls made asked
    exact received_of_asked (placed_play met.placed moves) undeclared sized counts made asked

/-- A machine whose payload buffer is as large as can be, under a kernel that refuses nothing. -/
def roomy : Vm := Vm.fresh .ordinary .absent (Host.fresh (.compatible 0x40 0xFFFFFFFF))

/-- An input of 2³¹ bytes is counted with a negative number, and refused. -/
theorem input_copied_overlong :
    ∃ (input : Bytes) (agent : Agent) (ready : Vm), input.length = 0x80000000 ∧
      (negotiate .standard).run roomy = (.ok agent, ready) ∧
      let guest := (⟨agent, ready⟩ : Guest).play [.outside (.push input)]
      (((acquire (Buffer.zeros 0x100)).run guest.agent).run guest.vm).1.1 =
        .error (.payloadSize (-0x80000000) 0x100) := by
  obtain ⟨input, length⟩ : ∃ input : Bytes, input.length = 0x80000000 :=
    ⟨List.replicate 0x80000000 0, List.length_replicate⟩
  have grants : roomy.memory.kernel.Grants := Kernel.ordinary_grants
  have space : roomy.memory.HasRoom 2 := Memory.fresh_hasRoom .ordinary
  obtain ⟨agent, made, -⟩ := negotiate_of_grants roomy .standard grants
    (Memory.hasRoom_mono space (by decide)) rfl
  have negotiated : (negotiate .standard).run roomy =
      (.ok agent, ((negotiate .standard).run roomy).2) := Prod.ext made rfl
  have host := (negotiated_of_run negotiated).host
  have undeclared : ((⟨agent, ((negotiate .standard).run roomy).2⟩ : Guest).play
      [.outside (.push input)]).vm.host.declared = none := by
    show ((negotiate .standard).run roomy).2.host.declared = none
    rw [host]
    rfl
  have queued : ((⟨agent, ((negotiate .standard).run roomy).2⟩ : Guest).play
      [.outside (.push input)]).vm.host.inputs.headD [] = input := by
    show (((negotiate .standard).run roomy).2.host.inputs ++ [input]).headD [] = input
    rw [host]
    rfl
  obtain ⟨asks, receives⟩ := input_copied.2 .standard roomy _ agent [.outside (.push input)]
    (Buffer.zeros 0x100) negotiated (by decide) undeclared
  obtain ⟨calls, made, asked⟩ := asks grants space
  have came := receives calls made asked
  have bounds : min input.length (roomy.host.config.payloadBufferSize.toNat - 4) = 0x80000000 := by
    rw [length]
    decide
  rw [queued, bounds] at came
  refine ⟨input, agent, _, length, negotiated, (came.refused ?_).trans rfl⟩
  intro len filled ok
  obtain ⟨rfl, -⟩ := came.ok len filled ok
  exact absurd (came.ok_iff.mp ⟨filled, ok⟩).1 (by decide)

end Guest

end Rewind
