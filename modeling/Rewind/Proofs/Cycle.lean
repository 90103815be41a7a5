/-
# Rewind.Proofs.Cycle -- the order of hypercalls where memory is granted

The first acquire of a run announces the payload buffer, submits the execution mode and
asks for an input; every later one asks only; a release asks for the rewind.  This holds
for acquires and releases in any order and with anything else between them, whether or
not an input arrives whole.  A host without a payload buffer is asked for nothing.

Main statements: `Guest.Granted.cycle_make` (one move), `Guest.Granted.cycle_play` (a
run), `Guest.cycle_of_moves` (the run of an agent from its handshake on).
-/
import Rewind.Proofs.Runs

namespace Rewind

set_option autoImplicit false

namespace Move

/-- The calls that turn the cycle in a run, given whether the payload buffer at `addr` is
known before it. -/
def cycleCalls (addr : UInt64) : Bool → List Move → List Call
  | _, [] => []
  | known, move :: rest =>
      if move.isAcquire then
        (if known then [.userFastAcquire 0]
          else [.getPayload addr, .userSubmitMode 0, .userFastAcquire 0]) ++
            cycleCalls addr true rest
      else if move.isRelease then .release 0 :: cycleCalls addr known rest
      else cycleCalls addr known rest

/-- Where a move leaves an agent in the cycle. -/
def stateAfter (state : Lifecycle) (move : Move) : Lifecycle :=
  if move.isAcquire then .running
  else if move.isRelease then .released
  else state

theorem cycleCalls_cons (addr : UInt64) (known : Bool) (move : Move) (rest : List Move) :
    cycleCalls addr known (move :: rest) =
      cycleCalls addr known [move] ++ cycleCalls addr (known || move.isAcquire) rest := by
  cases acquires : move.isAcquire with
  | true => simp [cycleCalls, acquires]
  | false =>
      cases releases : move.isRelease with
      | true => simp [cycleCalls, acquires, releases]
      | false => simp [cycleCalls, acquires, releases]

/-- Between two moves no agent has its buffer registered and its mode not submitted, and
none waits for an input. -/
theorem foldl_stateAfter (moves : List Move) {state : Lifecycle}
    (between : state ≠ .bufferRegistered ∧ state ≠ .snapshotPending) :
    moves.foldl stateAfter state ≠ .bufferRegistered ∧
      moves.foldl stateAfter state ≠ .snapshotPending := by
  induction moves generalizing state with
  | nil => exact between
  | cons move rest ih =>
      apply ih
      unfold stateAfter
      split
      · decide
      · split
        · decide
        · exact between

end Move

namespace Guest

open Agent Vm Move

section

variable {guest : Guest} {region : Region}

/-- What one move does to the cycle. -/
theorem Granted.cycle_make (granted : guest.Granted region)
    (moded : guest.agent.state ≠ .bufferRegistered) (move : Move) :
    let after := guest.make move
    after.vm.cycle =
        guest.vm.cycle ++ cycleCalls region.addr guest.agent.payload.isSome [move] ∧
      after.agent.state = stateAfter guest.agent.state move ∧
      after.agent.payload = if move.isAcquire then some region else guest.agent.payload := by
  rcases move.kinds with ⟨dest, rfl⟩ | rfl | ⟨acquires, releases⟩
  · obtain ⟨known, ready, readies, ran⟩ := granted.acquires dest
    rw [make_acquire, ran]
    refine ⟨?_, rfl, readies.payload⟩
    have made := readies.made.trans (known.made_acquiredIn region ready)
    rw [readies.calls moded] at made
    refine made.cycle.trans ?_
    cases guest.agent.payload with
    | none => rfl
    | some region => rfl
  · rw [make_release]
    exact ⟨(guest.agent.made_release guest.vm).cycle, rfl, rfl⟩
  · obtain ⟨⟨coverage, same⟩, -, calls, made, quiet⟩ := guest.make_aside acquires releases
    intro after
    refine ⟨?_, ?_, ?_⟩
    · rw [made.cycle, quiet, cycleCalls, acquires, releases]
      rfl
    · rw [same, stateAfter, acquires, releases]
      rfl
    · rw [same, acquires]
      rfl

/-- What a run does to the cycle. -/
theorem Granted.cycle_play (granted : guest.Granted region)
    (between : guest.agent.state ≠ .bufferRegistered ∧ guest.agent.state ≠ .snapshotPending)
    (moves : List Move) :
    let after := guest.play moves
    after.vm.cycle =
        guest.vm.cycle ++ cycleCalls region.addr guest.agent.payload.isSome moves ∧
      after.agent.state = moves.foldl stateAfter guest.agent.state ∧
      after.agent.payload =
        if moves.any Move.isAcquire then some region else guest.agent.payload := by
  induction moves generalizing guest with
  | nil => exact ⟨(List.append_nil _).symm, rfl, rfl⟩
  | cons move rest ih =>
      obtain ⟨cycle, state, payload⟩ := granted.cycle_make between.1 move
      have next : (guest.make move).agent.state ≠ .bufferRegistered ∧
          (guest.make move).agent.state ≠ .snapshotPending := by
        rw [state]
        exact foldl_stateAfter [move] between
      obtain ⟨cycleRest, stateRest, payloadRest⟩ := ih (granted.make move) next
      have known : (guest.make move).agent.payload.isSome =
          (guest.agent.payload.isSome || move.isAcquire) := by
        rw [payload]
        cases move.isAcquire <;> simp
      refine ⟨?_, ?_, ?_⟩
      · rw [play_cons, cycleRest, cycle, known, List.append_assoc, ← cycleCalls_cons]
      · rw [play_cons, stateRest, state, List.foldl_cons]
      · rw [play_cons, payloadRest, payload, List.any_cons]
        cases move.isAcquire <;> simp

/-! ## A host without a payload buffer -/

/-- The host has no payload buffer, and the guest mapped none. -/
structure Bare (guest : Guest) : Prop where
  empty : guest.agent.maxInputSize = 0
  new : guest.agent.payload = none

/-- Without a payload buffer an acquire does nothing. -/
theorem Bare.acquire_run (bare : guest.Bare) (dest : Buffer) :
    ((acquire dest).run guest.agent).run guest.vm =
      ((.error .emptyRegion, guest.agent), guest.vm) := by
  have not_ready {other : Region} {known : Agent} {ready : Vm} :
      ¬ Readies guest.agent guest.vm other known ready := by
    intro readies
    cases readies with
    | known payload =>
        rw [bare.new] at payload
        cases payload
    | registered new sized mapped lock => exact sized bare.empty
  obtain ⟨result, left, after, ran, ways⟩ := Agent.acquires guest.agent guest.vm dest
  rw [ran]
  cases ways with
  | unready new unready =>
      cases unready with
      | empty nothing => rfl
      | unmapped sized refused => exact absurd bare.empty sized
      | unlocked sized mapped refused => exact absurd bare.empty sized
  | unlocked readies refused => exact absurd readies not_ready
  | acquired readies lock => exact absurd readies not_ready

theorem Bare.make (bare : guest.Bare) (move : Move) : (guest.make move).Bare := by
  rcases move.kinds with ⟨dest, rfl⟩ | rfl | ⟨acquires, releases⟩
  · rw [make_acquire, bare.acquire_run]
    exact bare
  · rw [make_release]
    exact ⟨bare.empty, bare.new⟩
  · obtain ⟨coverage, same⟩ := (guest.make_aside acquires releases).agent
    constructor
    · rw [same]
      exact bare.empty
    · rw [same]
      exact bare.new

theorem Bare.play (bare : guest.Bare) (moves : List Move) : (guest.play moves).Bare := by
  induction moves generalizing guest with
  | nil => exact bare
  | cons move rest ih => exact ih (bare.make move)

end

/-! ## From the handshake on -/

/-- Every run of an agent from its handshake on, where the kernel grants every region and
every lock.  If the host has a payload buffer, there is one region such that any moves make
just the calls of `cycleCalls`, leave the agent where `stateAfter` says, and have inputs
delivered into that region.  If it has none, an acquire behind any moves fails and leaves
agent and machine as they were. -/
theorem cycle_of_moves {options : Options} {vm ready : Vm} {agent : Agent}
    (negotiated : (negotiate options).run vm = (.ok agent, ready))
    (grants : vm.memory.kernel.Grants) (room : vm.memory.HasRoom 2) :
    let size := vm.host.config.payloadBufferSize
    let start : Guest := ⟨agent, ready⟩
    (0 < size.toNat → ∃ region : Region, region.len = size.toNat ∧ ∀ moves,
      let now := start.play moves
      now.vm.cycle = vm.cycle ++ cycleCalls region.addr false moves ∧
      now.agent.state = moves.foldl stateAfter .negotiated ∧
      now.agent.state ≠ .bufferRegistered ∧ now.agent.state ≠ .snapshotPending ∧
      now.agent.payload = (if moves.any Move.isAcquire then some region else none) ∧
      (moves.any Move.isAcquire → now.vm.host.payload = some region.addr)) ∧
    (size.toNat = 0 → ∀ moves dest,
      let now := start.play moves
      ((acquire dest).run now.agent).run now.vm = ((.error .emptyRegion, now.agent), now.vm)) := by
  have met := negotiated_of_run negotiated
  have sized : agent.maxInputSize = vm.host.config.payloadBufferSize.toNat := by
    rw [maxInputSize, met.hostConfig]
  intro size start
  constructor
  · intro delivers
    have notEmpty : agent.maxInputSize ≠ 0 := by
      rw [sized]
      exact Nat.ne_of_gt delivers
    have granted := granted_of_negotiated met grants room notEmpty
    have between : agent.state ≠ .bufferRegistered ∧ agent.state ≠ .snapshotPending := by
      rw [met.state]
      decide
    refine ⟨⟨UInt64.ofNat ready.memory.next, agent.maxInputSize⟩, sized, ?_⟩
    intro moves now
    obtain ⟨cycle, state, payload⟩ := granted.cycle_play between moves
    rw [met.payload] at cycle payload
    rw [cycle_of_negotiated met] at cycle
    rw [met.state] at state
    have start : Lifecycle.negotiated ≠ .bufferRegistered ∧
        Lifecycle.negotiated ≠ .snapshotPending := by decide
    obtain ⟨registered, pending⟩ := foldl_stateAfter moves start
    refine ⟨cycle, state, ?_, ?_, payload, ?_⟩
    · rwa [state]
    · rwa [state]
    · intro acquired
      rw [if_pos acquired] at payload
      exact ((granted.play moves).placed.payload _ payload).1
  · intro nothing moves dest now
    have bare : start.Bare := ⟨sized.trans nothing, met.payload⟩
    exact (bare.play moves).acquire_run dest

theorem cycle_of_moves_released_first :
    let vm := Vm.fresh .ordinary .absent (Host.fresh (.compatible 0x40 0x100))
    ∃ agent ready, (negotiate .standard).run vm = (.ok agent, ready) ∧
      vm.memory.kernel.Grants ∧ vm.memory.HasRoom 2 ∧ ∃ addr,
        ((⟨agent, ready⟩ : Guest).play
          [.ask .release, .ask (.acquire (Buffer.zeros 0)), .ask (.print "again"),
            .ask (.acquire (Buffer.zeros 8))]).vm.cycle =
          [.release 0, .getPayload addr, .userSubmitMode 0, .userFastAcquire 0,
            .userFastAcquire 0] := by
  intro vm
  have grants : vm.memory.kernel.Grants := Kernel.ordinary_grants
  have room : vm.memory.HasRoom 2 := Memory.fresh_hasRoom .ordinary
  obtain ⟨agent, made, -⟩ :=
    negotiate_of_grants vm .standard grants (Memory.hasRoom_mono room (by decide)) rfl
  have negotiated : (negotiate .standard).run vm = (.ok agent, _) := Prod.ext made rfl
  obtain ⟨delivers, -⟩ := cycle_of_moves negotiated grants room
  obtain ⟨region, -, runs⟩ := delivers (by decide)
  refine ⟨agent, _, negotiated, grants, room, region.addr, ?_⟩
  exact (runs _).1

end Guest

end Rewind
