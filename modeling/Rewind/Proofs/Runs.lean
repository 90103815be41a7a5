/-
# Rewind.Proofs.Runs -- whole runs of an agent, move by move

A move is something asked of an agent or something that comes from outside, and a run is
any list of them.  Four hypercalls turn the snapshot cycle (`Call.isCycle`); a move that
is neither an acquire nor a release makes none of them and leaves the agent as it was,
save for where its coverage comes from (`Guest.make_aside`).

`Guest.Granted` is the invariant of the runs in which no memory is refused: every acquire
is then delivered into the one payload buffer.

Main statements: `Guest.make_aside`, `Guest.play_agent` (what a run leaves of an agent),
`Guest.Granted.acquires`, `Guest.Granted.play` (the invariant holds behind every run).
-/
import Rewind.Proofs.Handshake

namespace Rewind

set_option autoImplicit false

namespace Call

/-- The call turns the snapshot cycle. -/
def isCycle : Call → Bool
  | getPayload _ | userSubmitMode _ | userFastAcquire _ | release _ => true
  | _ => false

end Call

namespace Vm

/-- The calls that turned the snapshot cycle, oldest first. -/
def cycle (vm : Vm) : List Call := vm.calls.filter Call.isCycle

theorem Made.cycle {before after : Vm} {calls : List Call} (made : before.Made after calls) :
    after.cycle = before.cycle ++ calls.filter Call.isCycle := by
  rw [Vm.cycle, Vm.cycle, made.calls, List.filter_append]

/-- What comes from outside calls nothing and leaves what lasts. -/
theorem stimulate_keeps {vm after : Vm} {stimulus : Stimulus}
    (stimulated : vm.stimulate stimulus = some after) :
    vm.Settled after ∧ vm.Made after [] := by
  cases stimulus with
  | push input =>
      obtain rfl := Option.some.inj stimulated
      exact ⟨⟨⟨rfl, rfl, rfl, rfl, fun _ held => held⟩, rfl⟩, made_of_history rfl⟩
  | declare count =>
      obtain rfl := Option.some.inj stimulated
      exact ⟨⟨⟨rfl, rfl, rfl, rfl, fun _ held => held⟩, rfl⟩, made_of_history rfl⟩
  | scribble bytes =>
      obtain ⟨memory, scribbled, rfl⟩ := Option.map_eq_some_iff.mp stimulated
      obtain ⟨config, -, rfl⟩ := Option.map_eq_some_iff.mp scribbled
      have written := vm.settled_changed ⟨config.traceBufferVaddr, 0⟩
        (f := fun trace => trace.blit 0 (bytes.take vm.host.config.traceSize))
        fun b => Buffer.size_blit b _ _
      exact ⟨written, made_of_history rfl⟩
  | globals values =>
      obtain rfl := Option.some.inj stimulated
      exact ⟨⟨⟨rfl, rfl, rfl, rfl, fun _ held => held⟩, rfl⟩, made_of_history rfl⟩

end Vm

/-- One move of a run: something is asked of the agent, or something comes from outside. -/
inductive Move
  | ask (operation : Agent.Operation)
  | outside (stimulus : Vm.Stimulus)

namespace Move

def isAcquire : Move → Bool
  | ask (.acquire _) => true
  | _ => false

def isRelease : Move → Bool
  | ask .release => true
  | _ => false

theorem kinds (move : Move) :
    (∃ dest, move = ask (.acquire dest)) ∨ move = ask .release ∨
      (move.isAcquire = false ∧ move.isRelease = false) := by
  cases move with
  | outside stimulus => exact .inr (.inr ⟨rfl, rfl⟩)
  | ask operation =>
      cases operation with
      | acquire dest => exact .inl ⟨dest, rfl⟩
      | release => exact .inr (.inl rfl)
      | _ => exact .inr (.inr ⟨rfl, rfl⟩)

end Move

/-- An agent and the machine it runs on. -/
structure Guest where
  agent : Agent
  vm : Vm

namespace Guest

open Agent Vm

/-- What a move makes of a guest.  What cannot come from outside changes nothing. -/
def make (guest : Guest) : Move → Guest
  | .ask operation =>
      let ran := ((perform operation).run guest.agent).run guest.vm
      ⟨ran.1.2, ran.2⟩
  | .outside stimulus => ⟨guest.agent, (guest.vm.stimulate stimulus).getD guest.vm⟩

/-- What a run makes of a guest. -/
def play (guest : Guest) (moves : List Move) : Guest := moves.foldl make guest

@[simp] theorem play_nil (guest : Guest) : guest.play [] = guest := rfl

@[simp] theorem play_cons (guest : Guest) (move : Move) (rest : List Move) :
    guest.play (move :: rest) = (guest.make move).play rest := rfl

/-! ## One move -/

theorem make_acquire (guest : Guest) (dest : Buffer) :
    guest.make (.ask (.acquire dest)) =
      let ran := ((acquire dest).run guest.agent).run guest.vm
      ⟨ran.1.2, ran.2⟩ := by
  simp only [make, perform, stacked_bind_run]
  cases (((acquire dest).run guest.agent).run guest.vm).1.1 with
  | error error => rfl
  | ok delivered => rfl

theorem make_release (guest : Guest) :
    guest.make (.ask .release) =
      ⟨{ guest.agent with state := .released },
        (guest.agent.bridged guest.vm).serve (.release 0)⟩ := by
  simp only [make, perform, stacked_bind_run, release_run, stacked_pure_run]

/-- A move that is neither an acquire nor a release leaves the cycle where it is. -/
structure Aside (guest after : Guest) : Prop where
  agent : ∃ coverage, after.agent = { guest.agent with coverage := coverage }
  settled : guest.vm.Settled after.vm
  calls : ∃ calls, guest.vm.Made after.vm calls ∧ calls.filter Call.isCycle = []

theorem Aside.trans {a b c : Guest} (first : a.Aside b) (second : b.Aside c) : a.Aside c where
  agent := by
    obtain ⟨coverage, changed⟩ := first.agent
    obtain ⟨last, changedLast⟩ := second.agent
    exact ⟨last, by rw [changedLast, changed]⟩
  settled := first.settled.trans second.settled
  calls := by
    obtain ⟨early, made, quiet⟩ := first.calls
    obtain ⟨late, madeLate, quietLate⟩ := second.calls
    exact ⟨early ++ late, made.trans madeLate, by rw [List.filter_append, quiet, quietLate]; rfl⟩

/-- Storing bytes does not turn the cycle. -/
theorem uploads_quiet {vm after : Vm} {name : Bytes} {data : Slice} {append : Bool}
    {result : Except AgentError Unit} (uploads : Uploads name data append vm result after) :
    ∃ calls, vm.Made after calls ∧ calls.filter Call.isCycle = [] := by
  cases uploads with
  | empty nothing => exact ⟨[], .refl _, rfl⟩
  | unlocked sized refused => exact ⟨[], made_tried _ _ _, rfl⟩
  | stored sized granted =>
      have stored := (Uploads.stored sized granted : Uploads name data append _ _ _)
      exact ⟨_, (stored.stored_of_granted sized granted).2, rfl⟩

theorem aside_of_uploads {guest : Guest} {after : Vm} {name : Bytes} {data : Slice}
    {append : Bool} {result : Except AgentError Unit}
    (uploads : Uploads name data append guest.vm result after) :
    guest.Aside ⟨guest.agent, after⟩ :=
  ⟨⟨guest.agent.coverage, rfl⟩, uploads.settled, uploads_quiet uploads⟩

theorem make_aside (guest : Guest) {move : Move} (acquires : move.isAcquire = false)
    (releases : move.isRelease = false) : guest.Aside (guest.make move) := by
  have coverage : ∃ coverage, guest.agent = { guest.agent with coverage := coverage } :=
    ⟨guest.agent.coverage, rfl⟩
  cases move with
  | outside stimulus =>
      cases stimulated : guest.vm.stimulate stimulus with
      | none =>
          simp only [make, stimulated]
          exact ⟨coverage, .refl _, [], .refl _, rfl⟩
      | some after =>
          obtain ⟨settled, made⟩ := stimulate_keeps stimulated
          simp only [make, stimulated]
          exact ⟨coverage, settled, [], made, rfl⟩
  | ask operation =>
      cases operation with
      | acquire dest => cases acquires
      | release => cases releases
      | print text =>
          have printed := guest.vm.settled_serve (.printf (hostText text))
            (by intro same; cases same) (by intro same; cases same)
          exact ⟨coverage, printed, _, made_serve _ _, rfl⟩
      | setCoverage map => exact ⟨⟨some map, rfl⟩, .refl _, [], .refl _, rfl⟩
      | uploadFile name data append => exact aside_of_uploads (uploads name data append guest.vm)
      | uploadDictionary data =>
          let logged := guest.vm.append (.logged ⟨.info, "uploading " ++
            Text.hex data.content.size ++ " bytes of auto-dictionary"⟩)
          have noted : guest.Aside ⟨guest.agent, logged⟩ :=
            ⟨coverage, settled_append _ _, [], made_append _ rfl, rfl⟩
          let sent := (uploadFile (Utf8.ofString dictionaryFile) data true).run logged
          have stored : (⟨guest.agent, logged⟩ : Guest).Aside ⟨guest.agent, sent.2⟩ :=
            aside_of_uploads (uploads (Utf8.ofString dictionaryFile) data true logged)
          exact noted.trans stored

/-- A move changes of an agent its state, its payload buffer and its coverage, and nothing
else. -/
theorem make_agent (guest : Guest) (move : Move) :
    ∃ state payload coverage, (guest.make move).agent =
      { guest.agent with state := state, payload := payload, coverage := coverage } := by
  rcases move.kinds with ⟨dest, rfl⟩ | rfl | ⟨acquires, releases⟩
  · obtain ⟨result, left, after, ran, ways⟩ := Agent.acquires guest.agent guest.vm dest
    rw [make_acquire, ran]
    cases ways with
    | unready new unready => exact ⟨_, _, _, rfl⟩
    | unlocked readies refused => cases readies <;> exact ⟨_, _, _, rfl⟩
    | acquired readies granted => cases readies <;> exact ⟨_, _, _, rfl⟩
  · rw [make_release]
    exact ⟨_, _, _, rfl⟩
  · obtain ⟨⟨coverage, changed⟩, -⟩ := guest.make_aside acquires releases
    exact ⟨_, _, coverage, changed⟩

theorem play_agent (guest : Guest) (moves : List Move) :
    ∃ state payload coverage, (guest.play moves).agent =
      { guest.agent with state := state, payload := payload, coverage := coverage } := by
  induction moves generalizing guest with
  | nil => exact ⟨_, _, _, rfl⟩
  | cons move rest ih =>
      obtain ⟨_, _, _, changed⟩ := guest.make_agent move
      obtain ⟨state, payload, coverage, later⟩ := ih (guest.make move)
      rw [changed] at later
      exact ⟨state, payload, coverage, later⟩

/-- What the host said it can do is remembered for good. -/
theorem play_hostConfig (guest : Guest) (moves : List Move) :
    (guest.play moves).agent.hostConfig = guest.agent.hostConfig := by
  obtain ⟨_, _, _, changed⟩ := guest.play_agent moves
  rw [changed]

/-- No handshake turns the cycle. -/
theorem cycle_of_negotiated {options : Options} {vm ready : Vm} {agent : Agent}
    (negotiated : Negotiated options vm agent ready) : ready.cycle = vm.cycle := by
  obtain ⟨memory, -, rfl⟩ := negotiated.mapped
  have met := vm.made_introduced agent.trace memory options
  rcases seeded_cases vm agent.trace memory options with ⟨-, sent⟩ |
      ⟨data, told, -, -, -, made, uploads⟩
  · rw [sent, met.cycle]
    exact List.append_nil _
  · obtain ⟨calls, stored, quiet⟩ := uploads_quiet uploads
    rw [((met.trans made).trans stored).cycle, List.filter_append, quiet]
    exact List.append_nil _

/-! ## Runs in which no memory is refused -/

/-- Memory is granted, and inputs arrive in this payload buffer or will. -/
structure Granted (guest : Guest) (region : Region) : Prop where
  placed : Placed guest.agent guest.vm
  grants : guest.vm.memory.kernel.Grants
  sized : guest.agent.maxInputSize = region.len
  notEmpty : region.len ≠ 0
  payload : guest.agent.payload = some region ∨ guest.agent.payload = none ∧
    guest.vm.memory.HasRoom 1 ∧ region.addr = UInt64.ofNat guest.vm.memory.next

section

variable {guest : Guest} {region : Region}

/-- No host asks for a payload buffer that takes more than a region may. -/
theorem maxInputSize_lt (agent : Agent) : agent.maxInputSize < Memory.regionLimit := by
  have small := agent.hostConfig.payloadBufferSize.toNat_lt
  simp only [maxInputSize, Memory.regionLimit]
  omega

/-- A payload buffer that is still to come is mapped where it is expected. -/
theorem Granted.mapped (granted : guest.Granted region) (new : guest.agent.payload = none) :
    ∃ memory, guest.vm.memory.map guest.agent.maxInputSize = (.ok region, memory) := by
  rcases granted.payload with known | ⟨-, room, place⟩
  · rw [known] at new
    cases new
  · obtain ⟨memory, mapped, -⟩ := Memory.map_of_grants granted.grants room
      (maxInputSize_lt guest.agent)
    refine ⟨memory, ?_⟩
    rw [mapped, granted.sized, ← place]

/-- There is but one payload buffer. -/
theorem Granted.region_eq {other : Region} {known : Agent} {ready : Vm}
    (granted : guest.Granted region)
    (readies : Readies guest.agent guest.vm other known ready) : other = region := by
  cases readies with
  | known payload =>
      rcases granted.payload with same | ⟨new, -, -⟩
      · exact Option.some.inj (payload.symm.trans same)
      · rw [payload] at new
        cases new
  | registered new sized mapped lock =>
      obtain ⟨memory, expected⟩ := granted.mapped new
      rw [expected] at mapped
      exact (Except.ok.inj (Prod.mk.inj mapped).1).symm

theorem Granted.not_unready {error : AgentError} {after : Vm} (granted : guest.Granted region)
    (new : guest.agent.payload = none) : ¬ Unready guest.agent guest.vm error after := by
  obtain ⟨memory, expected⟩ := granted.mapped new
  intro unready
  cases unready with
  | empty nothing => exact granted.notEmpty (granted.sized.symm.trans nothing)
  | unmapped sized refused =>
      rw [expected] at refused
      cases refused
  | unlocked sized mapped refused =>
      have grants : (guest.vm.memory.map guest.agent.maxInputSize).2.kernel.Grants := by
        rw [Memory.kernel_map]
        exact granted.grants
      rw [mapped] at grants
      have held := Memory.isResident_of_holds (Memory.holds_new mapped)
      rw [Memory.lock_of_grants grants held] at refused
      cases refused

/-- Every acquire asks the host, and what arrives in the payload buffer decides about
its result. -/
theorem Granted.acquires (granted : guest.Granted region) (dest : Buffer) :
    ∃ known ready, Readies guest.agent guest.vm region known ready ∧
      ((acquire dest).run guest.agent).run guest.vm =
        ((decodePayload ((known.fastAcquired (ready.held region.addr region.len)).memory.read
            region) dest, { known with state := .running }), known.acquiredIn region ready) := by
  obtain ⟨result, left, after, ran, ways⟩ := Agent.acquires guest.agent guest.vm dest
  rw [ran]
  cases ways with
  | unready new unready => exact absurd unready (granted.not_unready new)
  | @unlocked _ known ready errno readies refused =>
      obtain rfl := granted.region_eq readies
      have held := ((readies.placed granted.placed).payload _ readies.payload).2.1
      have grants : ready.memory.kernel.Grants := by
        rw [readies.kernel]
        exact granted.grants
      rw [Memory.lock_of_grants grants (Memory.isResident_of_holds held)] at refused
      cases refused
  | @acquired _ known ready readies lock =>
      obtain rfl := granted.region_eq readies
      exact ⟨known, ready, readies, rfl⟩

/-- The invariant is one of agents in any state, whatever coverage they bridge. -/
theorem Granted.keeps {vm : Vm} (granted : guest.Granted region) (settled : guest.vm.Settled vm)
    (state : Lifecycle) (coverage : Option CoverageMap) :
    (⟨{ guest.agent with state := state, coverage := coverage }, vm⟩ : Guest).Granted region := by
  have placed := granted.placed.lasts settled.toLasts
  constructor
  · exact ⟨placed.config, placed.listens, placed.trace, placed.payload⟩
  · show vm.memory.kernel.Grants
    rw [settled.kernel]
    exact granted.grants
  · exact granted.sized
  · exact granted.notEmpty
  · show _ ∨ _ ∧ vm.memory.HasRoom 1 ∧ region.addr = UInt64.ofNat vm.memory.next
    rw [Memory.HasRoom, settled.next]
    exact granted.payload

theorem Granted.readies {known : Agent} {ready : Vm} (granted : guest.Granted region)
    (readies : Readies guest.agent guest.vm region known ready) :
    (⟨known, ready⟩ : Guest).Granted region := by
  have placed := readies.placed granted.placed
  refine ⟨placed, ?_, ?_, granted.notEmpty, .inl readies.payload⟩
  · show ready.memory.kernel.Grants
    rw [readies.kernel]
    exact granted.grants
  · exact (placed.payload region readies.payload).2.2.2.symm

/-- A handshake leads to such runs where there is room for both buffers. -/
theorem granted_of_negotiated {options : Options} {vm ready : Vm} {agent : Agent}
    (negotiated : Negotiated options vm agent ready) (grants : vm.memory.kernel.Grants)
    (room : vm.memory.HasRoom 2) (sized : agent.maxInputSize ≠ 0) :
    (⟨agent, ready⟩ : Guest).Granted
      ⟨UInt64.ofNat ready.memory.next, agent.maxInputSize⟩ where
  placed := negotiated.placed
  grants := by
    show ready.memory.kernel.Grants
    rw [negotiated.kernel]
    exact grants
  sized := rfl
  notEmpty := sized
  payload := .inr ⟨negotiated.payload, negotiated.hasRoom grants room, rfl⟩

theorem Granted.make (granted : guest.Granted region) (move : Move) :
    (guest.make move).Granted region := by
  rcases move.kinds with ⟨dest, rfl⟩ | rfl | ⟨acquires, releases⟩
  · obtain ⟨known, ready, readies, ran⟩ := granted.acquires dest
    rw [make_acquire, ran]
    exact (granted.readies readies).keeps (known.settled_acquiredIn region ready) _ _
  · rw [make_release]
    exact granted.keeps (guest.agent.settled_release guest.vm) _ _
  · obtain ⟨⟨coverage, same⟩, settled, -⟩ := guest.make_aside acquires releases
    have kept := granted.keeps settled guest.agent.state coverage
    rwa [← same] at kept

theorem Granted.play (granted : guest.Granted region) (moves : List Move) :
    (guest.play moves).Granted region := by
  induction moves generalizing guest with
  | nil => exact granted
  | cons move rest ih => exact ih (granted.make move)

end

end Guest

end Rewind
