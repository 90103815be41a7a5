/-
# Rewind.Proofs.Operations -- everything an agent can do, case by case

For each operation of an agent: how it can come out, and which agent and machine it
leaves.  `Agent.Readies` says how the payload buffer comes to be known,
`Agent.Unready` why it does not, and `Agent.Acquires` puts the two into the three ways
an acquire can go: the buffer is not to be had, its lock is refused, or the host is
asked and what it delivered is decoded.  What is proved of an agent goes through these.

`Agent.Placed` ties an agent to its machine: the host reads the agent's trace buffer
and writes into its payload buffer, and both are mapped.

Main statements: `Agent.acquires` (every acquire is one of the three),
`Agent.release_run`, `Agent.uploads` and `Agent.Placed.acquires`.
-/
import Rewind.Proofs.Actions

namespace Rewind

set_option autoImplicit false

namespace Vm

/-- The machine after the host was told of a payload buffer. -/
def announced (vm : Vm) (region : Region) : Vm :=
  ((vm.held region.addr region.len).serve (.getPayload region.addr)).freed region.addr region.len

/-- The machine after a payload buffer was registered. -/
def registered (vm : Vm) (region : Region) : Vm :=
  (vm.announced region).append (.logged ⟨.info, "[init] payload buffer is mapped at " ++
    Text.hex region.addr.toNat ++ " (size: " ++ Text.hex region.len ++ ")"⟩)

theorem made_registered (vm : Vm) (region : Region) :
    vm.Made (vm.registered region) [.getPayload region.addr] := by
  have locked := vm.made_held region.addr region.len
  have told := made_serve (vm.held region.addr region.len) (.getPayload region.addr)
  have unlocked := made_freed ((vm.held region.addr region.len).serve (.getPayload region.addr))
    region.addr region.len
  exact ((locked.trans told).trans unlocked).trans (made_append _ rfl)

end Vm

namespace Agent

open Vm

/-- An agent is in place: host and memory are as the agent has them. -/
structure Placed (agent : Agent) (vm : Vm) : Prop where
  config : vm.host.config = agent.hostConfig
  listens : vm.host.agentConfig = some (declaration agent.trace)
  trace : vm.memory.Holds agent.trace
  payload : ∀ region, agent.payload = some region →
    vm.host.payload = some region.addr ∧ vm.memory.Holds region ∧
      region.addr ≠ agent.trace.addr ∧ region.len = agent.maxInputSize

/-! ## The payload buffer -/

/-- The payload buffer comes to be known: it was, or it is mapped and announced. -/
inductive Readies (agent : Agent) (vm : Vm) : Region → Agent → Vm → Prop
  | known {region : Region} (payload : agent.payload = some region) :
      Readies agent vm region agent vm
  | registered {region : Region} {memory : Memory} (new : agent.payload = none)
      (sized : agent.maxInputSize ≠ 0)
      (mapped : vm.memory.map agent.maxInputSize = (.ok region, memory))
      (granted : (memory.lock region.addr region.len).1 = none) :
      Readies agent vm region { agent with payload := some region, state := .bufferRegistered }
        (({ vm with memory := memory } : Vm).registered region)

/-- The payload buffer is not to be had: it would be empty, or the kernel refuses. -/
inductive Unready (agent : Agent) (vm : Vm) : AgentError → Vm → Prop
  | empty (nothing : agent.maxInputSize = 0) : Unready agent vm .emptyRegion vm
  | unmapped {errno : Errno} {memory : Memory} (sized : agent.maxInputSize ≠ 0)
      (refused : vm.memory.map agent.maxInputSize = (.error errno, memory)) :
      Unready agent vm (.map agent.maxInputSize errno) { vm with memory := memory }
  | unlocked {region : Region} {memory : Memory} {errno : Errno} (sized : agent.maxInputSize ≠ 0)
      (mapped : vm.memory.map agent.maxInputSize = (.ok region, memory))
      (refused : (memory.lock region.addr region.len).1 = some errno) :
      Unready agent vm (.pin region.addr region.len errno)
        (({ vm with memory := memory } : Vm).tried region.addr region.len)

theorem registerPayload_cases (agent : Agent) (vm : Vm) (new : agent.payload = none) :
    (∃ error after, Unready agent vm error after ∧
      (registerPayload.run agent).run vm = ((.error error, agent), after)) ∨
    (∃ region known after, Readies agent vm region known after ∧
      (registerPayload.run agent).run vm = ((.ok region, known), after)) := by
  by_cases nothing : agent.maxInputSize = 0
  · refine .inl ⟨_, _, .empty nothing, ?_⟩
    simp only [registerPayload, stacked_bind_run, stacked_get_run, stacked_lift_run, nothing,
      map_run_of_empty]
    rfl
  · cases mapped : vm.memory.map agent.maxInputSize with
    | mk result memory =>
        cases result with
        | error errno =>
            refine .inl ⟨_, _, .unmapped nothing mapped, ?_⟩
            simp only [registerPayload, stacked_bind_run, stacked_get_run, stacked_lift_run,
              map_run_of_refused nothing mapped]
            rfl
        | ok region =>
            cases lock : (memory.lock region.addr region.len).1 with
            | some errno =>
                refine .inl ⟨_, _, .unlocked nothing mapped lock, ?_⟩
                simp only [registerPayload, stacked_bind_run, stacked_get_run, stacked_lift_run,
                  map_run_of_granted nothing mapped]
                rw [whileLocked_agent_of_refused _ _ lock]
                rfl
            | none =>
                refine .inr ⟨_, _, _, .registered new nothing mapped lock, ?_⟩
                simp only [registerPayload, stacked_bind_run, stacked_get_run, stacked_lift_run,
                  map_run_of_granted nothing mapped]
                rw [whileLocked_agent_of_granted _ _ lock]
                rfl

theorem payloadRegion_cases (agent : Agent) (vm : Vm) :
    (agent.payload = none ∧ ∃ error after, Unready agent vm error after ∧
      (payloadRegion.run agent).run vm = ((.error error, agent), after)) ∨
    (∃ region known after, Readies agent vm region known after ∧
      (payloadRegion.run agent).run vm = ((.ok region, known), after)) := by
  simp only [payloadRegion, stacked_bind_run, stacked_get_run]
  cases payload : agent.payload with
  | some region => exact .inr ⟨region, agent, vm, .known payload, rfl⟩
  | none =>
      rcases registerPayload_cases agent vm payload with refused | registered
      · exact .inl ⟨rfl, refused⟩
      · exact .inr registered

/-! ## Acquiring -/

/-- The machine after the execution mode was submitted, where that was still to be done. -/
def submitted (agent : Agent) (vm : Vm) : Vm :=
  if agent.state = .bufferRegistered then vm.serve (.userSubmitMode mode64) else vm

/-- The machine after a fast acquire, with the mark of life in the trace buffer. -/
def fastAcquired (agent : Agent) (vm : Vm) : Vm :=
  ((agent.submitted vm).serve (.userFastAcquire 0)).changed agent.trace Buffer.mark

/-- The machine after an acquire into a payload buffer that is known. -/
def acquiredIn (agent : Agent) (region : Region) (vm : Vm) : Vm :=
  (agent.fastAcquired (vm.held region.addr region.len)).freed region.addr region.len

/-- The ways an acquire can go: its result, and the agent and the machine behind it. -/
inductive Acquires (agent : Agent) (vm : Vm) (dest : Buffer) :
    Except AgentError (Nat × Buffer) → Agent → Vm → Prop
  | unready {error : AgentError} {after : Vm} (new : agent.payload = none)
      (unready : Unready agent vm error after) : Acquires agent vm dest (.error error) agent after
  | unlocked {region : Region} {known : Agent} {after : Vm} {errno : Errno}
      (readies : Readies agent vm region known after)
      (refused : (after.memory.lock region.addr region.len).1 = some errno) :
      Acquires agent vm dest (.error (.pin region.addr region.len errno)) known
        (after.tried region.addr region.len)
  | acquired {region : Region} {known : Agent} {after : Vm}
      (readies : Readies agent vm region known after)
      (granted : (after.memory.lock region.addr region.len).1 = none) :
      Acquires agent vm dest
        (decodePayload
          ((known.fastAcquired (after.held region.addr region.len)).memory.read region) dest)
        { known with state := .running } (known.acquiredIn region after)

theorem fastAcquire_run (agent : Agent) (vm : Vm) :
    (fastAcquire.run agent).run vm =
      (((), { agent with state := .running }), agent.fastAcquired vm) := by
  obtain ⟨hostConfig, state, trace, payload, coverage⟩ := agent
  cases state <;> rfl

/-- Every acquire goes one of the ways. -/
theorem acquires (agent : Agent) (vm : Vm) (dest : Buffer) :
    ∃ result left after, ((acquire dest).run agent).run vm = ((result, left), after) ∧
      Acquires agent vm dest result left after := by
  rcases payloadRegion_cases agent vm with ⟨new, error, after, unready, ran⟩ |
      ⟨region, known, after, readies, ran⟩
  · refine ⟨_, _, _, ?_, .unready new unready⟩
    simp only [acquire, stacked_bind_run, ran]
    rfl
  · cases lock : (after.memory.lock region.addr region.len).1 with
    | some errno =>
        refine ⟨_, _, _, ?_, .unlocked readies lock⟩
        simp only [acquire, stacked_bind_run, ran]
        exact whileLocked_agent_of_refused _ _ lock
    | none =>
        refine ⟨_, _, _, ?_, .acquired readies lock⟩
        simp only [acquire, stacked_bind_run, ran]
        rw [whileLocked_agent_of_granted _ _ lock]
        simp only [stacked_bind_run, fastAcquire_run, stacked_lift_run, read_run, stacked_pure_run]
        rfl

/-! ## Releasing, and what leaves the cycle alone -/

/-- The machine with the coverage in the trace buffer, if it is bridged. -/
def bridged (agent : Agent) (vm : Vm) : Vm :=
  match agent.coverage with
  | some coverage =>
      vm.changed agent.trace fun trace => (coverage.bridge vm.instrumentation trace).mark
  | none => vm

theorem release_run (agent : Agent) (vm : Vm) :
    (release.run agent).run vm =
      (((), { agent with state := .released }), (agent.bridged vm).serve (.release 0)) := by
  obtain ⟨hostConfig, state, trace, payload, coverage⟩ := agent
  cases coverage with
  | some coverage => rfl
  | none => rfl

/-- The ways of storing bytes on the host. -/
inductive Uploads (name : Bytes) (data : Slice) (append : Bool) (vm : Vm) :
    Except AgentError Unit → Vm → Prop
  | empty (nothing : data.content.size = 0) : Uploads name data append vm (.ok ()) vm
  | unlocked {errno : Errno} (sized : data.content.size ≠ 0)
      (refused : (vm.memory.lock data.addr data.content.size).1 = some errno) :
      Uploads name data append vm (.error (.pin data.addr data.content.size errno))
        (vm.tried data.addr data.content.size)
  | stored (sized : data.content.size ≠ 0)
      (granted : (vm.memory.lock data.addr data.content.size).1 = none) :
      Uploads name data append vm (.ok ())
        (((vm.held data.addr data.content.size).serve
          (.dumpFile (name.takeWhile (· != 0)) data.addr data.content append.toUInt8)).freed
            data.addr data.content.size)

theorem uploads (name : Bytes) (data : Slice) (append : Bool) (vm : Vm) :
    let ran := (uploadFile name data append).run vm
    Uploads name data append vm ran.1 ran.2 := by
  by_cases nothing : data.content.size = 0
  · simp only [uploadFile, if_pos nothing, pure_run]
    exact .empty nothing
  · simp only [uploadFile, if_neg nothing]
    cases lock : (vm.memory.lock data.addr data.content.size).1 with
    | some errno =>
        rw [whileLocked_of_refused _ lock]
        exact .unlocked nothing lock
    | none =>
        rw [whileLocked_of_granted _ lock]
        exact .stored nothing lock

/-! ## Host and memory stay as the agent has them -/

section

variable {agent : Agent} {vm after : Vm}

theorem Placed.lasts (placed : Placed agent vm) (lasts : vm.Lasts after) : Placed agent after where
  config := lasts.config.trans placed.config
  listens := lasts.agentConfig.trans placed.listens
  trace := lasts.holds _ placed.trace
  payload region payload := by
    obtain ⟨announced, held, apart, size⟩ := placed.payload region payload
    exact ⟨lasts.payload.trans announced, lasts.holds region held, apart, size⟩

theorem settled_submitted (agent : Agent) (vm : Vm) : vm.Settled (agent.submitted vm) := by
  unfold submitted
  split
  · exact settled_serve vm _ (by decide) (by decide)
  · exact .refl vm

theorem submitted_host (agent : Agent) (vm : Vm) : (agent.submitted vm).host = vm.host := by
  unfold submitted
  split <;> rfl

theorem submitted_memory (agent : Agent) (vm : Vm) : (agent.submitted vm).memory = vm.memory := by
  unfold submitted
  split <;> rfl

theorem settled_acquiredIn (agent : Agent) (region : Region) (vm : Vm) :
    vm.Settled (agent.acquiredIn region vm) := by
  have locked := vm.settled_held region.addr region.len
  have moded := agent.settled_submitted (vm.held region.addr region.len)
  have asked := settled_serve (agent.submitted (vm.held region.addr region.len))
    (.userFastAcquire 0) (by decide) (by decide)
  have marked := settled_changed
    ((agent.submitted (vm.held region.addr region.len)).serve (.userFastAcquire 0))
    agent.trace Buffer.size_mark
  exact (((locked.trans moded).trans asked).trans marked).trans (settled_freed _ _ _)

theorem settled_bridged (agent : Agent) (vm : Vm) : vm.Settled (agent.bridged vm) := by
  unfold bridged
  split
  · exact settled_changed vm _ fun b => by simp
  · exact .refl vm

theorem bridged_host (agent : Agent) (vm : Vm) : (agent.bridged vm).host = vm.host := by
  unfold bridged
  split <;> rfl

theorem settled_release (agent : Agent) (vm : Vm) :
    vm.Settled ((agent.bridged vm).serve (.release 0)) :=
  (agent.settled_bridged vm).trans (settled_serve _ _ (by decide) (by decide))

theorem Uploads.settled {name : Bytes} {data : Slice} {append : Bool}
    {result : Except AgentError Unit} (uploads : Uploads name data append vm result after) :
    vm.Settled after := by
  cases uploads with
  | empty nothing => exact .refl vm
  | unlocked sized refused => exact settled_tried vm _ _
  | stored sized granted =>
      have locked := vm.settled_held data.addr data.content.size
      have told := settled_serve (vm.held data.addr data.content.size)
        (.dumpFile (name.takeWhile (· != 0)) data.addr data.content append.toUInt8)
        (by intro same; cases same) (by intro same; cases same)
      exact (locked.trans told).trans (settled_freed _ _ _)

/-- Bytes that can be locked are stored. -/
theorem Uploads.stored_of_granted {name : Bytes} {data : Slice} {append : Bool}
    {result : Except AgentError Unit} (uploads : Uploads name data append vm result after)
    (sized : data.content.size ≠ 0)
    (granted : (vm.memory.lock data.addr data.content.size).1 = none) :
    result = .ok () ∧ vm.Made after
      [.dumpFile (name.takeWhile (· != 0)) data.addr data.content append.toUInt8] := by
  cases uploads with
  | empty nothing => exact absurd nothing sized
  | unlocked _ refused =>
      rw [granted] at refused
      cases refused
  | stored _ _ =>
      refine ⟨rfl, ?_⟩
      have locked := vm.made_held data.addr data.content.size
      have told := made_serve (vm.held data.addr data.content.size)
        (.dumpFile (name.takeWhile (· != 0)) data.addr data.content append.toUInt8)
      exact (locked.trans told).trans (made_freed _ _ _)

theorem Uploads.host {name : Bytes} {data : Slice} {append : Bool}
    {result : Except AgentError Unit} (uploads : Uploads name data append vm result after) :
    after.host = vm.host := by
  cases uploads <;> rfl

theorem Uploads.region? {name : Bytes} {data : Slice} {append : Bool}
    {result : Except AgentError Unit} (uploads : Uploads name data append vm result after)
    (addr : UInt64) : after.memory.region? addr = vm.memory.region? addr := by
  cases uploads <;> rfl

theorem Readies.payload {region : Region} {known : Agent}
    (readies : Readies agent vm region known after) : known.payload = some region := by
  cases readies with
  | known payload => exact payload
  | registered new sized mapped granted => rfl

theorem Readies.kernel {region : Region} {known : Agent}
    (readies : Readies agent vm region known after) :
    after.memory.kernel = vm.memory.kernel := by
  cases readies with
  | known payload => rfl
  | @registered memory new sized mapped lock =>
      have same := vm.memory.kernel_map agent.maxInputSize
      rwa [mapped] at same

/-- A payload buffer that is announced lies apart from the trace buffer. -/
theorem Readies.placed {region : Region} {known : Agent}
    (readies : Readies agent vm region known after) (placed : Placed agent vm) :
    Placed known after := by
  cases readies with
  | known payload => exact placed
  | @registered memory new sized mapped granted =>
      have stays : memory.Holds agent.trace := by
        have held := Memory.holds_map placed.trace agent.maxInputSize
        rwa [mapped] at held
      have standing : memory.Holds region := Memory.holds_new mapped
      refine ⟨placed.config, placed.listens, stays, ?_⟩
      intro other payload
      obtain rfl : region = other := Option.some.inj payload
      exact ⟨rfl, standing, Memory.addr_ne_of_map mapped placed.trace,
        (Memory.region?_map_self mapped).1⟩

theorem Unready.lasts {error : AgentError} (unready : Unready agent vm error after) :
    vm.Lasts after := by
  cases unready with
  | empty nothing => exact .refl vm
  | unmapped sized refused =>
      have mapping := vm.lasts_map agent.maxInputSize
      rwa [refused] at mapping
  | unlocked sized mapped refused =>
      have mapping := vm.lasts_map agent.maxInputSize
      rw [mapped] at mapping
      exact mapping.trans (settled_tried _ _ _).toLasts

theorem Placed.acquires {dest : Buffer} {result : Except AgentError (Nat × Buffer)}
    {left : Agent} (placed : Placed agent vm)
    (acquires : Acquires agent vm dest result left after) : Placed left after := by
  cases acquires with
  | unready new unready => exact placed.lasts unready.lasts
  | unlocked readies refused =>
      exact (readies.placed placed).lasts (settled_tried _ _ _).toLasts
  | @acquired region known ready readies granted =>
      have same := (readies.placed placed).lasts (known.settled_acquiredIn region ready).toLasts
      exact ⟨same.config, same.listens, same.trace, same.payload⟩

/-! ## The calls of each operation -/

/-- The calls that make the payload buffer known. -/
def announcement (agent : Agent) (region : Region) : List Call :=
  if agent.payload = none then [.getPayload region.addr] else []

/-- The calls that ask for an input. -/
def question (agent : Agent) : List Call :=
  (if agent.state = .bufferRegistered then [.userSubmitMode mode64] else []) ++
    [.userFastAcquire 0]

theorem made_submitted (agent : Agent) (vm : Vm) :
    vm.Made (agent.submitted vm)
      (if agent.state = .bufferRegistered then [.userSubmitMode mode64] else []) := by
  unfold submitted
  split
  · exact made_serve vm _
  · exact .refl vm

theorem made_acquiredIn (agent : Agent) (region : Region) (vm : Vm) :
    vm.Made (agent.acquiredIn region vm) agent.question := by
  have locked := vm.made_held region.addr region.len
  have moded := agent.made_submitted (vm.held region.addr region.len)
  have asked := made_serve (agent.submitted (vm.held region.addr region.len)) (.userFastAcquire 0)
  have marked := made_changed
    ((agent.submitted (vm.held region.addr region.len)).serve (.userFastAcquire 0))
    agent.trace Buffer.mark
  have freed := made_freed (agent.fastAcquired (vm.held region.addr region.len))
    region.addr region.len
  have whole := (((locked.trans moded).trans asked).trans marked).trans freed
  rwa [List.append_nil, List.append_nil, List.nil_append] at whole

theorem made_bridged (agent : Agent) (vm : Vm) : vm.Made (agent.bridged vm) [] := by
  unfold bridged
  split
  · exact made_changed vm _ _
  · exact .refl vm

theorem made_release (agent : Agent) (vm : Vm) :
    vm.Made ((agent.bridged vm).serve (.release 0)) [.release 0] :=
  (agent.made_bridged vm).trans (made_serve _ _)

theorem Unready.made {error : AgentError} (unready : Unready agent vm error after) :
    vm.Made after [] := by
  cases unready with
  | empty nothing => exact .refl vm
  | unmapped sized refused => exact made_of_history rfl
  | unlocked sized mapped refused => exact made_of_history rfl

/-- The payload buffer is announced when it is new. -/
theorem Readies.made {region : Region} {known : Agent}
    (readies : Readies agent vm region known after) :
    vm.Made after (agent.announcement region) := by
  cases readies with
  | known payload =>
      rw [announcement, payload]
      exact .refl vm
  | @registered memory new sized mapped granted =>
      rw [announcement, if_pos new]
      have mapped : vm.Made { vm with memory := memory } [] := made_of_history rfl
      exact mapped.trans (made_registered _ _)

/-- Between two operations of an agent that lost nothing, the mode is submitted with the
announcement and never again. -/
theorem Readies.calls {region : Region} {known : Agent}
    (readies : Readies agent vm region known after) (moded : agent.state ≠ .bufferRegistered) :
    agent.announcement region ++ known.question =
      (if agent.payload = none then [.getPayload region.addr, .userSubmitMode 0] else []) ++
        [.userFastAcquire 0] := by
  cases readies with
  | known payload =>
      rw [announcement, question, payload, if_neg moded]
      rfl
  | registered new sized mapped granted =>
      rw [announcement, new]
      rfl

end

end Agent

end Rewind
