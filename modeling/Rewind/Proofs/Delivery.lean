/-
# Rewind.Proofs.Delivery -- every input reaches one run of the target

A fuzzer that shook hands is taken through turns: inputs are queued and runs are made in
any order, and anything may come while the target runs, so long as the host declares the
real counts and memory is granted.  The runs then see the inputs one by one, first in first
out, each cut to what the payload buffer holds and an empty one where none is queued.

The invariant (`Watch.Delivering`) ties the queue of the host to the payload buffer, the
buffer of the fuzzer and the counters of the host.

Main statements: `Watch.Delivering.run` (one run), `Watch.Delivering.play` (all runs),
`Watch.inputs_delivered` (from the handshake on).
-/
import Rewind.Proofs.Payload
import Rewind.Proofs.Watch

namespace Rewind

set_option autoImplicit false

namespace Vm.Stimulus

/-- The input that comes, if one does. -/
def input? : Stimulus → Option Bytes
  | push input => some input
  | _ => none

/-- What comes is no count to declare, and no input that the four bytes of a count cannot
count. -/
def IsMild : Stimulus → Prop
  | push input => input.length < Agent.countLimit
  | declare count => count = none
  | scribble _ | globals _ => True

end Vm.Stimulus

namespace Turn

open Vm

def isRun : Turn → Bool
  | run _ => true
  | outside _ => false

/-- Only mild things come. -/
def IsMild : Turn → Prop
  | outside stimulus => stimulus.IsMild
  | run during => ∀ input, ∀ stimulus ∈ during input, stimulus.IsMild

/-- What the runs of these turns see, given the queue before them and how many bytes of an
input there is room for: first in, first out. -/
def deliveries (room : Nat) : List Bytes → List Turn → List Bytes
  | _, [] => []
  | queue, outside stimulus :: rest => deliveries room (queue ++ stimulus.input?.toList) rest
  | queue, run during :: rest =>
      let input := (queue.headD []).take room
      input :: deliveries room (queue.tail ++ (during input).filterMap Stimulus.input?) rest

theorem length_deliveries (room : Nat) (queue : List Bytes) (turns : List Turn) :
    (deliveries room queue turns).length = turns.countP isRun := by
  induction turns generalizing queue with
  | nil => rfl
  | cons first rest ih =>
      cases first with
      | outside stimulus =>
          rw [deliveries, ih, List.countP_cons]
          rfl
      | run during =>
          rw [deliveries, List.length_cons, ih, List.countP_cons]
          rfl

end Turn

namespace Watch

open Vm Agent Turn

/-- What is seen of a run: an input is asked for, the target is called on it once, and the
rewind is asked for. -/
def round (input : Bytes) : List Moment :=
  [.called (.userFastAcquire 0), .ran input, .called (.release 0)]

/-- What is seen before the first run. -/
def opening (addr : UInt64) : List Moment :=
  [.called (.getPayload addr), .called (.userSubmitMode 0)]

/-- A fuzzer on a machine whose host has this queue, was asked for so many inputs and was
told of so many releases. -/
structure Delivering (region : Region) (fuzzer : Fuzzer) (vm : Vm) (queue : List Bytes)
    (asked released : Nat) : Prop where
  granted : (⟨fuzzer.agent, vm⟩ : Guest).Granted region
  between : fuzzer.agent.state ≠ .bufferRegistered
  input : fuzzer.input.size = region.len
  undeclared : vm.host.declared = none
  inputs : vm.host.inputs = queue
  short : ∀ input ∈ queue, input.length < countLimit
  new : fuzzer.agent.payload = none ↔ asked = 0
  snapshots : vm.host.snapshots = min 1 asked
  resumes : vm.host.resumes = asked - min 1 asked
  releases : vm.host.releases = released

section

variable {region : Region} {fuzzer : Fuzzer} {vm : Vm} {queue : List Bytes}
  {asked released : Nat}

theorem settled_meet_one (vm : Vm) (stimulus : Stimulus) : vm.Settled (vm.meet [stimulus]) := by
  show vm.Settled ((vm.stimulate stimulus).getD vm)
  cases stimulated : vm.stimulate stimulus with
  | none => exact .refl vm
  | some after => exact (stimulate_keeps stimulated).1

/-- Mild things change the queue of the host and nothing else of it. -/
theorem meet_one_host {stimulus : Stimulus} (mild : stimulus.IsMild)
    (undeclared : vm.host.declared = none) :
    (vm.meet [stimulus]).host =
      { vm.host with inputs := vm.host.inputs ++ stimulus.input?.toList } := by
  show ((vm.stimulate stimulus).getD vm).host = _
  cases stimulus with
  | push input => rfl
  | declare count =>
      obtain rfl : count = none := mild
      show { vm.host with declared := none } = { vm.host with inputs := vm.host.inputs ++ [] }
      rw [List.append_nil, ← undeclared]
  | scribble bytes =>
      show _ = { vm.host with inputs := vm.host.inputs ++ [] }
      rw [List.append_nil, stimulate]
      cases vm.host.scribble? vm.memory bytes <;> rfl
  | globals values =>
      show vm.host = { vm.host with inputs := vm.host.inputs ++ [] }
      rw [List.append_nil]

/-- What comes from outside only adds to the queue. -/
theorem Delivering.meet_one (delivering : Delivering region fuzzer vm queue asked released)
    {stimulus : Stimulus} (mild : stimulus.IsMild) :
    Delivering region fuzzer (vm.meet [stimulus]) (queue ++ stimulus.input?.toList)
      asked released := by
  have host := meet_one_host mild delivering.undeclared
  constructor
  · exact delivering.granted.keeps (settled_meet_one vm stimulus) _ _
  · exact delivering.between
  · exact delivering.input
  · rw [host]
    exact delivering.undeclared
  · rw [host, ← delivering.inputs]
  · intro input member
    rcases List.mem_append.mp member with queued | new
    · exact delivering.short input queued
    · cases stimulus with
      | push pushed =>
          obtain rfl := List.mem_singleton.mp new
          exact mild
      | _ => cases new
  · exact delivering.new
  · rw [host]
    exact delivering.snapshots
  · rw [host]
    exact delivering.resumes
  · rw [host]
    exact delivering.releases

theorem Delivering.meet (delivering : Delivering region fuzzer vm queue asked released)
    {stimuli : List Stimulus} (mild : ∀ stimulus ∈ stimuli, stimulus.IsMild) :
    Delivering region fuzzer (vm.meet stimuli) (queue ++ stimuli.filterMap Stimulus.input?)
      asked released := by
  induction stimuli generalizing vm queue with
  | nil =>
      rw [List.filterMap_nil, List.append_nil]
      exact delivering
  | cons first rest ih =>
      have met := delivering.meet_one (mild first List.mem_cons_self)
      have others := ih met fun stimulus member => mild stimulus (List.mem_cons_of_mem _ member)
      have split : (first :: rest).filterMap Stimulus.input? =
          first.input?.toList ++ rest.filterMap Stimulus.input? := by
        cases pushed : first.input? <;> simp [pushed]
      rw [split, ← List.append_assoc]
      exact others

theorem counted_snapshots {h : Host} (snapshots : h.snapshots = min 1 asked) :
    h.counted.snapshots = min 1 (asked + 1) := by
  unfold Host.counted
  split
  · show 1 = _
    omega
  · show h.snapshots = _
    omega

theorem counted_resumes {h : Host} (snapshots : h.snapshots = min 1 asked)
    (resumes : h.resumes = asked - min 1 asked) :
    h.counted.resumes = asked + 1 - min 1 (asked + 1) := by
  unfold Host.counted
  split
  · show h.resumes = _
    omega
  · show h.resumes + 1 = _
    omega

theorem counted_declared (h : Host) : h.counted.declared = h.declared := by
  unfold Host.counted
  split <;> rfl

theorem counted_releases (h : Host) : h.counted.releases = h.releases := by
  unfold Host.counted
  split <;> rfl

/-- An acquire takes the first input off the queue and hands it out, cut to its room. -/
theorem Delivering.acquire (delivering : Delivering region fuzzer vm queue asked released)
    (room : payloadHeaderSize ≤ region.len) :
    let input := (queue.headD []).take (region.len - payloadHeaderSize)
    ∃ agent dest after,
      ((Agent.acquire fuzzer.input).run fuzzer.agent).run vm =
        ((.ok (input.length, dest), agent), after) ∧
      dest.take input.length = input ∧
      vm.Made after ((if asked = 0 then [.getPayload region.addr, .userSubmitMode 0] else []) ++
        [.userFastAcquire 0]) ∧
      Delivering region ⟨agent, dest⟩ after queue.tail (asked + 1) released := by
  intro input
  have short : (vm.host.inputs.headD []).length < countLimit := by
    rw [delivering.inputs]
    cases queue with
    | nil => decide
    | cons first rest => exact delivering.short first List.mem_cons_self
  obtain ⟨known, ready, readies, ran, host⟩ := delivering.granted.acquire_delivers room
    delivering.undeclared short delivering.input
  have next : vm.host.nextInput region.len = input := by
    rw [Host.nextInput, delivering.inputs]
  have made := readies.made.trans (known.made_acquiredIn region ready)
  rw [readies.calls delivering.between] at made
  simp only [next, delivering.inputs] at ran host
  refine ⟨_, _, _, ran, ?_, ?_, ?_⟩
  · have fits : input.length ≤ fuzzer.input.size := by
      have cut : input.length ≤ region.len - payloadHeaderSize := List.length_take_le _ _
      rw [delivering.input]
      omega
    exact Buffer.take_blit fits
  · simpa only [delivering.new] using made
  · constructor
    · exact (delivering.granted.readies readies).keeps (known.settled_acquiredIn region ready) _ _
    · intro same
      cases same
    · exact (Buffer.size_blit _ _ _).trans delivering.input
    · rw [host]
      exact (counted_declared _).trans delivering.undeclared
    · rw [host]
    · exact fun input member => delivering.short input (List.mem_of_mem_tail member)
    · show known.payload = none ↔ _
      rw [readies.payload]
      simp
    · rw [host]
      exact counted_snapshots delivering.snapshots
    · rw [host]
      exact counted_resumes delivering.snapshots delivering.resumes
    · rw [host]
      exact (counted_releases _).trans delivering.releases

theorem Delivering.release (delivering : Delivering region fuzzer vm queue asked released) :
    Delivering region ⟨{ fuzzer.agent with state := .released }, fuzzer.input⟩
      ((fuzzer.agent.bridged vm).serve (.release 0)) queue asked (released + 1) := by
  have host : ((fuzzer.agent.bridged vm).serve (.release 0)).host =
      { vm.host with releases := vm.host.releases + 1 } := by
    show { (fuzzer.agent.bridged vm).host with
      releases := (fuzzer.agent.bridged vm).host.releases + 1 } = _
    rw [bridged_host]
  constructor
  · exact delivering.granted.keeps (fuzzer.agent.settled_release vm) _ _
  · intro same
    cases same
  · exact delivering.input
  · rw [host]
    exact delivering.undeclared
  · rw [host]
    exact delivering.inputs
  · exact delivering.short
  · exact delivering.new
  · rw [host]
    exact delivering.snapshots
  · rw [host]
    exact delivering.resumes
  · rw [host]
    exact congrArg (· + 1) delivering.releases

/-- A run calls its target once, on the first input of the queue. -/
theorem Delivering.run (delivering : Delivering region fuzzer vm queue asked released)
    (room : payloadHeaderSize ≤ region.len) {during : Bytes → List Stimulus}
    (mild : ∀ input, ∀ stimulus ∈ during input, stimulus.IsMild) (timeline : List Moment) :
    let input := (queue.headD []).take (region.len - payloadHeaderSize)
    ∃ fuzzer' vm',
      ((Fuzzer.tryRun guest (target during)).run fuzzer).run ⟨vm, timeline⟩ =
        ((.ok .returned, fuzzer'), ⟨vm', timeline ++
          ((if asked = 0 then opening region.addr else []) ++ round input)⟩) ∧
      Delivering region fuzzer' vm'
        (queue.tail ++ (during input).filterMap Stimulus.input?) (asked + 1) (released + 1) := by
  intro input
  obtain ⟨agent, dest, after, ran, handed, made, acquired⟩ := delivering.acquire room
  have seen := tryRun_run fuzzer ⟨vm, timeline⟩ during ran made
  simp only [handed] at seen
  refine ⟨_, _, seen.trans ?_, (acquired.meet (mild input)).release⟩
  by_cases first : asked = 0
  · simp only [if_pos first]
    rfl
  · simp only [if_neg first]
    rfl

/-- What is seen of the runs on these inputs, given how many runs there were before. -/
def account (addr : UInt64) (asked : Nat) (inputs : List Bytes) : List Moment :=
  (if asked = 0 ∧ inputs ≠ [] then opening addr else []) ++ inputs.flatMap round

theorem account_cons (addr : UInt64) (asked : Nat) (input : Bytes) (inputs : List Bytes) :
    account addr asked (input :: inputs) =
      (if asked = 0 then opening addr else []) ++ round input ++
        account addr (asked + 1) inputs := by
  simp [account]

theorem account_zero (addr : UInt64) (inputs : List Bytes) :
    account addr 0 inputs = (if inputs = [] then [] else opening addr) ++ inputs.flatMap round := by
  by_cases idle : inputs = []
  · simp [account, idle]
  · simp [account, idle]

/-- The turns of a fuzzer from any point on. -/
theorem Delivering.play (delivering : Delivering region fuzzer vm queue asked released)
    (room : payloadHeaderSize ≤ region.len) {turns : List Turn}
    (mild : ∀ turn ∈ turns, turn.IsMild) (timeline : List Moment) :
    let inputs := deliveries (region.len - payloadHeaderSize) queue turns
    ∃ fuzzer' vm' queue', ((Watch.play turns).run fuzzer).run ⟨vm, timeline⟩ =
        ((List.replicate inputs.length (.ok .returned), fuzzer'),
          ⟨vm', timeline ++ account region.addr asked inputs⟩) ∧
      Delivering region fuzzer' vm' queue' (asked + inputs.length) (released + inputs.length) := by
  induction turns generalizing fuzzer vm queue asked released timeline with
  | nil =>
      refine ⟨fuzzer, vm, queue, ?_, delivering⟩
      have silent : account region.addr asked [] = [] := by simp [account]
      rw [deliveries, silent, List.append_nil]
      rfl
  | cons first rest ih =>
      have mildRest : ∀ turn ∈ rest, turn.IsMild :=
        fun turn member => mild turn (List.mem_cons_of_mem _ member)
      cases first with
      | outside stimulus =>
          have met := delivering.meet_one (mild (.outside stimulus) List.mem_cons_self)
          obtain ⟨fuzzer', vm', queue', ran, last⟩ := ih met mildRest timeline
          refine ⟨fuzzer', vm', queue', ?_, last⟩
          rw [play_cons_run, turn_outside_run]
          simp only [ran]
          rfl
      | run during =>
          let input := (queue.headD []).take (region.len - payloadHeaderSize)
          obtain ⟨left, after, ran, next⟩ :=
            delivering.run room (mild (.run during) List.mem_cons_self) timeline
          obtain ⟨fuzzer', vm', queue', ranRest, last⟩ := ih next mildRest
            (timeline ++ ((if asked = 0 then opening region.addr else []) ++ round input))
          refine ⟨fuzzer', vm', queue', ?_, ?_⟩
          · rw [play_cons_run, turn_run_run ran]
            simp only [deliveries, account_cons]
            rw [ranRest]
            simp only [List.append_assoc]
            rfl
          · simp only [deliveries, List.length_cons]
            rwa [Nat.add_comm _ 1, ← Nat.add_assoc, ← Nat.add_assoc]

end

/-! ## From the handshake on -/

theorem connect_run (options : Options) (vm : Vm) :
    (Fuzzer.connect options).run vm =
      (((negotiate options).run vm).1.map Fuzzer.ofAgent, ((negotiate options).run vm).2) := rfl

theorem delivering_of_negotiated {options : Options} {vm ready : Vm} {agent : Agent}
    {config : HostConfig} {queue : List Bytes} (negotiated : Negotiated options vm agent ready)
    (host : vm.host = { Host.fresh config with inputs := queue })
    (grants : vm.memory.kernel.Grants) (space : vm.memory.HasRoom 2)
    (sized : agent.maxInputSize ≠ 0) (short : ∀ input ∈ queue, input.length < countLimit) :
    Delivering ⟨UInt64.ofNat ready.memory.next, agent.maxInputSize⟩ (Fuzzer.ofAgent agent)
      ready queue 0 0 := by
  have left : ready.host = { Host.fresh config with
      inputs := queue, agentConfig := some (declaration agent.trace) } := by
    rw [negotiated.host, host]
  constructor
  · exact Guest.granted_of_negotiated negotiated grants space sized
  · show agent.state ≠ _
    rw [negotiated.state]
    decide
  · rfl
  · rw [left]
    rfl
  · rw [left]
  · exact short
  · exact iff_of_true negotiated.payload rfl
  · rw [left]
    rfl
  · rw [left]
    rfl
  · rw [left]
    rfl

/-- Every run of a fuzzer from its handshake on, on a compatible host whose payload buffer
holds a count, where the kernel grants every region and every lock.  Whatever is queued
before it, between its runs or while its target runs, each run comes out well and calls
the target once, on the next input of the queue as far as it fits.  What is seen is the
opening, then one round after another, and the host counted as much. -/
theorem inputs_delivered (kernel : Kernel) (globals : Instrumentation) (config : HostConfig)
    (queue : List Bytes) (options : Options) (grants : kernel.Grants)
    (compatible : config.isCompatible = true) (room : 4 ≤ config.payloadBufferSize.toNat)
    (short : ∀ input ∈ queue, input.length < 0x80000000) :
    let vm := Vm.fresh kernel globals { Host.fresh config with inputs := queue }
    ∃ fuzzer ready addr, (Fuzzer.connect options).run vm = (.ok fuzzer, ready) ∧
      ∀ turns : List Turn, (∀ turn ∈ turns, turn.IsMild) →
        let inputs := deliveries (config.payloadBufferSize.toNat - 4) queue turns
        let ran := ((Watch.play turns).run fuzzer).run ⟨ready, []⟩
        inputs.length = turns.countP Turn.isRun ∧
        ran.1.1 = List.replicate inputs.length (.ok .returned) ∧
        ran.2.timeline = (if inputs = [] then [] else opening addr) ++ inputs.flatMap round ∧
        ran.2.vm.host.snapshots = min 1 inputs.length ∧
        ran.2.vm.host.resumes = inputs.length - min 1 inputs.length ∧
        ran.2.vm.host.releases = inputs.length := by
  intro vm
  have space : vm.memory.HasRoom 2 := Memory.fresh_hasRoom kernel
  have speaks : incompatibility? config = none := by
    rw [incompatibility?_eq_none]
    simpa [HostConfig.isCompatible] using compatible
  obtain ⟨agent, made, -⟩ :=
    negotiate_of_grants vm options grants (Memory.hasRoom_mono space (by decide)) speaks
  have through : (negotiate options).run vm = (.ok agent, ((negotiate options).run vm).2) :=
    Prod.ext made rfl
  have met := negotiated_of_run through
  have size : agent.maxInputSize = config.payloadBufferSize.toNat := by
    rw [maxInputSize, met.hostConfig]
    rfl
  have sized : agent.maxInputSize ≠ 0 := by omega
  obtain ⟨region, len, start⟩ : ∃ region : Region, region.len = config.payloadBufferSize.toNat ∧
      Delivering region (Fuzzer.ofAgent agent) ((negotiate options).run vm).2 queue 0 0 :=
    ⟨_, size, delivering_of_negotiated met rfl grants space sized short⟩
  refine ⟨Fuzzer.ofAgent agent, ((negotiate options).run vm).2, region.addr, ?_, ?_⟩
  · rw [connect_run, made]
    rfl
  · intro turns mild inputs ran
    have fits : payloadHeaderSize ≤ region.len := by
      rw [len]
      exact room
    obtain ⟨left, after, rest, played, last⟩ := start.play fits mild []
    rw [len] at played last
    have same : ran = ((List.replicate inputs.length (.ok .returned), left),
      ⟨after, account region.addr 0 inputs⟩) := played
    have counted : Delivering region left after rest (0 + inputs.length) (0 + inputs.length) := last
    rw [Nat.zero_add] at counted
    rw [same]
    exact ⟨length_deliveries _ queue turns, rfl, account_zero region.addr inputs,
      counted.snapshots, counted.resumes, counted.releases⟩

/-- An input that is too long, a shorter one, one that is queued later, and none. -/
theorem inputs_delivered_four :
    let config : HostConfig := .compatible 0x40 8
    let queue : List Bytes := [[1, 2, 3, 4, 5, 6], [9]]
    let vm := Vm.fresh .ordinary .absent { Host.fresh config with inputs := queue }
    let turns : List Turn := [.run fun _ => [], .run fun _ => [.push [7]], .run fun _ => [],
      .run fun _ => []]
    Kernel.ordinary.Grants ∧ config.isCompatible = true ∧ 4 ≤ config.payloadBufferSize.toNat ∧
      ∃ fuzzer ready addr, (Fuzzer.connect .standard).run vm = (.ok fuzzer, ready) ∧
        (((Watch.play turns).run fuzzer).run ⟨ready, []⟩).2.timeline =
          opening addr ++ ([[1, 2, 3, 4], [9], [7], []] : List Bytes).flatMap round := by
  intro config queue vm turns
  have short : ∀ input ∈ queue, input.length < 0x80000000 := by decide
  have mild : ∀ turn ∈ turns, turn.IsMild := by
    simp [turns, Turn.IsMild, Stimulus.IsMild, countLimit]
  obtain ⟨fuzzer, ready, addr, connected, runs⟩ := inputs_delivered .ordinary .absent config queue
    .standard Kernel.ordinary_grants rfl (by decide) short
  obtain ⟨-, -, timeline, -⟩ := runs turns mild
  exact ⟨Kernel.ordinary_grants, rfl, by decide, fuzzer, ready, addr, connected, timeline⟩

end Watch

end Rewind
