/-
# Rewind.Proofs.Handles -- one handle after another on the same agent

A handle is a fuzzer that drives the agent of a session for a while.  What it brings of its
own is a buffer for the inputs, zeros at first, where a handle that ran before has the bytes
of earlier inputs.  Of a buffer only the size is ever read, and the bytes that were just
written (`acquire_alike`), so handles with the same agent run alike (`Fuzzer.Alike`).  The
agent itself stays in the slot between two handles.

Main statements: `Fuzzer.Alike.tryRun` (one run), `Round.handedOver` (a handle that is given
back and taken anew goes on as the old one would have), `Round.cut_anywhere` (runs cut into
groups, each on a handle of its own, are seen to do what they do on one handle).
-/
import Rewind.Proofs.Watch
import Rewind.Proofs.Payload
import Rewind.Session

namespace Rewind

set_option autoImplicit false

open Vm

/-! ## Where an input is copied to does not matter -/

namespace Agent

/-- An acquire comes out the same whatever buffer it is given: refused, or with a payload
that is then decoded into the buffer. -/
theorem acquire_uniform (agent : Agent) (vm : Vm) :
    ∃ left after, left.hostConfig = agent.hostConfig ∧
      ((∃ error, ∀ dest, ((acquire dest).run agent).run vm = ((.error error, left), after)) ∨
        ∃ payload, ∀ dest,
          ((acquire dest).run agent).run vm = ((decodePayload payload dest, left), after)) := by
  rcases payloadRegion_cases agent vm with ⟨-, error, after, -, ran⟩ |
      ⟨region, known, after, readies, ran⟩
  · refine ⟨agent, after, rfl, .inl ⟨error, ?_⟩⟩
    intro dest
    simp only [acquire, stacked_bind_run, ran]
    rfl
  · have same : known.hostConfig = agent.hostConfig := by
      cases readies with
      | known payload => rfl
      | registered new sized mapped granted => rfl
    cases lock : (after.memory.lock region.addr region.len).1 with
    | some errno =>
        refine ⟨known, after.tried region.addr region.len, same,
          .inl ⟨.pin region.addr region.len errno, ?_⟩⟩
        intro dest
        simp only [acquire, stacked_bind_run, ran]
        exact whileLocked_agent_of_refused _ _ lock
    | none =>
        refine ⟨{ known with state := .running }, known.acquiredIn region after, same, .inr
          ⟨(known.fastAcquired (after.held region.addr region.len)).memory.read region, ?_⟩⟩
        intro dest
        simp only [acquire, stacked_bind_run, ran]
        rw [whileLocked_agent_of_granted _ _ lock]
        simp only [stacked_bind_run, fastAcquire_run, stacked_lift_run, read_run,
          stacked_pure_run]
        rfl

/-- What is decoded into two buffers of one size: the same refusal, or the same input at the
start of each. -/
theorem decodePayload_alike (payload : Buffer) {one other : Buffer}
    (sizes : one.size = other.size) :
    (∃ error, decodePayload payload one = .error error ∧
      decodePayload payload other = .error error) ∨
    ∃ len filled also, decodePayload payload one = .ok (len, filled) ∧
      decodePayload payload other = .ok (len, also) ∧ filled.size = one.size ∧
        also.size = other.size ∧ filled.take len = also.take len := by
  rcases payload_cases payload one.size with short | ⟨room, n, declared, fits⟩ | ⟨room, misfit⟩
  · left
    exact ⟨_, decodePayload_of_short one short, decodePayload_of_short other short⟩
  · have fitsOther : n ≤ min (payload.size - payloadHeaderSize) other.size := sizes ▸ fits
    have length : ((payload.drop payloadHeaderSize).take n).length = n := by
      rw [Buffer.take_eq, Buffer.toList_drop, List.length_take, List.length_drop,
        Buffer.length_toList]
      omega
    have read {b : Buffer} (le : n ≤ b.size) :
        (b.blit 0 ((payload.drop payloadHeaderSize).take n)).take n =
          (payload.drop payloadHeaderSize).take n := by
      have fitting : ((payload.drop payloadHeaderSize).take n).length ≤ b.size := by
        rw [length]
        exact le
      have whole := Buffer.take_blit fitting
      rwa [length] at whole
    right
    refine ⟨n, _, _, decodePayload_of_fits room declared fits,
      decodePayload_of_fits room declared fitsOther, Buffer.size_blit _ _ _,
      Buffer.size_blit _ _ _, ?_⟩
    rw [read (by omega), read (by omega)]
  · left
    refine ⟨_, decodePayload_of_misfit room misfit, ?_⟩
    rw [sizes] at misfit ⊢
    exact decodePayload_of_misfit room misfit

end Agent

namespace Fuzzer

open Watch Agent

/-- Two fuzzers that drive the same agent, with room for its inputs, whatever bytes are left
in their buffers. -/
structure Alike (one other : Fuzzer) : Prop where
  agent : one.agent = other.agent
  sized : one.input.size = one.agent.maxInputSize
  sizedOther : other.input.size = one.agent.maxInputSize

theorem Alike.refl_of_sized {fuzzer : Fuzzer}
    (sized : fuzzer.input.size = fuzzer.agent.maxInputSize) :
    fuzzer.Alike fuzzer :=
  ⟨rfl, sized, sized⟩

/-- A handle that was just taken has nothing in its buffer. -/
theorem Alike.anew {one other : Fuzzer} (alike : one.Alike other) :
    (ofAgent one.agent).Alike other :=
  ⟨alike.agent, rfl, alike.sizedOther⟩

section

variable {one other : Fuzzer}

/-- Alike fuzzers receive the same input, and stay alike. -/
theorem Alike.nextInput (alike : one.Alike other) (watch : Watch) :
    ∃ result left leftOther after,
      ((nextInput guest).run one).run watch = ((result, left), after) ∧
      ((nextInput guest).run other).run watch = ((result, leftOther), after) ∧
      left.Alike leftOther := by
  obtain ⟨agent, buffer⟩ := one
  obtain ⟨agent, bufferOther⟩ := other
  obtain ⟨rfl, sized, sizedOther⟩ := alike
  obtain ⟨left, after, config, ways⟩ := acquire_uniform agent watch.vm
  have same : agent.maxInputSize = left.maxInputSize := by
    rw [Agent.maxInputSize, Agent.maxInputSize, config]
  rcases ways with ⟨error, ran⟩ | ⟨payload, ran⟩
  · exact ⟨_, _, _, _, nextInput_run_of_error ⟨agent, buffer⟩ (ran buffer),
      nextInput_run_of_error ⟨agent, bufferOther⟩ (ran bufferOther),
      rfl, sized.trans same, sizedOther.trans same⟩
  · rcases decodePayload_alike payload (sized.trans sizedOther.symm) with
      ⟨error, refused, refusedOther⟩ |
      ⟨len, filled, filledOther, decoded, decodedOther, size, sizeOther, read⟩
    · have ranOne := ran buffer
      have ranOther := ran bufferOther
      rw [refused] at ranOne
      rw [refusedOther] at ranOther
      exact ⟨_, _, _, _, nextInput_run_of_error ⟨agent, buffer⟩ ranOne,
        nextInput_run_of_error ⟨agent, bufferOther⟩ ranOther,
        rfl, sized.trans same, sizedOther.trans same⟩
    · have ranOne := ran buffer
      have ranOther := ran bufferOther
      rw [decoded] at ranOne
      rw [decodedOther] at ranOther
      have received := nextInput_run_of_ok ⟨agent, buffer⟩ ranOne
      have receivedOther := nextInput_run_of_ok ⟨agent, bufferOther⟩ ranOther
      rw [← read] at receivedOther
      exact ⟨_, _, _, _, received, receivedOther, rfl, (size.trans sized).trans same,
        (sizeOther.trans sizedOther).trans same⟩

/-- Alike fuzzers run a target alike, whatever it does to the machine and however it comes
back, and stay alike. -/
theorem Alike.tryRun (alike : one.Alike other) (target : Bytes → WatchM Outcome)
    (watch : Watch) :
    ∃ result left leftOther after,
      ((tryRun guest target).run one).run watch = ((result, left), after) ∧
      ((tryRun guest target).run other).run watch = ((result, leftOther), after) ∧
      left.Alike leftOther := by
  obtain ⟨received, left, leftOther, reached, ran, ranOther, still⟩ := alike.nextInput watch
  cases received with
  | error error =>
      exact ⟨_, left, leftOther, reached, tryRun_run_of_error target ran,
        tryRun_run_of_error target ranOther, still⟩
  | ok input =>
      cases called : (target input).run reached with
      | mk outcome met =>
          cases outcome with
          | unwound =>
              exact ⟨_, left, leftOther, met, tryRun_run_of_unwound ran called,
                tryRun_run_of_unwound ranOther called, still⟩
          | returned =>
              have released := tryRun_run_of_returned ran called
              have releasedOther := tryRun_run_of_returned ranOther called
              rw [← still.agent] at releasedOther
              exact ⟨_, _, _, _, released, releasedOther, ⟨rfl, still.sized, still.sizedOther⟩⟩

end

end Fuzzer

/-! ## Runs that are asked for -/

/-- One run that is asked for: what comes from outside before it, and what the target does
to the machine on its input and how it comes back. -/
structure Round where
  before : List Stimulus
  target : Bytes → VmM Outcome

namespace Round

open Watch

/-- The target, seen on its input. -/
def call (round : Round) (input : Bytes) : WatchM Outcome := do
  modify fun watch => { watch with timeline := watch.timeline ++ [.ran input] }
  guest Outcome (round.target input)

def meet (round : Round) : WatchM Unit :=
  modify fun watch => { watch with vm := watch.vm.meet round.before }

def run (round : Round) : FuzzerT WatchM (Except AgentError Outcome) := do
  round.meet
  Fuzzer.tryRun guest round.call

/-- Make the runs on a fuzzer, one after another. -/
def runAll : List Round → FuzzerT WatchM (List (Except AgentError Outcome))
  | [] => return []
  | first :: rest => do
      let result ← first.run
      let results ← runAll rest
      return result :: results

/-- Make the runs on a fuzzer of their own, which shakes hands for them. -/
def owned (options : Options) (rounds : List Round) :
    WatchM (List (Except AgentError Outcome)) := do
  match ← guest _ (Fuzzer.connect options) with
  | .error _ => return []
  | .ok fuzzer =>
      let (results, _) ← (runAll rounds).run fuzzer
      return results

def runInTurn (round : Round) : SessionT WatchM (Option (Except AgentError Outcome)) := do
  round.meet
  Session.tryRun guest round.call

/-- Make the runs in the turn that is being taken. -/
def runAllInTurn : List Round → SessionT WatchM (List (Except AgentError Outcome))
  | [] => return []
  | first :: rest => do
      let result ← first.runInTurn
      let results ← runAllInTurn rest
      return result.toList ++ results

/-- Make the runs on one handle: lock the session, make them, give it back. -/
def onHandle (options : Options) (rounds : List Round) :
    SessionT WatchM (List (Except AgentError Outcome)) := do
  match ← Session.lockWith options guest with
  | .error _ => return []
  | .ok _ =>
      let results ← runAllInTurn rounds
      let _ ← Session.leave false
      return results

/-- Make each group of runs on a handle of its own. -/
def onHandles (options : Options) : List (List Round) →
    SessionT WatchM (List (Except AgentError Outcome))
  | [] => return []
  | group :: rest => do
      let results ← onHandle options group
      let others ← onHandles options rest
      return results ++ others

/-- What those who share a session do on a machine, from its beginning, and what is seen of
it. -/
def seen {α : Type} (action : SessionT WatchM α) (vm : Vm) : α × Watch :=
  let ran := (action.run .empty).run ⟨vm, []⟩
  (ran.1.1, ran.2)

/-! ## One run after another -/

theorem runAll_cons_run (first : Round) (rest : List Round) (fuzzer : Fuzzer) (watch : Watch) :
    ((runAll (first :: rest)).run fuzzer).run watch =
      let one := (first.run.run fuzzer).run watch
      let others := ((runAll rest).run one.1.2).run one.2
      ((one.1.1 :: others.1.1, others.1.2), others.2) := rfl

theorem runAll_append_run (early late : List Round) (fuzzer : Fuzzer) (watch : Watch) :
    ((runAll (early ++ late)).run fuzzer).run watch =
      let one := ((runAll early).run fuzzer).run watch
      let others := ((runAll late).run one.1.2).run one.2
      ((one.1.1 ++ others.1.1, others.1.2), others.2) := by
  induction early generalizing fuzzer watch with
  | nil => rfl
  | cons first rest ih =>
      rw [List.cons_append, runAll_cons_run]
      simp only [ih, runAll_cons_run]
      rfl

theorem length_runAll (rounds : List Round) (fuzzer : Fuzzer) (watch : Watch) :
    (((runAll rounds).run fuzzer).run watch).1.1.length = rounds.length := by
  induction rounds generalizing fuzzer watch with
  | nil => rfl
  | cons first rest ih =>
      rw [runAll_cons_run]
      simp only [List.length_cons, ih]

/-- Alike fuzzers are seen to make the same runs. -/
theorem runAll_alike {one other : Fuzzer} (alike : one.Alike other) (rounds : List Round)
    (watch : Watch) :
    ∃ results left leftOther after,
      ((runAll rounds).run one).run watch = ((results, left), after) ∧
      ((runAll rounds).run other).run watch = ((results, leftOther), after) ∧
      left.Alike leftOther := by
  induction rounds generalizing one other watch with
  | nil => exact ⟨[], one, other, watch, rfl, rfl, alike⟩
  | cons first rest ih =>
      obtain ⟨result, left, leftOther, after, ran, ranOther, still⟩ :=
        alike.tryRun first.call { watch with vm := watch.vm.meet first.before }
      obtain ⟨results, last, lastOther, final, ranRest, ranRestOther, alikeLast⟩ := ih still after
      refine ⟨result :: results, last, lastOther, final, ?_, ?_, alikeLast⟩
      · have head : (first.run.run one).run watch = ((result, left), after) := ran
        rw [runAll_cons_run, head]
        simp only [ranRest]
      · have head : (first.run.run other).run watch = ((result, leftOther), after) := ranOther
        rw [runAll_cons_run, head]
        simp only [ranRestOther]

/-! ## Turns -/

section

variable {session : Session} {fuzzer : Fuzzer} {watch : Watch}

theorem runInTurn_run (round : Round) (turn : session.turn = some fuzzer) (watch : Watch) :
    (round.runInTurn.run session).run watch =
      let ran := (round.run.run fuzzer).run watch
      ((some ran.1.1, { session with turn := some ran.1.2 }), ran.2) := by
  obtain ⟨slot, turn', handshakes⟩ := session
  obtain rfl : turn' = some fuzzer := turn
  rfl

/-- A turn runs what its fuzzer runs. -/
theorem runAllInTurn_run (rounds : List Round) (turn : session.turn = some fuzzer)
    (watch : Watch) :
    ((runAllInTurn rounds).run session).run watch =
      let ran := ((runAll rounds).run fuzzer).run watch
      ((ran.1.1, { session with turn := some ran.1.2 }), ran.2) := by
  induction rounds generalizing session fuzzer watch with
  | nil =>
      obtain ⟨slot, turn', handshakes⟩ := session
      obtain rfl : turn' = some fuzzer := turn
      rfl
  | cons first rest ih =>
      let one := (first.run.run fuzzer).run watch
      have goes : ({ session with turn := some one.1.2 } : Session).turn = some one.1.2 := rfl
      have others := ih goes one.2
      rw [runAll_cons_run]
      simp only [runAllInTurn, stacked_bind_run, runInTurn_run first turn watch, stacked_pure_run]
      rw [others]
      rfl

theorem leave_run (unwinding : Bool) (turn : session.turn = some fuzzer) (watch : Watch) :
    ((Session.leave unwinding : SessionT WatchM Bool).run session).run watch =
      ((true, { session with
        slot := session.slot.unlock fuzzer.agent unwinding, turn := none }), watch) := by
  simp only [Session.leave, stacked_bind_run, stacked_get_run, turn, stacked_set_run,
    stacked_pure_run]

/-- Whoever takes an agent that was given back starts from an empty buffer, and nothing is
seen of it. -/
theorem lockWith_run_of_free {agent : Agent} (options : Options)
    (present : session.slot.agent = some agent) (free : session.slot.held = false)
    (watch : Watch) :
    ((Session.lockWith options guest).run session).run watch =
      ((.ok agent, ⟨{ session.slot with held := true }, some (Fuzzer.ofAgent agent),
        session.handshakes⟩), watch) := by
  have taken : (guest _ ((session.slot.lock (Session.connect options)).run.run
      session.handshakes)).run watch =
        ((.ok (.ok agent, { session.slot with held := true }), session.handshakes), watch) := by
    rw [Slot.lock_of_free _ present free]
    show ((_, watch.saw watch.vm) : _ × Watch) = _
    rw [saw_self]
    rfl
  simp only [Session.lockWith, stacked_bind_run, stacked_get_run, stacked_lift_run, taken,
    stacked_set_run, stacked_pure_run]

/-- The first to lock the session shakes hands. -/
theorem lock_run_of_empty {options : Options} {agent : Agent} {vm ready : Vm}
    (connected : (Agent.negotiate options).run vm = (.ok agent, ready)) (handshakes : Nat) :
    ((Slot.empty.lock (Session.connect options)).run.run handshakes).run vm =
      ((.ok (.ok agent, ⟨some agent, true, false⟩), handshakes + 1), ready) := by
  have met : (((Session.connect options).run).run handshakes).run vm =
      ((.ok agent, handshakes + 1), ready) := by
    show ((((Agent.negotiate options).run vm).1, handshakes + 1),
      ((Agent.negotiate options).run vm).2) = _
    rw [connected]
  rw [Slot.lock_of_empty _ rfl rfl, ExceptT.run_bind]
  simp only [stacked_bind_run, met]
  rfl

theorem lockWith_run_of_empty {options : Options} {agent : Agent} {vm ready : Vm}
    (connected : (Agent.negotiate options).run vm = (.ok agent, ready)) :
    ((Session.lockWith options guest).run .empty).run ⟨vm, []⟩ =
      ((.ok agent, ⟨⟨some agent, true, false⟩, some (Fuzzer.ofAgent agent), 1⟩),
        (⟨vm, []⟩ : Watch).saw ready) := by
  have locked : ((Slot.empty.lock (Session.connect options)).run.run 0).run
      (⟨vm, []⟩ : Watch).vm = ((.ok (.ok agent, ⟨some agent, true, false⟩), 1), ready) :=
    lock_run_of_empty connected 0
  have made := guest_run locked
  have begun : Session.empty.slot = Slot.empty := rfl
  simp only [Session.lockWith, stacked_bind_run, stacked_get_run, stacked_lift_run, begun]
  rw [show Session.empty.handshakes = 0 from rfl, made]
  simp only [stacked_bind_run, stacked_set_run, stacked_pure_run]

/-- Runs on a handle are the runs of its fuzzer, and leave the agent in the slot. -/
theorem onHandle_run {options : Options} {agent : Agent} {slot : Slot} {handshakes : Nat}
    {locked : Watch} (rounds : List Round)
    (lock : ((Session.lockWith options guest).run session).run watch =
      ((.ok agent, ⟨slot, some fuzzer, handshakes⟩), locked)) :
    ((onHandle options rounds).run session).run watch =
      let ran := ((runAll rounds).run fuzzer).run locked
      ((ran.1.1, ⟨slot.unlock ran.1.2.agent false, none, handshakes⟩), ran.2) := by
  let ran := ((runAll rounds).run fuzzer).run locked
  have taken : (⟨slot, some fuzzer, handshakes⟩ : Session).turn = some fuzzer := rfl
  have last : (⟨slot, some ran.1.2, handshakes⟩ : Session).turn = some ran.1.2 := rfl
  simp only [onHandle, stacked_bind_run, lock, runAllInTurn_run rounds taken locked]
  rw [leave_run false last]
  rfl

theorem onHandles_cons_run (options : Options) (group : List Round) (rest : List (List Round))
    (session : Session) (watch : Watch) :
    ((onHandles options (group :: rest)).run session).run watch =
      let one := ((onHandle options group).run session).run watch
      let others := ((onHandles options rest).run one.1.2).run one.2
      ((one.1.1 ++ others.1.1, others.1.2), others.2) := rfl

/-- Where a handle gave its agent back, new ones go on as it would have: whatever the other
runs are cut into, they are seen to do the same. -/
theorem handedOver (options : Options) (present : session.slot.agent = some fuzzer.agent)
    (free : session.slot.held = false)
    (sized : fuzzer.input.size = fuzzer.agent.maxInputSize) (groups : List (List Round))
    (watch : Watch) :
    let parts := ((onHandles options groups).run session).run watch
    let whole := ((runAll groups.flatten).run fuzzer).run watch
    parts.1.1 = whole.1.1 ∧ parts.2 = whole.2 := by
  induction groups generalizing session fuzzer watch with
  | nil => exact ⟨rfl, rfl⟩
  | cons group rest ih =>
      have alike : (Fuzzer.ofAgent fuzzer.agent).Alike fuzzer :=
        (Fuzzer.Alike.refl_of_sized sized).anew
      obtain ⟨results, left, leftOther, after, ran, ranOther, still⟩ :=
        runAll_alike alike group watch
      have head := onHandle_run group (lockWith_run_of_free options present free watch)
      rw [ran] at head
      have kept : (⟨session.slot.unlock left.agent false, none, session.handshakes⟩ :
        Session).slot.agent = some leftOther.agent := congrArg some still.agent
      have sizedOther : leftOther.input.size = leftOther.agent.maxInputSize :=
        still.agent ▸ still.sizedOther
      obtain ⟨same, seen⟩ := ih kept rfl sizedOther after
      rw [onHandles_cons_run, head, List.flatten_cons, runAll_append_run, ranOther]
      exact ⟨congrArg (results ++ ·) same, seen⟩

/-! ## From the handshake on -/

/-- A handshake with a compatible host goes through where the kernel grants what it is asked
for. -/
theorem connects {kernel : Kernel} (globals : Instrumentation) {host : Host} (options : Options)
    (grants : kernel.Grants) (compatible : host.config.isCompatible = true) :
    let vm := Vm.fresh kernel globals host
    ∃ agent, (Agent.negotiate options).run vm =
      (.ok agent, ((Agent.negotiate options).run vm).2) := by
  intro vm
  have speaks : Agent.incompatibility? host.config = none := by
    rw [Agent.incompatibility?_eq_none]
    simpa [HostConfig.isCompatible] using compatible
  have space : vm.memory.HasRoom 1 :=
    Memory.hasRoom_mono (Memory.fresh_hasRoom kernel) (by decide)
  obtain ⟨agent, made, -⟩ := Agent.negotiate_of_grants vm options grants space speaks
  exact ⟨agent, Prod.ext made rfl⟩

/-- Runs on a fuzzer of their own, once its handshake went through. -/
theorem owned_run {options : Options} {agent : Agent} {ready : Vm}
    (connected : (Agent.negotiate options).run watch.vm = (.ok agent, ready))
    (rounds : List Round) :
    (owned options rounds).run watch =
      let ran := ((runAll rounds).run (Fuzzer.ofAgent agent)).run (watch.saw ready)
      (ran.1.1, ran.2) := by
  have made : (Fuzzer.connect options).run watch.vm = (.ok (Fuzzer.ofAgent agent), ready) := by
    show (((Agent.negotiate options).run watch.vm).1.map Fuzzer.ofAgent,
      ((Agent.negotiate options).run watch.vm).2) = _
    rw [connected]
    rfl
  have met := guest_run made
  simp only [owned, bind_run, met]
  rfl

section

variable {options : Options} {agent : Agent} {vm ready : Vm}
  (connected : (Agent.negotiate options).run vm = (.ok agent, ready))
include connected

theorem seen_onHandle (rounds : List Round) :
    seen (onHandle options rounds) vm =
      let ran := ((runAll rounds).run (Fuzzer.ofAgent agent)).run ((⟨vm, []⟩ : Watch).saw ready)
      (ran.1.1, ran.2) := by
  have made := onHandle_run rounds (lockWith_run_of_empty connected)
  simp only [seen, made]

/-- The first handle is the one whose handshake goes through; the others find the agent as it
was left. -/
theorem seen_onHandles (first : List Round) (rest : List (List Round)) :
    seen (onHandles options (first :: rest)) vm =
      let ran := ((runAll (first :: rest).flatten).run (Fuzzer.ofAgent agent)).run
        ((⟨vm, []⟩ : Watch).saw ready)
      (ran.1.1, ran.2) := by
  let start := (⟨vm, []⟩ : Watch).saw ready
  obtain ⟨results, left, _, after, ran, -, still⟩ :=
    runAll_alike (Fuzzer.Alike.refl_of_sized rfl : (Fuzzer.ofAgent agent).Alike _) first start
  have head := onHandle_run first (lockWith_run_of_empty connected)
  rw [show ((runAll first).run (Fuzzer.ofAgent agent)).run start = _ from ran] at head
  let free : Session := ⟨Slot.unlock left.agent false ⟨some agent, true, false⟩, none, 1⟩
  have present : free.slot.agent = some left.agent := rfl
  obtain ⟨same, sight⟩ := handedOver options present rfl still.sized rest after
  simp only [seen, onHandles_cons_run, head, List.flatten_cons, runAll_append_run,
    show ((runAll first).run (Fuzzer.ofAgent agent)).run ((⟨vm, []⟩ : Watch).saw ready) = _
      from ran]
  exact Prod.ext (congrArg (results ++ ·) same) sight

end

/-- Every way of making the same runs is seen to do the same, on every compatible host whose
kernel grants every region and every lock, whatever its queue holds, whatever count it declares
and however small its payload buffer is, whatever comes before a run and whatever a target
does to the machine.  The runs may be made on a fuzzer of their own, on one handle of a shared
session, or cut into groups with a handle each.  The results are the same one by one, errors
and all, and so is what is seen: every hypercall and every input of a target, in order. -/
theorem cut_anywhere (kernel : Kernel) (globals : Instrumentation) (host : Host)
    (options : Options) (grants : kernel.Grants) (compatible : host.config.isCompatible = true)
    (first : List Round) (rest : List (List Round)) :
    let vm := Vm.fresh kernel globals host
    let rounds := (first :: rest).flatten
    let whole := seen (onHandle options rounds) vm
    seen (onHandles options (first :: rest)) vm = whole ∧
      (owned options rounds).run ⟨vm, []⟩ = whole ∧ whole.1.length = rounds.length := by
  intro vm rounds whole
  obtain ⟨agent, connected⟩ := connects globals options grants compatible
  let start := (⟨vm, []⟩ : Watch).saw ((Agent.negotiate options).run vm).2
  have wholly : whole = _ := seen_onHandle connected rounds
  have here : (Agent.negotiate options).run (⟨vm, []⟩ : Watch).vm = _ := connected
  have alone : (owned options rounds).run ⟨vm, []⟩ = _ := owned_run here rounds
  refine ⟨?_, ?_, ?_⟩
  · rw [seen_onHandles connected first rest, wholly]
  · rw [alone, wholly]
  · rw [wholly]
    exact length_runAll rounds (Fuzzer.ofAgent agent) start

/-- Three runs on three handles, one of which is not used: the second run is told of more
bytes than there is room for. -/
theorem cut_anywhere_misdeclared :
    let vm := Vm.fresh .ordinary .absent
      { Host.fresh (.compatible 0x40 8) with inputs := [[1, 2], [3]] }
    let returns : Bytes → VmM Outcome := fun _ => pure .returned
    let early : Round := ⟨[], returns⟩
    let late : List Round := [⟨[.declare (some 99)], returns⟩, ⟨[.declare none], returns⟩]
    Kernel.ordinary.Grants ∧ vm.host.config.isCompatible = true ∧
      seen (onHandles .standard [[early], [], late]) vm =
        seen (onHandle .standard (early :: late)) vm ∧
      (seen (onHandle .standard (early :: late)) vm).1.map Except.isOk = [true, false, true] := by
  intro vm returns early late
  have grants := Kernel.ordinary_grants
  obtain ⟨same, -, -⟩ := cut_anywhere .ordinary .absent
    { Host.fresh (.compatible 0x40 8) with inputs := [[1, 2], [3]] } .standard grants rfl
    [early] [[], late]
  refine ⟨grants, rfl, same, ?_⟩
  decide +kernel

end

end Round

end Rewind
