/-
# Rewind.Proofs.Unwinding -- which runs are released

A run is released once its target returns, however early.  A target that unwinds takes the
release with it: the agent stays in the middle of the run, and whoever caught the panic goes
on from there, on the same fuzzer or, where the panic took a handle of a shared session
with it, on a new handle of the poisoned session.  The next acquire then comes without a
release before it.

Main statements: `Watch.Delivering.round` (one run, however its target comes back),
`Watch.Delivering.rounds` (all runs), `Round.onHandlesCatching_run` (new handles after a panic
go on as the old one would have), `Round.released_as_returned` (there are as many releases as
targets that returned), `Round.unreleased` (a run that is never released).
-/
import Rewind.Proofs.Delivery
import Rewind.Proofs.Handles
import Rewind.Proofs.Refusals

namespace Rewind

set_option autoImplicit false

open Vm

/-! ## One release between two acquires -/

namespace Hypercall

/-- From one acquire to the next there is just one release. -/
def Alternates (ops : List Hypercall) : Prop :=
  ∀ early between late, ops = early ++ userFastAcquire :: between ++ userFastAcquire :: late →
    userFastAcquire ∉ between → between.count release = 1

section

variable {rest : List Hypercall}

theorem alternates_of_not_mem (unasked : userFastAcquire ∉ rest) : Alternates rest := by
  rintro early between late rfl
  simp at unasked

theorem alternates_cons_of_ne {op : Hypercall} (quiet : op ≠ userFastAcquire) :
    Alternates (op :: rest) ↔ Alternates rest := by
  constructor
  · intro alternates early between late whole
    refine alternates (op :: early) between late ?_
    rw [whole]
    rfl
  · intro alternates early between late whole
    cases early with
    | nil => exact absurd (List.cons.inj whole).1 quiet
    | cons first early => exact alternates early between late (List.cons.inj whole).2

/-- An acquire at the front matters for the first acquire behind it. -/
theorem alternates_cons_acquire :
    Alternates (userFastAcquire :: rest) ↔
      (∀ between late, rest = between ++ userFastAcquire :: late →
        userFastAcquire ∉ between → between.count release = 1) ∧ Alternates rest := by
  constructor
  · intro alternates
    constructor
    · intro between late whole
      refine alternates [] between late ?_
      rw [whole]
      rfl
    · intro early between late whole
      refine alternates (userFastAcquire :: early) between late ?_
      rw [whole]
      rfl
  · rintro ⟨front, alternates⟩ early between late whole
    cases early with
    | nil => exact front between late (List.cons.inj whole).2
    | cons first early => exact alternates early between late (List.cons.inj whole).2

/-- Behind the last acquire anything goes. -/
theorem alternates_last (unasked : userFastAcquire ∉ rest) :
    Alternates (userFastAcquire :: rest) := by
  rw [alternates_cons_acquire]
  refine ⟨?_, alternates_of_not_mem unasked⟩
  rintro between late rfl
  simp at unasked

theorem not_alternates_twice :
    ¬ Alternates (userFastAcquire :: userFastAcquire :: rest) := by
  rw [alternates_cons_acquire]
  rintro ⟨front, -⟩
  have none := front [] rest rfl
  simp at none

theorem alternates_released :
    Alternates (userFastAcquire :: release :: userFastAcquire :: rest) ↔
      Alternates (userFastAcquire :: rest) := by
  rw [alternates_cons_acquire, alternates_cons_of_ne (by decide)]
  constructor
  · exact fun both => both.2
  · intro alternates
    refine ⟨?_, alternates⟩
    rintro (- | ⟨first, - | ⟨second, between⟩⟩) late whole unasked
    · cases (List.cons.inj whole).1
    · obtain ⟨rfl, -⟩ := List.cons.inj whole
      rfl
    · obtain ⟨-, tail⟩ := List.cons.inj whole
      obtain ⟨rfl, -⟩ := List.cons.inj tail
      simp at unasked

end

end Hypercall

/-! ## The calls of a run -/

def Outcome.calls : Outcome → List Call
  | .returned => [.userFastAcquire 0, .release 0]
  | .unwound => [.userFastAcquire 0]

namespace Round

open Call Hypercall

theorem tally_releases (outcomes : List Outcome) :
    tally .release (outcomes.flatMap Outcome.calls) = outcomes.count .returned := by
  induction outcomes with
  | nil => rfl
  | cons first rest ih =>
      rw [List.flatMap_cons, tally_append, ih, List.count_cons, Nat.add_comm]
      cases first with
      | returned => rfl
      | unwound => rfl

/-- A run begins with an acquire. -/
theorem ops_cons (first : Outcome) (rest : List Outcome) :
    ∃ tail, ((first :: rest).flatMap Outcome.calls).map Call.op = .userFastAcquire :: tail := by
  cases first with
  | returned => exact ⟨_, rfl⟩
  | unwound => exact ⟨_, rfl⟩

/-- There is one release from each acquire to the next just if every target returned but for
the last, behind which there is no acquire. -/
theorem alternates_calls (outcomes : List Outcome) :
    Alternates ((outcomes.flatMap Outcome.calls).map Call.op) ↔
      ∀ outcome ∈ outcomes.dropLast, outcome = .returned := by
  induction outcomes with
  | nil =>
      refine iff_of_true (alternates_of_not_mem ?_) ?_
      · simp
      · simp
  | cons first others ih =>
      cases others with
      | nil =>
          refine iff_of_true ?_ (by simp)
          cases first with
          | returned => exact alternates_last (by decide)
          | unwound => exact alternates_last (by decide)
      | cons second rest =>
          obtain ⟨tail, acquires⟩ := ops_cons second rest
          rw [acquires] at ih
          rw [List.flatMap_cons, List.map_append, acquires, List.dropLast_cons_cons,
            List.forall_mem_cons, ← ih]
          cases first with
          | returned =>
              have skip := @alternates_released tail
              simpa [Outcome.calls, Call.op] using skip
          | unwound =>
              have twice := @not_alternates_twice tail
              simpa [Outcome.calls, Call.op] using twice

/-- What comes before the first run changes nothing about the order behind it. -/
theorem alternates_opening (addr : UInt64) (outcomes : List Outcome) :
    Alternates (List.map Call.op
      ((if outcomes = [] then [] else [.getPayload addr, .userSubmitMode 0]) ++
        outcomes.flatMap Outcome.calls)) ↔
        ∀ outcome ∈ outcomes.dropLast, outcome = .returned := by
  rw [← alternates_calls]
  split
  · rfl
  · rw [List.map_append]
    show Alternates (Hypercall.getPayload :: Hypercall.userSubmitMode :: _) ↔ _
    rw [alternates_cons_of_ne (by decide), alternates_cons_of_ne (by decide)]
    rfl

end Round

/-! ## What a target may do -/

namespace Vm

open Agent

/-- What a target may do to its machine: anything but turn the snapshot cycle, move the
buffers, change what the host counts and declares, or queue an input that a count cannot
hold. -/
structure Works (vm after : Vm) : Prop where
  settled : vm.Settled after
  quiet : ∃ calls, vm.Made after calls ∧ calls.filter Call.isCycle = []
  host : after.host = { vm.host with inputs := after.host.inputs }
  short : ∀ input ∈ after.host.inputs, input ∈ vm.host.inputs ∨ input.length < countLimit

theorem Works.refl (vm : Vm) : vm.Works vm :=
  ⟨.refl vm, ⟨[], .refl vm, rfl⟩, rfl, fun _ member => .inl member⟩

theorem Works.trans {a b c : Vm} (first : a.Works b) (second : b.Works c) : a.Works c where
  settled := first.settled.trans second.settled
  quiet := by
    obtain ⟨early, made, quiet⟩ := first.quiet
    obtain ⟨late, madeLate, quietLate⟩ := second.quiet
    refine ⟨early ++ late, made.trans madeLate, ?_⟩
    rw [List.filter_append, quiet, quietLate]
    rfl
  host := by
    have same := second.host
    rw [first.host] at same
    exact same
  short input member := by
    rcases second.short input member with early | short
    · exact first.short input early
    · exact .inr short

theorem Works.cycle {vm after : Vm} (works : vm.Works after) : after.cycle = vm.cycle := by
  obtain ⟨calls, made, quiet⟩ := works.quiet
  rw [made.cycle, quiet, List.append_nil]

/-- Mild things from outside are within what a target may do. -/
theorem works_meet_one {vm : Vm} {stimulus : Stimulus} (mild : stimulus.IsMild)
    (undeclared : vm.host.declared = none) : vm.Works (vm.meet [stimulus]) := by
  have host := Watch.meet_one_host mild undeclared
  constructor
  · exact Watch.settled_meet_one vm stimulus
  · refine ⟨[], ?_, rfl⟩
    show vm.Made ((vm.stimulate stimulus).getD vm) []
    cases stimulated : vm.stimulate stimulus with
    | none => exact .refl vm
    | some after => exact (stimulate_keeps stimulated).2
  · rw [host]
  · intro input member
    rw [host] at member
    rcases List.mem_append.mp member with queued | new
    · exact .inl queued
    · cases stimulus with
      | push pushed =>
          obtain rfl := List.mem_singleton.mp new
          exact .inr mild
      | _ => cases new

theorem works_meet {vm : Vm} {stimuli : List Stimulus}
    (mild : ∀ stimulus ∈ stimuli, stimulus.IsMild) (undeclared : vm.host.declared = none) :
    vm.Works (vm.meet stimuli) := by
  induction stimuli generalizing vm with
  | nil => exact .refl vm
  | cons first rest ih =>
      have one := works_meet_one (mild first List.mem_cons_self) undeclared
      have still : (vm.meet [first]).host.declared = none := by
        rw [one.host]
        exact undeclared
      refine one.trans (ih (fun stimulus member => ?_) still)
      exact mild stimulus (List.mem_cons_of_mem _ member)

end Vm

/-- Only mild things come before the run, and its target does what it may. -/
structure Round.IsMild (round : Round) : Prop where
  before : ∀ stimulus ∈ round.before, stimulus.IsMild
  target : ∀ input (vm : Vm), vm.host.declared = none →
    vm.Works ((round.target input).run vm).2

namespace Watch

open Agent Fuzzer

section

variable {region : Region} {fuzzer : Fuzzer} {vm after : Vm} {queue : List Bytes}
  {asked released : Nat}

theorem Delivering.works (delivering : Delivering region fuzzer vm queue asked released)
    (works : vm.Works after) :
    Delivering region fuzzer after after.host.inputs asked released := by
  constructor
  · exact delivering.granted.keeps works.settled _ _
  · exact delivering.between
  · exact delivering.input
  · rw [works.host]
    exact delivering.undeclared
  · rfl
  · intro input member
    rcases works.short input member with queued | short
    · rw [delivering.inputs] at queued
      exact delivering.short input queued
    · exact short
  · exact delivering.new
  · rw [works.host]
    exact delivering.snapshots
  · rw [works.host]
    exact delivering.resumes
  · rw [works.host]
    exact delivering.releases

/-- The calls that come before the first run. -/
def prelude (addr : UInt64) (asked : Nat) : List Call :=
  if asked = 0 then [.getPayload addr, .userSubmitMode 0] else []

/-- A run is released if its target returns.  However it comes back, the next input can be
delivered. -/
theorem Delivering.round (delivering : Delivering region fuzzer vm queue asked released)
    (room : payloadHeaderSize ≤ region.len) {round : Round} (mild : round.IsMild)
    (timeline : List Moment) :
    ∃ outcome fuzzer' queue' seen,
      (round.run.run fuzzer).run ⟨vm, timeline⟩ = ((.ok outcome, fuzzer'), seen) ∧
      seen.vm.cycle = vm.cycle ++ (prelude region.addr asked ++ outcome.calls) ∧
      Delivering region fuzzer' seen.vm queue' (asked + 1)
        (released + if outcome = .returned then 1 else 0) := by
  have came := works_meet mild.before delivering.undeclared
  obtain ⟨agent, dest, ready, ran, -, made, acquired⟩ := (delivering.works came).acquire room
  generalize ((vm.meet round.before).host.inputs.headD []).take
    (region.len - payloadHeaderSize) = next at ran
  let start : Watch := ⟨vm.meet round.before, timeline⟩
  have ran' : ((Agent.acquire fuzzer.input).run fuzzer.agent).run start.vm =
      ((.ok (next.length, dest), agent), ready) := ran
  have received := nextInput_run_of_ok fuzzer ran'
  let input := dest.take next.length
  let reached : Watch :=
    { start.saw ready with timeline := (start.saw ready).timeline ++ [.ran input] }
  let answered := (round.target input).run ready
  have called : (round.call input).run (start.saw ready) =
      (answered.1, reached.saw answered.2) := rfl
  have works : ready.Works answered.2 := mild.target input ready acquired.undeclared
  have worked := acquired.works works
  have cycle : answered.2.cycle =
      vm.cycle ++ (prelude region.addr asked ++ [.userFastAcquire 0]) := by
    rw [works.cycle, made.cycle, came.cycle, prelude]
    split
    · rfl
    · rfl
  cases outcome : answered.1 with
  | unwound =>
      rw [outcome] at called
      exact ⟨.unwound, ⟨agent, dest⟩, _, reached.saw answered.2,
        tryRun_run_of_unwound received called, cycle, worked⟩
  | returned =>
      rw [outcome] at called
      refine ⟨.returned, _, _, _, tryRun_run_of_returned received called, ?_, worked.release⟩
      show ((agent.bridged answered.2).serve (.release 0)).cycle = _
      rw [(agent.made_release answered.2).cycle, cycle, List.append_assoc, List.append_assoc]
      rfl

/-- All runs, however their targets come back: each is answered, and those that returned were
released. -/
theorem Delivering.rounds (delivering : Delivering region fuzzer vm queue asked released)
    (room : payloadHeaderSize ≤ region.len) {rounds : List Round}
    (mild : ∀ round ∈ rounds, round.IsMild) (timeline : List Moment) :
    ∃ (outcomes : List Outcome) (fuzzer' : Fuzzer) (queue' : List Bytes) (seen : Watch),
      ((Round.runAll rounds).run fuzzer).run ⟨vm, timeline⟩ = ((outcomes.map .ok, fuzzer'), seen) ∧
      outcomes.length = rounds.length ∧
      seen.vm.cycle = vm.cycle ++
        ((if outcomes = [] then [] else prelude region.addr asked) ++
          outcomes.flatMap Outcome.calls) ∧
      Delivering region fuzzer' seen.vm queue' (asked + outcomes.length)
        (released + outcomes.count .returned) := by
  induction rounds generalizing fuzzer vm queue asked released timeline with
  | nil =>
      refine ⟨[], fuzzer, queue, ⟨vm, timeline⟩, rfl, rfl, ?_, delivering⟩
      rw [if_pos rfl, List.flatMap_nil, List.append_nil, List.append_nil]
  | cons first rest ih =>
      obtain ⟨outcome, left, waiting, ⟨ready, passed⟩, ran, cycle, next⟩ :=
        delivering.round room (mild first List.mem_cons_self) timeline
      obtain ⟨outcomes, fuzzer', queue', seen, ranRest, length, cycleRest, last⟩ :=
        ih next (fun round member => mild round (List.mem_cons_of_mem _ member)) passed
      refine ⟨outcome :: outcomes, fuzzer', queue', seen, ?_, ?_, ?_, ?_⟩
      · rw [Round.runAll_cons_run, ran]
        simp only [ranRest]
        rfl
      · rw [List.length_cons, List.length_cons, length]
      · have once : prelude region.addr (asked + 1) = [] := if_neg (Nat.succ_ne_zero asked)
        rw [cycleRest, cycle, once, ite_self, List.nil_append, if_neg (List.cons_ne_nil _ _),
          List.flatMap_cons, List.append_assoc, List.append_assoc]
      · have counted : (outcome :: outcomes).count .returned =
            (if outcome = .returned then 1 else 0) + outcomes.count .returned := by
          rw [List.count_cons, Nat.add_comm]
          cases outcome with
          | returned => rfl
          | unwound => rfl
        rwa [counted, List.length_cons, ← Nat.add_assoc released, Nat.add_comm _ 1,
          ← Nat.add_assoc asked]

end

end Watch

/-! ## The session after a panic -/

namespace Round

open Watch Call Hypercall

/-- What a caller does once a run came back.  A panic that it caught took the handle along and
left the session poisoned, so it locks the session again. -/
def recover (options : Options) : Option (Except AgentError Outcome) → SessionT WatchM Unit
  | some (.ok .unwound) => do
      let _ ← Session.leave true
      let _ ← Session.lockWith options guest
      return ()
  | _ => return ()

def runAllCatching (options : Options) :
    List Round → SessionT WatchM (List (Except AgentError Outcome))
  | [] => do
      let _ ← Session.leave false
      return []
  | first :: rest => do
      let result ← first.runInTurn
      recover options result
      let results ← runAllCatching options rest
      return result.toList ++ results

def onHandlesCatching (options : Options) (rounds : List Round) :
    SessionT WatchM (List (Except AgentError Outcome)) := do
  match ← Session.lockWith options guest with
  | .error _ => return []
  | .ok _ => runAllCatching options rounds

section

variable {session : Session} {fuzzer other : Fuzzer} {watch : Watch}

/-- Whatever came of a run, there is a handle for the next that is alike to the one before, and
nothing is seen of it. -/
theorem recover_run (options : Options) (result : Option (Except AgentError Outcome))
    (turn : session.turn = some fuzzer) (alike : fuzzer.Alike other) (watch : Watch) :
    ∃ after next, ((recover options result).run session).run watch = (((), after), watch) ∧
      after.turn = some next ∧ next.Alike other := by
  have stay : ∃ after next,
      ((return () : SessionT WatchM Unit).run session).run watch = (((), after), watch) ∧
        after.turn = some next ∧ next.Alike other :=
    ⟨session, fuzzer, rfl, turn, alike⟩
  match result with
  | none => exact stay
  | some (.error error) => exact stay
  | some (.ok .returned) => exact stay
  | some (.ok .unwound) =>
      let gone : Session := { session with
        slot := session.slot.unlock fuzzer.agent true, turn := none }
      have left : ((Session.leave true : SessionT WatchM Bool).run session).run watch =
          ((true, gone), watch) := leave_run true turn watch
      have present : gone.slot.agent = some fuzzer.agent := rfl
      have locked := lockWith_run_of_free options present rfl watch
      refine ⟨⟨{ gone.slot with held := true }, some (Fuzzer.ofAgent fuzzer.agent),
        gone.handshakes⟩, Fuzzer.ofAgent fuzzer.agent, ?_, rfl, alike.anew⟩
      simp only [recover, stacked_bind_run, left, locked, stacked_pure_run]

/-- New handles after a panic go on as the old one would have. -/
theorem runAllCatching_run (options : Options) (rounds : List Round)
    (turn : session.turn = some fuzzer) (alike : fuzzer.Alike other) (watch : Watch) :
    let caught := ((runAllCatching options rounds).run session).run watch
    let whole := ((runAll rounds).run other).run watch
    caught.1.1 = whole.1.1 ∧ caught.2 = whole.2 := by
  induction rounds generalizing session fuzzer other watch with
  | nil =>
      simp only [runAllCatching, stacked_bind_run, leave_run false turn, stacked_pure_run]
      exact ⟨rfl, rfl⟩
  | cons first rest ih =>
      obtain ⟨result, left, leftOther, after, ran, ranOther, still⟩ :=
        alike.tryRun first.call { watch with vm := watch.vm.meet first.before }
      have head : (first.run.run fuzzer).run watch = ((result, left), after) := ran
      have headOther : (first.run.run other).run watch = ((result, leftOther), after) := ranOther
      have made := runInTurn_run first turn watch
      rw [head] at made
      have goes : ({ session with turn := some left } : Session).turn = some left := rfl
      obtain ⟨back, next, recovered, ready, alikeNext⟩ :=
        recover_run options (some result) goes still after
      obtain ⟨same, seen⟩ := ih ready alikeNext after
      rw [runAll_cons_run, headOther]
      simp only [runAllCatching, stacked_bind_run, made, recovered, stacked_pure_run]
      exact ⟨congrArg (result :: ·) same, seen⟩

theorem onHandlesCatching_run {options : Options} {agent : Agent} {vm ready : Vm}
    (connected : (Agent.negotiate options).run vm = (.ok agent, ready)) (rounds : List Round) :
    seen (onHandlesCatching options rounds) vm = (owned options rounds).run ⟨vm, []⟩ := by
  let start : Watch := ⟨vm, []⟩
  have here : (Agent.negotiate options).run start.vm = (.ok agent, ready) := connected
  have taken : (⟨⟨some agent, true, false⟩, some (Fuzzer.ofAgent agent), 1⟩ : Session).turn =
    some (Fuzzer.ofAgent agent) := rfl
  obtain ⟨same, sight⟩ := runAllCatching_run options rounds taken (.refl_of_sized rfl)
    (start.saw ready)
  have alone : (owned options rounds).run ⟨vm, []⟩ = _ := owned_run here rounds
  rw [alone]
  simp only [seen, onHandlesCatching, stacked_bind_run, lockWith_run_of_empty connected]
  exact Prod.ext same sight

end

/-! ## From the handshake on -/

/-- A handshake with a compatible host whose payload buffer holds a count, where the kernel
grants every region and every lock, leads to a fuzzer that is delivered its inputs. -/
theorem connected_delivering {kernel : Kernel} {config : HostConfig} {queue : List Bytes}
    (globals : Instrumentation) (options : Options) (grants : kernel.Grants)
    (compatible : config.isCompatible = true) (room : 4 ≤ config.payloadBufferSize.toNat)
    (short : ∀ input ∈ queue, input.length < Agent.countLimit) :
    let vm := Vm.fresh kernel globals { Host.fresh config with inputs := queue }
    ∃ agent ready region, (Agent.negotiate options).run vm = (.ok agent, ready) ∧
      ready.cycle = [] ∧ payloadHeaderSize ≤ region.len ∧
      Delivering region (Fuzzer.ofAgent agent) ready queue 0 0 := by
  intro vm
  have space : vm.memory.HasRoom 2 := Memory.fresh_hasRoom kernel
  let host : Host := { Host.fresh config with inputs := queue }
  have speaks : host.config.isCompatible = true := compatible
  obtain ⟨agent, connected⟩ := connects globals options grants speaks
  have met := Agent.negotiated_of_run connected
  have size : agent.maxInputSize = config.payloadBufferSize.toNat := by
    rw [Agent.maxInputSize, met.hostConfig]
    rfl
  have sized : agent.maxInputSize ≠ 0 := by omega
  refine ⟨agent, _, _, connected, Guest.cycle_of_negotiated met, ?_,
    delivering_of_negotiated met rfl grants space sized short⟩
  show payloadHeaderSize ≤ agent.maxInputSize
  rw [size]
  exact room

/-- The runs on a compatible host that declares the real counts and whose payload buffer holds
a count, where the kernel grants every region and every lock, with targets that return or
unwind as they like.  On a fuzzer of their own, or on handles of a shared session that is
locked again after each panic, every run is answered and what is seen is the same.  There are
as many releases as targets that returned, and one from each acquire to the next just if every
target but the last returned: a run that unwinds is never released. -/
theorem released_as_returned (kernel : Kernel) (globals : Instrumentation) (config : HostConfig)
    (queue : List Bytes) (options : Options) (rounds : List Round) (grants : kernel.Grants)
    (compatible : config.isCompatible = true) (room : 4 ≤ config.payloadBufferSize.toNat)
    (short : ∀ input ∈ queue, input.length < 0x80000000)
    (mild : ∀ round ∈ rounds, round.IsMild) :
    let vm := Vm.fresh kernel globals { Host.fresh config with inputs := queue }
    let run := (owned options rounds).run ⟨vm, []⟩
    let calls := run.2.vm.cycle
    seen (onHandlesCatching options rounds) vm = run ∧
    ∃ outcomes : List Outcome, outcomes.length = rounds.length ∧ run.1 = outcomes.map .ok ∧
      (∃ addr, calls =
        (if outcomes = [] then [] else [.getPayload addr, .userSubmitMode 0]) ++
          outcomes.flatMap Outcome.calls) ∧
      tally .release calls = outcomes.count .returned ∧
      (Alternates (calls.map Call.op) ↔ ∀ outcome ∈ outcomes.dropLast, outcome = .returned) ∧
      (tally .release calls = rounds.length ∧ Alternates (calls.map Call.op) ↔
        ∀ outcome ∈ outcomes, outcome = .returned) := by
  intro vm run calls
  obtain ⟨agent, ready, region, connected, idle, fits, start⟩ :=
    connected_delivering globals options grants compatible room short
  let timeline := ((⟨vm, []⟩ : Watch).saw ready).timeline
  obtain ⟨outcomes, fuzzer', queue', after, ran, length, cycle, -⟩ :=
    start.rounds fits mild timeline
  have whole : run = (outcomes.map .ok, after) := by
    have here : (Agent.negotiate options).run (⟨vm, []⟩ : Watch).vm = (.ok agent, ready) :=
      connected
    have alone : run = _ := owned_run here rounds
    have same : ((runAll rounds).run (Fuzzer.ofAgent agent)).run
      ((⟨vm, []⟩ : Watch).saw ready) = _ := ran
    rw [alone, same]
  have made : calls =
      (if outcomes = [] then [] else [.getPayload region.addr, .userSubmitMode 0]) ++
        outcomes.flatMap Outcome.calls := by
    show run.2.vm.cycle = _
    rw [whole, cycle, idle]
    rfl
  have counted : tally .release calls = outcomes.count .returned := by
    rw [made, tally_append, tally_releases]
    split
    · exact Nat.zero_add _
    · exact Nat.zero_add _
  have alternates : Alternates (calls.map Call.op) ↔
      ∀ outcome ∈ outcomes.dropLast, outcome = .returned := by
    rw [made, alternates_opening]
  refine ⟨onHandlesCatching_run connected rounds, outcomes, length, ?_, ⟨region.addr, made⟩,
    counted, alternates, ?_⟩
  · rw [whole]
  · rw [counted, alternates, ← length, List.count_eq_length]
    constructor
    · rintro ⟨all, -⟩ outcome member
      exact (all outcome member).symm
    · intro all
      exact ⟨fun outcome member => (all outcome member).symm,
        fun outcome member => all outcome (List.dropLast_subset outcomes member)⟩

/-- Two targets that return, the first of which has another input queued. -/
theorem released_as_returned_twice :
    let config : HostConfig := .compatible 0x40 0x10
    let vm := Vm.fresh .ordinary .absent { Host.fresh config with inputs := [[1, 2]] }
    let rounds : List Round := [⟨[], fun _ vm => (.returned, vm.meet [.push [7]])⟩,
      ⟨[.push [9]], fun _ => pure .returned⟩]
    let run := (owned .standard rounds).run ⟨vm, []⟩
    Kernel.ordinary.Grants ∧ config.isCompatible = true ∧ (∀ round ∈ rounds, round.IsMild) ∧
      tally .release run.2.vm.cycle = 2 ∧ Alternates (run.2.vm.cycle.map Call.op) := by
  intro config vm rounds run
  have short : ∀ input ∈ ([[1, 2]] : List Bytes), input.length < 0x80000000 := by decide
  have pushed (byte : UInt8) : ∀ stimulus ∈ ([.push [byte]] : List Stimulus),
      stimulus.IsMild := by
    simp [Stimulus.IsMild, Agent.countLimit]
  have mild : ∀ round ∈ rounds, round.IsMild := by
    intro round member
    rcases List.mem_cons.mp member with rfl | later
    · exact ⟨by simp, fun _ _ undeclared => works_meet (pushed 7) undeclared⟩
    · obtain rfl := List.mem_singleton.mp later
      exact ⟨pushed 9, fun _ vm _ => .refl vm⟩
  obtain ⟨-, outcomes, -, answers, -, -, -, good⟩ := released_as_returned .ordinary .absent
    config [[1, 2]] .standard rounds Kernel.ordinary_grants rfl (by decide) short mild
  have well : run.1.map Except.toOption = [some .returned, some .returned] := by
    decide +kernel
  have returned : ∀ outcome ∈ outcomes, outcome = .returned := by
    intro outcome member
    have one : some outcome ∈ run.1.map Except.toOption := by
      rw [answers, List.map_map]
      exact List.mem_map_of_mem member
    rw [well] at one
    simpa using one
  obtain ⟨released, alternates⟩ := good.mpr returned
  exact ⟨Kernel.ordinary_grants, rfl, mild, released, alternates⟩

/-- A host that got two inputs, and a payload buffer with room for them. -/
def supplied : Vm :=
  Vm.fresh .ordinary .absent { Host.fresh (.compatible 0x40 0x10) with inputs := [[1, 2], [3]] }

/-- The first target unwinds and the second returns: one release for two runs, and none
between their acquires, on a fuzzer of its own as on two handles of a session. -/
theorem unreleased :
    let rounds : List Round := [⟨[], fun _ => pure .unwound⟩, ⟨[], fun _ => pure .returned⟩]
    let run := (owned .standard rounds).run ⟨supplied, []⟩
    let ops := run.2.vm.cycle.map Call.op
    ops = [.getPayload, .userSubmitMode, .userFastAcquire, .userFastAcquire, .release] ∧
    (seen (onHandlesCatching .standard rounds) supplied).2.vm.cycle.map Call.op = ops ∧
    tally .release run.2.vm.cycle ≠ rounds.length ∧ ¬ Alternates ops := by
  intro rounds run ops
  have made : ops = [.getPayload, .userSubmitMode, .userFastAcquire, .userFastAcquire,
      .release] := by
    decide +kernel
  refine ⟨made, ?_, ?_, ?_⟩
  · decide +kernel
  · decide +kernel
  · rw [made, alternates_cons_of_ne (by decide), alternates_cons_of_ne (by decide)]
    exact not_alternates_twice

end Round

end Rewind
