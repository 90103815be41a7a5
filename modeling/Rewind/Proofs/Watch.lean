/-
# Rewind.Proofs.Watch -- a fuzzer as it is seen from outside

The history of a machine holds the hypercalls of the guest but not the calls of its
target.  A `Watch` has both in one timeline: whoever watches runs the actions of the
guest (`Watch.guest`) and the target (`Watch.target`) and notes what they see.  What comes
from outside comes between two turns of the fuzzer or while its target runs.

Main statements: `Watch.tryRun_run` (a run is an acquire, the target, a release),
`Watch.play_cons_run`.
-/
import Rewind.Fuzzer
import Rewind.Proofs.Runs

namespace Rewind

set_option autoImplicit false

namespace Vm

/-- The machine after these came from outside; what cannot come changes nothing. -/
def meet (vm : Vm) (stimuli : List Stimulus) : Vm :=
  stimuli.foldl (fun vm stimulus => (vm.stimulate stimulus).getD vm) vm

end Vm

/-- One thing that is seen: a hypercall, or the target being called on an input. -/
inductive Moment
  | called (call : Call)
  | ran (input : Bytes)

/-- A machine and what was seen of it, oldest first. -/
structure Watch where
  vm : Vm
  timeline : List Moment

abbrev WatchM := StateM Watch

/-- One turn: something comes from outside, or the target is run on the next input, with
what comes while it runs. -/
inductive Turn
  | outside (stimulus : Vm.Stimulus)
  | run (during : Bytes → List Vm.Stimulus)

namespace Watch

open Vm Fuzzer

/-- Run an action of the guest and see the hypercalls that it makes. -/
def guest (β : Type) (action : VmM β) : WatchM β := fun watch =>
  let ran := action.run watch.vm
  (ran.1, ⟨ran.2, watch.timeline ++
    (ran.2.calls.drop watch.vm.calls.length).map Moment.called⟩)

/-- A target that returns, seen on its input. -/
def target (during : Bytes → List Stimulus) (input : Bytes) : WatchM Outcome := do
  modify fun watch => ⟨watch.vm.meet (during input), watch.timeline ++ [.ran input]⟩
  return .returned

def turn : Turn → FuzzerT WatchM (Option (Except AgentError Outcome))
  | .outside stimulus => do
      (modify fun watch => { watch with vm := watch.vm.meet [stimulus] } : WatchM Unit)
      return none
  | .run during => return some (← tryRun guest (target during))

def play : List Turn → FuzzerT WatchM (List (Except AgentError Outcome))
  | [] => return []
  | first :: rest => do
      let result ← turn first
      let results ← play rest
      return result.toList ++ results

/-- What is seen once an action of the guest leaves this machine. -/
def saw (watch : Watch) (after : Vm) : Watch :=
  ⟨after, watch.timeline ++ (after.calls.drop watch.vm.calls.length).map Moment.called⟩

theorem saw_self (watch : Watch) : watch.saw watch.vm = watch := by
  rw [saw, List.drop_length, List.map_nil, List.append_nil]

theorem saw_of_made {watch : Watch} {after : Vm} {calls : List Call}
    (made : watch.vm.Made after calls) :
    watch.saw after = ⟨after, watch.timeline ++ calls.map .called⟩ := by
  rw [saw, made.calls, List.drop_left]

/-! ## What the actions of a fuzzer do -/

section

variable {α : Type} {watch reached met : Watch} {fuzzer left : Fuzzer} {after : Vm}
  {agent : Agent} {input : Bytes}

theorem guest_run {a : α} {action : VmM α} (ran : action.run watch.vm = (a, after)) :
    (guest α action).run watch = (a, watch.saw after) := by
  show ((action.run watch.vm).1, watch.saw (action.run watch.vm).2) = _
  rw [ran]

theorem onAgent_run {a : α} {action : AgentM α} (fuzzer : Fuzzer)
    (ran : (action.run fuzzer.agent).run watch.vm = ((a, agent), after)) :
    ((onAgent guest action).run fuzzer).run watch =
      ((a, { fuzzer with agent := agent }), watch.saw after) := by
  have seen := guest_run ran
  simp only [onAgent, stacked_bind_run, stacked_get_run, stacked_lift_run, seen,
    stacked_set_run, stacked_pure_run]

theorem nextInput_run_of_error {error : AgentError} (fuzzer : Fuzzer)
    (ran : ((Agent.acquire fuzzer.input).run fuzzer.agent).run watch.vm =
      ((.error error, agent), after)) :
    ((nextInput guest).run fuzzer).run watch =
      ((.error error, { fuzzer with agent := agent }), watch.saw after) := by
  have seen := onAgent_run fuzzer ran
  simp only [nextInput, stacked_bind_run, stacked_get_run, seen, stacked_pure_run]

theorem nextInput_run_of_ok {len : Nat} {filled : Buffer} (fuzzer : Fuzzer)
    (ran : ((Agent.acquire fuzzer.input).run fuzzer.agent).run watch.vm =
      ((.ok (len, filled), agent), after)) :
    ((nextInput guest).run fuzzer).run watch =
      ((.ok (filled.take len), ⟨agent, filled⟩), watch.saw after) := by
  have seen := onAgent_run fuzzer ran
  simp only [nextInput, stacked_bind_run, stacked_get_run, seen, stacked_modify_run]
  rfl

theorem tryRun_run_of_error {error : AgentError} (target : Bytes → WatchM Outcome)
    (refused : ((nextInput guest).run fuzzer).run watch = ((.error error, left), reached)) :
    ((tryRun guest target).run fuzzer).run watch = ((.error error, left), reached) := by
  simp only [tryRun, stacked_bind_run, refused, stacked_pure_run]

/-- A target that unwinds takes the release with it. -/
theorem tryRun_run_of_unwound {target : Bytes → WatchM Outcome}
    (received : ((nextInput guest).run fuzzer).run watch = ((.ok input, left), reached))
    (called : (target input).run reached = (.unwound, met)) :
    ((tryRun guest target).run fuzzer).run watch = ((.ok .unwound, left), met) := by
  simp only [tryRun, stacked_bind_run, received, stacked_lift_run, called, stacked_pure_run]

theorem tryRun_run_of_returned {target : Bytes → WatchM Outcome}
    (received : ((nextInput guest).run fuzzer).run watch = ((.ok input, left), reached))
    (called : (target input).run reached = (.returned, met)) :
    ((tryRun guest target).run fuzzer).run watch =
      ((.ok .returned, { left with agent := { left.agent with state := .released } }),
        met.saw ((left.agent.bridged met.vm).serve (.release 0))) := by
  have released := onAgent_run left (left.agent.release_run met.vm)
  simp only [tryRun, stacked_bind_run, received, stacked_lift_run, called, released,
    stacked_pure_run]

/-- A run whose acquire hands out an input calls the target on it and releases. -/
theorem tryRun_run {len : Nat} {input : Buffer} {calls : List Call} (fuzzer : Fuzzer)
    (watch : Watch) (during : Bytes → List Stimulus)
    (ran : ((Agent.acquire fuzzer.input).run fuzzer.agent).run watch.vm =
      ((.ok (len, input), agent), after))
    (made : watch.vm.Made after calls) :
    let met := after.meet (during (input.take len))
    ((tryRun guest (target during)).run fuzzer).run watch =
      ((.ok .returned, ⟨{ agent with state := .released }, input⟩),
        ⟨(agent.bridged met).serve (.release 0), watch.timeline ++
          (calls.map .called ++ [.ran (input.take len), .called (.release 0)])⟩) := by
  intro met
  have received := nextInput_run_of_ok fuzzer ran
  rw [saw_of_made made] at received
  have called : (target during (input.take len)).run
      ⟨after, watch.timeline ++ calls.map .called⟩ =
        (.returned, ⟨met, watch.timeline ++ calls.map .called ++ [.ran (input.take len)]⟩) := rfl
  have released : (⟨met, watch.timeline ++ calls.map .called ++ [.ran (input.take len)]⟩ :
      Watch).saw ((agent.bridged met).serve (.release 0)) = _ :=
    saw_of_made (agent.made_release met)
  rw [tryRun_run_of_returned received called, released]
  simp only [List.append_assoc, List.map_cons, List.map_nil, List.cons_append, List.nil_append]

theorem turn_outside_run (stimulus : Stimulus) (fuzzer : Fuzzer) (watch : Watch) :
    ((turn (.outside stimulus)).run fuzzer).run watch =
      ((none, fuzzer), { watch with vm := watch.vm.meet [stimulus] }) := rfl

theorem turn_run_run {during : Bytes → List Stimulus} {result : Except AgentError Outcome}
    {left : Fuzzer} {seen : Watch}
    (ran : ((tryRun guest (target during)).run fuzzer).run watch = ((result, left), seen)) :
    ((turn (.run during)).run fuzzer).run watch = ((some result, left), seen) := by
  simp only [turn, stacked_bind_run, ran, stacked_pure_run]

theorem play_cons_run (first : Turn) (rest : List Turn) (fuzzer : Fuzzer) (watch : Watch) :
    ((play (first :: rest)).run fuzzer).run watch =
      let one := ((turn first).run fuzzer).run watch
      let others := ((play rest).run one.1.2).run one.2
      ((one.1.1.toList ++ others.1.1, others.1.2), others.2) := rfl

end

end Watch

end Rewind
