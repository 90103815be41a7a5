/-
# Rewind.Proofs.Exclusion -- one holder of the agent at a time

Whoever locks a slot gets a guard and has the agent through it until the guard is dropped, at
the end of the work or while unwinding.  Nothing about a slot says that there is one guard
only: a `Sharing` has any number of them, each with the agent as its holder has it, and keeps
a record of what was made, handed out and left.

A lock is tried, not waited for.  There are three ways an attempt can come out, and two of them
hand out the agent (`Slot.lockByAttempt_eq`): that a holder unwound changes nothing.

What is kept by every action (`Sharing.Stage.step`): the slot was not asked for yet, or it is
free with the agent in it as it was left last, or one guard is live.

Main statements: `Sharing.Stage.run` and `Sharing.one_holder`.
-/
import Rewind.Proofs.Actions
import Rewind.Slot

namespace Rewind

set_option autoImplicit false

/-! ## Three ways to lock -/

namespace Slot

/-- How an attempt to lock comes out. -/
inductive Attempt
  | locked (agent : Agent)
  /-- It is locked, with the news that a holder unwound. -/
  | poisoned (agent : Agent)
  /-- Someone has the agent. -/
  | wouldBlock

/-- Try to lock a slot that has this agent. -/
def tryLock (slot : Slot) (agent : Agent) : Attempt × Slot :=
  if slot.held then (.wouldBlock, slot)
  else if slot.poisoned then (.poisoned agent, { slot with held := true })
  else (.locked agent, { slot with held := true })

variable {m : Type → Type} [Monad m]

/-- The agent of a slot, which `connect` makes if there is none yet. -/
def getOrMake (connect : m Agent) (slot : Slot) : m (Agent × Slot) := do
  match slot.agent with
  | some agent => return (agent, slot)
  | none =>
      let agent ← connect
      return (agent, { slot with agent := some agent })

/-- Lock by one attempt, whatever it says of earlier holders. -/
def lockByAttempt (connect : m Agent) (slot : Slot) : m (Except AgentError Agent × Slot) := do
  let (agent, slot) ← getOrMake connect slot
  match slot.tryLock agent with
  | (.locked agent, slot) => return (.ok agent, slot)
  | (.poisoned agent, slot) => return (.ok agent, slot)
  | (.wouldBlock, slot) => return (.error .sessionBusy, slot)

theorem lockByAttempt_eq [LawfulMonad m] (connect : m Agent) (slot : Slot) :
    lockByAttempt connect slot = lock connect slot := by
  obtain ⟨agent, held, poisoned⟩ := slot
  cases agent <;> cases held <;> cases poisoned <;>
    simp [lockByAttempt, getOrMake, lock, tryLock, take]

end Slot

/-! ## Those who share a slot -/

/-- A live guard: the call that gave it, and the agent as its holder has it. -/
structure Guard where
  call : Nat
  agent : Agent

/-- A slot and those who share it, on one machine. -/
structure Sharing where
  vm : Vm
  slot : Slot
  /-- The guards that are live. -/
  guards : List Guard
  /-- How often the slot was asked for. -/
  calls : Nat
  /-- The calls for which an agent was made, and the agent that was made. -/
  made : List (Nat × Agent)
  /-- The agents as they were handed out, in order. -/
  obtained : List Agent
  /-- The agents as their holders left them, in order. -/
  left : List Agent

namespace Sharing

/-- Something that is done by those who share a slot. -/
inductive Action
  /-- Ask for the agent, to be made by `connect` if there is none. -/
  | lock (connect : VmM Agent)
  /-- Work on the agent through the guard that a call gave. -/
  | use (call : Nat) (work : AgentM Unit)
  /-- Drop the guard that a call gave. -/
  | drop (call : Nat) (unwinding : Bool)

def Action.isLock : Action → Bool
  | lock _ => true
  | _ => false

/-- Nobody asked for the slot yet. -/
def fresh (vm : Vm) : Sharing := ⟨vm, .empty, [], 0, [], [], []⟩

/-- Make an agent, and note for which call. -/
def noting (call : Nat) (connect : VmM Agent) : StateT (List (Nat × Agent)) VmM Agent := do
  let agent ← connect
  modify (· ++ [(call, agent)])
  return agent

def lock (connect : VmM Agent) (s : Sharing) : Except AgentError Agent × Sharing :=
  let ran := ((s.slot.lock (noting s.calls connect)).run s.made).run s.vm
  let asked : Sharing :=
    { s with vm := ran.2, slot := ran.1.1.2, calls := s.calls + 1, made := ran.1.2 }
  match ran.1.1.1 with
  | .error error => (.error error, asked)
  | .ok agent =>
      (.ok agent, { asked with
        guards := s.guards ++ [⟨s.calls, agent⟩], obtained := s.obtained ++ [agent] })

/-- Work on the agent through a guard, if it is live. -/
def use? (call : Nat) (work : AgentM Unit) (s : Sharing) : Option Sharing :=
  (s.guards.find? (·.call == call)).map fun guard =>
    let ran := (work.run guard.agent).run s.vm
    { s with
      vm := ran.2
      guards := s.guards.map fun other => if other.call == call then ⟨call, ran.1.2⟩ else other }

/-- Drop a guard, if it is live. -/
def drop? (call : Nat) (unwinding : Bool) (s : Sharing) : Option Sharing :=
  (s.guards.find? (·.call == call)).map fun guard =>
    { s with
      slot := s.slot.unlock guard.agent unwinding
      guards := s.guards.filter (·.call != call)
      left := s.left ++ [guard.agent] }

/-- Let an action be done.  Only a live guard can be used or dropped. -/
def step? (s : Sharing) : Action → Option Sharing
  | .lock connect => some (s.lock connect).2
  | .use call work => s.use? call work
  | .drop call unwinding => s.drop? call unwinding

/-- Let actions be done, one after another. -/
def run? (actions : List Action) (s : Sharing) : Option Sharing :=
  actions.foldlM step? s

/-! ## Asking for the slot -/

section

variable {s : Sharing} {agent : Agent}

/-- The first to ask makes the agent. -/
theorem lock_fresh (connect : VmM Agent) (vm : Vm) :
    (fresh vm).lock connect =
      let ran := connect.run vm
      (.ok ran.1, ⟨ran.2, ⟨some ran.1, true, false⟩, [⟨0, ran.1⟩], 1, [(0, ran.1)], [ran.1], []⟩) :=
  rfl

/-- Whoever asks while nobody has the agent gets it, whether or not a holder unwound. -/
theorem lock_of_free (connect : VmM Agent) (present : s.slot.agent = some agent)
    (free : s.slot.held = false) :
    s.lock connect = (.ok agent, { s with
      slot := { s.slot with held := true }, guards := s.guards ++ [⟨s.calls, agent⟩]
      calls := s.calls + 1, obtained := s.obtained ++ [agent] }) := by
  rw [lock, Slot.lock_of_free _ present free]
  rfl

/-- Whoever asks while someone has it is turned away, and nothing is touched. -/
theorem lock_of_held (connect : VmM Agent) (present : s.slot.agent = some agent)
    (held : s.slot.held = true) :
    s.lock connect = (.error .sessionBusy, { s with calls := s.calls + 1 }) := by
  rw [lock, Slot.lock_of_held _ present held]
  rfl

end

/-! ## What every action keeps -/

/-- How things stand with a slot: nobody asked for it, or the first call made the agent, and it
is in the slot as it was left last or with one holder. -/
inductive Stage : Sharing → Prop
  | untouched (vm : Vm) : Stage (fresh vm)
  | free {s : Sharing} {first agent : Agent} (present : s.slot.agent = some agent)
      (nobody : s.slot.held = false) (none : s.guards = []) (asked : 0 < s.calls)
      (once : s.made = [(0, first)]) (handed : s.obtained ++ [agent] = first :: s.left) : Stage s
  | held {s : Sharing} {first stale : Agent} {guard : Guard} (present : s.slot.agent = some stale)
      (someone : s.slot.held = true) (one : s.guards = [guard]) (asked : 0 < s.calls)
      (once : s.made = [(0, first)]) (handed : s.obtained = first :: s.left) : Stage s

variable {s t : Sharing} {call : Nat}

/-- Asking leaves one holder, and no other. -/
theorem Stage.lock (stage : Stage s) (connect : VmM Agent) : Stage (s.lock connect).2 := by
  cases stage with
  | untouched vm =>
      rw [lock_fresh]
      exact .held rfl rfl rfl Nat.one_pos rfl rfl
  | @free _ first agent present nobody none asked once handed =>
      have one : s.guards ++ [⟨s.calls, agent⟩] = [⟨s.calls, agent⟩] := by
        rw [none, List.nil_append]
      rw [lock_of_free connect present nobody]
      exact .held present rfl one (Nat.succ_pos _) once handed
  | held present someone one asked once handed =>
      rw [lock_of_held connect present someone]
      exact .held present someone one (Nat.succ_pos _) once handed

/-- A guard that is found is the only one. -/
theorem find?_single {guard found : Guard} (one : s.guards = [guard])
    (live : s.guards.find? (·.call == call) = some found) : guard.call = call ∧ found = guard := by
  rw [one, List.find?_singleton] at live
  split at live
  · next same => exact ⟨beq_iff_eq.mp same, (Option.some.inj live).symm⟩
  · cases live

/-- Only where the slot is held is a guard live, and that is the only one. -/
theorem Stage.holder (stage : Stage s) {found : Guard}
    (live : s.guards.find? (·.call == call) = some found) :
    found.call = call ∧ s.guards = [found] ∧ ∃ first stale,
      s.slot.agent = some stale ∧ s.slot.held = true ∧ 0 < s.calls ∧ s.made = [(0, first)] ∧
        s.obtained = first :: s.left := by
  cases stage with
  | untouched vm => cases live
  | free present nobody none =>
      rw [none] at live
      cases live
  | held present someone one asked once handed =>
      obtain ⟨gave, rfl⟩ := find?_single one live
      exact ⟨gave, one, _, _, present, someone, asked, once, handed⟩

/-- Work through a guard leaves it the only one. -/
theorem Stage.use (stage : Stage s) {work : AgentM Unit} (came : s.use? call work = some t) :
    Stage t := by
  obtain ⟨found, live, rfl⟩ := Option.map_eq_some_iff.mp came
  obtain ⟨rfl, one, first, stale, present, someone, asked, once, handed⟩ := stage.holder live
  have still : (s.guards.map fun other => if other.call == found.call then
      ⟨found.call, ((work.run found.agent).run s.vm).1.2⟩ else other) =
        [⟨found.call, ((work.run found.agent).run s.vm).1.2⟩] := by
    rw [one, List.map_singleton, if_pos (beq_self_eq_true _)]
  exact .held present someone still asked once handed

/-- Dropping the guard leaves the agent in the slot as its holder had it. -/
theorem Stage.drop (stage : Stage s) {unwinding : Bool} (came : s.drop? call unwinding = some t) :
    Stage t := by
  obtain ⟨found, live, rfl⟩ := Option.map_eq_some_iff.mp came
  obtain ⟨rfl, one, first, stale, present, someone, asked, once, handed⟩ := stage.holder live
  have nobody : s.guards.filter (·.call != found.call) = [] := by
    rw [one]
    exact List.filter_cons_of_neg (by simp)
  have back : s.obtained ++ [found.agent] = first :: (s.left ++ [found.agent]) := by
    rw [handed]
    rfl
  exact .free rfl rfl nobody asked once back

theorem Stage.step (stage : Stage s) {action : Action} (came : s.step? action = some t) :
    Stage t := by
  cases action with
  | lock connect =>
      obtain rfl := Option.some.inj came
      exact stage.lock connect
  | use call work => exact stage.use came
  | drop call unwinding => exact stage.drop came

/-- However the slot is shared, there is one holder at most. -/
theorem Stage.run (stage : Stage s) {actions : List Action} (came : s.run? actions = some t) :
    Stage t := by
  induction actions generalizing s with
  | nil =>
      obtain rfl := Option.some.inj came
      exact stage
  | cons action rest ih =>
      obtain ⟨next, stepped, ran⟩ := Option.bind_eq_some_iff.mp came
      exact ih (stage.step stepped) ran

theorem calls_lock (connect : VmM Agent) (s : Sharing) :
    (s.lock connect).2.calls = s.calls + 1 := by
  unfold lock
  dsimp only
  split <;> rfl

theorem calls_step {action : Action} (came : s.step? action = some t) :
    t.calls = s.calls + action.isLock.toNat := by
  cases action with
  | lock connect =>
      obtain rfl := Option.some.inj came
      exact calls_lock connect s
  | use call work =>
      obtain ⟨found, -, rfl⟩ := Option.map_eq_some_iff.mp came
      rfl
  | drop call unwinding =>
      obtain ⟨found, -, rfl⟩ := Option.map_eq_some_iff.mp came
      rfl

theorem calls_run {actions : List Action} (came : s.run? actions = some t) :
    t.calls = s.calls + actions.countP Action.isLock := by
  induction actions generalizing s with
  | nil =>
      obtain rfl := Option.some.inj came
      rfl
  | cons action rest ih =>
      obtain ⟨next, stepped, ran⟩ := Option.bind_eq_some_iff.mp came
      rw [ih ran, calls_step stepped, List.countP_cons]
      cases action.isLock with
      | false => rfl
      | true =>
          simp only [Bool.toNat_true, if_true]
          omega

theorem Stage.single (stage : Stage s) : s.guards.length ≤ 1 := by
  cases stage with
  | untouched vm => exact Nat.zero_le 1
  | free present nobody none =>
      rw [none]
      exact Nat.zero_le 1
  | held present someone one =>
      rw [one]
      exact Nat.le_refl 1

theorem Stage.made_once (stage : Stage s) :
    s.made.map Prod.fst = (List.range s.calls).take 1 := by
  have first : 0 < s.calls → (List.range s.calls).take 1 = [0] := by
    intro asked
    obtain ⟨n, calls⟩ := Nat.exists_eq_add_one.mpr asked
    rw [calls, List.range_succ_eq_map]
    rfl
  cases stage with
  | untouched vm => rfl
  | free present nobody none asked once => rw [once, first asked]; rfl
  | held present someone one asked once => rw [once, first asked]; rfl

theorem Stage.granted_iff (stage : Stage s) (connect : VmM Agent) :
    (∃ agent, (s.lock connect).1 = .ok agent) ↔ s.guards = [] := by
  cases stage with
  | untouched vm => exact iff_of_true ⟨_, rfl⟩ rfl
  | free present nobody none =>
      rw [lock_of_free connect present nobody]
      exact iff_of_true ⟨_, rfl⟩ none
  | held present someone one =>
      rw [lock_of_held connect present someone, one]
      refine iff_of_false ?_ (List.cons_ne_nil _ _)
      rintro ⟨agent, granted⟩
      cases granted

theorem Stage.refused (stage : Stage s) (connect : VmM Agent) (live : s.guards ≠ []) :
    s.lock connect = (.error .sessionBusy, { s with calls := s.calls + 1 }) := by
  cases stage with
  | untouched vm => exact absurd rfl live
  | free present nobody none => exact absurd none live
  | held present someone => exact lock_of_held connect present someone

/-- Each guard gives what was left: what was handed out is what was made and then left, but for
the agent that is in the slot. -/
theorem Stage.handed (stage : Stage s) :
    s.obtained <+: s.made.map Prod.snd ++ s.left ∧
      s.obtained.length = s.left.length + s.guards.length := by
  cases stage with
  | untouched vm => exact ⟨List.prefix_refl _, rfl⟩
  | free present nobody none asked once handed =>
      have sizes := congrArg List.length handed
      rw [List.length_append, List.length_cons] at sizes
      rw [once, none]
      exact ⟨⟨_, handed⟩, Nat.succ.inj sizes⟩
  | held present someone one asked once handed =>
      rw [once, one, handed]
      exact ⟨List.prefix_refl _, rfl⟩

theorem Stage.lock_quiet (stage : Stage s) (made : s.made ≠ []) (connect : VmM Agent) :
    (s.lock connect).2.vm = s.vm := by
  cases stage with
  | untouched vm => exact absurd rfl made
  | free present nobody => rw [lock_of_free connect present nobody]
  | held present someone => rw [lock_of_held connect present someone]

theorem drop_quiet {unwinding : Bool} (came : s.drop? call unwinding = some t) : t.vm = s.vm := by
  obtain ⟨found, -, rfl⟩ := Option.map_eq_some_iff.mp came
  rfl

/-- What holds of a slot after these actions, and of the next. -/
structure Exclusive (actions : List Action) (s : Sharing) : Prop where
  /-- The first call made the agent, and no other. -/
  made : s.made.map Prod.fst = (List.range (actions.countP Action.isLock)).take 1
  single : s.guards.length ≤ 1
  /-- Whoever asks gets the agent just if no guard is live. -/
  granted_iff : ∀ connect, (∃ agent, (s.lock connect).1 = .ok agent) ↔ s.guards = []
  /-- Whoever asks while one is live is turned away, without an agent made or touched. -/
  refused : ∀ connect, s.guards ≠ [] →
    s.lock connect = (.error .sessionBusy, { s with calls := s.calls + 1 })
  /-- The first guard gives the agent as it was made, each later one as the holder before left
  it. -/
  handed : s.obtained <+: s.made.map Prod.snd ++ s.left
  counted : s.obtained.length = s.left.length + s.guards.length
  /-- Once the agent is made, asking does nothing to the machine, so no hypercall is made. -/
  lock_quiet : s.made ≠ [] → ∀ connect, (s.lock connect).2.vm = s.vm
  drop_quiet : ∀ call unwinding next, s.drop? call unwinding = some next → next.vm = s.vm

/-- However a slot is shared that nobody asked for before, by whatever calls, work through
guards and drops of guards, unwinding or not: the first call makes the agent, one guard is live
at most, whoever asks gets the agent just if none is, and gets it as the last holder left it.
Asking takes one attempt, and what that says of holders that unwound makes no difference. -/
theorem one_holder :
    (∀ {m : Type → Type} [Monad m] [LawfulMonad m] (connect : m Agent) (slot : Slot),
      slot.lock connect = slot.lockByAttempt connect) ∧
    ∀ (vm : Vm) (actions : List Action) (s : Sharing),
      (fresh vm).run? actions = some s → Exclusive actions s := by
  constructor
  · intro m _ _ connect slot
    exact (Slot.lockByAttempt_eq connect slot).symm
  · intro vm actions s came
    have stage := (Stage.untouched vm).run came
    have calls : s.calls = actions.countP Action.isLock := by
      rw [calls_run came]
      exact Nat.zero_add _
    exact
      { made := calls ▸ stage.made_once
        single := stage.single
        granted_iff := stage.granted_iff
        refused := stage.refused
        handed := stage.handed.1
        counted := stage.handed.2
        lock_quiet := stage.lock_quiet
        drop_quiet := fun _ _ _ => drop_quiet }

/-- An agent whose handshake went through. -/
def ready : Agent := ⟨.compatible 0x40 0x100, .negotiated, ⟨0x10000, 0x40⟩, none, none⟩

/-- The first holder works on the agent and unwinds, while another asks in vain.  Those who ask
later find the agent as it was left, and no other is made. -/
theorem one_holder_unwound :
    let vm := Vm.fresh .ordinary .absent (Host.fresh (.compatible 0x40 0x100))
    let connect : VmM Agent := do
      Vm.hypercall .getHostConfig
      return ready
    let actions : List Action := [.lock connect, .use 0 Agent.release, .lock connect,
      .drop 0 true, .lock connect, .drop 2 false, .lock connect]
    ∃ s, (fresh vm).run? actions = some s ∧ Exclusive actions s ∧ s.slot.poisoned = true ∧
      s.made.map Prod.fst = [0] ∧ s.guards.map Guard.call = [3] ∧
      s.obtained.map Agent.state = [.negotiated, .released, .released] := by
  intro vm connect actions
  have ran : (fresh vm).run? actions = some _ := rfl
  exact ⟨_, ran, one_holder.2 vm actions _ ran, rfl, rfl, rfl, rfl⟩

end Sharing

end Rewind
