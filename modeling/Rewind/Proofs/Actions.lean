/-
# Rewind.Proofs.Actions -- what the actions of a guest do to the machine

Each action of a guest is known by the machine it leaves.  Three relations say what is
left of a machine after a while: `Vm.Made` lists the hypercalls made in between,
`Vm.Lasts` says what hardly anything changes (the kernel, what the host can do, where the
guest has its buffers, and every region that was mapped), and `Vm.Settled` adds that
nothing was mapped.

Main statements: `Vm.lock_run`, `Vm.whileLocked_of_refused`, `Vm.whileLocked_of_granted`
(an action runs while a range is locked, or not at all), `Vm.settled_serve`.
-/
import Rewind.Agent.Operation
import Rewind.Proofs.Mapping

namespace Rewind

set_option autoImplicit false

/-! ## What a delivery leaves alone -/

namespace Host

theorem deliver_agentConfig (h : Host) (m : Memory) :
    (h.deliver m).1.agentConfig = h.agentConfig := by
  unfold deliver
  split
  · rfl
  · split <;> rfl

theorem deliver_payload (h : Host) (m : Memory) : (h.deliver m).1.payload = h.payload := by
  unfold deliver
  split
  · rfl
  · split <;> rfl

theorem deliver_kernel (h : Host) (m : Memory) : (h.deliver m).2.kernel = m.kernel := by
  unfold deliver
  split
  · rfl
  · split
    · rfl
    · exact Memory.kernel_modify _ _ _

theorem deliver_next (h : Host) (m : Memory) : (h.deliver m).2.next = m.next := by
  unfold deliver
  split
  · rfl
  · split
    · rfl
    · exact Memory.next_modify _ _ _

theorem deliver_holds (h : Host) {m : Memory} {region : Region} (held : m.Holds region) :
    (h.deliver m).2.Holds region := by
  unfold deliver
  split
  · exact held
  · split
    · exact held
    · exact Memory.holds_modify held _ fun b => Buffer.size_blit b _ _

end Host

namespace Vm

/-! ## The calls made in between -/

/-- From one machine to the other these calls were made, in this order. -/
def Made (before after : Vm) (calls : List Call) : Prop :=
  ∃ events, after.history = before.history ++ events ∧ events.filterMap Event.call? = calls

theorem Made.refl (vm : Vm) : vm.Made vm [] :=
  ⟨[], by simp, rfl⟩

theorem Made.trans {a b c : Vm} {early late : List Call} (first : a.Made b early)
    (second : b.Made c late) : a.Made c (early ++ late) := by
  obtain ⟨events, grown, rfl⟩ := first
  obtain ⟨more, grownMore, rfl⟩ := second
  exact ⟨events ++ more, by rw [grownMore, grown, List.append_assoc], List.filterMap_append⟩

theorem Made.calls {before after : Vm} {calls : List Call} (made : before.Made after calls) :
    after.calls = before.calls ++ calls := by
  obtain ⟨events, grown, rfl⟩ := made
  rw [Vm.calls, Vm.calls, grown, List.filterMap_append]

theorem made_of_history {before after : Vm} (same : after.history = before.history) :
    before.Made after [] :=
  ⟨[], by simp [same], rfl⟩

theorem made_serve (vm : Vm) (call : Call) : vm.Made (vm.serve call) [call] :=
  ⟨[.called call (vm.host.trace? vm.memory)], rfl, rfl⟩

theorem made_append (vm : Vm) {event : Event} (silent : event.call? = none) :
    vm.Made (vm.append event) [] :=
  ⟨[event], rfl, by simp [silent]⟩

/-! ## What lasts -/

/-- What no action changes: the kernel, what the host can do, the buffers that the guest
announced, and the regions, which stay mapped. -/
structure Lasts (before after : Vm) : Prop where
  kernel : after.memory.kernel = before.memory.kernel
  config : after.host.config = before.host.config
  agentConfig : after.host.agentConfig = before.host.agentConfig
  payload : after.host.payload = before.host.payload
  holds : ∀ region, before.memory.Holds region → after.memory.Holds region

theorem Lasts.refl (vm : Vm) : vm.Lasts vm :=
  ⟨rfl, rfl, rfl, rfl, fun _ held => held⟩

theorem Lasts.trans {a b c : Vm} (first : a.Lasts b) (second : b.Lasts c) : a.Lasts c where
  kernel := second.kernel.trans first.kernel
  config := second.config.trans first.config
  agentConfig := second.agentConfig.trans first.agentConfig
  payload := second.payload.trans first.payload
  holds region held := second.holds region (first.holds region held)

theorem lasts_map (vm : Vm) (len : Nat) :
    vm.Lasts { vm with memory := (vm.memory.map len).2 } :=
  ⟨Memory.kernel_map _ _, rfl, rfl, rfl, fun _ held => Memory.holds_map held len⟩

/-- The same, and no region came. -/
structure Settled (before after : Vm) : Prop extends Lasts before after where
  next : after.memory.next = before.memory.next

theorem Settled.refl (vm : Vm) : vm.Settled vm :=
  ⟨.refl vm, rfl⟩

theorem Settled.trans {a b c : Vm} (first : a.Settled b) (second : b.Settled c) : a.Settled c :=
  ⟨first.toLasts.trans second.toLasts, second.next.trans first.next⟩

theorem settled_append (vm : Vm) (event : Event) : vm.Settled (vm.append event) :=
  ⟨⟨rfl, rfl, rfl, rfl, fun _ held => held⟩, rfl⟩

/-- Only the declaration and the announcement of the payload buffer change what lasts. -/
theorem settled_serve (vm : Vm) (call : Call) (noDeclaration : call.op ≠ .setAgentConfig)
    (noAnnouncement : call.op ≠ .getPayload) : vm.Settled (vm.serve call) := by
  cases call with
  | setAgentConfig config => exact absurd rfl noDeclaration
  | getPayload addr => exact absurd rfl noAnnouncement
  | userFastAcquire arg =>
      refine ⟨⟨Host.deliver_kernel _ _, Host.serve_config _ _ _, ?_, ?_, ?_⟩,
        Host.deliver_next _ _⟩
      · refine (Host.deliver_agentConfig _ _).trans ?_
        split <;> rfl
      · refine (Host.deliver_payload _ _).trans ?_
        split <;> rfl
      · exact fun region held => Host.deliver_holds _ held
  | _ => exact ⟨⟨rfl, rfl, rfl, rfl, fun _ held => held⟩, rfl⟩

/-! ## One action after another -/

section

variable {σ τ α β : Type}

theorem pure_run (a : α) (state : τ) : (pure a : StateM τ α).run state = (a, state) := rfl

theorem get_run (state : τ) : (get : StateM τ τ).run state = (state, state) := rfl

theorem set_run (state after : τ) : (set after : StateM τ PUnit).run state = ((), after) := rfl

theorem bind_run (action : StateM τ α) (next : α → StateM τ β) (state : τ) :
    (action >>= next).run state =
      let first := action.run state
      (next first.1).run first.2 := rfl

/-! The same where there are two states, such as an agent and its machine. -/

theorem stacked_pure_run (a : α) (upper : σ) (lower : τ) :
    ((pure a : StateT σ (StateM τ) α).run upper).run lower = ((a, upper), lower) := rfl

theorem stacked_get_run (upper : σ) (lower : τ) :
    ((get : StateT σ (StateM τ) σ).run upper).run lower = ((upper, upper), lower) := rfl

theorem stacked_set_run (upper after : σ) (lower : τ) :
    ((set after : StateT σ (StateM τ) PUnit).run upper).run lower = (((), after), lower) := rfl

theorem stacked_modify_run (f : σ → σ) (upper : σ) (lower : τ) :
    ((modify f : StateT σ (StateM τ) PUnit).run upper).run lower = (((), f upper), lower) := rfl

theorem stacked_lift_run (action : StateM τ α) (upper : σ) (lower : τ) :
    ((liftM action : StateT σ (StateM τ) α).run upper).run lower =
      let inside := action.run lower
      ((inside.1, upper), inside.2) := rfl

theorem stacked_bind_run (action : StateT σ (StateM τ) α) (next : α → StateT σ (StateM τ) β)
    (upper : σ) (lower : τ) :
    ((action >>= next).run upper).run lower =
      let first := (action.run upper).run lower
      ((next first.1.1).run first.1.2).run first.2 := rfl

end

/-! ## One action each -/

/-- The machine after an attempt to lock a range. -/
def tried (vm : Vm) (addr : UInt64) (len : Nat) : Vm :=
  { vm with memory := (vm.memory.lock addr len).2 }

/-- The machine with a range locked. -/
def held (vm : Vm) (addr : UInt64) (len : Nat) : Vm :=
  (vm.tried addr len).append (.locked addr len)

/-- What an attempt to unlock a range leaves in the history. -/
def unlocking (vm : Vm) (addr : UInt64) (len : Nat) : Event :=
  match vm.memory.unlockRefusal addr with
  | some errno =>
      .logged ⟨.warn, "munlock of " ++ Text.hex len ++ " bytes at " ++ Text.hex addr.toNat ++
        " failed: " ++ errno.message⟩
  | none => .unlocked addr len

/-- The machine after a range was unlocked. -/
def freed (vm : Vm) (addr : UInt64) (len : Nat) : Vm :=
  vm.append (vm.unlocking addr len)

/-- The machine with the content of a region changed. -/
def changed (vm : Vm) (region : Region) (f : Buffer → Buffer) : Vm :=
  { vm with memory := vm.memory.modify region.addr f }

@[simp] theorem hypercall_run (call : Call) (vm : Vm) :
    (hypercall call).run vm = ((), vm.serve call) := rfl

@[simp] theorem read_run (region : Region) (vm : Vm) :
    (read region).run vm = (vm.memory.read region, vm) := rfl

@[simp] theorem change_run (region : Region) (f : Buffer → Buffer) (vm : Vm) :
    (change region f).run vm = ((), vm.changed region f) := rfl

@[simp] theorem fetchConfig_run (vm : Vm) :
    fetchConfig.run vm = (vm.host.config, vm.serve .getHostConfig) := rfl

theorem map_run_of_empty (vm : Vm) : (map 0).run vm = (.error .emptyRegion, vm) := rfl

theorem map_run {len : Nat} {vm : Vm} (sized : len ≠ 0) :
    (map len).run vm =
      ((vm.memory.map len).1.mapError (.map len), { vm with memory := (vm.memory.map len).2 }) := by
  simp only [map, if_neg sized]
  rfl

theorem map_run_of_refused {len : Nat} {vm : Vm} {errno : Errno} {memory : Memory}
    (sized : len ≠ 0) (refused : vm.memory.map len = (.error errno, memory)) :
    (map len).run vm = (.error (.map len errno), { vm with memory := memory }) := by
  rw [map_run sized, refused]
  rfl

theorem map_run_of_granted {len : Nat} {vm : Vm} {region : Region} {memory : Memory}
    (sized : len ≠ 0) (mapped : vm.memory.map len = (.ok region, memory)) :
    (map len).run vm = (.ok region, { vm with memory := memory }) := by
  rw [map_run sized, mapped]
  rfl

theorem lock_run (addr : UInt64) (len : Nat) (vm : Vm) :
    (lock addr len).run vm =
      match (vm.memory.lock addr len).1 with
      | some errno => (.error (.pin addr len errno), vm.tried addr len)
      | none => (.ok (), vm.held addr len) := by
  simp only [lock, bind_run, get_run, set_run]
  cases (vm.memory.lock addr len).1 with
  | some errno => rfl
  | none => rfl

theorem unlock_run (addr : UInt64) (len : Nat) (vm : Vm) :
    (unlock addr len).run vm = ((), vm.freed addr len) := by
  simp only [unlock, freed, unlocking, bind_run, get_run]
  cases vm.memory.unlockRefusal addr with
  | some errno => rfl
  | none => rfl

theorem settled_tried (vm : Vm) (addr : UInt64) (len : Nat) : vm.Settled (vm.tried addr len) :=
  ⟨⟨rfl, rfl, rfl, rfl, fun _ held => held⟩, rfl⟩

theorem settled_held (vm : Vm) (addr : UInt64) (len : Nat) : vm.Settled (vm.held addr len) :=
  (vm.settled_tried addr len).trans (settled_append _ _)

theorem settled_freed (vm : Vm) (addr : UInt64) (len : Nat) : vm.Settled (vm.freed addr len) :=
  settled_append _ _

theorem settled_changed (vm : Vm) (region : Region) {f : Buffer → Buffer}
    (sized : ∀ b, (f b).size = b.size) : vm.Settled (vm.changed region f) :=
  ⟨⟨Memory.kernel_modify _ _ _, rfl, rfl, rfl, fun _ held => Memory.holds_modify held _ sized⟩,
    Memory.next_modify _ _ _⟩

theorem made_tried (vm : Vm) (addr : UInt64) (len : Nat) : vm.Made (vm.tried addr len) [] :=
  made_of_history rfl

theorem made_held (vm : Vm) (addr : UInt64) (len : Nat) : vm.Made (vm.held addr len) [] :=
  (vm.made_tried addr len).trans (made_append _ rfl)

theorem made_freed (vm : Vm) (addr : UInt64) (len : Nat) : vm.Made (vm.freed addr len) [] := by
  refine made_append vm ?_
  unfold unlocking
  split <;> rfl

theorem made_changed (vm : Vm) (region : Region) (f : Buffer → Buffer) :
    vm.Made (vm.changed region f) [] :=
  made_of_history rfl

/-! ## While a range is locked -/

section

variable {α : Type} {addr : UInt64} {len : Nat} {vm : Vm}

theorem whileLocked_of_refused {errno : Errno} (action : VmM (Except AgentError α))
    (refused : (vm.memory.lock addr len).1 = some errno) :
    (whileLocked addr len action).run vm = (.error (.pin addr len errno), vm.tried addr len) := by
  simp only [whileLocked, monadLift_self, bind_run, lock_run, refused]
  rfl

theorem whileLocked_of_granted (action : VmM (Except AgentError α))
    (granted : (vm.memory.lock addr len).1 = none) :
    (whileLocked addr len action).run vm =
      let inside := action.run (vm.held addr len)
      (inside.1, inside.2.freed addr len) := by
  simp only [whileLocked, monadLift_self, bind_run, lock_run, granted, unlock_run, pure_run]

/-- The same for someone who has an agent besides. -/
theorem whileLocked_agent_of_refused {errno : Errno} (action : AgentM (Except AgentError α))
    (agent : Agent) (refused : (vm.memory.lock addr len).1 = some errno) :
    ((whileLocked addr len action).run agent).run vm =
      ((.error (.pin addr len errno), agent), vm.tried addr len) := by
  simp only [whileLocked, stacked_bind_run, stacked_lift_run, lock_run, refused]
  rfl

theorem whileLocked_agent_of_granted (action : AgentM (Except AgentError α)) (agent : Agent)
    (granted : (vm.memory.lock addr len).1 = none) :
    ((whileLocked addr len action).run agent).run vm =
      let inside := (action.run agent).run (vm.held addr len)
      (inside.1, inside.2.freed addr len) := by
  simp only [whileLocked, stacked_bind_run, stacked_lift_run, lock_run, granted, unlock_run,
    stacked_pure_run]

end

end Vm

end Rewind
