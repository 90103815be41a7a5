/-
# Rewind.Slot -- the one session of a process

A process has one agent for the hypervisor.  It stays in a slot: the first that asks
for it makes it, later ones find it as it was left.  One holder has it at a time, and
whoever asks meanwhile is refused.  A holder that unwinds leaves a mark on the slot
and nothing else.

Main statements: `lock_of_held`, `lock_of_free`, `lock_of_empty`.
-/
import Rewind.Agent

namespace Rewind

set_option autoImplicit false

structure Slot where
  /-- The agent as its last holder left it, once there is one. -/
  agent : Option Agent
  /-- Someone has the agent. -/
  held : Bool
  /-- A holder unwound. -/
  poisoned : Bool

namespace Slot

def empty : Slot := ⟨none, false, false⟩

/-- Take the agent if nobody has it. -/
def take (slot : Slot) (agent : Agent) : Except AgentError Agent × Slot :=
  if slot.held then (.error .sessionBusy, slot) else (.ok agent, { slot with held := true })

/-- Take the agent, which `connect` makes if there is none yet. -/
def lock {m : Type → Type} [Monad m] (connect : m Agent) (slot : Slot) :
    m (Except AgentError Agent × Slot) := do
  match slot.agent with
  | some agent => return slot.take agent
  | none =>
      let agent ← connect
      return { slot with agent := some agent }.take agent

/-- Give the agent back, at the end of the work or while unwinding. -/
def unlock (agent : Agent) (unwinding : Bool) (slot : Slot) : Slot where
  agent := some agent
  held := false
  poisoned := slot.poisoned || unwinding

variable {m : Type → Type} [Monad m]

/-- Whoever asks while someone has the agent is refused, and nothing is made. -/
theorem lock_of_held (connect : m Agent) {slot : Slot} {agent : Agent}
    (present : slot.agent = some agent) (held : slot.held = true) :
    lock connect slot = pure (.error .sessionBusy, slot) := by
  simp [lock, present, take, held]

/-- An agent that was made before is handed out, also behind a holder that unwound. -/
theorem lock_of_free (connect : m Agent) {slot : Slot} {agent : Agent}
    (present : slot.agent = some agent) (free : slot.held = false) :
    lock connect slot = pure (.ok agent, { slot with held := true }) := by
  simp [lock, present, take, free]

/-- The first to ask makes the agent. -/
theorem lock_of_empty (connect : m Agent) {slot : Slot} (none : slot.agent = none)
    (free : slot.held = false) :
    lock connect slot = do
      let agent ← connect
      return (.ok agent, { slot with agent := some agent, held := true }) := by
  simp [lock, none, take, free]

end Slot

end Rewind
