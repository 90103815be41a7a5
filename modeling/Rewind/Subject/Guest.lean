/-
# Rewind.Subject.Guest -- what a process sees of its guest

A process runs actions of its guest and sees what happens there: hypercalls go to a host and
records to the log.  Where nothing serves the hypercall instruction the processor does not know
it, so the first hypercall raises a signal, and what the guest did behind it is never seen: that
signal always ends the process.  Whoever drives the session asks first whether there is a
hypervisor.
-/
import Rewind.Subject.Crash

namespace Rewind.Subject

set_option autoImplicit false

/-- Let a process see what happened in a guest, up to the first hypercall that is not served. -/
def relay (channel : Channel) (served : Bool) (events : List Event) : SubjectM Unit :=
  events.forM fun
    | .called c trace =>
        if served then call channel c trace
        else do
          note (.called channel c trace)
          trap Signal.ill.number
    | .logged record => log record
    | .locked .. | .unlocked .. => return ()

/-- Run an action of the guest, towards the host behind the hypercall instruction. -/
def guest (α : Type) (action : VmM α) : SubjectM α := do
  let p ← get
  let (result, vm) := action.run p.vm
  set { p with vm := vm }
  relay p.channel p.served (vm.history.drop p.vm.history.length)
  return result

/-- Run an action while another host stands in for the one behind the hypercall instruction. -/
def withHost {m : Type → Type} [Monad m] [MonadLiftT SubjectM m] {α : Type} (host : Host)
    (channel : Channel) (action : m α) : m α := do
  let before ← (get : SubjectM Subject)
  (set { before with
    vm := { before.vm with host := host }
    channel := channel
    emulated := true } : SubjectM Unit)
  let result ← action
  (modify fun p => { p with
    vm := { p.vm with host := before.vm.host }
    channel := before.channel
    emulated := before.emulated } : SubjectM Unit)
  return result

end Rewind.Subject
