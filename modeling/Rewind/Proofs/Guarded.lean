/-
# Rewind.Proofs.Guarded -- a process that goes on with its crash handlers in place

Attaching puts the crash handlers in place, and nothing that a process does with its session
takes them away again: actions of the guest, prints, and whoever asks for the session,
callbacks included.  `Subject.Guarded` is the part of that an abort meets, and
`Subject.Onward` says of two states that the later one came of the earlier one in this way,
without a report of an end.  An action is `Subject.Discreet` if all that comes back of it is
onward, wherever it starts; the rules for that follow the rules of `Subject.Returns`.

Main statements: `Subject.Returns.attached` (attaching leaves the handlers in place),
`Subject.discreet_hostSession`, `Subject.Lives.onward`.
-/
import Rewind.Proofs.OneSession

namespace Rewind

set_option autoImplicit false

/-! ## Actions of the guest -/

namespace Vm

/-- Whatever comes of an action of the guest, it reports no end. -/
def GoesOn {α : Type} (action : VmM α) : Prop :=
  ∀ vm : Vm, ∃ calls, vm.Made (action.run vm).2 calls ∧ ∀ call ∈ calls, call.isTerminal = false

end Vm

namespace Agent

open Vm

theorem goesOn_negotiate (options : Options) : GoesOn (negotiate options) := by
  intro vm
  obtain ⟨calls, made, goesOn⟩ := negotiate_goes_on options vm
  refine ⟨_, (made_serve vm .getHostConfig).trans made, ?_⟩
  intro call member
  rcases List.mem_cons.mp member with rfl | member
  · rfl
  · exact goesOn call member

theorem announcement_goes_on (agent : Agent) (region : Region) :
    ∀ call ∈ agent.announcement region, call.isTerminal = false := by
  unfold announcement
  split <;> simp [Call.isTerminal]

theorem question_goes_on (agent : Agent) : ∀ call ∈ agent.question, call.isTerminal = false := by
  unfold question
  split <;> simp [Call.isTerminal]

theorem goesOn_acquire (agent : Agent) (dest : Buffer) : GoesOn ((acquire dest).run agent) := by
  intro vm
  obtain ⟨result, known, after, ran, ways⟩ := acquires agent vm dest
  rw [ran]
  cases ways with
  | unready new unready => exact ⟨[], unready.made, nofun⟩
  | @unlocked region known ready errno readies refused =>
      refine ⟨_, readies.made.trans (made_tried _ _ _), ?_⟩
      rw [List.append_nil]
      exact agent.announcement_goes_on region
  | @acquired region known ready readies granted =>
      refine ⟨_, readies.made.trans (known.made_acquiredIn region ready), ?_⟩
      intro call member
      rcases List.mem_append.mp member with announced | asked
      · exact agent.announcement_goes_on region call announced
      · exact known.question_goes_on call asked

theorem goesOn_release (agent : Agent) : GoesOn (release.run agent) := by
  intro vm
  rw [release_run]
  refine ⟨_, agent.made_release vm, ?_⟩
  intro call member
  obtain rfl := List.mem_singleton.mp member
  rfl

end Agent

namespace Subject

/-! ## Handlers in place -/

/-- The crash handler is in place for the signal of an abort, and a host hears of it. -/
structure Guarded (p : Subject) : Prop where
  heard : p.crashChannel.isSome = true
  handler : (p.action Signal.abrt.number).handler = .crashReport

/-- The report of an abort, as the host reads it. -/
def abortReport (p : Subject) : Bytes :=
  let reason := if p.overridesAbort then "abort" else Report.signalReason Signal.abrt.number
  (Report.hostReport p.places (some reason) p.stack).cString

/-- With the handlers in place an abort is reported. -/
theorem Guarded.abortCalls {p : Subject} (guarded : p.Guarded) :
    p.abortCalls = [.panicExtended p.abortReport] := by
  unfold Subject.abortCalls abortReason? abortReport
  rw [guarded.handler]
  cases p.overridesAbort <;> exact if_pos guarded.heard

/-- The kernel registers what it is asked to register for every fatal signal. -/
def Registers (p : Subject) : Prop :=
  ∀ signal ∈ Signal.fatal, p.refusal? ⟨signal.number, some .crashReport, false⟩ = none

instance (p : Subject) : Decidable p.Registers :=
  inferInstanceAs (Decidable (∀ signal ∈ Signal.fatal, _))

/-- What a process came to without any report of an end: it has the same host and the same
kernel, and its crash handlers are still in place if they were. -/
structure Onward (p q : Subject) : Prop where
  made : ∃ calls, p.Made q calls ∧ ∀ call ∈ calls, call.isTerminal = false
  channel : q.channel = p.channel
  served : q.served = p.served
  refusals : q.refusals = p.refusals
  guarded : p.Guarded → q.Guarded

section

variable {p q r : Subject}

theorem Onward.refl (p : Subject) : p.Onward p := ⟨⟨[], .refl p, nofun⟩, rfl, rfl, rfl, id⟩

theorem Onward.trans (first : p.Onward q) (second : q.Onward r) : p.Onward r where
  made := by
    obtain ⟨early, made, goesOn⟩ := first.made
    obtain ⟨late, more, goesOnMore⟩ := second.made
    refine ⟨early ++ late, made.trans more, ?_⟩
    intro call member
    rcases List.mem_append.mp member with member | member
    · exact goesOn call member
    · exact goesOnMore call member
  channel := second.channel.trans first.channel
  served := second.served.trans first.served
  refusals := second.refusals.trans first.refusals
  guarded := second.guarded ∘ first.guarded

/-- A process of which only other parts changed. -/
theorem onward_of_same (trail : q.trail = p.trail) (channel : q.channel = p.channel)
    (served : q.served = p.served) (refusals : q.refusals = p.refusals)
    (crashChannel : q.crashChannel = p.crashChannel) (actions : q.actions = p.actions) :
    p.Onward q where
  made := ⟨[], made_of_trail trail, nofun⟩
  channel := channel
  served := served
  refusals := refusals
  guarded := fun guarded =>
    ⟨crashChannel ▸ guarded.heard, by rw [action, actions]; exact guarded.handler⟩

/-- A process that only has more on its trail. -/
theorem onward_grown (p : Subject) {happened : List Occurrence}
    (goesOn : ∀ call ∈ happened.filterMap Occurrence.call?, call.isTerminal = false) :
    p.Onward (p.grown happened) where
  made := ⟨_, p.made_grown happened, goesOn⟩
  channel := rfl
  served := rfl
  refusals := rfl
  guarded := fun guarded => ⟨guarded.heard, guarded.handler⟩

theorem onward_onStack (p : Subject) (stack : List UInt64) : p.Onward (p.onStack stack) :=
  onward_of_same rfl rfl rfl rfl rfl rfl

theorem isTerminal_of_print {call : Call} (print : call.op = .printf) :
    call.isTerminal = false := by
  cases call with
  | printf text => rfl
  | _ => cases print

end

/-! ## Discreet actions -/

section

variable {α β : Type}

/-- What comes back of an action is onward, wherever it starts. -/
def Discreet (action : SubjectM α) : Prop :=
  ∀ p a q, Returns action p a q → p.Onward q

theorem discreet_pure (a : α) : Discreet (pure a) := by
  intro p b q came
  obtain ⟨-, rfl⟩ := came.unique (returns_pure a p)
  exact .refl q

theorem discreet_modify {f : Subject → Subject} (onward : ∀ p : Subject, p.Onward (f p)) :
    Discreet (modify f : SubjectM Unit) := by
  intro p b q came
  obtain ⟨-, rfl⟩ := came.unique (returns_modify f p)
  exact onward p

/-- What never comes back says nothing. -/
theorem discreet_of_final {action : SubjectM α} (final : Final action) : Discreet action := by
  intro p a q came
  obtain ⟨how, ends⟩ := final p
  exact absurd ends came.not_ends

theorem Discreet.bind {action : SubjectM α} {next : α → SubjectM β} (first : Discreet action)
    (second : ∀ a, Discreet (next a)) : Discreet (action >>= next) := by
  intro p b r came
  obtain ⟨a, q, firstly, secondly⟩ := came.parts
  exact (first p a q firstly).trans (second a q b r secondly)

theorem discreet_log (record : LogRecord) : Discreet (log record) := by
  intro p a q came
  obtain ⟨-, rfl⟩ := came.unique (returns_log record p)
  exact p.onward_grown fun call member => isTerminal_of_print (p.printed_calls record call member)

/-- A process sees of its guest no end that its guest did not report. -/
theorem seen_goes_on (p : Subject) (channel : Channel) {events : List Event}
    (goesOn : ∀ call ∈ events.filterMap Event.call?, call.isTerminal = false) :
    ∀ call ∈ (events.flatMap (p.seen channel)).filterMap Occurrence.call?,
      call.isTerminal = false := by
  intro call member
  rw [List.filterMap_flatMap, List.mem_flatMap] at member
  obtain ⟨event, inside, member⟩ := member
  cases event with
  | called c trace =>
      have own : c.isTerminal = false := goesOn c (List.mem_filterMap.mpr ⟨_, inside, rfl⟩)
      rw [seen, traced] at member
      split at member
      · obtain rfl := List.mem_singleton.mp member
        exact own
      · cases member
  | logged record => exact isTerminal_of_print (p.printed_calls record call member)
  | locked addr len => cases member
  | unlocked addr len => cases member

/-- Where hypercalls are served an action of the guest comes back, and the process went on. -/
theorem returns_of_goesOn {action : VmM α} (goesOn : Vm.GoesOn action) {p : Subject}
    (served : p.served = true) :
    ∃ q, Returns (guest α action) p (action.run p.vm).1 q ∧ p.Onward q := by
  obtain ⟨calls, ⟨events, grown, rfl⟩, quiet⟩ := goesOn p.vm
  have ran : action.run p.vm = ((action.run p.vm).1, (action.run p.vm).2) := rfl
  have moved : p.Onward { p with vm := (action.run p.vm).2 } :=
    onward_of_same rfl rfl rfl rfl rfl rfl
  have seen := onward_grown { p with vm := (action.run p.vm).2 } (seen_goes_on p p.channel quiet)
  exact ⟨_, returns_guest served ran grown quiet, moved.trans seen⟩

theorem discreet_note {occurrence : Occurrence}
    (goesOn : ∀ call ∈ occurrence.call?, call.isTerminal = false) : Discreet (note occurrence) := by
  refine discreet_modify fun p => p.onward_grown ?_
  intro call member
  obtain ⟨told, inside, same⟩ := List.mem_filterMap.mp member
  obtain rfl := List.mem_singleton.mp inside
  exact goesOn call same

/-- What a process sees of its guest comes back up to a hypercall that is not served, which
ends the process. -/
theorem discreet_relay (channel : Channel) (served : Bool) {events : List Event}
    (goesOn : ∀ call ∈ events.filterMap Event.call?, call.isTerminal = false) :
    Discreet (relay channel served events) := by
  cases served with
  | true =>
      intro p a q came
      obtain ⟨-, rfl⟩ := came.unique (returns_relay channel goesOn p)
      exact p.onward_grown (p.seen_goes_on channel goesOn)
  | false =>
      have trapped : Final (trap Signal.ill.number : SubjectM Unit) :=
        final_of_endsWith _ (trap_endsWith (by decide) (by decide))
      have quiet : Discreet (pure () : SubjectM Unit) := discreet_pure ()
      induction events with
      | nil => exact quiet
      | cons event rest ih =>
          have later : ∀ call ∈ rest.filterMap Event.call?, call.isTerminal = false := by
            intro call member
            obtain ⟨origin, inside, same⟩ := List.mem_filterMap.mp member
            exact goesOn call
              (List.mem_filterMap.mpr ⟨origin, List.mem_cons_of_mem _ inside, same⟩)
          refine Discreet.bind ?_ fun _ => ih later
          cases event with
          | called c trace =>
              have noted : Discreet (note (.called channel c trace)) := by
                refine discreet_note fun told member => ?_
                obtain rfl := Option.mem_some.mp member
                exact goesOn c List.mem_cons_self
              exact noted.bind fun _ => discreet_of_final trapped
          | logged record => exact discreet_log record
          | locked addr len => exact quiet
          | unlocked addr len => exact quiet

theorem discreet_guest {action : VmM α} (goesOn : Vm.GoesOn action) :
    Discreet (guest α action) := by
  intro p a q came
  obtain ⟨calls, ⟨events, grown, rfl⟩, quiet⟩ := goesOn p.vm
  let moved : Subject := { p with vm := (action.run p.vm).2 }
  have steps : p.Onward moved := onward_of_same rfl rfl rfl rfl rfl rfl
  have ran : action.run p.vm = ((action.run p.vm).1, (action.run p.vm).2) := rfl
  have rest := (guest_run ran grown).symm.trans came
  exact steps.trans (((discreet_relay _ _ quiet).bind fun _ => discreet_pure _) _ _ _ rest)

end

/-! ## Putting the handlers in place -/

section

variable {p q : Subject}

/-- Some crash handlers were put in place, and nothing else was done. -/
structure Rearmed (p q : Subject) : Prop where
  trail : q.trail = p.trail
  channel : q.channel = p.channel
  served : q.served = p.served
  crashChannel : q.crashChannel = p.crashChannel
  refusals : q.refusals = p.refusals
  handlers : ∀ number, (p.action number).handler = .crashReport →
    (q.action number).handler = .crashReport

theorem Rearmed.refl (p : Subject) : p.Rearmed p := ⟨rfl, rfl, rfl, rfl, rfl, fun _ => id⟩

theorem Rearmed.trans {r : Subject} (first : p.Rearmed q) (second : q.Rearmed r) :
    p.Rearmed r where
  trail := second.trail.trans first.trail
  channel := second.channel.trans first.channel
  served := second.served.trans first.served
  crashChannel := second.crashChannel.trans first.crashChannel
  refusals := second.refusals.trans first.refusals
  handlers := fun number => second.handlers number ∘ first.handlers number

theorem Rearmed.onward (rearmed : p.Rearmed q) : p.Onward q where
  made := ⟨[], made_of_trail rearmed.trail, nofun⟩
  channel := rearmed.channel
  served := rearmed.served
  refusals := rearmed.refusals
  guarded := fun guarded =>
    ⟨rearmed.crashChannel ▸ guarded.heard, rearmed.handlers _ guarded.handler⟩

theorem refusal?_of_refusals (same : q.refusals = p.refusals) (request : SignalRequest) :
    q.refusal? request = p.refusal? request := by
  rw [refusal?, refusal?, same]

/-- One handler: it is in place behind the request, unless the kernel refuses. -/
theorem Returns.rearmed {number : Int} {answer : Registered}
    (came : Returns (sigaction ⟨number, some .crashReport, false⟩) p answer q) :
    p.Rearmed q ∧ (p.refusal? ⟨number, some .crashReport, false⟩ = none →
      (q.action number).handler = .crashReport) := by
  cases refusal : p.refusal? ⟨number, some .crashReport, false⟩ with
  | none =>
      have taken : Returns (sigaction ⟨number, some .crashReport, false⟩) p ⟨0, ⟨0⟩, none⟩
          (p.setAction number .crashReport) := returns_sigaction_of_taken refusal
      obtain ⟨-, rfl⟩ := came.unique taken
      have placed : ((p.setAction number .crashReport).action number).handler = .crashReport := by
        rw [action_setAction]
        rfl
      refine ⟨⟨rfl, rfl, rfl, rfl, rfl, fun other handler => ?_⟩, fun _ => placed⟩
      by_cases same : other = number
      · rw [same]
        exact placed
      · rwa [action_setAction_of_ne same]
  | some errno =>
      obtain ⟨-, rfl⟩ := came.unique (returns_sigaction_of_refused refusal)
      exact ⟨.refl _, nofun⟩

/-- One after another, up to the first that the kernel says it refuses. -/
theorem Returns.rearmed_all {signals : List Signal} {result : Except AgentError Unit}
    (came : Returns (Filter.install sigaction signals) p result q) :
    p.Rearmed q ∧ (result = .ok () → ∀ signal ∈ signals,
      p.refusal? ⟨signal.number, some .crashReport, false⟩ = none →
        (q.action signal.number).handler = .crashReport) := by
  induction signals generalizing p with
  | nil =>
      obtain ⟨-, rfl⟩ := came.unique (returns_pure _ p)
      exact ⟨.refl _, fun _ => nofun⟩
  | cons signal rest ih =>
      obtain ⟨answer, r, served, later⟩ := came.parts
      obtain ⟨first, placed⟩ := served.rearmed
      split at later
      · obtain ⟨rfl, rfl⟩ := later.unique (returns_pure _ r)
        exact ⟨first, nofun⟩
      · obtain ⟨others, all⟩ := ih later
        refine ⟨first.trans others, fun done other member registers => ?_⟩
        rcases List.mem_cons.mp member with rfl | member
        · exact others.handlers _ (placed registers)
        · refine all done other member ?_
          rw [refusal?_of_refusals first.refusals]
          exact registers

theorem registers_of_refusals (same : q.refusals = p.refusals) : q.Registers ↔ p.Registers := by
  simp only [Registers, refusal?_of_refusals same]

/-- Installation leads onward, and once it came back well the handlers are in place, provided
that the kernel registers what it is asked to. -/
theorem Returns.installed {channel : Channel} {options : Options}
    {result : Except AgentError Unit} (came : Returns (install channel options) p result q) :
    p.Onward q ∧ (result = .ok () → p.Registers → q.Guarded) := by
  have heard : (p.crashChannel.or (some channel)).isSome = true := by
    cases p.crashChannel <;> rfl
  by_cases filters : p.Filters
  · let prepared : Subject := p.arming channel options
    have first : p.Onward prepared :=
      ⟨⟨[], made_of_trail rfl, nofun⟩, rfl, rfl, rfl, fun guarded => ⟨heard, guarded.handler⟩⟩
    obtain ⟨answer, actions, placing, -, whole⟩ := returns_install channel options filters
    obtain ⟨rearmed, placed⟩ := placing.rearmed_all
    have armed := first.trans rearmed.onward
    obtain ⟨rfl, rfl⟩ := came.unique whole
    cases result with
    | error error =>
        refine ⟨armed, fun done => ?_⟩
        cases done
    | ok _ =>
        let hooked : Subject := { prepared with actions := actions, hooked := true }
        have hooking : ({ prepared with actions := actions } : Subject).Onward hooked :=
          onward_of_same rfl rfl rfl rfl rfl rfl
        have logging : hooked.Onward (hooked.grown (p.printed installedRecord)) :=
          discreet_log installedRecord _ _ _ (returns_log installedRecord hooked)
        have last := hooking.trans logging
        refine ⟨armed.trans last, fun _ registers => last.guarded ⟨heard, ?_⟩⟩
        exact placed rfl Signal.abrt (by decide) (registers Signal.abrt (by decide))
  · obtain ⟨rfl, rfl⟩ := came.unique (returns_install_of_missing channel options filters)
    refine ⟨⟨⟨[], made_of_trail rfl, nofun⟩, rfl, rfl, rfl, fun guarded =>
      ⟨heard, guarded.handler⟩⟩, fun done => ?_⟩
    cases done

/-- What the log makes of it, and who has the hypervisor, is no matter. -/
theorem onward_logging (p : Subject) (threshold : Threshold) :
    p.Onward (p.claiming.logging threshold) := by
  have claims : p.Onward p.claiming := onward_of_same rfl rfl rfl rfl rfl rfl
  refine claims.trans ?_
  unfold logging
  split
  · exact p.claiming.onward_grown fun call member =>
      isTerminal_of_print (p.claiming.printed_calls keptRecord call member)
  · exact onward_of_same rfl rfl rfl rfl rfl rfl

end

/-! ## The session -/

section

variable {p q : Subject} {agent : Agent}

theorem discreet_handshake (options : Options) : Discreet (handshake options) := by
  refine (discreet_guest (Agent.goesOn_negotiate options)).bind fun result => ?_
  cases result with
  | error error => exact discreet_of_final (final_abortWith error)
  | ok agent => exact discreet_pure agent

/-- A process that attached went on, with the crash handlers in place if the kernel registers
what it is asked to. -/
theorem Returns.attached {options : Options} (came : Returns (attach options) p agent q) :
    p.Onward q ∧ (p.Registers → q.Guarded) := by
  have able : p.Free ∧ p.Takes := by
    by_contra unable
    obtain ⟨how, r, ends⟩ := attach_ends options unable
    exact came.not_ends ends
  have before := p.onward_logging options.logLevel
  have whole := (attach_run options able.1).symm.trans came
  obtain ⟨result, r, installing, rest⟩ := Returns.parts whole
  obtain ⟨installs, guards⟩ := installing.installed
  cases result with
  | error error =>
      obtain ⟨how, ends⟩ := final_abortWith (α := Agent) error r
      exact absurd ends rest.not_ends
  | ok _ =>
      have shaken := discreet_handshake options r agent q rest
      refine ⟨(before.trans installs).trans shaken, fun registers => ?_⟩
      exact shaken.guarded (guards rfl ((registers_of_refusals before.refusals).mpr registers))

theorem Returns.read {options : Options} (came : Returns readOptions p options q) :
    p.Onward q := by
  obtain ⟨found, happened, reads, prints⟩ := returns_readOptions p
  obtain ⟨-, rfl⟩ := came.unique reads
  exact p.onward_grown fun call member => isTerminal_of_print (prints call member)

/-- The session is handed out as it was left, or for the first time behind attaching. -/
theorem Returns.asked (came : Returns hostSession p agent q) :
    p.Onward q ∧ (p.session.agent = none → p.Registers → q.Guarded) := by
  obtain ⟨_, p', looking, rest⟩ := came.parts
  obtain ⟨rfl, rfl⟩ := looking.unique (returns_get p)
  obtain ⟨⟨result, slot⟩, r, locking, rest⟩ := rest.parts
  obtain ⟨_, s, storing, rest⟩ := rest.parts
  obtain ⟨-, rfl⟩ := storing.unique (returns_modify _ r)
  have stored : r.Onward { r with session := slot } := onward_of_same rfl rfl rfl rfl rfl rfl
  have last : ({ r with session := slot } : Subject).Onward q := by
    cases result with
    | error error => exact discreet_of_final (final_abortWith error) _ _ _ rest
    | ok agent => exact discreet_pure agent _ _ _ rest
  have handed := stored.trans last
  cases known : p'.session.agent with
  | some kept =>
      rw [Slot.lock, known] at locking
      refine ⟨(discreet_pure _ _ _ _ locking).trans handed, fun fresh => ?_⟩
      cases fresh
  | none =>
      rw [Slot.lock, known] at locking
      obtain ⟨made, t, attaching, taking⟩ := locking.parts
      obtain ⟨options, u, reading, attaching⟩ := attaching.parts
      obtain ⟨went, guards⟩ := attaching.attached
      have taken := (discreet_pure _ _ _ _ taking).trans handed
      refine ⟨(reading.read.trans went).trans taken, fun _ registers => taken.guarded ?_⟩
      exact guards ((registers_of_refusals reading.read.refusals).mpr registers)

theorem discreet_hostSession : Discreet hostSession := fun _ _ _ came => came.asked.1

end

theorem discreet_leaveSession (agent : Agent) (unwinding : Bool) :
    Discreet (leaveSession agent unwinding) :=
  discreet_modify fun _ => onward_of_same rfl rfl rfl rfl rfl rfl

theorem discreet_start : Discreet Exports.start :=
  discreet_hostSession.bind fun agent =>
    (discreet_leaveSession agent false).bind fun _ => discreet_pure _

theorem discreet_getFuzzData (dest : Buffer) : Discreet (Exports.getFuzzData dest) := by
  refine discreet_hostSession.bind fun agent => ?_
  refine (discreet_guest (agent.goesOn_acquire dest)).bind fun pair => ?_
  obtain ⟨result, after⟩ := pair
  cases result with
  | error error => exact discreet_of_final (final_abortWith error)
  | ok delivered => exact (discreet_leaveSession after false).bind fun _ => discreet_pure _

theorem discreet_release : Discreet Exports.release :=
  discreet_hostSession.bind fun agent =>
    (discreet_guest agent.goesOn_release).bind fun pair => discreet_leaveSession pair.2 false

theorem discreet_openFuzzer : Discreet openFuzzer :=
  discreet_hostSession.bind fun _ => discreet_pure _

theorem discreet_print (text : Exports.CText) : Discreet (Exports.print text) := by
  refine discreet_guest fun vm => ⟨_, Vm.made_serve vm (printCall text), ?_⟩
  intro call member
  obtain rfl := List.mem_singleton.mp member
  rfl

/-- A target that prints and asks for the session comes back, if at all, to a process that went
on. -/
theorem discreet_callback (parts : Bytes → List Part) (input : Bytes) :
    Discreet (callback parts input) := by
  have asked (request : Request) : Discreet request.action := by
    cases request with
    | start => exact discreet_start.bind fun _ => discreet_pure _
    | fetch dest => exact (discreet_getFuzzData dest).bind fun _ => discreet_pure _
    | release => exact discreet_release
    | drive => exact discreet_openFuzzer.bind fun _ => discreet_pure _
  have each (part : Part) : Discreet part.action := by
    cases part with
    | ask request => exact asked request
    | print text => exact discreet_print text
  have all (parts : List Part) : Discreet (parts.forM Part.action) := by
    induction parts with
    | nil => exact discreet_pure ()
    | cons part rest ih => exact (each part).bind fun _ => ih
  exact all (parts input)

/-! ## Runs -/

section

variable {σ α β : Type}

theorem Discreet.lift {action : SubjectM α} (discreet : Discreet action) (s : σ) :
    Discreet ((liftM action : StateT σ SubjectM α).run s) :=
  discreet.bind fun _ => discreet_pure _

theorem Discreet.state_bind {action : StateT σ SubjectM α} {next : α → StateT σ SubjectM β}
    {s : σ} (first : Discreet (action.run s)) (second : ∀ a t, Discreet ((next a).run t)) :
    Discreet ((action >>= next).run s) :=
  first.bind fun pair => second pair.1 pair.2

theorem Discreet.fuzzer_bind {action : FuzzerT RecordM α} {next : α → FuzzerT RecordM β}
    {fuzzer : Fuzzer} {inputs : List Bytes} (first : Discreet ((action.run fuzzer).run inputs))
    (second : ∀ a other more, Discreet (((next a).run other).run more)) :
    Discreet (((action >>= next).run fuzzer).run inputs) :=
  first.bind fun pair => second pair.1.1 pair.1.2 pair.2

end

theorem discreet_onAgent {α : Type} {action : AgentM α}
    (goesOn : ∀ agent, Vm.GoesOn (action.run agent)) (fuzzer : Fuzzer) (inputs : List Bytes) :
    Discreet (((Fuzzer.onAgent reach action).run fuzzer).run inputs) := by
  refine Discreet.fuzzer_bind (discreet_pure _) fun held fuzzer inputs => ?_
  refine Discreet.fuzzer_bind ?_ fun pair fuzzer inputs => ?_
  · exact ((discreet_guest (goesOn held.agent)).lift inputs).bind fun _ => discreet_pure _
  · exact Discreet.fuzzer_bind (discreet_pure _) fun _ _ _ => discreet_pure _

theorem discreet_nextInput (fuzzer : Fuzzer) (inputs : List Bytes) :
    Discreet (((Fuzzer.nextInput reach).run fuzzer).run inputs) := by
  refine Discreet.fuzzer_bind (discreet_pure _) fun held fuzzer inputs => ?_
  refine Discreet.fuzzer_bind ?_ fun result fuzzer inputs => ?_
  · exact discreet_onAgent (fun agent => agent.goesOn_acquire held.input) fuzzer inputs
  · cases result with
    | error error => exact discreet_pure _
    | ok delivered => exact Discreet.fuzzer_bind (discreet_pure _) fun _ _ _ => discreet_pure _

/-- A run that comes back went on, if its target does. -/
theorem discreet_runFuzzer {target : Target} (discreet : ∀ input, Discreet (target input))
    (fuzzer : Fuzzer) (inputs : List Bytes) :
    Discreet ((runFuzzer fuzzer (recording target) : RecordM (Outcome × Fuzzer)).run inputs) := by
  have recorded (input : Bytes) (inputs : List Bytes) :
      Discreet ((recording target input).run inputs) := by
    refine Discreet.state_bind (discreet_pure _) fun _ inputs => ?_
    exact Discreet.state_bind ((discreet input).lift inputs) fun _ _ => discreet_pure _
  have tried : Discreet (((Fuzzer.tryRun reach (recording target)).run fuzzer).run inputs) := by
    refine Discreet.fuzzer_bind (discreet_nextInput fuzzer inputs) fun result fuzzer inputs => ?_
    cases result with
    | error error => exact discreet_pure _
    | ok input =>
        refine Discreet.fuzzer_bind ?_ fun outcome fuzzer inputs => ?_
        · exact (recorded input inputs).bind fun _ => discreet_pure _
        · cases outcome with
          | unwound => exact discreet_pure _
          | returned =>
              refine Discreet.fuzzer_bind ?_ fun _ _ _ => discreet_pure _
              exact discreet_onAgent (fun agent => agent.goesOn_release) fuzzer inputs
  refine tried.bind fun pair => ?_
  obtain ⟨⟨result, fuzzer⟩, inputs⟩ := pair
  cases result with
  | error error => exact Discreet.lift (discreet_of_final (final_abortWith error)) inputs
  | ok outcome => exact discreet_pure _

/-! ## One use after another -/

theorem discreet_use (use : Use) (held : Option Fuzzer) :
    Discreet ((perform use.operation).run held) := by
  cases use with
  | ask request =>
      cases request with
      | start => exact (discreet_start.lift held).bind fun _ => discreet_pure _
      | fetch dest => exact ((discreet_getFuzzData dest).lift held).bind fun _ => discreet_pure _
      | release => exact (discreet_release.lift held).bind fun _ => discreet_pure _
      | drive =>
          refine Discreet.state_bind (discreet_openFuzzer.lift held) fun _ _ => ?_
          exact Discreet.state_bind (discreet_pure _) fun _ _ => discreet_pure _
  | run parts =>
      refine Discreet.state_bind (discreet_pure _) fun held t => ?_
      cases held with
      | none => exact discreet_pure _
      | some fuzzer =>
          refine Discreet.state_bind ?_ fun _ _ => ?_
          · exact (discreet_runFuzzer (discreet_callback parts) fuzzer []).lift t
          · exact Discreet.state_bind (discreet_pure _) fun _ _ => discreet_pure _
  | close =>
      refine Discreet.state_bind (discreet_pure _) fun held _ => ?_
      refine Discreet.state_bind (discreet_pure _) fun _ t => ?_
      refine Discreet.state_bind ?_ fun _ _ => discreet_pure _
      cases held with
      | none => exact discreet_pure _
      | some fuzzer => exact (discreet_leaveSession fuzzer.agent false).lift t

/-- However the session was used, the process went on. -/
theorem Lives.onward {first p : Subject} {uses : List Use} {held : Option Fuzzer}
    (lives : Lives first uses held p) : first.Onward p := by
  induction lives with
  | untouched => exact .refl first
  | @later uses held next p q use stack answer before came ih =>
      exact (ih.trans (p.onward_onStack stack)).trans (discreet_use use held _ _ _ came)

end Subject

end Rewind
