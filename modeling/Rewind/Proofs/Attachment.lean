/-
# Rewind.Proofs.Attachment -- what a process does before and in the handshake

Attaching claims the hypervisor, points the log there and puts the crash handlers in
place, and only then shakes hands.  What may come before the handshake is little but not
nothing: the record that the handlers are in place, if the logger lets it through, or the
error where there can be no filter or the kernel refuses a handler.

Main statements: `Subject.attach_of_takes` (attaching comes down to the handshake),
`Subject.attach_of_refused`, and `Subject.handshakeFirst_iff`.
-/
import Rewind.Proofs.Abort
import Rewind.Proofs.Handshake
import Rewind.Proofs.HostTexts

namespace Rewind

set_option autoImplicit false

/-! ## The calls of a handshake -/

namespace Agent

open Vm

/-- No upload reports an end. -/
theorem uploads_go_on {vm after : Vm} {name : Bytes} {data : Slice} {append : Bool}
    {result : Except AgentError Unit} (uploads : Uploads name data append vm result after) :
    ∃ calls, vm.Made after calls ∧ ∀ call ∈ calls, call.isTerminal = false := by
  cases uploads with
  | empty nothing => exact ⟨[], .refl _, nofun⟩
  | unlocked sized refused => exact ⟨[], made_tried _ _ _, nofun⟩
  | stored sized granted =>
      have stored := (Uploads.stored sized granted : Uploads name data append _ _ _)
      refine ⟨_, (stored.stored_of_granted sized granted).2, ?_⟩
      intro call member
      obtain rfl := List.mem_singleton.mp member
      rfl

/-- Whatever comes of a handshake, the host is asked for its configuration first, and no call
reports an end. -/
theorem negotiate_goes_on (options : Options) (vm : Vm) :
    ∃ calls, (vm.serve .getHostConfig).Made ((negotiate options).run vm).2 calls ∧
      ∀ call ∈ calls, call.isTerminal = false := by
  have greeted : (vm.serve .getHostConfig).Made vm.greeted [] :=
    ((made_append _ rfl).trans (made_append _ rfl)).trans (made_append _ rfl)
  have mapping (memory : Memory) : vm.greeted.Made { vm.greeted with memory := memory } [] :=
    made_of_history rfl
  rcases negotiate_cases options vm with
    ⟨_, -, ran⟩ | ⟨_, memory, -, -, ran⟩ | ⟨trace, memory, -, -, ran⟩
  · rw [ran]
    exact ⟨[], .refl _, nofun⟩
  · rw [ran]
    exact ⟨[], greeted.trans (mapping memory), nofun⟩
  · have declared := made_serve ({ vm.greeted with memory := memory } : Vm)
      (.setAgentConfig (declaration trace))
    have met := ((greeted.trans (mapping memory)).trans declared).trans (made_searched _ options)
    rw [ran]
    rcases seeded_cases vm trace memory options with
      ⟨-, sent⟩ | ⟨data, told, -, -, -, made, uploads⟩
    · rw [sent]
      refine ⟨_, met, ?_⟩
      intro call member
      obtain rfl := List.mem_singleton.mp member
      rfl
    · obtain ⟨calls, stored, goesOn⟩ := uploads_go_on uploads
      refine ⟨_, (met.trans made).trans stored, ?_⟩
      intro call member
      rcases List.mem_cons.mp member with rfl | member
      · rfl
      · exact goesOn call member

end Agent

namespace Subject

def handshake (options : Options) : SubjectM Agent := do
  match ← guest _ (Agent.negotiate options) with
  | .error error => abortWith error
  | .ok agent => return agent

/-! ## The filter -/

/-- The filter is there, or it can be made. -/
def Filters (p : Subject) : Prop := p.blocks.isSome = true ∨ p.sigactionFound = true

theorem returns_filter {p : Subject} (filters : p.Filters) :
    Returns filter p (.ok (p.blocks.getD true)) { p with blocks := some (p.blocks.getD true) } := by
  refine (returns_get p).bind ?_
  cases there : p.blocks with
  | some blocks =>
      have same : p = { p with blocks := some blocks } := by rw [← there]
      have known : Returns (pure (Except.ok blocks : Except AgentError Bool)) p (.ok blocks)
          { p with blocks := some blocks } := by
        rw [← same]
        exact returns_pure _ p
      exact known
  | none =>
      have found : p.sigactionFound = true := filters.resolve_left (by rw [there]; decide)
      simp only [found]
      exact (returns_set p _).bind (returns_pure _ _)

theorem returns_filter_of_missing {p : Subject} (missing : ¬ p.Filters) :
    Returns filter p (.error .missingSigaction) p := by
  have fresh : p.blocks = none := by
    cases there : p.blocks with
    | none => rfl
    | some blocks => exact absurd (.inl (by rw [there]; rfl)) missing
  have unfound : p.sigactionFound = false := Bool.eq_false_iff.mpr fun found => missing (.inr found)
  refine (returns_get p).bind ?_
  simp only [fresh, unfound]
  exact returns_pure _ p

theorem returns_setBlocking {p : Subject} (filters : p.Filters) (blocks : Bool) :
    Returns (setBlocking blocks) p (.ok ()) { p with blocks := some blocks } :=
  (returns_filter filters).bind ((returns_modify _ _).bind (returns_pure _ _))

theorem returns_setBlocking_of_missing {p : Subject} (missing : ¬ p.Filters) (blocks : Bool) :
    Returns (setBlocking blocks) p (.error .missingSigaction) p :=
  (returns_filter_of_missing missing).bind (returns_pure _ p)

/-- The crash handlers can be put in place: there is a filter or can be one, and the kernel takes
the handler for every fatal signal. -/
structure Takes (p : Subject) : Prop where
  filters : p.Filters
  accepts : ∀ signal ∈ Signal.fatal, ¬ p.Refuses ⟨signal.number, some .crashReport, false⟩

/-! ## The crash handlers -/

/-- Handlers are put in place until the kernel refuses one. -/
theorem returns_install_signals (signals : List Signal) (p : Subject) :
    ∃ result actions, Returns (Filter.install sigaction signals) p result
        { p with actions := actions } ∧
      (result = .ok () ↔
        ∀ signal ∈ signals, ¬ p.Refuses ⟨signal.number, some .crashReport, false⟩) := by
  induction signals generalizing p with
  | nil => exact ⟨.ok (), p.actions, returns_pure _ p, iff_of_true rfl nofun⟩
  | cons signal rest ih =>
      obtain ⟨answer, actions, served, refused⟩ :=
        returns_sigaction ⟨signal.number, some .crashReport, false⟩ p
      by_cases refuses : answer.ret = -1
      · refine ⟨.error (.signalInstall signal answer.errno), actions, served.bind ?_, ?_⟩
        · rw [if_pos refuses]
          exact returns_pure _ _
        · refine iff_of_false nofun ?_
          intro accepts
          exact accepts signal List.mem_cons_self (refused.mp refuses)
      · obtain ⟨result, last, later, installed⟩ := ih { p with actions := actions }
        refine ⟨result, last, served.bind ?_, ?_⟩
        · rw [if_neg refuses]
          exact later
        · rw [installed, List.forall_mem_cons]
          exact (and_iff_right fun same => refuses (refused.mpr same)).symm

def installedRecord : LogRecord :=
  ⟨.debug, "crash handlers installed for " ++ Text.decimal Signal.fatal.length ++ " signals"⟩

/-- A process with its crash handlers in place or on the way, which did nothing else. -/
structure Armed (before after : Subject) : Prop where
  vm : after.vm = before.vm
  channel : after.channel = before.channel
  served : after.served = before.served
  session : after.session = before.session
  logger : after.logger = before.logger
  maxLevel : after.maxLevel = before.maxLevel

theorem Armed.printed {before after : Subject} (armed : before.Armed after) (record : LogRecord) :
    after.printed record = before.printed record := by
  rw [Subject.printed, Subject.printed, armed.logger, armed.maxLevel]

/-- The process while its crash handlers are put in place: it reports to a host, and the filter
is set. -/
def arming (p : Subject) (channel : Channel) (options : Options) : Subject :=
  { p with
    crashChannel := p.crashChannel.or (some channel)
    blocks := some options.blockTargetOverrides }

/-- What comes of an installation.  Where the kernel takes every handler, panics are hooked and
that is logged; a handler that it refuses is an error. -/
theorem returns_install (channel : Channel) (options : Options) {p : Subject}
    (filters : p.Filters) :
    let prepared := p.arming channel options
    ∃ result actions,
      Returns (Filter.installHandlers sigaction) prepared result
        { prepared with actions := actions } ∧
      (result = .ok () ↔ p.Takes) ∧
      Returns (install channel options) p result (match result with
        | .ok () => ({ prepared with actions := actions, hooked := true } : Subject).grown
            (p.printed installedRecord)
        | .error _ => { prepared with actions := actions }) := by
  intro prepared
  obtain ⟨result, actions, served, taken⟩ := returns_install_signals Signal.fatal prepared
  refine ⟨result, actions, served,
    taken.trans ⟨fun accepts => ⟨filters, accepts⟩, Takes.accepts⟩, ?_⟩
  have heard : ({ p with crashChannel := p.crashChannel.or (some channel) } : Subject).Filters :=
    filters
  refine (returns_modify _ p).bind ((returns_setBlocking heard _).bind (served.bind ?_))
  cases result with
  | error error => exact returns_pure _ _
  | ok _ =>
      let hooked : Subject := { prepared with actions := actions, hooked := true }
      have armed : p.Armed hooked := ⟨rfl, rfl, rfl, rfl, rfl, rfl⟩
      have logged := returns_log installedRecord hooked
      rw [armed.printed] at logged
      exact (returns_modify _ _).bind (logged.bind (returns_pure _ _))

/-- Without a filter there is nothing to install the handlers by. -/
theorem returns_install_of_missing (channel : Channel) (options : Options) {p : Subject}
    (missing : ¬ p.Filters) :
    Returns (install channel options) p (.error .missingSigaction)
      { p with crashChannel := p.crashChannel.or (some channel) } := by
  have unheard : ¬ ({ p with crashChannel := p.crashChannel.or (some channel) } :
      Subject).Filters := missing
  exact (returns_modify _ p).bind
    ((returns_setBlocking_of_missing unheard _).bind (returns_pure _ _))

/-- The crash handlers are put in place and that is logged. -/
theorem returns_install_of_takes (channel : Channel) (options : Options) {p : Subject}
    (takes : p.Takes) :
    ∃ q, Returns (install channel options) p (.ok ()) (q.grown (p.printed installedRecord)) ∧
      p.Armed q ∧ q.trail = p.trail := by
  obtain ⟨result, actions, -, taken, installed⟩ := returns_install channel options takes.filters
  obtain rfl := taken.mpr takes
  exact ⟨_, installed, ⟨rfl, rfl, rfl, rfl, rfl, rfl⟩, rfl⟩

/-- Where they cannot all be put in place that is an error, and nothing is logged. -/
theorem returns_install_of_refused (channel : Channel) (options : Options) {p : Subject}
    (refused : ¬ p.Takes) :
    ∃ error q, Returns (install channel options) p (.error error) q ∧
      p.Armed q ∧ q.trail = p.trail := by
  by_cases filters : p.Filters
  · obtain ⟨result, actions, -, taken, installed⟩ := returns_install channel options filters
    cases result with
    | ok _ => exact absurd (taken.mp rfl) refused
    | error error => exact ⟨error, _, installed, ⟨rfl, rfl, rfl, rfl, rfl, rfl⟩, rfl⟩
  · exact ⟨_, _, returns_install_of_missing channel options filters,
      ⟨rfl, rfl, rfl, rfl, rfl, rfl⟩, rfl⟩

/-! ## Attaching -/

/-- A process that may attach: there is a hypervisor, and nobody has it yet. -/
structure Free (p : Subject) : Prop where
  present : p.present = true
  unclaimed : p.claimed = false

theorem Free.served {p : Subject} (free : p.Free) : p.served = true :=
  Bool.or_eq_true_iff.mpr (.inl free.present)

/-- The process that has the hypervisor. -/
def claiming (p : Subject) : Subject := { p with claimed := true }

theorem returns_claim {p : Subject} (free : p.Free) : Returns claim p (.ok ()) p.claiming := by
  refine (returns_get p).bind ?_
  have present : ¬ (!p.present) = true := by
    rw [free.present]
    decide
  have unclaimed : ¬ p.claimed = true := by
    rw [free.unclaimed]
    decide
  rw [if_neg present, if_neg unclaimed]
  exact (returns_set p p.claiming).bind (returns_pure _ _)

/-- Without a hypervisor there is nothing to claim, whether or not it was claimed before. -/
theorem returns_claim_of_absent {p : Subject} (absent : p.present = false) :
    Returns claim p (.error .hostUnavailable) p := by
  refine (returns_get p).bind ?_
  rw [if_pos (by rw [absent]; rfl)]
  exact returns_pure _ p

/-- The record that a logger of the target's own is kept. -/
def keptRecord : LogRecord := ⟨.debug, "a logger is already installed, keeping it"⟩

/-- The process once the log goes to the host, unless it goes somewhere already. -/
def logging (p : Subject) (threshold : Threshold) : Subject :=
  if p.logger.isSome then p.grown (p.printed keptRecord)
  else { p with logger := some (p.channel, threshold), maxLevel := threshold }

/-- The first part of attaching: the hypervisor is claimed and the log goes to the host. -/
theorem attach_run (options : Options) {p : Subject} (free : p.Free) :
    (attach options).run.run p = (do
      match ← install p.channel options with
      | .error error => abortWith error
      | .ok () => handshake options : SubjectM Agent).run.run
        (p.claiming.logging options.logLevel) := by
  refine ((returns_claim free).run_bind _).trans ?_
  refine ((returns_get _).run_bind _).trans ?_
  unfold logging
  by_cases sink : p.claiming.logger.isSome
  · have kept : Returns (initLogger p.channel options.logLevel) p.claiming false p.claiming := by
      refine (returns_get _).bind ?_
      rw [if_pos sink]
      exact returns_pure _ _
    rw [if_pos sink]
    exact (kept.run_bind _).trans ((returns_log keptRecord _).run_bind _)
  · have sent : Returns (initLogger p.channel options.logLevel) p.claiming true
        { p.claiming with
          logger := some (p.claiming.channel, options.logLevel)
          maxLevel := options.logLevel } := by
      refine (returns_get _).bind ?_
      rw [if_neg sink]
      exact (returns_set _ _).bind (returns_pure _ _)
    rw [if_neg sink]
    exact sent.run_bind _

/-- A process that prepared for the handshake: it printed and did nothing else that a host
sees, and its guest and its session are as they were. -/
structure Prepared (before after : Subject) (prints : List Call) : Prop where
  vm : after.vm = before.vm
  channel : after.channel = before.channel
  served : after.served = before.served
  session : after.session = before.session
  made : before.Made after prints
  prints : ∀ call ∈ prints, call.op = .printf

theorem takes_congr {p q : Subject} (refusals : q.refusals = p.refusals)
    (blocks : q.blocks = p.blocks) (found : q.sigactionFound = p.sigactionFound) :
    q.Takes ↔ p.Takes := by
  have filters : q.Filters ↔ p.Filters := by rw [Filters, Filters, blocks, found]
  have accepts (request : SignalRequest) : q.Refuses request ↔ p.Refuses request := by
    simp only [Refuses, refusal?, refusals]
  constructor
  · exact fun takes => ⟨filters.mp takes.filters,
      fun signal member => (accepts _).not.mp (takes.accepts signal member)⟩
  · exact fun takes => ⟨filters.mpr takes.filters,
      fun signal member => (accepts _).not.mpr (takes.accepts signal member)⟩

/-- Where the log goes does not matter to the handlers. -/
theorem takes_logging (p : Subject) (threshold : Threshold) :
    (p.claiming.logging threshold).Takes ↔ p.Takes := by
  unfold logging
  split <;> exact takes_congr rfl rfl rfl

theorem prepared_logging (p : Subject) (threshold : Threshold) :
    ∃ prints, p.Prepared (p.claiming.logging threshold) prints ∧
      (p.logger = none → prints = []) := by
  unfold logging
  by_cases sink : p.claiming.logger.isSome
  · rw [if_pos sink]
    refine ⟨_, ⟨rfl, rfl, rfl, rfl, ?_, p.claiming.printed_calls keptRecord⟩, ?_⟩
    · exact (p.claiming.made_grown _).of_trail rfl
    · intro silent
      rw [claiming, silent] at sink
      cases sink
  · rw [if_neg sink]
    exact ⟨[], ⟨rfl, rfl, rfl, rfl, made_of_trail rfl, nofun⟩, fun _ => rfl⟩

theorem Prepared.armed {p q r : Subject} {early : List Call} {happened : List Occurrence}
    (prepared : p.Prepared q early) (armed : q.Armed r) (same : r.trail = q.trail)
    (prints : ∀ call ∈ happened.filterMap Occurrence.call?, call.op = .printf) :
    p.Prepared (r.grown happened) (early ++ happened.filterMap Occurrence.call?) where
  vm := armed.vm.trans prepared.vm
  channel := armed.channel.trans prepared.channel
  served := armed.served.trans prepared.served
  session := armed.session.trans prepared.session
  made := prepared.made.trans ((r.made_grown happened).of_trail same.symm)
  prints := by
    intro call member
    rcases List.mem_append.mp member with member | member
    · exact prepared.prints call member
    · exact prints call member

/-- Where the kernel takes the crash handlers, attaching comes down to the handshake.  The
record of them is all that is printed before, unless the log goes elsewhere. -/
theorem attach_of_takes (options : Options) {p : Subject} (free : p.Free) (takes : p.Takes) :
    ∃ q prints, (attach options).run.run p = (handshake options).run.run q ∧
      p.Prepared q prints ∧
      (p.logger = none →
        prints = ((p.claiming.logging options.logLevel).printed installedRecord).filterMap
          Occurrence.call?) := by
  obtain ⟨prints, prepared, quiet⟩ := p.prepared_logging options.logLevel
  have ready : (p.claiming.logging options.logLevel).Takes :=
    (takes_logging p _).mpr takes
  obtain ⟨r, installed, armed, same⟩ := returns_install_of_takes p.channel options ready
  have kept := prepared.armed armed same
    ((p.claiming.logging options.logLevel).printed_calls installedRecord)
  refine ⟨_, _, ?_, kept, ?_⟩
  · exact (attach_run options free).trans (installed.run_bind _)
  · intro silent
    rw [quiet silent, List.nil_append]

/-- Where it refuses one, the error is all that comes of attaching. -/
theorem attach_of_refused (options : Options) {p : Subject} (free : p.Free)
    (refused : ¬ p.Takes) :
    ∃ error q prints, (attach options).run.run p = (abortWith error).run.run q ∧
      p.Prepared q prints ∧ (p.logger = none → prints = []) := by
  obtain ⟨prints, prepared, quiet⟩ := p.prepared_logging options.logLevel
  have unready : ¬ (p.claiming.logging options.logLevel).Takes :=
    (takes_logging p _).not.mpr refused
  obtain ⟨error, r, installed, armed, same⟩ :=
    returns_install_of_refused p.channel options unready
  have kept : p.Prepared (r.grown []) (prints ++ [].filterMap Occurrence.call?) :=
    prepared.armed armed same nofun
  rw [grown_nil, List.filterMap_nil, List.append_nil] at kept
  exact ⟨error, r, prints, (attach_run options free).trans (installed.run_bind _), kept, quiet⟩

/-! ## The handshake comes first -/

/-- Nothing is asked of a host before its configuration, and one that is refused hears the
reason at once. -/
structure HandshakeFirst (config : HostConfig) (calls : List Call) : Prop where
  asked : ∀ early call late, calls = early ++ call :: late → call ≠ .getHostConfig →
    .getHostConfig ∈ early
  refused : ∀ error, Agent.incompatibility? config = some error →
    ∃ late, calls = .getHostConfig :: .userAbort (Utf8.ofString error.message) :: late

/-- Something else comes first. -/
theorem not_handshakeFirst {config : HostConfig} {call : Call} {late : List Call}
    (other : call ≠ .getHostConfig) : ¬ HandshakeFirst config (call :: late) := by
  intro first
  cases first.asked [] call late rfl other

/-- What the handshake is in the guest, a process sees of it: the question first. -/
theorem returns_negotiate {options : Options} {p : Subject} (served : p.served = true)
    (all : p.channel.textOnly = false) {vm : Vm} {events : List Event}
    {result : Except AgentError Agent}
    (ran : (Agent.negotiate options).run p.vm = (result, vm))
    (grown : vm.history = (p.vm.serve .getHostConfig).history ++ events)
    (goesOn : ∀ call ∈ events.filterMap Event.call?, call.isTerminal = false) :
    ∃ q, Returns (guest _ (Agent.negotiate options)) p result q ∧
      p.Made q (.getHostConfig ::
        (events.flatMap (p.seen p.channel)).filterMap Occurrence.call?) := by
  have whole : vm.history =
      p.vm.history ++ (.called .getHostConfig (p.vm.host.trace? p.vm.memory) :: events) := by
    rw [grown, List.append_cons]
    rfl
  have sees : p.channel.sees .getHostConfig = true := by
    rw [Channel.sees, all]
    rfl
  refine ⟨_, returns_guest served ran whole ?_, ?_⟩
  · intro call member
    rcases List.mem_cons.mp member with rfl | member
    · rfl
    · exact goesOn call member
  · have made := ({ p with vm := vm } : Subject).made_grown
      ((.called .getHostConfig (p.vm.host.trace? p.vm.memory) :: events).flatMap (p.seen p.channel))
    have listed : ((.called .getHostConfig (p.vm.host.trace? p.vm.memory) :: events).flatMap
        (p.seen p.channel)).filterMap Occurrence.call? =
        .getHostConfig :: (events.flatMap (p.seen p.channel)).filterMap Occurrence.call? := by
      rw [List.flatMap_cons, seen, traced, if_pos sees]
      rfl
    rw [listed] at made
    exact made.of_trail rfl

/-- What comes of a handshake is an error that ends the process, or an agent. -/
theorem handshake_run {options : Options} {p q : Subject} {result : Except AgentError Agent}
    (asked : Returns (guest _ (Agent.negotiate options)) p result q) :
    (handshake options).run.run p =
      match result with
      | .error error => (abortWith error : SubjectM Agent).run.run q
      | .ok agent => (.ok agent, q) := by
  refine (asked.run_bind _).trans ?_
  cases result with
  | error error => rfl
  | ok agent => rfl

/-- A handshake asks for the configuration first, and a host that it refuses hears why. -/
theorem handshake_asks (options : Options) {p : Subject} (served : p.served = true)
    (all : p.channel.textOnly = false) :
    ∃ late, p.Made (left (handshake options) p) (.getHostConfig :: late) ∧
      ∀ error, Agent.incompatibility? p.vm.host.config = some error →
        ∃ rest, late = .userAbort (Utf8.ofString error.message) :: rest := by
  cases compatible : Agent.incompatibility? p.vm.host.config with
  | some error =>
      have ran := Agent.negotiate_of_incompatible options compatible
      obtain ⟨q, asked, made⟩ := returns_negotiate served all ran (List.append_nil _).symm nofun
      obtain ⟨how, r, late, ends, told, -⟩ := abortWith_ends (α := Agent) error q
      have whole : Ends (handshake options) p how r := (handshake_run asked).trans ends
      rw [whole.left_eq]
      refine ⟨_, made.trans told, ?_⟩
      intro other same
      obtain rfl := Option.some.inj same
      rw [← AgentError.hostText_of_incompatible compatible]
      exact ⟨late, rfl⟩
  | none =>
      obtain ⟨calls, later, goesOn⟩ := Agent.negotiate_goes_on options p.vm
      cases ran : (Agent.negotiate options).run p.vm with
      | mk result vm =>
          rw [ran] at later
          obtain ⟨events, grown, rfl⟩ := later
          obtain ⟨q, asked, made⟩ := returns_negotiate served all ran grown goesOn
          have came := handshake_run asked
          cases result with
          | error error =>
              obtain ⟨how, r, late, ends, told, -⟩ := abortWith_ends (α := Agent) error q
              have whole : Ends (handshake options) p how r := came.trans ends
              rw [whole.left_eq]
              exact ⟨_, made.trans told, nofun⟩
          | ok agent =>
              have whole : Returns (handshake options) p agent q := came
              rw [whole.left_eq]
              exact ⟨_, made, nofun⟩

theorem admits_iff {threshold : Threshold} {level : Level} {p : Subject} {channel : Channel}
    (sink : p.logger = some (channel, threshold)) (greatest : p.maxLevel = threshold)
    (text : String) :
    (p.printed ⟨level, text⟩).filterMap Occurrence.call? =
      if threshold.admits level then [.printf (hostText (Logger.line ⟨level, text⟩))] else [] := by
  have sees (text : Bytes) : channel.sees (.printf text) = true := Bool.or_true _
  rw [printed, sink, greatest]
  cases lets : threshold.admits level with
  | true =>
      simp only [lets, traced, sees, Bool.and_self, if_true]
      rfl
  | false =>
      simp only [lets, Bool.and_self, Bool.false_eq_true, if_false]
      rfl

/-- Which calls a process makes while it attaches to a host, for all options, every
configuration of the host and whatever the kernel refuses: the handshake comes first just if
the crash handlers can be put in place and the log level lets no debug record through. -/
theorem handshakeFirst_iff (options : Options) {p : Subject} (free : p.Free)
    (silent : p.logger = none) (all : p.channel.textOnly = false) :
    ∃ calls, p.Made (left (attach options) p) calls ∧
      (HandshakeFirst p.vm.host.config calls ↔
        p.Takes ∧ options.logLevel.admits .debug = false) := by
  by_cases takes : p.Takes
  · obtain ⟨q, prints, ran, prepared, printed⟩ := attach_of_takes options free takes
    have seesAll : q.channel.textOnly = false := by
      rw [prepared.channel]
      exact all
    have served : q.served = true := prepared.served.trans free.served
    obtain ⟨late, asked, told⟩ := handshake_asks options served seesAll
    have made := prepared.made.trans asked
    rw [← show left (attach options) p = left (handshake options) q from congrArg Prod.snd ran]
      at made
    refine ⟨_, made, ?_⟩
    have noSink : ¬ p.claiming.logger.isSome := by
      rw [claiming, silent]
      decide
    have printed := printed silent
    rw [logging, if_neg noSink, installedRecord, admits_iff rfl rfl] at printed
    rw [prepared.vm] at told
    cases lets : options.logLevel.admits .debug with
    | true =>
        rw [lets, if_pos rfl] at printed
        rw [printed]
        exact iff_of_false (not_handshakeFirst nofun) fun both => nomatch both.2
    | false =>
        rw [lets, if_neg (by decide)] at printed
        rw [printed]
        refine iff_of_true ⟨?_, ?_⟩ ⟨takes, rfl⟩
        · intro early call rest split other
          cases early with
          | nil => exact absurd (List.cons.inj split).1.symm other
          | cons first early =>
              obtain rfl := (List.cons.inj split).1
              exact List.mem_cons_self
        · intro error refused
          obtain ⟨rest, rfl⟩ := told error refused
          exact ⟨rest, rfl⟩
  · obtain ⟨error, q, prints, ran, prepared, quiet⟩ := attach_of_refused options free takes
    obtain ⟨how, r, late, ends, told, -⟩ := abortWith_ends (α := Agent) error q
    have whole : Ends (attach options) p how r := ran.trans ends
    have made := prepared.made.trans told
    rw [quiet silent] at made
    rw [whole.left_eq]
    exact ⟨_, made, iff_of_false (not_handshakeFirst nofun) fun both => takes both.1⟩

/-- A process in front of a host that speaks another protocol. -/
def besideStranger : Subject :=
  let config : HostConfig := { HostConfig.compatible 8 64 with hostMagic := 1 }
  Subject.fresh (Vm.fresh .ordinary .absent (Host.fresh config)) (.standard 0) true fun _ => none

/-- A kernel that refuses no signal takes the crash handlers. -/
theorem takes_of_no_refusals {p : Subject} (found : p.sigactionFound = true)
    (noRefusals : p.refusals = []) : p.Takes := by
  have ordinary : ∀ signal ∈ Signal.fatal, isForeign signal.number = false ∧
      signal.number ≠ Signal.kill.number ∧ signal.number ≠ Signal.stop.number := by decide
  refine ⟨.inr found, fun signal member => ?_⟩
  rintro ⟨errno, refused, -⟩
  obtain ⟨known, notKill, notStop⟩ := ordinary signal member
  simp [refusal?, noRefusals, known, notKill, notStop] at refused

theorem handshakeFirst_iff_stranger :
    besideStranger.Free ∧ besideStranger.logger = none ∧
      besideStranger.channel.textOnly = false ∧
      ∃ calls, besideStranger.Made (left (attach .standard) besideStranger) calls ∧
        HandshakeFirst besideStranger.vm.host.config calls := by
  have free : besideStranger.Free := ⟨rfl, rfl⟩
  obtain ⟨calls, made, first⟩ := handshakeFirst_iff .standard free rfl rfl
  exact ⟨free, rfl, rfl, calls, made, first.mpr ⟨takes_of_no_refusals rfl rfl, rfl⟩⟩

/-- With the log at its debug level a host that speaks another protocol is printed to before
it is asked for anything. -/
theorem printed_before_handshake :
    let options : Options := { Options.standard with logLevel := .upTo .debug }
    besideStranger.Free ∧ besideStranger.logger = none ∧
      besideStranger.channel.textOnly = false ∧
      ∃ calls, besideStranger.Made (left (attach options) besideStranger) calls ∧
        calls.map (fun call => (call.op, call.text?)) =
          [(.printf, some (Utf8.ofString "[DEBUG] crash handlers installed for 7 signals\n")),
            (.getHostConfig, none),
            (.userAbort, some (Utf8.ofString
              "host magic 0x1 does not match 0x4878794e, the hypervisor is probably outdated"))] ∧
        ¬ HandshakeFirst besideStranger.vm.host.config calls := by
  intro options
  refine ⟨⟨rfl, rfl⟩, rfl, rfl, _, ⟨_, (List.nil_append _).symm, rfl⟩, ?_⟩
  have listed : ((left (attach options) besideStranger).trail.filterMap Occurrence.call?).map
      (fun call => (call.op, call.text?)) =
        [(.printf, some (Utf8.ofString "[DEBUG] crash handlers installed for 7 signals\n")),
          (.getHostConfig, none),
          (.userAbort, some (Utf8.ofString
            "host magic 0x1 does not match 0x4878794e, the hypervisor is probably outdated"))] := by
    decide +kernel
  refine ⟨listed, ?_⟩
  obtain ⟨print, rest, split, first, -⟩ := List.map_eq_cons_iff.mp listed
  rw [split]
  apply not_handshakeFirst
  rintro rfl
  cases (Prod.mk.inj first).1

end Subject

end Rewind
