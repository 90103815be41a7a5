/-
# Rewind.Proofs.InSession -- a process that attached, and its one agent

Once a process attached to a host that grants everything, its agent and the guest it runs
on stay as a handshake leaves them and as acquires and releases change them, whoever holds
the agent at the time.  `Subject.InSession` is that invariant: the host was asked for its
configuration once, the agent declared itself once, the payload buffer was announced once
if it is known, and the execution mode was submitted with it.

Main statements: `Subject.attach_returns` and `Subject.attach_ends` (attaching leads into a
session or ends the process), `Subject.InSession.move` (what an acquire or a release makes of
it), `Subject.hostSession_of_held` (whoever asks for a session that is taken is turned away).
-/
import Rewind.Proofs.Attachment
import Rewind.Proofs.Cycle
import Rewind.Proofs.Payload
import Rewind.Proofs.Refusals

namespace Rewind

set_option autoImplicit false

/-! ## Counting calls -/

namespace Call

/-- Prints do not count among other calls. -/
theorem tally_unprinted {op : Hypercall} (other : op ≠ .printf) (calls : List Call) :
    tally op (unprinted calls) = tally op calls := by
  rw [tally, tally, unprinted, List.countP_filter]
  refine List.countP_congr fun call _ => ?_
  simp only [Bool.and_eq_true, beq_iff_eq, bne_iff_ne]
  constructor
  · exact And.left
  · rintro rfl
    exact ⟨rfl, other⟩

theorem tally_of_unprinted {op : Hypercall} (other : op ≠ .printf) {calls others : List Call}
    (same : unprinted calls = unprinted others) : tally op calls = tally op others := by
  rw [← tally_unprinted other calls, same, tally_unprinted other]

theorem tally_of_all {op : Hypercall} {calls : List Call} {Q : Call → Prop}
    (all : ∀ call ∈ calls, Q call) (none : ∀ call, Q call → call.op ≠ op) :
    tally op calls = 0 := by
  rw [tally, List.countP_eq_zero]
  intro call member
  rw [beq_iff_eq]
  exact none call (all call member)

end Call

/-! ## One snapshot -/

namespace Host

/-- A host takes the snapshot once and then resumes from it. -/
theorem serve_snapshots {h : Host} (m : Memory) (call : Call) (once : h.snapshots ≤ 1) :
    (h.serve m call).1.snapshots ≤ 1 := by
  have deliver_snapshots (h : Host) : (h.deliver m).1.snapshots = h.snapshots := by
    unfold deliver
    split
    · rfl
    · split <;> rfl
  cases call with
  | userFastAcquire arg =>
      simp only [serve, deliver_snapshots]
      split
      · exact Nat.le_refl 1
      · exact once
  | _ => exact once

end Host

namespace Guest

open Agent Vm Call

/-- The moves that turn the cycle. -/
inductive Turns : Move → Prop
  | acquire (dest : Buffer) : Turns (.ask (.acquire dest))
  | release : Turns (.ask .release)

/-- An acquire and a release make no calls but those that turn the cycle. -/
theorem Granted.made_make {guest : Guest} {region : Region} (granted : guest.Granted region)
    (moded : guest.agent.state ≠ .bufferRegistered) {move : Move} (turns : Turns move) :
    guest.vm.Made (guest.make move).vm
      (Move.cycleCalls region.addr guest.agent.payload.isSome [move]) := by
  cases turns with
  | acquire dest =>
      obtain ⟨known, ready, readies, ran⟩ := granted.acquires dest
      have made := readies.made.trans (known.made_acquiredIn region ready)
      rw [readies.calls moded] at made
      rw [make_acquire, ran]
      cases payload : guest.agent.payload with
      | none =>
          rw [payload] at made
          exact made
      | some region =>
          rw [payload] at made
          exact made
  | release =>
      rw [make_release]
      exact guest.agent.made_release guest.vm

theorem Granted.snapshots_make {guest : Guest} {region : Region} (granted : guest.Granted region)
    {move : Move} (turns : Turns move) (once : guest.vm.host.snapshots ≤ 1) :
    (guest.make move).vm.host.snapshots ≤ 1 := by
  cases turns with
  | acquire dest =>
      obtain ⟨known, ready, readies, ran⟩ := granted.acquires dest
      rw [make_acquire, ran]
      show ((known.submitted (ready.held region.addr region.len)).host.serve _ _).1.snapshots ≤ 1
      apply Host.serve_snapshots
      rw [submitted_host]
      show ready.host.snapshots ≤ 1
      rw [readies.host granted.placed]
      exact once
  | release =>
      rw [make_release]
      show ((guest.agent.bridged guest.vm).host.serve _ _).1.snapshots ≤ 1
      apply Host.serve_snapshots
      rw [bridged_host]
      exact once

end Guest

namespace Subject

open Call

/-! ## The invariant of a session -/

/-- The calls of a session so far, given whether the payload buffer is known. -/
structure Counted (known : Bool) (calls : List Call) : Prop where
  asked : tally .getHostConfig calls = 1
  declared : tally .setAgentConfig calls = 1
  announced : tally .getPayload calls = known.toNat
  submitted : tally .userSubmitMode calls = known.toNat

/-- Prints do not count for a session. -/
theorem Counted.of_unprinted {known : Bool} {calls others : List Call}
    (counted : Counted known calls) (same : unprinted others = unprinted calls) :
    Counted known others := by
  constructor
  · rw [tally_of_unprinted (by decide) same, counted.asked]
  · rw [tally_of_unprinted (by decide) same, counted.declared]
  · rw [tally_of_unprinted (by decide) same, counted.announced]
  · rw [tally_of_unprinted (by decide) same, counted.submitted]

theorem Counted.behind {known : Bool} {calls prints : List Call} (counted : Counted known calls)
    (printed : ∀ call ∈ prints, call.op = .printf) : Counted known (prints ++ calls) := by
  refine counted.of_unprinted ?_
  rw [unprinted_append, unprinted_of_prints printed, List.nil_append]

/-- A process that attached: this is its agent, inputs arrive in this region or will, and
these calls were made since `first`. -/
structure InSession (first : Subject) (agent : Agent) (region : Region) (p : Subject) : Prop where
  granted : (⟨agent, p.vm⟩ : Guest).Granted region
  sized : agent.maxInputSize = first.vm.host.config.payloadBufferSize.toNat
  moded : agent.state ≠ .bufferRegistered
  once : p.vm.host.snapshots ≤ 1
  served : p.served = true
  all : p.channel.textOnly = false
  counted : ∃ calls, first.Made p calls ∧ Counted agent.payload.isSome calls

/-- Who holds the session, and what else a process is about, does not matter to it. -/
theorem InSession.of_same {first p q : Subject} {agent : Agent} {region : Region}
    (inSession : InSession first agent region p) (vm : q.vm = p.vm)
    (served : q.served = p.served) (channel : q.channel = p.channel)
    (trail : q.trail = p.trail) : InSession first agent region q where
  granted := by
    rw [vm]
    exact inSession.granted
  sized := inSession.sized
  moded := inSession.moded
  once := by
    rw [vm]
    exact inSession.once
  served := served.trans inSession.served
  all := by
    rw [channel]
    exact inSession.all
  counted := by
    obtain ⟨calls, made, counted⟩ := inSession.counted
    have more := made.trans (made_of_trail trail)
    rw [List.append_nil] at more
    exact ⟨calls, more, counted⟩

/-- A session may be looked at from a state that only prints lie behind. -/
theorem InSession.earlier {first second p : Subject} {agent : Agent} {region : Region}
    (inSession : InSession second agent region p) {prints : List Call}
    (made : first.Made second prints) (printed : ∀ call ∈ prints, call.op = .printf)
    (config : second.vm.host.config = first.vm.host.config) : InSession first agent region p where
  granted := inSession.granted
  sized := by
    rw [← config]
    exact inSession.sized
  moded := inSession.moded
  once := inSession.once
  served := inSession.served
  all := inSession.all
  counted := by
    obtain ⟨calls, later, counted⟩ := inSession.counted
    exact ⟨prints ++ calls, made.trans later, counted.behind printed⟩

/-- What a move adds to the calls of a session. -/
theorem Counted.turns {known : Bool} {calls : List Call} (counted : Counted known calls)
    (addr : UInt64) {move : Move} (turns : Guest.Turns move) {more : List Call}
    (same : unprinted more = unprinted (Move.cycleCalls addr known [move])) :
    Counted (known || move.isAcquire) (calls ++ more) := by
  have counts {op : Hypercall} (other : op ≠ .printf) :
      tally op (calls ++ more) = tally op calls + tally op (Move.cycleCalls addr known [move]) := by
    rw [tally_append, tally_of_unprinted other same]
  obtain ⟨asked, declared, announced, submitted⟩ := counted
  cases turns with
  | acquire dest =>
      cases known <;> constructor <;> rw [counts (by decide)] <;>
        simp [asked, declared, announced, submitted, Move.cycleCalls, Move.isAcquire, Call.op]
  | release =>
      constructor <;> rw [counts (by decide)] <;>
        simp [asked, declared, announced, submitted, Move.cycleCalls, Move.isAcquire,
          Move.isRelease, Call.op]

/-- No call of the cycle reports an end. -/
theorem cycleCalls_go_on (addr : UInt64) (known : Bool) {move : Move} (turns : Guest.Turns move) :
    ∀ call ∈ Move.cycleCalls addr known [move], call.isTerminal = false := by
  cases turns with
  | acquire dest => cases known <;> simp [Move.cycleCalls, Move.isAcquire, Call.isTerminal]
  | release =>
      simp [Move.cycleCalls, Move.isAcquire, Move.isRelease, Call.isTerminal]

/-- An acquire or a release of the agent, as an action of the process: it comes back, and
the session goes on with the agent and the guest that it leaves. -/
theorem InSession.move {first p : Subject} {agent : Agent} {region : Region}
    (inSession : InSession first agent region p) {move : Move} (turns : Guest.Turns move)
    {β : Type} {action : VmM β} {b : β}
    (ran : action.run p.vm = (b, ((⟨agent, p.vm⟩ : Guest).make move).vm)) :
    ∃ q calls, Returns (guest β action) p b q ∧ q.session = p.session ∧ p.Made q calls ∧
      (∀ call ∈ calls, call.isTerminal = false) ∧
      InSession first ((⟨agent, p.vm⟩ : Guest).make move).agent region q := by
  -- What the guest calls is known from the cycle; the process sees the same with prints between.
  have made := inSession.granted.made_make inSession.moded turns
  have goesOn := cycleCalls_go_on region.addr agent.payload.isSome turns
  obtain ⟨happened, returns, same, quiet⟩ :=
    guest_returns inSession.served inSession.all ran made goesOn
  obtain ⟨-, state, payload⟩ := inSession.granted.cycle_make inSession.moded move
  have still := inSession.granted.make move
  have printed : p.Made ({ p with vm := ((⟨agent, p.vm⟩ : Guest).make move).vm }.grown happened)
      (happened.filterMap Occurrence.call?) := (made_grown _ happened).of_trail rfl
  refine ⟨_, _, returns, rfl, printed, quiet, still, ?_, ?_,
    inSession.granted.snapshots_make turns inSession.once, inSession.served, inSession.all, ?_⟩
  · rw [still.sized, ← inSession.granted.sized]
    exact inSession.sized
  · rw [state]
    cases turns with
    | acquire dest => exact nofun
    | release => exact nofun
  · obtain ⟨calls, before, counted⟩ := inSession.counted
    refine ⟨_, before.trans printed, ?_⟩
    have more := counted.turns region.addr turns same
    have known : ((⟨agent, p.vm⟩ : Guest).make move).agent.payload.isSome =
        (agent.payload.isSome || move.isAcquire) := by
      rw [payload]
      cases move.isAcquire <;> simp
    rwa [known]

/-- A print leaves the session as it is. -/
theorem InSession.print {first p : Subject} {agent : Agent} {region : Region}
    (inSession : InSession first agent region p) (text : Exports.CText) :
    ∃ q, Returns (Exports.print text) p () q ∧ q.session = p.session ∧
      p.Made q [printCall text] ∧ InSession first agent region q := by
  let told : Occurrence :=
    .called p.channel (printCall text) (p.vm.host.trace? p.vm.memory)
  have made : p.Made ({ p with vm := p.vm.serve (printCall text) }.grown [told])
      [printCall text] := ⟨[told], rfl, rfl⟩
  refine ⟨_, returns_print inSession.served text, rfl, made,
    inSession.granted.make (.ask (.print (Exports.read text))), inSession.sized, inSession.moded,
    inSession.once, inSession.served, inSession.all, ?_⟩
  obtain ⟨calls, before, counted⟩ := inSession.counted
  refine ⟨_, before.trans made, counted.of_unprinted ?_⟩
  rw [unprinted_append]
  exact List.append_nil _

/-! ## Asking for the session -/

/-- What is left of a process that asked for a session that is taken: the host heard so
first, and but for a crash report nothing else. -/
def TurnedAway (p left : Subject) : Prop :=
  ∃ late, p.Made left (.userAbort (Utf8.ofString AgentError.sessionBusy.message) :: late) ∧
    ∀ call ∈ late, call.op = .panicExtended

/-- Whoever asks for a session that is taken is turned away. -/
theorem hostSession_of_held {p : Subject} {kept : Agent} (slot : p.session.agent = some kept)
    (taken : p.session.held = true) : ∃ how q, Ends hostSession p how q ∧ p.TurnedAway q := by
  have busy := Slot.lock_of_held (do attach (← readOptions)) slot taken
  obtain ⟨how, q, late, ends, made, reports⟩ :=
    abortWith_ends (α := Agent) .sessionBusy { p with session := p.session }
  refine ⟨how, q, ?_, late, ?_, reports⟩
  · refine (returns_get p).ends ?_
    rw [busy]
    exact (returns_pure _ p).ends ((returns_modify _ p).ends ends)
  · rw [← AgentError.hostText_sessionBusy]
    exact made

/-- A session that nobody holds is handed out as it was left. -/
theorem hostSession_of_free {p : Subject} {agent : Agent} (slot : p.session.agent = some agent)
    (free : p.session.held = false) :
    Returns hostSession p agent { p with session := { p.session with held := true } } := by
  have given := Slot.lock_of_free (do attach (← readOptions)) slot free
  refine (returns_get p).bind ?_
  rw [given]
  exact (returns_pure _ p).bind ((returns_modify _ p).bind (returns_pure _ _))

/-- The first to ask attaches and then has the session. -/
theorem hostSession_of_fresh {p q r : Subject} {options : Options} {agent : Agent}
    (fresh : p.session.agent = none) (nobody : p.session.held = false)
    (read : Returns readOptions p options q) (attached : Returns (attach options) q agent r) :
    Returns hostSession p agent
      { r with session := { p.session with agent := some agent, held := true } } := by
  let slot : Slot := { p.session with agent := some agent, held := true }
  have locked : Returns (do
      let agent ← (do attach (← readOptions))
      return (Except.ok agent, { p.session with agent := some agent, held := true }) :
        SubjectM (Except AgentError Agent × Slot)) p (.ok agent, slot) r :=
    (read.bind attached).bind (returns_pure _ r)
  refine (returns_get p).bind ?_
  rw [Slot.lock_of_empty _ fresh nobody]
  exact locked.bind ((returns_modify _ r).bind (returns_pure agent _))

/-! ## Attaching -/

/-- Reading the options logs what is malformed. -/
theorem returns_readOptions_logged (p : Subject) :
    Returns readOptions p (Options.fromLookup p.environment).1
      (p.grown ((Options.fromLookup p.environment).2.flatMap p.printed)) :=
  (returns_get p).bind ((returns_logs _ p).bind (returns_pure _ _))

/-- Only warnings come of it. -/
theorem returns_readOptions (p : Subject) :
    ∃ options happened, Returns readOptions p options (p.grown happened) ∧
      ∀ call ∈ happened.filterMap Occurrence.call?, call.op = .printf := by
  refine ⟨_, _, returns_readOptions_logged p, ?_⟩
  intro call member
  obtain ⟨occurrence, happened, same⟩ := List.mem_filterMap.mp member
  obtain ⟨record, -, printed⟩ := List.mem_flatMap.mp happened
  exact p.printed_calls record call (List.mem_filterMap.mpr ⟨occurrence, printed, same⟩)

/-- What an agent meets that can be had: a host that sees every call, speaks its protocol
and has a payload buffer, took no snapshot yet, and a kernel that grants memory. -/
structure Hosted (p : Subject) : Prop where
  all : p.channel.textOnly = false
  compatible : p.vm.host.config.hostMagic = Rewind.hostMagic ∧
    p.vm.host.config.hostVersion = Rewind.hostVersion
  sized : payloadHeaderSize ≤ p.vm.host.config.payloadBufferSize.toNat
  once : p.vm.host.snapshots = 0
  grants : p.vm.memory.kernel.Grants
  room : p.vm.memory.HasRoom 2

/-- A dictionary is handed over as a file. -/
theorem dictionaryCalls_op (globals : Instrumentation) (options : Options) :
    ∀ call ∈ Agent.dictionaryCalls globals options, call.op = .dumpFile := by
  intro call member
  unfold Agent.dictionaryCalls at member
  split at member
  · split at member
    · obtain rfl := List.mem_singleton.mp member
      rfl
    · cases member
  · cases member

/-- No call of a handshake reports an end. -/
theorem handshake_goes_on (config : AgentConfig) (globals : Instrumentation)
    (options : Options) :
    ∀ call ∈ [.getHostConfig, .setAgentConfig config] ++ Agent.dictionaryCalls globals options,
      call.isTerminal = false := by
  intro call member
  rcases List.mem_append.mp member with first | file
  · rcases List.mem_cons.mp first with rfl | last
    · rfl
    · obtain rfl := List.mem_singleton.mp last
      rfl
  · have op := dictionaryCalls_op globals options call file
    cases call with
    | dumpFile name data content append => rfl
    | _ => cases op

/-- The calls of a handshake count as one question and one declaration. -/
theorem counted_handshake {calls : List Call} {globals : Instrumentation} {options : Options}
    {config : AgentConfig} (same : unprinted calls = unprinted
      ([.getHostConfig, .setAgentConfig config] ++ Agent.dictionaryCalls globals options)) :
    Counted false calls := by
  have counts {op : Hypercall} (noPrint : op ≠ .printf) (noFile : op ≠ .dumpFile) :
      tally op calls = tally op [.getHostConfig, .setAgentConfig config] := by
    have none : tally op (Agent.dictionaryCalls globals options) = 0 :=
      tally_of_all (dictionaryCalls_op globals options) fun call file asks =>
        noFile (asks.symm.trans file)
    rw [tally_of_unprinted noPrint same, tally_append, none, Nat.add_zero]
  constructor
  · rw [counts (by decide) (by decide)]; rfl
  · rw [counts (by decide) (by decide)]; rfl
  · rw [counts (by decide) (by decide)]; rfl
  · rw [counts (by decide) (by decide)]; rfl

/-- Attaching leads into a session where the hypervisor is to be had and the kernel takes the
crash handlers. -/
theorem attach_returns (options : Options) {p : Subject} (hosted : p.Hosted) (free : p.Free)
    (takes : p.Takes) :
    ∃ agent region q, Returns (attach options) p agent q ∧ InSession p agent region q ∧
      q.session = p.session := by
  obtain ⟨q, prints, ran, prepared, -⟩ := attach_of_takes options free takes
  have grants : q.vm.memory.kernel.Grants := by
    rw [prepared.vm]
    exact hosted.grants
  have room : q.vm.memory.HasRoom 2 := by
    rw [prepared.vm]
    exact hosted.room
  have compatible : Agent.incompatibility? q.vm.host.config = none := by
    rw [prepared.vm]
    exact Agent.incompatibility?_eq_none.mpr hosted.compatible
  obtain ⟨agent, met, made⟩ := Agent.negotiate_of_grants q.vm options grants
    (Memory.hasRoom_mono room (by decide)) compatible
  have negotiate : (Agent.negotiate options).run q.vm =
      (.ok agent, ((Agent.negotiate options).run q.vm).2) := Prod.ext met rfl
  have negotiated := Agent.negotiated_of_run negotiate
  have all : q.channel.textOnly = false := by
    rw [prepared.channel]
    exact hosted.all
  have served : q.served = true := prepared.served.trans free.served
  obtain ⟨happened, asked, same, -⟩ :=
    guest_returns served all negotiate made (handshake_goes_on _ _ _)
  have whole : Returns (attach options) p agent _ := ran.trans (handshake_run asked)
  have sized : agent.maxInputSize = p.vm.host.config.payloadBufferSize.toNat := by
    rw [Agent.maxInputSize, negotiated.hostConfig, prepared.vm]
  have notEmpty : agent.maxInputSize ≠ 0 := by
    rw [sized]
    exact Nat.ne_of_gt (Nat.lt_of_lt_of_le (by decide) hosted.sized)
  refine ⟨agent, _, _, whole, ⟨Guest.granted_of_negotiated negotiated grants room notEmpty, sized,
    ?_, ?_, served, all, ?_⟩, prepared.session⟩
  · rw [negotiated.state]
    decide
  · show ((Agent.negotiate options).run q.vm).2.host.snapshots ≤ 1
    rw [negotiated.host, prepared.vm]
    show p.vm.host.snapshots ≤ 1
    rw [hosted.once]
    decide
  · refine ⟨_, prepared.made.trans ((made_grown _ happened).of_trail rfl), ?_⟩
    rw [negotiated.payload]
    exact (counted_handshake same).behind prepared.prints

/-- Elsewhere attaching ends the process. -/
theorem attach_ends (options : Options) {p : Subject} (refused : ¬ (p.Free ∧ p.Takes)) :
    ∃ how q, Ends (attach options) p how q := by
  by_cases free : p.Free
  · have refusal : ¬ p.Takes := fun takes => refused ⟨free, takes⟩
    obtain ⟨error, q, -, ran, -⟩ := attach_of_refused options free refusal
    obtain ⟨how, r, -, ends, -⟩ := abortWith_ends (α := Agent) error q
    exact ⟨how, r, ran.trans ends⟩
  · -- Without the hypervisor the error goes to standard error instead.
    have failed : ∃ error, Returns claim p (.error error) p := by
      by_cases present : p.present = true
      · have claimed : p.claimed = true := by
          by_contra unclaimed
          exact free ⟨present, Bool.eq_false_iff.mpr unclaimed⟩
        refine ⟨.hostClaimed, (returns_get p).bind ?_⟩
        rw [if_neg (by rw [present]; decide), if_pos claimed]
        exact returns_pure _ p
      · exact ⟨.hostUnavailable, returns_claim_of_absent (Bool.eq_false_iff.mpr present)⟩
    obtain ⟨error, claimed⟩ := failed
    obtain ⟨how, ends⟩ := final_abort (α := Agent) _
    exact ⟨how, _, claimed.ends ((returns_modify _ p).ends ends)⟩

end Subject

end Rewind
