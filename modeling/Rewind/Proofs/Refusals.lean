/-
# Rewind.Proofs.Refusals -- the order of hypercalls when memory is refused

Any attempt to map and any attempt to lock may be refused here.  The payload buffer is
still announced at most once, the mode submitted at most once, and no input is asked for
before the announcement.  But the mode is remembered by the state of the agent alone: an
acquire whose second lock is refused leaves the agent with its buffer registered and no
mode submitted, and a release then overwrites that state.  Every later acquire skips the
submission.  `Guest.Slips` says that a run does this, and it is the only way to go wrong.

Main statements: `Guest.InOrder.play` (what holds until a run slips and what after it),
`Guest.proper_iff` (a run keeps the order just if it does not slip or asks for no input),
`Guest.mode_skipped` (a run that does not keep it).
-/
import Rewind.Proofs.Runs

namespace Rewind

set_option autoImplicit false

namespace Call

/-- How often calls of an opcode are among these. -/
def tally (op : Hypercall) (calls : List Call) : Nat := calls.countP fun call => call.op == op

@[simp] theorem tally_nil (op : Hypercall) : tally op [] = 0 := rfl

@[simp] theorem tally_append (op : Hypercall) (early late : List Call) :
    tally op (early ++ late) = tally op early + tally op late :=
  List.countP_append

@[simp] theorem tally_cons (op : Hypercall) (call : Call) (rest : List Call) :
    tally op (call :: rest) = tally op rest + if call.op = op then 1 else 0 := by
  simp [tally, List.countP_cons]

/-- Each time an input is asked for, there was just one call of this opcode before. -/
def Behind (op : Hypercall) (calls : List Call) : Prop :=
  ∀ early arg late, calls = early ++ userFastAcquire arg :: late → tally op early = 1

/-- The order of calls that the protocol wants: no input is asked for before one
announcement of the payload buffer and one submission of the mode, and neither comes twice. -/
structure Proper (calls : List Call) : Prop where
  announcedOnce : tally .getPayload calls ≤ 1
  submittedOnce : tally .userSubmitMode calls ≤ 1
  behindAnnouncement : Behind .getPayload calls
  behindSubmission : Behind .userSubmitMode calls

theorem behind_of_no_input {calls : List Call} (op : Hypercall)
    (noInput : tally .userFastAcquire calls = 0) : Behind op calls := by
  rintro early arg late rfl
  simp [Call.op] at noInput

/-- An opcode that is missing is missing before each time an input is asked for. -/
theorem not_behind {calls : List Call} {op : Hypercall} (missing : tally op calls = 0)
    (input : 0 < tally .userFastAcquire calls) : ¬ Behind op calls := by
  intro behind
  obtain ⟨call, member, asks⟩ := List.countP_pos_iff.mp input
  obtain ⟨early, late, rfl⟩ := List.append_of_mem member
  cases call with
  | userFastAcquire arg =>
      have one := behind early arg late rfl
      rw [tally_append] at missing
      omega
  | _ => cases asks

theorem behind_snoc {calls : List Call} {op : Hypercall} {call : Call} :
    Behind op (calls ++ [call]) ↔
      Behind op calls ∧ (call.op = .userFastAcquire → tally op calls = 1) := by
  constructor
  · intro behind
    constructor
    · rintro early arg late rfl
      exact behind early arg (late ++ [call]) (by simp)
    · intro asks
      cases call with
      | userFastAcquire arg => exact behind calls arg [] rfl
      | _ => cases asks
  · rintro ⟨before, last⟩ early arg late whole
    rcases late.eq_nil_or_concat with rfl | ⟨inner, final, rfl⟩
    · obtain ⟨rfl, same⟩ := List.append_inj' whole rfl
      obtain rfl := (List.cons.inj same).1
      exact last rfl
    · have split : calls ++ [call] = (early ++ userFastAcquire arg :: inner) ++ [final] := by
        simpa using whole
      obtain ⟨rfl, -⟩ := List.append_inj' split rfl
      exact before early arg inner rfl

theorem Behind.quiet {calls : List Call} {op : Hypercall} {call : Call}
    (behind : Behind op calls) (quiet : call.op ≠ .userFastAcquire) :
    Behind op (calls ++ [call]) :=
  behind_snoc.mpr ⟨behind, fun asks => absurd asks quiet⟩

end Call

namespace Guest

open Agent Vm Call

theorem running : Lifecycle.running ≠ .bufferRegistered := by decide

theorem released : Lifecycle.released ≠ .bufferRegistered := by decide

/-- Somewhere in a run the agent is told to release while its buffer is registered and the
mode is still to be submitted. -/
def Slips (guest : Guest) (moves : List Move) : Prop :=
  ∃ early late, moves = early ++ .ask .release :: late ∧
    (guest.play early).agent.state = .bufferRegistered

theorem not_slips_nil (guest : Guest) : ¬ guest.Slips [] := by
  rintro ⟨early, late, whole, -⟩
  simp at whole

theorem slips_cons {guest : Guest} {move : Move} {rest : List Move} :
    guest.Slips (move :: rest) ↔
      (move = .ask .release ∧ guest.agent.state = .bufferRegistered) ∨
        (guest.make move).Slips rest := by
  constructor
  · rintro ⟨early, late, whole, state⟩
    cases early with
    | nil => exact .inl ⟨(List.cons.inj whole).1, state⟩
    | cons first early =>
        obtain ⟨rfl, rfl⟩ := List.cons.inj whole
        exact .inr ⟨early, late, rfl, state⟩
  · rintro (⟨rfl, state⟩ | ⟨early, late, rfl, state⟩)
    · exact ⟨[], rest, rfl, state⟩
    · exact ⟨move :: early, late, rfl, state⟩

/-! ## The invariant -/

/-- How far an agent has come that made these calls and kept the order so far. -/
inductive InOrder (agent : Agent) (calls : List Call) : Prop
  | unannounced (new : agent.payload = none) (state : agent.state ≠ .bufferRegistered)
      (announced : tally .getPayload calls = 0) (submitted : tally .userSubmitMode calls = 0)
      (asked : tally .userFastAcquire calls = 0) : InOrder agent calls
  | registered (known : agent.payload ≠ none) (state : agent.state = .bufferRegistered)
      (announced : tally .getPayload calls = 1) (submitted : tally .userSubmitMode calls = 0)
      (asked : tally .userFastAcquire calls = 0) : InOrder agent calls
  | submitted (known : agent.payload ≠ none) (state : agent.state ≠ .bufferRegistered)
      (announced : tally .getPayload calls = 1) (submitted : tally .userSubmitMode calls = 1)
      (behindAnnouncement : Behind .getPayload calls)
      (behindSubmission : Behind .userSubmitMode calls) : InOrder agent calls

/-- The agent forgot that the mode is still to be submitted. -/
structure OutOfOrder (agent : Agent) (calls : List Call) : Prop where
  known : agent.payload ≠ none
  state : agent.state ≠ .bufferRegistered
  announced : tally .getPayload calls = 1
  unsubmitted : tally .userSubmitMode calls = 0
  behindAnnouncement : Behind .getPayload calls

section

variable {agent known : Agent} {vm ready : Vm} {region : Region} {calls : List Call}

theorem InOrder.readies (inOrder : InOrder agent calls)
    (readies : Readies agent vm region known ready) :
    InOrder known (calls ++ announcement agent region) := by
  cases readies with
  | known payload =>
      rw [announcement, payload]
      simpa using inOrder
  | registered new sized mapped granted =>
      rw [announcement, if_pos new]
      cases inOrder with
      | unannounced _ state announced submitted asked =>
          have known : (some region : Option Region) ≠ none := Option.some_ne_none region
          exact .registered known rfl (by simp [announced, Call.op])
            (by simp [submitted, Call.op]) (by simp [asked, Call.op])
      | registered known => exact absurd new known
      | submitted known => exact absurd new known

theorem InOrder.asks (inOrder : InOrder known calls) (payload : known.payload ≠ none) :
    InOrder { known with state := .running } (calls ++ question known) := by
  cases inOrder with
  | unannounced new => exact absurd new payload
  | registered _ state announced submitted asked =>
      rw [question, if_pos state, ← List.append_assoc]
      have moded : tally .userFastAcquire (calls ++ [.userSubmitMode mode64]) = 0 := by
        simp [asked, Call.op]
      have announcedOnce : tally .getPayload (calls ++ [.userSubmitMode mode64]) = 1 := by
        simp [announced, Call.op]
      have submittedOnce : tally .userSubmitMode (calls ++ [.userSubmitMode mode64]) = 1 := by
        simp [submitted, Call.op]
      refine .submitted payload running ?_ ?_ ?_ ?_
      · simpa [Call.op] using announced
      · simpa [Call.op] using submitted
      · exact behind_snoc.mpr ⟨behind_of_no_input _ moded, fun _ => announcedOnce⟩
      · exact behind_snoc.mpr ⟨behind_of_no_input _ moded, fun _ => submittedOnce⟩
  | submitted _ state announced submitted behindAnnouncement behindSubmission =>
      rw [question, if_neg state, List.nil_append]
      refine .submitted payload running ?_ ?_ ?_ ?_
      · simpa [Call.op] using announced
      · simpa [Call.op] using submitted
      · exact behind_snoc.mpr ⟨behindAnnouncement, fun _ => announced⟩
      · exact behind_snoc.mpr ⟨behindSubmission, fun _ => submitted⟩

/-- A release goes well unless the mode is still to be submitted. -/
theorem InOrder.releases (inOrder : InOrder agent calls)
    (state : agent.state ≠ .bufferRegistered) :
    InOrder { agent with state := .released } (calls ++ [.release 0]) := by
  cases inOrder with
  | unannounced new _ announced submitted asked =>
      exact .unannounced new released (by simp [announced, Call.op])
        (by simp [submitted, Call.op]) (by simp [asked, Call.op])
  | registered _ same => exact absurd same state
  | submitted payload _ announced submitted behindAnnouncement behindSubmission =>
      refine .submitted payload released ?_ ?_ ?_ ?_
      · simpa [Call.op] using announced
      · simpa [Call.op] using submitted
      · exact behindAnnouncement.quiet (by decide)
      · exact behindSubmission.quiet (by decide)

theorem InOrder.slips (inOrder : InOrder agent calls)
    (state : agent.state = .bufferRegistered) :
    OutOfOrder { agent with state := .released } (calls ++ [.release 0]) := by
  cases inOrder with
  | unannounced _ other => exact absurd state other
  | registered payload _ announced submitted asked =>
      refine ⟨payload, released, ?_, ?_, ?_⟩
      · simpa [Call.op] using announced
      · simpa [Call.op] using submitted
      · exact behind_of_no_input _ (by simp [asked, Call.op])
  | submitted _ other => exact absurd state other

theorem InOrder.proper (inOrder : InOrder agent calls) : Proper calls := by
  cases inOrder with
  | unannounced _ _ announced submitted asked =>
      exact ⟨by omega, by omega, behind_of_no_input _ asked, behind_of_no_input _ asked⟩
  | registered _ _ announced submitted asked =>
      exact ⟨by omega, by omega, behind_of_no_input _ asked, behind_of_no_input _ asked⟩
  | submitted _ _ announced submitted behindAnnouncement behindSubmission =>
      exact ⟨by omega, by omega, behindAnnouncement, behindSubmission⟩

theorem OutOfOrder.readies (outOfOrder : OutOfOrder agent calls)
    (readies : Readies agent vm region known ready) :
    OutOfOrder known (calls ++ announcement agent region) := by
  cases readies with
  | known payload =>
      rw [announcement, if_neg outOfOrder.known, List.append_nil]
      exact outOfOrder
  | registered new sized mapped granted => exact absurd new outOfOrder.known

theorem OutOfOrder.asks (outOfOrder : OutOfOrder known calls) :
    OutOfOrder { known with state := .running } (calls ++ question known) := by
  rw [question, if_neg outOfOrder.state, List.nil_append]
  refine ⟨outOfOrder.known, running, ?_, ?_, ?_⟩
  · simpa [Call.op] using outOfOrder.announced
  · simpa [Call.op] using outOfOrder.unsubmitted
  · exact behind_snoc.mpr ⟨outOfOrder.behindAnnouncement, fun _ => outOfOrder.announced⟩

theorem OutOfOrder.releases (outOfOrder : OutOfOrder agent calls) :
    OutOfOrder { agent with state := .released } (calls ++ [.release 0]) := by
  refine ⟨outOfOrder.known, released, ?_, ?_, ?_⟩
  · simpa [Call.op] using outOfOrder.announced
  · simpa [Call.op] using outOfOrder.unsubmitted
  · exact outOfOrder.behindAnnouncement.quiet (by decide)

end

/-! ## A run -/

section

variable {guest : Guest} {calls : List Call}

/-- What making the buffer known and asking for an input both keep, every acquire keeps:
it does the one and the other, the one only, or neither. -/
theorem make_acquire_keeps {Keeps : Agent → List Call → Prop}
    (readies : ∀ {agent known vm ready region calls}, Keeps agent calls →
      Readies agent vm region known ready → Keeps known (calls ++ announcement agent region))
    (asks : ∀ {known calls}, Keeps known calls → known.payload ≠ none →
      Keeps { known with state := .running } (calls ++ question known))
    (kept : Keeps guest.agent calls) (dest : Buffer) :
    ∃ more, (guest.make (.ask (.acquire dest))).vm.cycle = guest.vm.cycle ++ more ∧
      Keeps (guest.make (.ask (.acquire dest))).agent (calls ++ more) := by
  have announces agent region :
      (announcement agent region).filter Call.isCycle = announcement agent region := by
    unfold announcement
    split <;> rfl
  have questions known : (question known).filter Call.isCycle = question known := by
    unfold question
    split <;> rfl
  obtain ⟨result, left, after, ran, ways⟩ := Agent.acquires guest.agent guest.vm dest
  rw [make_acquire, ran]
  cases ways with
  | unready new unready =>
      refine ⟨[], unready.made.cycle, ?_⟩
      rw [List.append_nil]
      exact kept
  | @unlocked region known ready errno ready' refused =>
      have made := ready'.made.trans (made_tried ready region.addr region.len)
      refine ⟨announcement guest.agent region, ?_, readies kept ready'⟩
      rw [made.cycle, List.append_nil, announces]
  | @acquired region known ready ready' granted =>
      have made := ready'.made.trans (known.made_acquiredIn region ready)
      refine ⟨announcement guest.agent region ++ question known, ?_, ?_⟩
      · rw [made.cycle, List.filter_append, announces, questions]
      · have payload : known.payload ≠ none := by
          rw [ready'.payload]
          exact Option.some_ne_none region
        rw [← List.append_assoc]
        exact asks (readies kept ready') payload

theorem InOrder.covers (inOrder : InOrder guest.agent calls) (coverage : Option CoverageMap) :
    InOrder { guest.agent with coverage := coverage } calls := by
  cases inOrder with
  | unannounced new state announced submitted asked =>
      exact .unannounced new state announced submitted asked
  | registered payload state announced submitted asked =>
      exact .registered payload state announced submitted asked
  | submitted payload state announced submitted behindAnnouncement behindSubmission =>
      exact .submitted payload state announced submitted behindAnnouncement behindSubmission

/-- A move that does not slip keeps the order. -/
theorem InOrder.make (inOrder : InOrder guest.agent calls) {move : Move}
    (holds : ¬ (move = .ask .release ∧ guest.agent.state = .bufferRegistered)) :
    ∃ more, (guest.make move).vm.cycle = guest.vm.cycle ++ more ∧
      InOrder (guest.make move).agent (calls ++ more) := by
  rcases move.kinds with ⟨dest, rfl⟩ | rfl | ⟨acquires, releases⟩
  · exact make_acquire_keeps InOrder.readies InOrder.asks inOrder dest
  · have state : guest.agent.state ≠ .bufferRegistered := fun same => holds ⟨rfl, same⟩
    rw [make_release]
    exact ⟨_, (guest.agent.made_release guest.vm).cycle, inOrder.releases state⟩
  · obtain ⟨⟨coverage, same⟩, -, aside, made, quiet⟩ := guest.make_aside acquires releases
    refine ⟨[], by rw [made.cycle, quiet], ?_⟩
    rw [same, List.append_nil]
    exact inOrder.covers coverage

theorem OutOfOrder.make (outOfOrder : OutOfOrder guest.agent calls) (move : Move) :
    ∃ more, (guest.make move).vm.cycle = guest.vm.cycle ++ more ∧
      OutOfOrder (guest.make move).agent (calls ++ more) := by
  rcases move.kinds with ⟨dest, rfl⟩ | rfl | ⟨acquires, releases⟩
  · exact make_acquire_keeps OutOfOrder.readies (fun kept _ => OutOfOrder.asks kept) outOfOrder dest
  · rw [make_release]
    exact ⟨_, (guest.agent.made_release guest.vm).cycle, outOfOrder.releases⟩
  · obtain ⟨⟨coverage, same⟩, -, aside, made, quiet⟩ := guest.make_aside acquires releases
    refine ⟨[], by rw [made.cycle, quiet], ?_⟩
    rw [same, List.append_nil]
    exact ⟨outOfOrder.known, outOfOrder.state, outOfOrder.announced, outOfOrder.unsubmitted,
      outOfOrder.behindAnnouncement⟩

/-- Once out of order, always out of order. -/
theorem OutOfOrder.play (outOfOrder : OutOfOrder guest.agent calls) (moves : List Move) :
    ∃ more, (guest.play moves).vm.cycle = guest.vm.cycle ++ more ∧
      OutOfOrder (guest.play moves).agent (calls ++ more) := by
  induction moves generalizing guest calls with
  | nil => exact ⟨[], by simp, by simpa using outOfOrder⟩
  | cons move rest ih =>
      obtain ⟨more, made, still⟩ := outOfOrder.make move
      obtain ⟨late, played, last⟩ := ih still
      refine ⟨more ++ late, ?_, ?_⟩
      · rw [play_cons, played, made, List.append_assoc]
      · rwa [play_cons, ← List.append_assoc]

/-- The order holds until the run slips, and is lost from there on. -/
theorem InOrder.play (inOrder : InOrder guest.agent calls) (moves : List Move) :
    ∃ more, (guest.play moves).vm.cycle = guest.vm.cycle ++ more ∧
      (¬ guest.Slips moves ∧ InOrder (guest.play moves).agent (calls ++ more) ∨
        guest.Slips moves ∧ OutOfOrder (guest.play moves).agent (calls ++ more)) := by
  induction moves generalizing guest calls with
  | nil => exact ⟨[], by simp, .inl ⟨guest.not_slips_nil, by simpa using inOrder⟩⟩
  | cons move rest ih =>
      by_cases slip : move = .ask .release ∧ guest.agent.state = .bufferRegistered
      · obtain ⟨rfl, state⟩ := slip
        have lost : OutOfOrder (guest.make (.ask .release)).agent (calls ++ [.release 0]) := by
          rw [make_release]
          exact inOrder.slips state
        have made : (guest.make (.ask .release)).vm.cycle = guest.vm.cycle ++ [.release 0] := by
          rw [make_release]
          exact (guest.agent.made_release guest.vm).cycle
        obtain ⟨late, played, last⟩ := lost.play rest
        refine ⟨[.release 0] ++ late, ?_, .inr ⟨slips_cons.mpr (.inl ⟨rfl, state⟩), ?_⟩⟩
        · rw [play_cons, played, made, List.append_assoc]
        · rwa [play_cons, ← List.append_assoc]
      · obtain ⟨more, made, still⟩ := inOrder.make slip
        obtain ⟨late, played, last⟩ := ih still
        refine ⟨more ++ late, ?_, ?_⟩
        · rw [play_cons, played, made, List.append_assoc]
        · rw [play_cons, ← List.append_assoc, slips_cons, or_iff_right slip]
          exact last

end

/-! ## From the handshake on -/

/-- A run keeps the order of calls just if it does not slip or asks for no input, whatever
the kernel refuses.  In any case the buffer is announced and the mode submitted at most
once, and no input is asked for before the announcement. -/
theorem proper_iff {options : Options} {vm ready : Vm} {agent : Agent}
    (negotiated : (negotiate options).run vm = (.ok agent, ready)) (moves : List Move) :
    let start : Guest := ⟨agent, ready⟩
    ∃ calls, (start.play moves).vm.cycle = vm.cycle ++ calls ∧
      (Proper calls ↔ ¬ (start.Slips moves ∧ 0 < tally .userFastAcquire calls)) ∧
      tally .getPayload calls ≤ 1 ∧ tally .userSubmitMode calls ≤ 1 ∧
      Behind .getPayload calls := by
  have met := negotiated_of_run negotiated
  intro start
  have fresh : InOrder start.agent [] := by
    refine .unannounced met.payload ?_ rfl rfl rfl
    show agent.state ≠ _
    rw [met.state]
    decide
  obtain ⟨calls, made, stage⟩ := fresh.play moves
  rw [List.nil_append] at stage
  refine ⟨calls, ?_, ?_⟩
  · rw [made]
    exact congrArg (· ++ calls) (cycle_of_negotiated met)
  · rcases stage with ⟨holds, inOrder⟩ | ⟨slips, outOfOrder⟩
    · have proper := inOrder.proper
      exact ⟨iff_of_true proper fun both => holds both.1, proper.announcedOnce,
        proper.submittedOnce, proper.behindAnnouncement⟩
    · have announced := Nat.le_of_eq outOfOrder.announced
      have submitted : tally .userSubmitMode calls ≤ 1 := by
        rw [outOfOrder.unsubmitted]
        decide
      refine ⟨?_, announced, submitted, outOfOrder.behindAnnouncement⟩
      constructor
      · rintro proper ⟨-, input⟩
        exact not_behind outOfOrder.unsubmitted input proper.behindSubmission
      · intro quiet
        have noInput : tally .userFastAcquire calls = 0 :=
          Nat.eq_zero_of_not_pos fun input => quiet ⟨slips, input⟩
        exact ⟨announced, submitted, outOfOrder.behindAnnouncement,
          behind_of_no_input _ noInput⟩

/-- A kernel that refuses the second attempt to lock and grants everything else. -/
def refusesSecondLock : Kernel where
  refusesMap _ _ := none
  refusesLock attempts _ _ := if attempts = 1 then some Errno.outOfMemory else none
  lockLimit := none

/-- A machine under that kernel, which nothing happened to yet. -/
def strained : Vm := Vm.fresh refusesSecondLock .absent (Host.fresh (.compatible 0x40 0x100))

theorem strained_mapped : strained.memory.map strained.host.config.traceSize =
    (.ok ⟨0x10000, 0x40⟩, (strained.memory.map strained.host.config.traceSize).2) := by
  have first : (strained.memory.map strained.host.config.traceSize).1 =
    .ok ⟨0x10000, 0x40⟩ := rfl
  exact Prod.ext first rfl

/-- The second lock of the first acquire is refused, the agent is released and asked again:
the host takes the snapshot without ever having been told the mode. -/
theorem mode_skipped :
    let moves : List Move := [.ask (.acquire (Buffer.zeros 0x100)), .ask .release,
      .ask (.acquire (Buffer.zeros 0x100))]
    ∃ agent ready, (negotiate .standard).run strained = (.ok agent, ready) ∧
      let calls := ((⟨agent, ready⟩ : Guest).play moves).vm.cycle
      calls.map Call.op = [.getPayload, .release, .userFastAcquire] ∧ ¬ Proper calls := by
  intro moves
  refine ⟨_, _, negotiate_of_mapped .standard rfl strained_mapped, ?_, ?_⟩
  · decide +kernel
  · intro proper
    exact not_behind (by decide +kernel) (by decide +kernel) proper.behindSubmission

/-- Without the release the second acquire makes up for what the first left undone. -/
theorem proper_iff_retried :
    let moves : List Move := [.ask (.acquire (Buffer.zeros 0x100)),
      .ask (.acquire (Buffer.zeros 0x100))]
    ∃ agent ready, (negotiate .standard).run strained = (.ok agent, ready) ∧
      Proper ((⟨agent, ready⟩ : Guest).play moves).vm.cycle := by
  intro moves
  have negotiated := negotiate_of_mapped .standard rfl strained_mapped
  refine ⟨_, _, negotiated, ?_⟩
  obtain ⟨calls, made, proper, -⟩ := proper_iff negotiated moves
  have fresh : strained.cycle ++ calls = calls := rfl
  rw [made, fresh, proper]
  rintro ⟨⟨early, late, whole, -⟩, -⟩
  have released : (.ask .release : Move) ∈ moves := by
    rw [whole]
    exact List.mem_append_right early List.mem_cons_self
  simp [moves] at released

end Guest

end Rewind
