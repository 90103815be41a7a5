/-
# Rewind.Proofs.Alone -- the library in a process without a hypervisor

The library may be loaded where no hypervisor is.  There a hypercall raises a signal, so none
should be made, whichever entry point the target or its harness comes in by.  The entry points
reach the host in three ways.  The session claims it and finds nobody, a crash report goes to
standard error because no host was ever set for it, but a print does not look.

`Subject.Alone` is what keeps the first two ways shut, and every entry that comes back keeps
it.  The other entries but prints and registrations end the process with a text on standard error
and without a hypercall.  A print issues its hypercall and ends the process by the signal, unless
a test serves hypercalls in the place of a hypervisor.

Main statements: `Subject.Writes` and its rules (actions that only write to standard error),
`Subject.Alone.made_run` (the hypercalls of a process alone) and `Subject.silent_iff` (there
are none just if nothing is printed before the end, and how the process ends).
-/
import Rewind.Proofs.OneSession

namespace Rewind.Subject

set_option autoImplicit false

/-! ## Actions that only write to standard error -/

/-- From one state of a process to the other its machine stayed as it was, and standard error
only grew. -/
structure Wrote (before after : Subject) : Prop where
  vm : after.vm = before.vm
  stderr : before.stderr <+: after.stderr

theorem Wrote.refl (p : Subject) : p.Wrote p := ⟨rfl, List.prefix_rfl⟩

theorem Wrote.trans {p q r : Subject} (first : p.Wrote q) (second : q.Wrote r) : p.Wrote r :=
  ⟨second.vm.trans first.vm, first.stderr.trans second.stderr⟩

/-- However the action comes out, it only writes to standard error. -/
def Writes {α : Type} (action : SubjectM α) : Prop := ∀ p : Subject, p.Wrote (left action p)

section

variable {α β : Type}

theorem Writes.bind {action : SubjectM α} {next : α → SubjectM β} (first : Writes action)
    (rest : ∀ a, Writes (next a)) : Writes (action >>= next) := by
  intro p
  rcases returns_or_ends action p with ⟨a, returns⟩ | ⟨how, ends⟩
  · have whole : left (action >>= next) p = left (next a) (left action p) :=
      congrArg Prod.snd (returns.run_bind next)
    rw [whole]
    exact (first p).trans (rest a _)
  · rw [(ends.bind next).left_eq]
    exact first p

theorem writes_pure (a : α) : Writes (pure a) := Wrote.refl

theorem writes_get : Writes get := Wrote.refl

theorem writes_finish (how : Ending) : Writes (finish how : SubjectM α) := Wrote.refl

/-- Behind an end nothing is done. -/
theorem writes_finish_bind (how : Ending) (next : α → SubjectM β) :
    Writes (finish how >>= next) := Wrote.refl

theorem writes_note (occurrence : Occurrence) : Writes (note occurrence) :=
  fun _ => ⟨rfl, List.prefix_rfl⟩

theorem writes_writeError (text : Bytes) : Writes (writeError text) :=
  fun p => ⟨rfl, List.prefix_append p.stderr text⟩

theorem writes_call (channel : Channel) (c : Call) (trace : Option Buffer) :
    Writes (call channel c trace) := by
  intro p
  rw [left_call]
  exact ⟨rfl, List.prefix_rfl⟩

theorem writes_sigaction (request : SignalRequest) : Writes (sigaction request) := by
  intro p
  obtain ⟨answer, actions, returns, -⟩ := returns_sigaction request p
  rw [returns.left_eq]
  exact ⟨rfl, List.prefix_rfl⟩

theorem writes_panicWithBacktrace (reason : Option String) :
    Writes (panicWithBacktrace reason : SubjectM α) := by
  refine writes_get.bind fun p => ?_
  cases p.crashChannel with
  | some channel => exact (writes_call _ _ _).bind fun _ => writes_finish _
  | none => exact (writes_writeError _).bind fun _ => writes_finish _

theorem writes_act (number : Int) : Writes (act number) := by
  by_cases fatal : number = Signal.kill.number
  · rw [act, if_pos fatal]
    exact writes_finish_bind _ _
  · rw [act, if_neg fatal]
    refine writes_get.bind fun p => ?_
    cases (p.action number).handler with
    | standard =>
        dsimp only
        split
        · exact writes_finish _
        · exact writes_pure ()
    | ignore => exact writes_pure ()
    | crashReport => exact writes_panicWithBacktrace _
    | own => exact (writes_note _).bind fun _ => writes_finish _

theorem writes_trap (number : Int) : Writes (trap number : SubjectM α) := by
  refine writes_get.bind fun p => ?_
  dsimp only
  split
  · exact (writes_act number).bind fun _ => writes_finish _
  · exact writes_finish _

/-- An abort may run a handler of the target's own or report the crash, and in neither does it
touch the machine. -/
theorem writes_abort : Writes (abort : SubjectM α) := by
  have signalled : Writes (do
      act Signal.abrt.number
      if (← sigaction ⟨Signal.abrt.number, some .standard, false⟩).ret ≠ 0 then
        trap Signal.segv.number
      act Signal.abrt.number
      trap Signal.segv.number : SubjectM α) := by
    refine (writes_act _).bind fun _ => (writes_sigaction _).bind fun answer => ?_
    dsimp only
    split
    · exact (writes_trap _).bind fun _ => (writes_act _).bind fun _ => writes_trap _
    · exact (writes_act _).bind fun _ => writes_trap _
  refine writes_get.bind fun p => ?_
  dsimp only
  split
  · exact (writes_panicWithBacktrace _).bind fun _ => signalled
  · exact signalled

end

/-! ## A process alone -/

/-- No way to a host is open: there is no hypervisor, no host takes crash reports or log
records, and nobody attached. -/
structure Alone (p : Subject) : Prop where
  absent : p.present = false
  unreported : p.crashChannel = none
  unlogged : p.logger = none
  unattached : p.session.agent = none

/-- So is a process that did nothing yet, where there is no hypervisor. -/
theorem alone_fresh (vm : Vm) (channel : Channel) (environment : Options.Lookup) :
    (fresh vm channel false environment).Alone :=
  ⟨rfl, rfl, rfl, rfl⟩

/-- What else a process is about does not matter to it. -/
theorem Alone.of_same {p q : Subject} (alone : p.Alone) (present : q.present = p.present)
    (crashChannel : q.crashChannel = p.crashChannel) (logger : q.logger = p.logger)
    (session : q.session = p.session) : q.Alone where
  absent := present.trans alone.absent
  unreported := crashChannel.trans alone.unreported
  unlogged := logger.trans alone.unlogged
  unattached := (congrArg Slot.agent session).trans alone.unattached

/-- From one state of a process to the other these hypercalls were issued, as its trail and its
machine tell. -/
structure Issued (before after : Subject) (calls : List Call) : Prop where
  made : before.Made after calls
  reached : before.vm.Made after.vm calls

theorem Issued.trans {p q r : Subject} {early late : List Call} (first : p.Issued q early)
    (second : q.Issued r late) : p.Issued r (early ++ late) :=
  ⟨first.made.trans second.made, first.reached.trans second.reached⟩

theorem issued_of_same {p q : Subject} (trail : q.trail = p.trail) (vm : q.vm = p.vm) :
    p.Issued q [] :=
  ⟨made_of_trail trail, Vm.made_of_history (congrArg Vm.history vm)⟩

/-- What was issued in between is known from the two states. -/
theorem Issued.unique {p q : Subject} {calls others : List Call} (issued : p.Issued q calls)
    (other : p.Issued q others) : calls = others :=
  issued.made.unique other.made

/-- A process alone went on: these hypercalls were issued, and nothing was written to standard
error. -/
structure Stayed (before after : Subject) (calls : List Call) : Prop where
  alone : after.Alone
  issued : before.Issued after calls
  served : after.served = before.served
  places : after.places = before.places
  stderr : after.stderr = before.stderr

section

variable {α : Type} {p : Subject}

theorem Alone.onStack (alone : p.Alone) (stack : List UInt64) : (p.onStack stack).Alone :=
  alone.of_same rfl rfl rfl rfl

/-! ## Entries that come back -/

theorem Alone.printed (alone : p.Alone) (record : LogRecord) : p.printed record = [] := by
  unfold Subject.printed
  rw [alone.unlogged]

/-- Where hypercalls are served a print reaches for the host although there is none. -/
theorem Alone.print (alone : p.Alone) (served : p.served = true) (text : Exports.CText) :
    ∃ q, Returns (Exports.print text) p () q ∧ p.Stayed q [printCall text] := by
  refine ⟨_, returns_print served text, alone.of_same rfl rfl rfl rfl,
    ⟨?_, p.vm.made_serve (printCall text)⟩, rfl, rfl, rfl⟩
  exact ⟨[.called p.channel (printCall text) _], rfl, rfl⟩

/-- To register an action changes the actions and the filter alone, whether or not there is a
filter and whether or not it lets the request through. -/
theorem Alone.register (alone : p.Alone) (request : SignalRequest) :
    ∃ answer q, Returns (Exports.sigaction request) p answer q ∧ p.Stayed q [] := by
  by_cases filters : p.Filters
  · let blocks := p.blocks.getD true
    let asked : Subject := { p with blocks := some blocks }
    have stayed (actions : List (Int × SignalAction)) :
        p.Stayed { asked with actions := actions } [] :=
      ⟨alone.of_same rfl rfl rfl rfl, issued_of_same rfl rfl, rfl, rfl, rfl⟩
    have through {answer : Registered} {q : Subject}
        (registers : Returns (Filter.register sigaction log blocks request) asked answer q) :
        Returns (Exports.sigaction request) p answer q := by
      have filtered : Returns (Subject.register request) p (.ok answer) q :=
        (returns_filter filters).bind (registers.bind (returns_pure _ _))
      exact filtered.bind (returns_pure answer q)
    cases passes : Filter.takesOver request && blocks with
    | false =>
        obtain ⟨answer, actions, registered, -⟩ := returns_sigaction request asked
        refine ⟨answer, _, through ?_, stayed actions⟩
        rw [Filter.register_of_passes _ _ passes]
        exact registered
    | true =>
        obtain ⟨taking, blocking⟩ := Bool.and_eq_true_iff.mp passes
        have warned := returns_log (Filter.warning request.number) asked
        have silent : asked.printed (Filter.warning request.number) = [] :=
          (stayed p.actions).alone.printed _
        rw [silent, grown_nil] at warned
        by_cases wants : request.wantsOld = true
        · obtain ⟨answer, actions, registered, -⟩ :=
            returns_sigaction { request with action := none } asked
          refine ⟨⟨0, ⟨0⟩, answer.old⟩, _, through ?_, stayed actions⟩
          rw [blocking, Filter.register_of_blocked _ _ taking, if_pos wants]
          exact warned.bind (registered.bind (returns_pure _ _))
        · refine ⟨⟨0, ⟨0⟩, none⟩, asked, through ?_, stayed p.actions⟩
          rw [blocking, Filter.register_of_blocked _ _ taking, if_neg wants]
          exact warned.bind (returns_pure _ _)
  · have missing : Returns (Subject.register request) p (.error .missingSigaction) p :=
      (returns_filter_of_missing filters).bind (returns_pure _ p)
    exact ⟨_, p, missing.bind (returns_pure _ p), alone, issued_of_same rfl rfl, rfl, rfl, rfl⟩

/-! ## Entries that end the process -/

def writing (p : Subject) (text : Bytes) : Subject := { p with stderr := p.stderr ++ text }

theorem returns_writeError (text : Bytes) (p : Subject) :
    Returns (writeError text) p () (p.writing text) := rfl

/-- What a process without a hypervisor writes when the session is asked for. -/
def complaint : Bytes :=
  Utf8.ofString ("snapagent: " ++ AgentError.hostUnavailable.message ++ "\n")

theorem Alone.abortCalls (alone : p.Alone) : p.abortCalls = [] := by
  have unheard (reason : String) : p.crashCalls reason = [] := by
    rw [crashCalls, alone.unreported]
    rfl
  unfold Subject.abortCalls
  cases p.abortReason? with
  | none => rfl
  | some reason => exact unheard reason

/-- Asking for the session leaves a complaint on standard error and aborts the process. -/
theorem Alone.hostSession_ends (alone : p.Alone) :
    ∃ how q, Ends hostSession p how q ∧ p.Issued q [] ∧ p.stderr ++ complaint <+: q.stderr := by
  have still : (p.writing complaint).Alone := alone.of_same rfl rfl rfl rfl
  obtain ⟨how, q, ends, made⟩ : EndsWith (abort : SubjectM Agent) (p.writing complaint) _ :=
    abort_endsWith _
  have wrote : (p.writing complaint).Wrote (left (abort : SubjectM Agent) _) := writes_abort _
  rw [ends.left_eq] at wrote
  rw [still.abortCalls] at made
  have read := returns_readOptions_logged p
  have silent : (Options.fromLookup p.environment).2.flatMap p.printed = [] :=
    List.flatMap_eq_nil_iff.mpr fun record _ => alone.printed record
  rw [silent, grown_nil] at read
  have attached : Ends (attach (Options.fromLookup p.environment).1) p how q :=
    (returns_claim_of_absent alone.absent).ends ((returns_writeError complaint p).ends ends)
  refine ⟨how, q, (returns_get p).ends ?_, ⟨?_, ?_⟩, wrote.stderr⟩
  · rw [Slot.lock, alone.unattached]
    exact ((read.ends attached).bind _).bind _
  · exact made.of_trail rfl
  · exact Vm.made_of_history (congrArg Vm.history wrote.vm)

/-- A report goes to standard error. -/
theorem Alone.reports (alone : p.Alone) (reason : String) :
    Ends (panicWithBacktrace (some reason) : SubjectM α) p (.exited 1)
      (p.writing (Report.hostReport p.places (some reason) p.stack).bytes) := by
  refine (returns_get p).ends ?_
  dsimp only
  rw [alone.unreported]
  exact (returns_writeError _ p).ends (ends_finish _ _)

end

/-- What is left of a process alone whose hypercall was not served, and how it ended: by the
signal of the processor, as the action says that is registered for it. -/
inductive Faults (p last : Subject) (stack : List UInt64) : Ending → Prop
  | killed (action : (last.action Signal.ill.number).handler = .standard ∨
        (last.action Signal.ill.number).handler = .ignore)
      (quiet : last.stderr = p.stderr) : Faults p last stack (.killed Signal.ill.number)
  | handled (action : (last.action Signal.ill.number).handler = .own)
      (quiet : last.stderr = p.stderr) : Faults p last stack (.exited 0)
  | reported (action : (last.action Signal.ill.number).handler = .crashReport)
      (left : last.stderr = p.stderr ++ (Report.hostReport p.places
        (some (Report.signalReason Signal.ill.number)) stack).bytes) :
      Faults p last stack (.exited 1)

theorem Faults.of_same {p q last : Subject} {stack : List UInt64} {how : Ending}
    (faults : Faults q last stack how) (stderr : q.stderr = p.stderr)
    (places : q.places = p.places) : Faults p last stack how := by
  cases faults with
  | killed action quiet => exact .killed action (quiet.trans stderr)
  | handled action quiet => exact .handled action (quiet.trans stderr)
  | reported action left =>
      rw [stderr, places] at left
      exact .reported action left

section

variable {α : Type} {p : Subject}

/-- The signal of an instruction that the processor does not know ends a process alone, and no
host hears of it. -/
theorem Alone.trapped (alone : p.Alone) :
    ∃ how q, Ends (trap Signal.ill.number : SubjectM α) p how q ∧ p.Issued q [] ∧
      Faults p q p.stack how := by
  have caught : Signal.ill.number ≠ Signal.kill.number := by decide
  have deadly : harmless.contains Signal.ill.number = false := by decide
  cases handler : (p.action Signal.ill.number).handler with
  | standard =>
      have ends := trap_of_ends (α := α) (by rw [handler]; decide)
        (act_of_standard caught deadly handler)
      exact ⟨_, p, ends, issued_of_same rfl rfl, .killed (.inl handler) rfl⟩
  | ignore =>
      exact ⟨_, p, trap_of_ignored handler, issued_of_same rfl rfl, .killed (.inr handler) rfl⟩
  | own =>
      have ends := trap_of_ends (α := α) (by rw [handler]; decide) (act_of_own caught handler)
      exact ⟨_, _, ends, ⟨p.made_grown _, .refl p.vm⟩, .handled handler rfl⟩
  | crashReport =>
      have acts : Ends (act Signal.ill.number) p (.exited 1) _ :=
        (act_of_caught caught handler).trans (alone.reports _)
      exact ⟨_, _, trap_of_ends (by rw [handler]; decide) acts, issued_of_same rfl rfl,
        .reported handler rfl⟩

/-- A print ends a process alone where hypercalls are not served, behind its hypercall. -/
theorem Alone.print_ends (alone : p.Alone) (unserved : p.served = false) (text : Exports.CText) :
    ∃ how q, Ends (Exports.print text) p how q ∧ p.Issued q [printCall text] ∧
      Faults p q p.stack how := by
  let trace := p.vm.host.trace? p.vm.memory
  let told : Subject :=
    { p with vm := p.vm.serve (printCall text) }.grown [.called p.channel (printCall text) trace]
  have still : told.Alone := alone.of_same rfl rfl rfl rfl
  have issued : p.Issued told [printCall text] :=
    ⟨⟨[.called p.channel (printCall text) trace], rfl, rfl⟩, p.vm.made_serve (printCall text)⟩
  obtain ⟨how, q, ends, nothing, faults⟩ := still.trapped (α := Unit)
  have ran := guest_run (Vm.hypercall_run (printCall text) p.vm)
    (show _ = p.vm.history ++ [.called (printCall text) trace] from rfl)
  rw [unserved] at ran
  have noted : Returns (note (.called p.channel (printCall text) trace))
      { p with vm := p.vm.serve (printCall text) } () told := returns_modify _ _
  refine ⟨how, q, ran.trans ?_, issued.trans nothing, faults.of_same rfl rfl⟩
  exact ((noted.ends ends).bind _).bind _

end

/-! ## Whichever entry points are used -/

/-- An entry point of the library, with what it is handed. -/
inductive Entry
  /-- The session, asked for by a harness or by a fuzzer of its own. -/
  | ask (request : Request)
  | print (text : Exports.CText)
  | sigaction (request : SignalRequest)
  /-- To abort, by any of its names. -/
  | abort
  | assertBsd (function file : Exports.CText) (line : Int32) (expr : Exports.CText)
  | assertGnu (expr file : Exports.CText) (line : UInt32) (function : Exports.CText)
  | assertErrno (errno : Int32) (file : Exports.CText) (line : UInt32) (function : Exports.CText)

namespace Entry

open Exports (read)

def operation : Entry → Operation
  | ask request => request.operation
  | print text => .print text
  | sigaction request => .register request
  | abort => .abort
  | assertBsd function file line expr => .assertBsd function file line expr
  | assertGnu expr file line function => .assertGnu expr file line function
  | assertErrno errno file line function => .assertErrno errno file line function

/-- The entry ends a process that has no hypervisor, before any hypercall. -/
def ends : Entry → Bool
  | print _ | sigaction _ => false
  | _ => true

/-- The hypercall that it makes there. -/
def call? : Entry → Option Call
  | print text => some (printCall text)
  | _ => none

/-- The entry is the last of such a process: a hypercall ends it too, unless it is served. -/
def isLast (served : Bool) (entry : Entry) : Bool :=
  entry.ends || (!served && entry.call?.isSome)

/-- The reason of the report that it ends in. -/
def reason? : Entry → Option String
  | abort => some "abort"
  | assertBsd function file line expr =>
      some (Report.assertionReason (read expr) (read function) (read file) line.toUInt32)
  | assertGnu expr file line function =>
      some (Report.assertionReason (read expr) (read function) (read file) line)
  | assertErrno _ file line function =>
      some (Report.errnoAssertionReason (read function) (read file) line)
  | _ => none

/-- The last entry asks for the session, reports, or prints where that is not served. -/
theorem asks_reports_or_prints {served : Bool} {entry : Entry}
    (last : entry.isLast served = true) :
    (∃ request, entry = ask request) ∨ (∃ reason, entry.reason? = some reason) ∨
      ∃ text, entry = print text ∧ served = false := by
  cases entry with
  | ask request => exact .inl ⟨request, rfl⟩
  | print text =>
      cases served with
      | true => cases last
      | false => exact .inr (.inr ⟨text, rfl, rfl⟩)
  | sigaction request => cases served <;> cases last
  | _ => exact .inr (.inl ⟨_, rfl⟩)

theorem call?_of_reason {entry : Entry} {reason : String}
    (reports : entry.reason? = some reason) : entry.call? = none := by
  cases entry with
  | print text => cases reports
  | _ => rfl

/-- An entry that reports does nothing else. -/
theorem perform_of_reason {entry : Entry} {reason : String}
    (reports : entry.reason? = some reason) :
    perform entry.operation = ending (panicWithBacktrace (some reason)) := by
  cases entry with
  | ask request => cases reports
  | print text => cases reports
  | sigaction request => cases reports
  | _ =>
      obtain rfl := Option.some.inj reports
      rfl

end Entry

/-- One use of an entry point, with the return addresses on the stack. -/
structure Visit where
  stack : List UInt64
  entry : Entry

namespace Visit

def step (visit : Visit) : Step := ⟨visit.stack, visit.entry.operation⟩

def ends (visit : Visit) : Bool := visit.entry.ends

def isLast (served : Bool) (visit : Visit) : Bool := visit.entry.isLast served

/-- The hypercalls of some visits in a process without a hypervisor, up to the last visit. -/
def calls (served : Bool) : List Visit → List Call
  | [] => []
  | visit :: rest =>
      visit.entry.call?.toList ++ if visit.isLast served then [] else calls served rest

/-- There are none just if nothing is printed before the first visit that ends the process. -/
theorem calls_eq_nil (served : Bool) {visits : List Visit} :
    calls served visits = [] ↔ ∀ visit ∈ visits.takeWhile (fun visit => !visit.ends),
      ∀ text, visit.entry ≠ .print text := by
  induction visits with
  | nil => exact iff_of_true rfl nofun
  | cons visit rest ih =>
      obtain ⟨stack, entry⟩ := visit
      cases entry with
      | print text =>
          refine iff_of_false nofun fun unprinted => ?_
          exact unprinted ⟨stack, .print text⟩ List.mem_cons_self text rfl
      | sigaction request =>
          have goesOn : (⟨stack, .sigaction request⟩ : Visit).isLast served = false := by
            cases served <;> rfl
          rw [calls, goesOn, if_neg (by decide), List.takeWhile_cons_of_pos rfl,
            List.forall_mem_cons]
          exact ih.trans (and_iff_right nofun).symm
      | _ =>
          rw [calls, List.takeWhile_cons_of_neg Bool.false_ne_true]
          exact iff_of_true rfl nofun

end Visit

/-- What came of a process, given the visit that ended it and how it ended.  Without such a
visit it wrote nothing to standard error.  A request left a complaint there, behind which a
handler of its own or an abort may have added something, a crash left exactly one report, and a
print ended it by a signal. -/
inductive Fares (p last : Subject) : Option Visit → Option Ending → Prop
  | back (quiet : last.stderr = p.stderr) : Fares p last none none
  | unattached {visit : Visit} {request : Request} {how : Ending}
      (asks : visit.entry = .ask request) (left : p.stderr ++ complaint <+: last.stderr) :
      Fares p last (some visit) (some how)
  | reported {visit : Visit} {reason : String} (reports : visit.entry.reason? = some reason)
      (left : last.stderr =
        p.stderr ++ (Report.hostReport p.places (some reason) visit.stack).bytes) :
      Fares p last (some visit) (some (.exited 1))
  | printed {visit : Visit} {text : Exports.CText} {how : Ending}
      (prints : visit.entry = .print text) (faults : Faults p last visit.stack how) :
      Fares p last (some visit) (some how)

section

variable {p q last : Subject}

theorem Stayed.of_onStack {stack : List UInt64} {calls : List Call}
    (stayed : (p.onStack stack).Stayed q calls) : p.Stayed q calls :=
  ⟨stayed.alone, ⟨stayed.issued.made.of_trail rfl, stayed.issued.reached⟩, stayed.served,
    stayed.places, stayed.stderr⟩

/-- What came of the rest came of the whole, since nothing was written before. -/
theorem Fares.behind {calls : List Call} {visit? : Option Visit} {ended : Option Ending}
    (fares : Fares q last visit? ended) (stayed : p.Stayed q calls) :
    Fares p last visit? ended := by
  cases fares with
  | back quiet => exact .back (quiet.trans stayed.stderr)
  | unattached asks left =>
      rw [stayed.stderr] at left
      exact .unattached asks left
  | reported reports left =>
      rw [stayed.stderr, stayed.places] at left
      exact .reported reports left
  | printed prints faults => exact .printed prints (faults.of_same stayed.stderr stayed.places)

/-- An entry that comes back leaves the process alone. -/
theorem Alone.step_back (alone : p.Alone) {visit : Visit} (goesOn : visit.isLast p.served = false)
    (held : Option Fuzzer) :
    ∃ answer q, step visit.step held p = (.ok (answer, held), q) ∧
      p.Stayed q visit.entry.call?.toList := by
  have placed := alone.onStack visit.stack
  obtain ⟨stack, entry⟩ := visit
  cases entry with
  | print text =>
      have served : p.served = true := by
        cases served : p.served with
        | true => rfl
        | false =>
            rw [served] at goesOn
            cases goesOn
      obtain ⟨q, printed, stayed⟩ := placed.print served text
      exact ⟨.done, q, (printed.lift held).state_bind (state_returns_pure _ _ q),
        stayed.of_onStack⟩
  | sigaction request =>
      obtain ⟨answer, q, registered, stayed⟩ := placed.register request
      exact ⟨.registered answer, q, (registered.lift held).state_bind (state_returns_pure _ _ q),
        stayed.of_onStack⟩
  | _ => cases goesOn

/-- The last entry issues its own hypercall at most. -/
theorem Alone.step_last (alone : p.Alone) {visit : Visit} (last : visit.isLast p.served = true)
    (held : Option Fuzzer) :
    ∃ how q, step visit.step held p = (.error how, q) ∧ p.Issued q visit.entry.call?.toList ∧
      Fares p q (some visit) (some how) := by
  have placed := alone.onStack visit.stack
  obtain ⟨stack, entry⟩ := visit
  rcases Entry.asks_reports_or_prints last with
    ⟨request, rfl⟩ | ⟨reason, reports⟩ | ⟨text, rfl, unserved⟩
  · obtain ⟨how, q, ended, issued, left⟩ := placed.hostSession_ends
    exact ⟨how, q, request.ends_perform held ended, ⟨issued.made.of_trail rfl, issued.reached⟩,
      .unattached rfl left⟩
  · let left := (p.onStack stack).writing
      (Report.hostReport p.places (some reason) stack).bytes
    have reported : Ends (panicWithBacktrace (some reason) : SubjectM Empty)
        (p.onStack stack) (.exited 1) left := placed.reports reason
    refine ⟨.exited 1, left, ?_, ?_, .reported reports rfl⟩
    · rw [step, Visit.step, Entry.perform_of_reason reports]
      exact (reported.lift held).bind _
    · rw [Entry.call?_of_reason reports]
      exact issued_of_same rfl rfl
  · obtain ⟨how, q, ended, issued, faults⟩ := placed.print_ends unserved text
    exact ⟨how, q, (ended.lift held).bind _, ⟨issued.made.of_trail rfl, issued.reached⟩,
      .printed rfl (faults.of_same rfl rfl)⟩

/-- The hypercalls of a process alone are its prints, up to the visit that ends it. -/
theorem Alone.made_run (alone : p.Alone) (visits : List Visit) (held : Option Fuzzer) :
    let came := run (visits.map Visit.step) held p
    p.Issued came.2.1 (Visit.calls p.served visits) ∧
      Fares p came.2.1 (visits.find? (Visit.isLast p.served)) came.2.2 := by
  induction visits generalizing p with
  | nil => exact ⟨issued_of_same rfl rfl, .back rfl⟩
  | cons visit rest ih =>
      cases last : visit.isLast p.served with
      | false =>
          obtain ⟨answer, q, answered, stayed⟩ := alone.step_back last held
          obtain ⟨issued, fares⟩ := ih stayed.alone
          rw [stayed.served] at issued fares
          rw [List.map_cons, run_of_answered answered, Visit.calls, last, if_neg (by decide),
            List.find?_cons_of_neg (by rw [last]; decide)]
          exact ⟨stayed.issued.trans issued, fares.behind stayed⟩
      | true =>
          obtain ⟨how, q, ended, issued, fares⟩ := alone.step_last last held
          rw [List.map_cons, run_of_ended ended, Visit.calls, last, if_pos rfl, List.append_nil,
            List.find?_cons_of_pos last]
          exact ⟨issued, fares⟩

/-- Whichever entry points are used in a process without a hypervisor, with whatever they are
handed: no hypercall is issued just if nothing is printed before the process ends.  It ends
when the session is asked for, with a complaint on standard error, when a crash is reported,
with the report there, and when something is printed, by the signal of the processor. -/
theorem silent_iff (alone : p.Alone) (visits : List Visit) (held : Option Fuzzer) :
    let came := run (visits.map Visit.step) held p
    (p.Issued came.2.1 [] ↔
      ∀ visit ∈ visits.takeWhile (fun visit => !visit.ends), ∀ text, visit.entry ≠ .print text) ∧
    Fares p came.2.1 (visits.find? (Visit.isLast p.served)) came.2.2 := by
  intro came
  obtain ⟨issued, fares⟩ := alone.made_run visits held
  refine ⟨?_, fares⟩
  rw [← Visit.calls_eq_nil p.served]
  constructor
  · exact fun silent => issued.unique silent
  · intro unprinted
    rw [← unprinted]
    exact issued

end

/-- A process that did nothing yet, without a hypervisor. -/
def bare : Subject :=
  fresh (Vm.fresh .ordinary .absent (Host.fresh (.compatible 8 64))) (.standard 0) false
    fun _ => none

/-- A target that tries to take a fatal signal over and then asks for the session is told on
standard error, and its print is never reached. -/
theorem silent_iff_started :
    let started : Visit := ⟨[], .ask .start⟩
    let visits : List Visit :=
      [⟨[], .sigaction ⟨Signal.segv.number, some .own, true⟩⟩, started, ⟨[], .print (some [104])⟩]
    let came := run (visits.map Visit.step) none bare
    bare.Alone ∧ bare.Issued came.2.1 [] ∧ Fares bare came.2.1 (some started) came.2.2 := by
  intro started visits came
  have alone : bare.Alone := alone_fresh _ _ _
  obtain ⟨silent, fares⟩ := silent_iff alone visits none
  refine ⟨alone, silent.mpr ?_, fares⟩
  intro visit member text
  obtain rfl := List.mem_singleton.mp member
  exact nofun

/-- A process without a hypervisor that prints makes a hypercall, which kills it. -/
theorem printed_alone :
    let visits : List Visit := [⟨[], .print (some [104, 105])⟩]
    let came := run (visits.map Visit.step) none bare
    bare.present = false ∧ came.2.1.vm.calls = [.printf [104, 105]] ∧
      came.2.2 = some (.killed 4) ∧ ¬ bare.Issued came.2.1 [] := by
  intro visits came
  have text : hostText (Exports.read (some [104, 105])) = [104, 105] := by decide +kernel
  have calls : Visit.calls bare.served visits = [.printf [104, 105]] :=
    congrArg ([Call.printf ·]) text
  have killed : came.2.2 = some (.killed 4) := by decide +kernel
  have alone : bare.Alone := alone_fresh _ _ _
  obtain ⟨issued, -⟩ := alone.made_run visits none
  rw [calls] at issued
  refine ⟨rfl, issued.reached.calls, killed, fun silent => ?_⟩
  cases issued.unique silent

end Rewind.Subject
