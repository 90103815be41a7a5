/-
# Rewind.Proofs.LastWord -- whether an error is the last thing that a host hears

An error of the agent goes to the host as a user abort, and then the process aborts so that
nothing runs on.  Four places do so: the handshake with which attaching ends, whoever asks
for the session, a run of a target, and the export that fetches an input.  To abort is to
raise a signal, for which attaching put a crash handler in place: so where the host lets the
process go on, a crash report of the abort itself stands behind the error.

Main statement: `Subject.userAbort_last_iff`.
-/
import Rewind.Proofs.Guarded

namespace Rewind.Subject

set_option autoImplicit false

/-! ## How an error comes up -/

/-- Attaching puts the crash handlers in place and the handshake fails. -/
inductive HandshakeFails (options : Options) (p : Subject) (error : AgentError) (r : Subject) :
    Prop
  | refused {q : Subject} (free : p.Free)
      (installed : Returns (install p.channel options) (p.claiming.logging options.logLevel)
        (.ok ()) q)
      (asked : Returns (guest _ (Agent.negotiate options)) q (.error error) r) :
      HandshakeFails options p error r

/-- Whoever asks for the session does not get it: it is the first to ask and attaching fails,
or someone else has it. -/
inductive SessionFails (p : Subject) : AgentError → Subject → Prop
  | first {options : Options} {q r : Subject} {error : AgentError}
      (fresh : p.session.agent = none) (read : Returns readOptions p options q)
      (attaching : HandshakeFails options q error r) : SessionFails p error r
  | busy {kept : Agent} (slot : p.session.agent = some kept) (taken : p.session.held = true) :
      SessionFails p .sessionBusy p

/-- Those who report an error of the agent. -/
inductive Reporter
  | attach (options : Options)
  | session
  | run (fuzzer : Fuzzer) (target : Target)
  | fetch (dest : Buffer)

/-- What they do, whatever it gives. -/
def Reporter.action : Reporter → SubjectM Unit
  | attach options => do let _ ← Subject.attach options
  | session => do let _ ← hostSession
  | run fuzzer target => do
      let _ ← (runFuzzer fuzzer (recording target) : RecordM (Outcome × Fuzzer)).run []
  | fetch dest => do let _ ← Exports.getFuzzData dest

/-- It comes to an error: with the process as it is when the error comes up. -/
inductive Fails : Reporter → Subject → AgentError → Subject → Prop
  | attach {options : Options} {p r : Subject} {error : AgentError}
      (handshake : HandshakeFails options p error r) : Fails (.attach options) p error r
  | session {p r : Subject} {error : AgentError} (session : SessionFails p error r) :
      Fails .session p error r
  | run {fuzzer : Fuzzer} {target : Target} {p r : Subject} {agent : Agent} {error : AgentError}
      (acquired : Returns (guest _ ((Agent.acquire fuzzer.input).run fuzzer.agent)) p
        (.error error, agent) r) : Fails (.run fuzzer target) p error r
  | asking {dest : Buffer} {p r : Subject} {error : AgentError}
      (session : SessionFails p error r) : Fails (.fetch dest) p error r
  | fetch {dest : Buffer} {p q r : Subject} {agent after : Agent} {error : AgentError}
      (asked : Returns hostSession p agent q)
      (acquired : Returns (guest _ ((Agent.acquire dest).run agent)) q (.error error, after) r) :
      Fails (.fetch dest) p error r

/-! ## Every end is an error -/

section

variable {α : Type} {p q : Subject} {how : Ending}

/-- What ends although its answer is only dropped ends by itself. -/
theorem Ends.of_dropped {action : SubjectM α} (ends : Ends (do let _ ← action) p how q) :
    Ends action p how q := by
  rcases returns_or_ends action p with ⟨a, returns⟩ | ⟨other, ended⟩
  · exact absurd ends (returns.bind (returns_pure () _)).not_ends
  · obtain ⟨same, rfl⟩ := Prod.mk.inj (ends.symm.trans (ended.bind _))
    rw [Except.error.inj same]
    exact ended

/-- Where the hypervisor is to be had and the kernel takes the handlers, attaching ends only by
a handshake that fails. -/
theorem handshakeFails_of_ends {options : Options} (free : p.Free) (takes : p.Takes)
    (ends : Ends (attach options) p how q) : ∃ error r, HandshakeFails options p error r := by
  have ready : (p.claiming.logging options.logLevel).Takes :=
    (takes_logging p _).mpr takes
  obtain ⟨s, installed, -⟩ := returns_install_of_takes p.channel options ready
  have onward := (p.onward_logging options.logLevel).trans installed.installed.1
  have served := onward.served.trans free.served
  obtain ⟨r, asked, -⟩ := returns_of_goesOn (Agent.goesOn_negotiate options) served
  generalize ((Agent.negotiate options).run _).1 = result at asked
  cases result with
  | error error => exact ⟨error, r, .refused free installed asked⟩
  | ok agent =>
      have attached : Returns (attach options) p agent r :=
        (attach_run options free).trans ((installed.run_bind _).trans (handshake_run asked))
      exact absurd ends attached.not_ends

/-- A process that may have the session: someone had it before, or attaching is possible. -/
def MayAttach (p : Subject) : Prop :=
  p.session.agent = none → p.session.held = false ∧ p.Free ∧ p.Takes

theorem sessionFails_of_ends (able : p.MayAttach) (ends : Ends hostSession p how q) :
    ∃ error r, SessionFails p error r := by
  cases known : p.session.agent with
  | some kept =>
      cases taken : p.session.held with
      | true => exact ⟨_, _, .busy known taken⟩
      | false => exact absurd ends (hostSession_of_free known taken).not_ends
  | none =>
      obtain ⟨nobody, free, takes⟩ := able known
      obtain ⟨options, happened, read, -⟩ := returns_readOptions p
      rcases returns_or_ends (attach options) (p.grown happened) with
        ⟨agent, attached⟩ | ⟨_, ended⟩
      · exact absurd ends (hostSession_of_fresh known nobody read attached).not_ends
      · have same : (p.grown happened).Takes ↔ p.Takes := takes_congr rfl rfl rfl
        have stillFree : (p.grown happened).Free := ⟨free.present, free.unclaimed⟩
        obtain ⟨error, r, fails⟩ := handshakeFails_of_ends stillFree (same.mpr takes) ended
        exact ⟨error, r, .first known read fails⟩

/-- What the reporters need to end by an error only: attaching is possible where it is still to
be done, hypercalls are served, and a target that is run does not end the process itself. -/
def Reporter.Able (p : Subject) : Reporter → Prop
  | attach _ => p.Free ∧ p.Takes
  | session => p.MayAttach
  | fetch _ => p.MayAttach ∧ p.served = true
  | run _ target => p.served = true ∧
      ∀ input q, ∃ r, Returns (target input) q () r ∧ r.served = q.served

/-- Each of them ends the process only by an error of the agent. -/
theorem fails_of_ends {way : Reporter} (able : way.Able p) (ends : Ends way.action p how q) :
    ∃ error r, Fails way p error r := by
  cases way with
  | attach options =>
      obtain ⟨error, r, fails⟩ := handshakeFails_of_ends able.1 able.2 ends.of_dropped
      exact ⟨error, r, .attach fails⟩
  | session =>
      obtain ⟨error, r, fails⟩ := sessionFails_of_ends able ends.of_dropped
      exact ⟨error, r, .session fails⟩
  | run fuzzer target =>
      obtain ⟨served, returns⟩ := able
      have acquired := returns_of_goesOn (fuzzer.agent.goesOn_acquire fuzzer.input) served
      generalize (((Agent.acquire fuzzer.input).run fuzzer.agent).run p.vm).1 = came at acquired
      obtain ⟨r, acquired, onward⟩ := acquired
      obtain ⟨result, agent⟩ := came
      cases result with
      | error error => exact ⟨error, r, .run acquired⟩
      | ok delivered =>
          obtain ⟨len, input⟩ := delivered
          obtain ⟨s, back, same⟩ := returns (input.take len) r
          have released := returns_of_goesOn agent.goesOn_release
            (same.trans (onward.served.trans served))
          generalize ((Agent.release.run agent).run s.vm).1 = left at released
          obtain ⟨t, released, -⟩ := released
          have ran := returns_runFuzzer acquired back released []
          exact absurd ends.of_dropped ran.not_ends
  | fetch dest =>
      obtain ⟨able, served⟩ := able
      rcases returns_or_ends hostSession p with ⟨agent, asked⟩ | ⟨_, ended⟩
      · have acquired := returns_of_goesOn (agent.goesOn_acquire dest)
          (asked.asked.1.served.trans served)
        generalize (((Agent.acquire dest).run agent).run _).1 = came at acquired
        obtain ⟨r, acquired, -⟩ := acquired
        obtain ⟨result, after⟩ := came
        cases result with
        | error error => exact ⟨error, r, .fetch asked acquired⟩
        | ok delivered =>
            have fetched : Returns (Exports.getFuzzData dest) p delivered _ :=
              asked.bind (acquired.bind ((returns_modify _ r).bind (returns_pure delivered _)))
            exact absurd ends.of_dropped fetched.not_ends
      · obtain ⟨error, r, fails⟩ := sessionFails_of_ends able ended
        exact ⟨error, r, .asking fails⟩

end

/-- The process has its crash handlers in place when the error comes up: they were installed
before, by attaching or otherwise, or the one who reports the error attaches first. -/
inductive Outfitted : Reporter → Subject → Prop
  | guarded {way : Reporter} {p : Subject} (guarded : p.Guarded) : Outfitted way p
  | attached {way : Reporter} {options : Options} {agent : Agent} {first started p : Subject}
      {uses : List Use} {held : Option Fuzzer} (registers : first.Registers)
      (came : Returns (Subject.attach options) first agent started)
      (lives : Lives started uses held p) : Outfitted way p
  | attaching {options : Options} {p : Subject} (registers : p.Registers) :
      Outfitted (.attach options) p
  | first {p : Subject} (fresh : p.session.agent = none) (registers : p.Registers) :
      Outfitted .session p
  | fetching {dest : Buffer} {p : Subject} (fresh : p.session.agent = none)
      (registers : p.Registers) : Outfitted (.fetch dest) p

/-! ## How it is reported -/

/-- What the host hears of an error and of the abort behind it. -/
def errorCalls (p : Subject) (error : AgentError) : List Call :=
  .userAbort (hostText error.message) :: if p.channel.stopsOnAbort then [] else p.abortCalls

section

variable {α β : Type}

/-- The process goes on up to a state in which the action reports an error and ends. -/
structure Reports (action : SubjectM α) (p : Subject) (error : AgentError) (r : Subject) :
    Prop where
  onward : p.Onward r
  ends : ∃ how q, Ends action p how q ∧ r.Made q (r.errorCalls error)

variable {action : SubjectM α} {next : α → SubjectM β} {p q r : Subject} {a : α}
  {error : AgentError}

theorem reports_abortWith (error : AgentError) (p : Subject) :
    Reports (abortWith error : SubjectM α) p error p :=
  ⟨.refl p, abortWith_endsWith error p⟩

/-- Where two actions come to the same, they report the same. -/
theorem Reports.of_run {other : SubjectM α} (same : action.run.run p = other.run.run q)
    (onward : p.Onward q) (rest : Reports other q error r) : Reports action p error r := by
  obtain ⟨later, how, s, ends, made⟩ := rest
  exact ⟨onward.trans later, how, s, same.trans ends, made⟩

theorem Reports.bind (reports : Reports action p error r) (next : α → SubjectM β) :
    Reports (action >>= next) p error r := by
  obtain ⟨onward, how, q, ends, made⟩ := reports
  exact ⟨onward, how, q, ends.bind next, made⟩

/-- What came back before the error belongs to the way there. -/
theorem Reports.behind (first : Returns action p a q) (onward : p.Onward q)
    (rest : Reports (next a) q error r) : Reports (action >>= next) p error r := by
  obtain ⟨later, how, s, ends, made⟩ := rest
  exact ⟨onward.trans later, how, s, first.ends ends, made⟩

end

section

variable {options : Options} {p r : Subject} {error : AgentError}

theorem HandshakeFails.reports (fails : HandshakeFails options p error r) :
    Reports (attach options) p error r := by
  obtain ⟨free, installed, asked⟩ := fails
  have before := p.onward_logging options.logLevel
  have failing : Reports (handshake options) _ error r :=
    Reports.behind asked (discreet_guest (Agent.goesOn_negotiate options) _ _ _ asked)
      (reports_abortWith error r)
  exact .of_run (attach_run options free) before
    (.behind installed installed.installed.1 failing)

theorem HandshakeFails.guarded (fails : HandshakeFails options p error r)
    (registers : p.Registers) : r.Guarded := by
  obtain ⟨free, installed, asked⟩ := fails
  have before := p.onward_logging options.logLevel
  have shaken := discreet_guest (Agent.goesOn_negotiate options) _ _ _ asked
  have able := (registers_of_refusals before.refusals).mpr registers
  exact shaken.guarded (installed.installed.2 rfl able)

theorem SessionFails.reports (fails : SessionFails p error r) : Reports hostSession p error r := by
  refine Reports.behind (returns_get p) (.refl p) ?_
  cases fails with
  | first fresh read attaching =>
      have failing : Reports (do attach (← readOptions)) p error r :=
        Reports.behind read read.read attaching.reports
      rw [Slot.lock, fresh]
      exact (failing.bind _).bind _
  | busy slot taken =>
      rw [Slot.lock_of_held _ slot taken]
      refine Reports.behind (returns_pure _ p) (.refl p) ?_
      exact Reports.behind (returns_modify _ p) (.refl p) (reports_abortWith .sessionBusy p)

theorem SessionFails.guarded (fails : SessionFails p error r) (fresh : p.session.agent = none)
    (registers : p.Registers) : r.Guarded := by
  cases fails with
  | first _ read attaching =>
      exact attaching.guarded ((registers_of_refusals read.read.refusals).mpr registers)
  | busy slot taken =>
      rw [fresh] at slot
      cases slot

variable {way : Reporter}

/-- Whoever comes to an error reports it. -/
theorem Fails.reports (fails : Fails way p error r) : Reports way.action p error r := by
  cases fails with
  | attach handshake => exact handshake.reports.bind _
  | session session => exact session.reports.bind _
  | @run fuzzer target _ _ _ _ acquired =>
      have tried := returns_tryRun_of_error acquired target []
      have told : Reports ((liftM (abortWith error : SubjectM (Outcome × Fuzzer)) :
          RecordM (Outcome × Fuzzer)).run []) r error r := (reports_abortWith error r).bind _
      have went := discreet_guest (fuzzer.agent.goesOn_acquire fuzzer.input) _ _ _ acquired
      have failing : Reports ((runFuzzer fuzzer (recording target) :
          RecordM (Outcome × Fuzzer)).run []) p error r := Reports.behind tried went told
      exact failing.bind _
  | asking session => exact (session.reports.bind _).bind _
  | @fetch dest _ q _ agent after _ asked acquired =>
      have went := discreet_guest (agent.goesOn_acquire dest) _ _ _ acquired
      have failing : Reports (Exports.getFuzzData dest) p error r :=
        Reports.behind asked asked.asked.1
          (Reports.behind acquired went (reports_abortWith error r))
      exact failing.bind _

/-- The handlers are in place when the error comes up. -/
theorem Fails.guarded (fails : Fails way p error r) (outfitted : Outfitted way p) :
    r.Guarded := by
  have onward := fails.reports.onward
  cases outfitted with
  | guarded guarded => exact onward.guarded guarded
  | attached registers came lives =>
      exact onward.guarded (lives.onward.guarded (came.attached.2 registers))
  | attaching registers =>
      cases fails with
      | attach handshake => exact handshake.guarded registers
  | first fresh registers =>
      cases fails with
      | session session => exact session.guarded fresh registers
  | @fetching dest _ fresh registers =>
      cases fails with
      | asking session => exact session.guarded fresh registers
      | @fetch _ _ q _ agent _ _ asked acquired =>
          have went := discreet_guest (agent.goesOn_acquire dest) _ _ _ acquired
          exact went.guarded (asked.asked.2 fresh registers)

end

/-! ## The last word -/

/-- For every error of the agent that comes up anywhere in a process, whatever the process did
before: nothing before it reports an end, and what is heard behind it is the abort, unless the
host ends the process on the error.  With the crash handlers in place an abort is a crash
report, so the error is the last thing the host hears just if the host ends the process. -/
theorem userAbort_last_iff {way : Reporter} {p r : Subject} {error : AgentError}
    (fails : Fails way p error r) :
    ∃ how q early late, Ends way.action p how q ∧
      p.Made q (early ++ .userAbort (hostText error.message) :: late) ∧
      (∀ call ∈ early, call.isTerminal = false) ∧
      late = (if p.channel.stopsOnAbort then [] else r.abortCalls) ∧
      (Outfitted way p → r.abortCalls = [.panicExtended r.abortReport] ∧
        (late = [] ↔ p.channel.stopsOnAbort = true)) := by
  obtain ⟨onward, how, q, ends, told⟩ := fails.reports
  obtain ⟨early, made, goesOn⟩ := onward.made
  rw [errorCalls, onward.channel] at told
  refine ⟨how, q, early, _, ends, made.trans told, goesOn, rfl, fun outfitted => ?_⟩
  have heard := (fails.guarded outfitted).abortCalls
  refine ⟨heard, ?_⟩
  rw [heard]
  cases p.channel.stopsOnAbort with
  | true => exact iff_of_true rfl rfl
  | false => exact iff_of_false nofun nofun

/-- A process in front of a host that speaks another protocol and does not end the process on
an error. -/
def besidePatientStranger : Subject :=
  { besideStranger with channel := { Channel.standard 0 with stopsOnAbort := false } }

theorem registers_besidePatientStranger : besidePatientStranger.Registers := by
  decide

theorem userAbort_last_iff_patient : ∃ error r,
    Fails (.attach .standard) besidePatientStranger error r ∧
      Outfitted (.attach .standard) besidePatientStranger ∧
      ∃ how q early, Ends (Reporter.attach .standard).action besidePatientStranger how q ∧
        besidePatientStranger.Made q
          (early ++ [.userAbort (hostText error.message), .panicExtended r.abortReport]) := by
  have outfitted : Outfitted (.attach .standard) besidePatientStranger :=
    .attaching registers_besidePatientStranger
  have able : (Reporter.attach .standard).Able besidePatientStranger :=
    ⟨⟨rfl, rfl⟩, takes_of_no_refusals rfl rfl⟩
  have refused : ((Reporter.attach .standard).action.run.run besidePatientStranger).1.toBool =
      false := by
    decide +kernel
  obtain ⟨error, r, fails⟩ : ∃ error r,
      Fails (.attach .standard) besidePatientStranger error r := by
    rcases returns_or_ends (Reporter.attach .standard).action besidePatientStranger with
      ⟨_, returns⟩ | ⟨_, ends⟩
    · rw [returns] at refused
      cases refused
    · exact fails_of_ends able ends
  obtain ⟨how, q, early, late, ends, made, -, rfl, guards⟩ := userAbort_last_iff fails
  have goesOn : ¬ besidePatientStranger.channel.stopsOnAbort = true := nofun
  rw [if_neg goesOn, (guards outfitted).1] at made
  exact ⟨error, r, fails, outfitted, how, q, early, ends, made⟩

/-- Its host hears the error and then a crash report of the abort. -/
theorem reported_again :
    besidePatientStranger.Free ∧ besidePatientStranger.Registers ∧
      ∃ calls, besidePatientStranger.Made (left (attach .standard) besidePatientStranger) calls ∧
        calls.map (fun call => (call.op, call.text?)) =
          [(.getHostConfig, none),
            (.userAbort, some (Utf8.ofString
              "host magic 0x1 does not match 0x4878794e, the hypervisor is probably outdated")),
            (.panicExtended, some (Utf8.ofString
              "====== BACKTRACE ======\ncaught signal: 6\n"))] ∧
        ∀ text, calls.getLast? ≠ some (.userAbort text) := by
  refine ⟨⟨rfl, rfl⟩, registers_besidePatientStranger, _, ⟨_, (List.nil_append _).symm, rfl⟩, ?_⟩
  have listed : ((left (attach .standard) besidePatientStranger).trail.filterMap
      Occurrence.call?).map (fun call => (call.op, call.text?)) =
        [(.getHostConfig, none),
          (.userAbort, some (Utf8.ofString
            "host magic 0x1 does not match 0x4878794e, the hypervisor is probably outdated")),
          (.panicExtended, some (Utf8.ofString
            "====== BACKTRACE ======\ncaught signal: 6\n"))] := by
    decide +kernel
  refine ⟨listed, ?_⟩
  intro text last
  have lastOp := congrArg List.getLast? listed
  rw [List.getLast?_map, last] at lastOp
  cases lastOp

end Rewind.Subject
