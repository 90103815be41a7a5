/-
# Rewind.Subject.Operation -- what a process does, one thing after another

The operations of a process as values, so that its whole life is a list of them.  An
operation either comes out with an answer or ends the process; after the end nothing
is done any more.

Main statements: `run_nil`, `run_of_ended` (what follows the end is never done) and
`run_of_answered`.
-/
import Rewind.Agent.Operation
import Rewind.Exports

namespace Rewind.Subject

set_option autoImplicit false

/-- What a target does with an input; whatever it is, it comes back or ends the
process. -/
abbrev Target := Bytes → SubjectM Unit

inductive Operation
  | install (channel : Channel) (options : Options)
  | hookPanics
  | setBlocking (blocks : Bool)
  | register (request : SignalRequest)
  | raise (number : Int)
  | fault (number : Int)
  | panic (location : Option Report.Location) (payload : Payload)
  | failAssertion (expr function file : String) (line : UInt32)
  | report (reason : Option String)
  | hostAbort (channel : Channel) (reason : String)
  /-- Run a target once against another host. -/
  | runOnce (host : Host) (channel : Channel) (target : Target)
  | initLogger (channel : Channel) (threshold : Threshold)
  | log (record : LogRecord)
  /-- Shake hands with another host. -/
  | negotiate (host : Host) (channel : Channel)
  | askPresent
  | claim
  | attach (options : Options)
  | openFuzzer
  | closeFuzzer
  | runFuzzer (target : Target)
  | catchAbort
  | limitLocking (limit : Nat)
  | refuse (number : Int) (errno : Errno)
  | inGuest (action : VmM (Except AgentError Unit))
  | stimulate (stimulus : Vm.Stimulus)
  | start
  | getFuzzData (dest : Buffer)
  | release
  | print (text : Exports.CText)
  | abort
  | assertBsd (function file : Exports.CText) (line : Int32) (expr : Exports.CText)
  | assertGnu (expr file : Exports.CText) (line : UInt32) (function : Exports.CText)
  | assertErrno (errno : Int32) (file : Exports.CText) (line : UInt32)
      (function : Exports.CText)

inductive Answer
  | done
  | flag (value : Bool)
  | number (value : Int)
  | result (value : Except AgentError Nat)
  | registered (answer : Registered)
  /-- The logger was installed, or was not, and the records that reach it. -/
  | logger (installed : Bool) (level : Threshold)
  /-- A fuzzer for inputs of at most that many bytes. -/
  | opened (maxInput : Nat) (state : Lifecycle)
  /-- A target ran on these inputs; with the state of the fuzzer, where one is held. -/
  | ran (inputs : List Bytes) (state : Option Lifecycle)
  | filled (len : Nat) (dest : Buffer)

/-- An action of a process that may hold a fuzzer. -/
abbrev HolderM := StateT (Option Fuzzer) SubjectM

/-- Run a target and keep its inputs. -/
def recording (target : Target) (input : Bytes) : StateT (List Bytes) SubjectM Outcome := do
  modify (· ++ [input])
  (target input : SubjectM Unit)
  return .returned

/-- The answer of an action that gives nothing. -/
def quietly (action : SubjectM Unit) : HolderM Answer := do
  (action : SubjectM Unit)
  return .done

/-- The answer of an action that gives nothing but may fail. -/
def failing (action : SubjectM (Except AgentError Unit)) : HolderM Answer := do
  return .result ((← (action : SubjectM _)).map fun _ => 0)

/-- The answer of an action that never comes back. -/
def ending (action : SubjectM Empty) : HolderM Answer := do
  nomatch ← (action : SubjectM Empty)

def perform : Operation → HolderM Answer
  | .install channel options => failing (Subject.install channel options)
  | .hookPanics => quietly Subject.hookPanics
  | .setBlocking blocks => do
      match ← (Subject.setBlocking blocks : SubjectM _) with
      | .ok () => return .flag blocks
      | .error error => return .result (.error error)
  | .register request => do
      return .registered (← (Exports.sigaction request : SubjectM _))
  | .raise number => do
      return .number (← (Subject.raise number : SubjectM _))
  | .fault number => ending (handleFault number)
  | .panic location payload => ending (Subject.panic location payload)
  | .failAssertion expr function file line => ending (assertionFailed expr function file line)
  | .report reason => ending (panicWithBacktrace reason)
  | .hostAbort channel reason => ending (Subject.hostAbort channel reason)
  | .runOnce host channel target => do
      let (_, inputs) ← ((withHost host channel (Subject.runOnce .standard (recording target)) :
        StateT (List Bytes) SubjectM Outcome).run [] : SubjectM _)
      return .ran inputs none
  | .initLogger channel threshold => do
      let installed ← (Subject.initLogger channel threshold : SubjectM _)
      return .logger installed (← (get : SubjectM Subject)).maxLevel
  | .log record => quietly (Subject.log record)
  | .negotiate host channel => do
      let agent ← (withHost host channel (guest _ (Agent.negotiate .standard)) : SubjectM _)
      return .result (agent.map Agent.maxInputSize)
  | .askPresent => do
      return .flag (← (get : SubjectM Subject)).present
  | .claim => failing Subject.claim
  | .attach options => do
      return .number (← (Subject.attach options : SubjectM _)).maxInputSize
  | .openFuzzer => do
      let fuzzer ← (Subject.openFuzzer : SubjectM _)
      set (some fuzzer)
      return .opened fuzzer.maxInputSize fuzzer.agent.state
  | .closeFuzzer => do
      let held ← get
      set (none : Option Fuzzer)
      (held.forM Subject.closeFuzzer : SubjectM Unit)
      return .flag held.isSome
  | .runFuzzer target => do
      match ← get with
      | none => return .done
      | some fuzzer =>
          let ((_, fuzzer), inputs) ← ((Subject.runFuzzer fuzzer (recording target) :
            StateT (List Bytes) SubjectM (Outcome × Fuzzer)).run [] : SubjectM _)
          set (some fuzzer)
          return .ran inputs (some fuzzer.agent.state)
  | .catchAbort => quietly Subject.catchAbort
  | .limitLocking limit => quietly (Subject.limitLocking limit)
  | .refuse number errno => quietly (Subject.refuse number errno)
  | .inGuest action => failing (guest _ action)
  | .stimulate stimulus => quietly do
      modify fun p => { p with vm := (p.vm.stimulate stimulus).getD p.vm }
  | .start => do
      return .number (← (Exports.start : SubjectM _))
  | .getFuzzData dest => do
      let (len, dest) ← (Exports.getFuzzData dest : SubjectM _)
      return .filled len dest
  | .release => quietly Exports.release
  | .print text => quietly (Exports.print text)
  | .abort => ending Exports.abort
  | .assertBsd function file line expr => ending (Exports.assertBsd function file line expr)
  | .assertGnu expr file line function => ending (Exports.assertGnu expr file line function)
  | .assertErrno errno file line function =>
      ending (Exports.assertErrno errno file line function)

/-! ## A whole life -/

/-- An operation and the return addresses on the stack while it is done. -/
structure Step where
  stack : List UInt64
  operation : Operation

/-- What is seen of a process: what it did, and how its operations came out. -/
inductive Observation
  | happened (occurrence : Occurrence)
  | answered (operation : Operation) (answer : Answer)

/-- What happened since there were `before` entries on the trail. -/
def happened (before : Nat) (p : Subject) : List Observation :=
  (p.trail.drop before).map .happened

def step (s : Step) (held : Option Fuzzer) (p : Subject) :
    Except Ending (Answer × Option Fuzzer) × Subject :=
  (((perform s.operation).run held).run).run { p with stack := s.stack }

/-- Take steps until one ends the process: what is seen, what is left of the process,
and how it ended, if it did. -/
def run : List Step → Option Fuzzer → Subject → List Observation × Subject × Option Ending
  | [], _, p => ([], p, none)
  | s :: rest, held, p =>
      match step s held p with
      | (.error how, after) => (happened p.trail.length after, after, some how)
      | (.ok (answer, held), after) =>
          let (seen, last) := run rest held after
          (happened p.trail.length after ++ .answered s.operation answer :: seen, last)

theorem run_nil (held : Option Fuzzer) (p : Subject) : run [] held p = ([], p, none) := rfl

/-- What follows the step that ends the process is never done. -/
theorem run_of_ended {s : Step} {held : Option Fuzzer} {p after : Subject} {how : Ending}
    (ended : step s held p = (.error how, after)) (rest : List Step) :
    run (s :: rest) held p = (happened p.trail.length after, after, some how) := by
  rw [run, ended]

/-- A step that comes out hands the process on to the rest. -/
theorem run_of_answered {s : Step} {held next : Option Fuzzer} {p after : Subject}
    {answer : Answer} (answered : step s held p = (.ok (answer, next), after))
    (rest : List Step) :
    run (s :: rest) held p =
      (happened p.trail.length after ++ .answered s.operation answer :: (run rest next after).1,
        (run rest next after).2) := by
  rw [run, answered]

end Rewind.Subject
