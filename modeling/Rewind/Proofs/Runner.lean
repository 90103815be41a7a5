/-
# Rewind.Proofs.Runner -- a run of a target, as a part of what a process does

A process that holds a fuzzer carries it along as state, and a run carries the fuzzer and
the inputs so far.  The rules of `Subject.Returns` and `Subject.Ends` hold with such state
around an action, and by them a run comes down to three things: the acquire, the target,
and the release.

Main statements: `Subject.runFuzzer_of_error` (no input can be had),
`Subject.runFuzzer_of_ended` (the target ends the process), `Subject.returns_runFuzzer`.
-/
import Rewind.Proofs.Abort
import Rewind.Subject.Operation

namespace Rewind.Subject

set_option autoImplicit false

/-! ## Actions with more state around them -/

section

variable {σ α β : Type} {action : SubjectM α} {p q r : Subject} {a : α} {how : Ending} {s t : σ}

theorem Returns.lift (returns : Returns action p a q) (s : σ) :
    Returns ((liftM action : StateT σ SubjectM α).run s) p (a, s) q :=
  returns.bind (returns_pure _ _)

theorem Ends.lift (ends : Ends action p how q) (s : σ) :
    Ends ((liftM action : StateT σ SubjectM α).run s) p how q :=
  ends.bind _

/-- What a lifted action comes back with, it comes back with by itself, and the state around
it stays. -/
theorem Returns.of_lift {next : α → StateT σ SubjectM β} {b : β × σ}
    (whole : Returns (((liftM action : StateT σ SubjectM α) >>= next).run s) p b r) :
    ∃ a q, Returns action p a q ∧ Returns ((next a).run s) q b r := by
  obtain ⟨⟨a, t⟩, q, lifted, rest⟩ := whole.parts
  obtain ⟨a', q', came, same⟩ := lifted.parts
  obtain ⟨same, rfl⟩ := same.unique (returns_pure _ q')
  cases same
  exact ⟨a, q, came, rest⟩

theorem Returns.state_bind {action : StateT σ SubjectM α} {next : α → StateT σ SubjectM β}
    {b : β × σ} (first : Returns (action.run s) p (a, t) q)
    (second : Returns ((next a).run t) q b r) : Returns ((action >>= next).run s) p b r :=
  first.bind second

theorem Returns.state_ends {action : StateT σ SubjectM α} {next : α → StateT σ SubjectM β}
    (first : Returns (action.run s) p (a, t) q) (second : Ends ((next a).run t) q how r) :
    Ends ((action >>= next).run s) p how r :=
  first.ends second

theorem state_returns_pure (a : α) (s : σ) (p : Subject) :
    Returns ((pure a : StateT σ SubjectM α).run s) p (a, s) p := rfl

theorem state_returns_get (s : σ) (p : Subject) :
    Returns ((get : StateT σ SubjectM σ).run s) p (s, s) p := rfl

theorem state_returns_set (s t : σ) (p : Subject) :
    Returns ((set t : StateT σ SubjectM PUnit).run s) p ((), t) p := rfl

theorem state_returns_modify (f : σ → σ) (s : σ) (p : Subject) :
    Returns ((modify f : StateT σ SubjectM PUnit).run s) p ((), f s) p := rfl

end

/-- What a run of a fuzzer happens in: a process that keeps the inputs. -/
abbrev RecordM := StateT (List Bytes) SubjectM

def reach (α : Type) (action : VmM α) : RecordM α := liftM (guest α action)

section

variable {α β : Type} {p q r : Subject} {fuzzer other : Fuzzer} {inputs more : List Bytes} {a : α}
  {b : (β × Fuzzer) × List Bytes}

theorem Returns.fuzzer_bind {action : FuzzerT RecordM α} {next : α → FuzzerT RecordM β}
    (first : Returns ((action.run fuzzer).run inputs) p ((a, other), more) q)
    (second : Returns (((next a).run other).run more) q b r) :
    Returns (((action >>= next).run fuzzer).run inputs) p b r :=
  first.bind second

theorem Returns.fuzzer_ends {action : FuzzerT RecordM α} {next : α → FuzzerT RecordM β}
    {how : Ending} (first : Returns ((action.run fuzzer).run inputs) p ((a, other), more) q)
    (second : Ends (((next a).run other).run more) q how r) :
    Ends (((action >>= next).run fuzzer).run inputs) p how r :=
  first.ends second

theorem fuzzer_returns_pure (a : α) (fuzzer : Fuzzer) (inputs : List Bytes) (p : Subject) :
    Returns (((pure a : FuzzerT RecordM α).run fuzzer).run inputs) p ((a, fuzzer), inputs) p := rfl

theorem fuzzer_returns_get (fuzzer : Fuzzer) (inputs : List Bytes) (p : Subject) :
    Returns (((get : FuzzerT RecordM Fuzzer).run fuzzer).run inputs) p
      ((fuzzer, fuzzer), inputs) p := rfl

theorem fuzzer_returns_set (fuzzer other : Fuzzer) (inputs : List Bytes) (p : Subject) :
    Returns (((set other : FuzzerT RecordM PUnit).run fuzzer).run inputs) p
      (((), other), inputs) p := rfl

theorem fuzzer_returns_modify (f : Fuzzer → Fuzzer) (fuzzer : Fuzzer) (inputs : List Bytes)
    (p : Subject) :
    Returns (((modify f : FuzzerT RecordM PUnit).run fuzzer).run inputs) p
      (((), f fuzzer), inputs) p := rfl

theorem Returns.fuzzer_lift {action : RecordM α}
    (returns : Returns (action.run inputs) p (a, more) q) (fuzzer : Fuzzer) :
    Returns (((liftM action : FuzzerT RecordM α).run fuzzer).run inputs) p
      ((a, fuzzer), more) q :=
  returns.bind (returns_pure _ _)

end

section

variable {α : Type} {p q : Subject} {fuzzer : Fuzzer} {agent : Agent}

theorem returns_onAgent {action : AgentM α} {result : α} (fuzzer : Fuzzer)
    (came : Returns (guest _ (action.run fuzzer.agent)) p (result, agent) q)
    (inputs : List Bytes) :
    Returns (((Fuzzer.onAgent reach action).run fuzzer).run inputs) p
      ((result, { fuzzer with agent := agent }), inputs) q := by
  refine (fuzzer_returns_get fuzzer inputs p).fuzzer_bind ?_
  refine ((came.lift inputs).fuzzer_lift fuzzer).fuzzer_bind ?_
  exact (fuzzer_returns_set _ _ _ q).fuzzer_bind (fuzzer_returns_pure _ _ _ q)

theorem returns_nextInput_of_error {error : AgentError}
    (came : Returns (guest _ ((Agent.acquire fuzzer.input).run fuzzer.agent)) p
      (.error error, agent) q) (inputs : List Bytes) :
    Returns (((Fuzzer.nextInput reach).run fuzzer).run inputs) p
      ((.error error, { fuzzer with agent := agent }), inputs) q := by
  refine (fuzzer_returns_get fuzzer inputs p).fuzzer_bind ?_
  exact (returns_onAgent fuzzer came inputs).fuzzer_bind (fuzzer_returns_pure _ _ _ q)

theorem returns_nextInput_of_ok {len : Nat} {input : Buffer}
    (came : Returns (guest _ ((Agent.acquire fuzzer.input).run fuzzer.agent)) p
      (.ok (len, input), agent) q) (inputs : List Bytes) :
    Returns (((Fuzzer.nextInput reach).run fuzzer).run inputs) p
      ((.ok (input.take len), ⟨agent, input⟩), inputs) q := by
  refine (fuzzer_returns_get fuzzer inputs p).fuzzer_bind ?_
  refine (returns_onAgent fuzzer came inputs).fuzzer_bind ?_
  exact (fuzzer_returns_modify _ _ _ q).fuzzer_bind (fuzzer_returns_pure _ _ _ q)

/-! ## One run -/

theorem returns_recording {target : Target} {input : Bytes}
    (came : Returns (target input) p () q) (inputs : List Bytes) :
    Returns ((recording target input).run inputs) p (.returned, inputs ++ [input]) q := by
  refine (state_returns_modify _ _ p).state_bind ?_
  exact (came.lift _).state_bind (state_returns_pure _ _ q)

theorem ends_recording {target : Target} {input : Bytes} {how : Ending}
    (ends : Ends (target input) p how q) (inputs : List Bytes) :
    Ends ((recording target input).run inputs) p how q := by
  refine (state_returns_modify _ _ p).state_ends ?_
  exact (ends.lift _).bind _

/-- Without an input a run comes to nothing else. -/
theorem returns_tryRun_of_error {error : AgentError}
    (came : Returns (guest _ ((Agent.acquire fuzzer.input).run fuzzer.agent)) p
      (.error error, agent) q) (target : Target) (inputs : List Bytes) :
    Returns (((Fuzzer.tryRun reach (recording target)).run fuzzer).run inputs) p
      ((.error error, { fuzzer with agent := agent }), inputs) q :=
  (returns_nextInput_of_error came inputs).fuzzer_bind (fuzzer_returns_pure _ _ _ q)

/-- An input that cannot be had ends the process, and the host hears why. -/
theorem runFuzzer_of_error {error : AgentError}
    (came : Returns (guest _ ((Agent.acquire fuzzer.input).run fuzzer.agent)) p
      (.error error, agent) q) (target : Target) (inputs : List Bytes) :
    ∃ how r late, Ends ((runFuzzer fuzzer (recording target) :
        RecordM (Outcome × Fuzzer)).run inputs) p how r ∧
      q.Made r (.userAbort (hostText error.message) :: late) ∧
      ∀ call ∈ late, call.op = .panicExtended := by
  obtain ⟨how, r, late, ends, made, reports⟩ := abortWith_ends (α := Outcome × Fuzzer) error q
  have tried := returns_tryRun_of_error came target inputs
  exact ⟨how, r, late, tried.ends (ends.lift inputs), made, reports⟩

section

variable {len : Nat} {input : Buffer} {target : Target}

/-- A target that ends the process ends the run in it. -/
theorem runFuzzer_of_ended {how : Ending} {r : Subject}
    (came : Returns (guest _ ((Agent.acquire fuzzer.input).run fuzzer.agent)) p
      (.ok (len, input), agent) q)
    (ends : Ends (target (input.take len)) q how r) (inputs : List Bytes) :
    Ends ((runFuzzer fuzzer (recording target) : RecordM (Outcome × Fuzzer)).run inputs)
      p how r := by
  have stopped : Ends (((liftM (recording target (input.take len)) : FuzzerT RecordM Outcome).run
      ⟨agent, input⟩).run inputs) q how r := (ends_recording ends inputs).bind _
  have tried : Ends (((Fuzzer.tryRun reach (recording target)).run fuzzer).run inputs) p how r :=
    (returns_nextInput_of_ok came inputs).fuzzer_ends (stopped.bind _)
  exact tried.bind _

/-- A target that comes back is released. -/
theorem returns_runFuzzer {after : Agent} {r last : Subject}
    (came : Returns (guest _ ((Agent.acquire fuzzer.input).run fuzzer.agent)) p
      (.ok (len, input), agent) q)
    (back : Returns (target (input.take len)) q () r)
    (released : Returns (guest _ (Agent.release.run agent)) r ((), after) last)
    (inputs : List Bytes) :
    Returns ((runFuzzer fuzzer (recording target) : RecordM (Outcome × Fuzzer)).run inputs) p
      ((.returned, ⟨after, input⟩), inputs ++ [input.take len]) last := by
  have ran := (returns_recording back inputs).fuzzer_lift ⟨agent, input⟩
  have ended : Returns (((do
      Fuzzer.onAgent reach Agent.release
      return .ok .returned : FuzzerT RecordM (Except AgentError Outcome)).run
        ⟨agent, input⟩).run (inputs ++ [input.take len])) r
      ((.ok .returned, ⟨after, input⟩), inputs ++ [input.take len]) last := by
    refine (returns_onAgent ⟨agent, input⟩ released _).fuzzer_bind ?_
    exact fuzzer_returns_pure _ _ _ last
  have tried : Returns (((Fuzzer.tryRun reach (recording target)).run fuzzer).run inputs) p
      ((.ok .returned, ⟨after, input⟩), inputs ++ [input.take len]) last := by
    refine (returns_nextInput_of_ok came inputs).fuzzer_bind ?_
    refine ran.fuzzer_bind ?_
    exact ended
  exact tried.state_bind (state_returns_pure _ _ last)

end

end

end Rewind.Subject
