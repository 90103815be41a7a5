/-
# Rewind.Proofs.OneSession -- one session of a process, whoever asks for it

A target reaches the session by the exported calls and a harness by handles; both share
one agent, which the first of them makes.  The uses may come in any order, and the callback
of a run may print and may ask for the session itself, while the handle that runs it has it.

`Subject.Stage` says where a process is between two uses: it did not ask for the session
yet, the session is free, or a handle drives it.  Every use that comes back leads from one
stage to another (`Stage.next`), so whatever uses were made (`Subject.Lives`), there was one
handshake, and whoever asks while a handle is live is turned away.

Main statements: `Subject.Stage.next`, `Subject.Lives.stage`, `Subject.one_session`.
-/
import Rewind.Proofs.InSession
import Rewind.Proofs.Runner

namespace Rewind.Subject

set_option autoImplicit false

/-! ## What may be asked of the session -/

/-- What a target may ask of the session. -/
inductive Request
  | start
  | fetch (dest : Buffer)
  | release
  /-- Ask for a handle. -/
  | drive

namespace Request

def operation : Request → Operation
  | start => .start
  | fetch dest => .getFuzzData dest
  | release => .release
  | drive => .openFuzzer

def action : Request → SubjectM Unit
  | start => do let _ ← Exports.start
  | fetch dest => do let _ ← Exports.getFuzzData dest
  | release => Exports.release
  | drive => do let _ ← openFuzzer

end Request

/-- A part of a callback. -/
inductive Part
  | ask (request : Request)
  | print (text : Exports.CText)

namespace Part

def action : Part → SubjectM Unit
  | ask request => request.action
  | print text => Exports.print text

def asks : Part → Bool
  | ask _ => true
  | print _ => false

def call? : Part → Option Call
  | ask _ => none
  | print text => some (printCall text)

/-- What is printed before the session is asked for. -/
def prints (parts : List Part) : List Call :=
  (parts.takeWhile fun part => !part.asks).filterMap call?

end Part

/-- A target that does with each input what the input says. -/
def callback (parts : Bytes → List Part) : Target :=
  fun input => (parts input).forM Part.action

/-- One use of the session: a request, a run on a live handle, or the end of a handle. -/
inductive Use
  | ask (request : Request)
  | run (parts : Bytes → List Part)
  | close

namespace Use

def operation : Use → Operation
  | ask request => request.operation
  | run parts => .runFuzzer (callback parts)
  | close => .closeFuzzer

def asks : Use → Bool
  | ask _ => true
  | _ => false

end Use

/-- Where the stack is does not matter to the session. -/
def onStack (p : Subject) (stack : List UInt64) : Subject := { p with stack := stack }

/-- Some uses were made one after another from `first` on, each with some stack, and none of
them ended the process: this came of it, and this handle is live. -/
inductive Lives (first : Subject) : List Use → Option Fuzzer → Subject → Prop
  | untouched : Lives first [] none first
  | later {uses : List Use} {held next : Option Fuzzer} {p q : Subject} {use : Use}
      {stack : List UInt64} {answer : Answer} (before : Lives first uses held p)
      (came : step ⟨stack, use.operation⟩ held p = (.ok (answer, next), q)) :
      Lives first (uses ++ [use]) next q

/-! ## Whoever asks for a session that is taken -/

section

variable {p q : Subject} {how : Ending}

/-- A request begins with the session, as part of a callback. -/
theorem Request.ends_action (request : Request) (ends : Ends hostSession p how q) :
    Ends request.action p how q := by
  cases request with
  | start => exact (ends.bind _).bind _
  | fetch dest => exact (ends.bind _).bind _
  | release => exact ends.bind _
  | drive => exact (ends.bind _).bind _

/-- So it does by itself. -/
theorem Request.ends_perform (request : Request) (held : Option Fuzzer)
    (ends : Ends hostSession p how q) : Ends ((perform request.operation).run held) p how q := by
  cases request with
  | start => exact ((ends.bind _ : Ends Exports.start p how q).lift held).bind _
  | fetch dest => exact ((ends.bind _ : Ends (Exports.getFuzzData dest) p how q).lift held).bind _
  | release => exact ((ends.bind _ : Ends Exports.release p how q).lift held).bind _
  | drive => exact ((ends.bind _ : Ends openFuzzer p how q).lift held).bind _

end

/-! ## Stages -/

/-- The session is handed out: this is its agent, and nobody else gets it now. -/
structure Holding (first : Subject) (agent : Agent) (region : Region) (p : Subject) : Prop where
  inSession : InSession first agent region p
  slot : ∃ kept, p.session.agent = some kept
  taken : p.session.held = true

/-- Where a process is between two uses, given whether it asked for the session before and
which handle is live. -/
inductive Stage (first : Subject) : Bool → Option Fuzzer → Subject → Prop
  | untouched (stack : List UInt64) : Stage first false none (first.onStack stack)
  | free {agent : Agent} {region : Region} {p : Subject}
      (inSession : InSession first agent region p) (slot : p.session.agent = some agent)
      (nobody : p.session.held = false) : Stage first true none p
  | driven {fuzzer : Fuzzer} {region : Region} {p : Subject}
      (holding : Holding first fuzzer.agent region p) : Stage first true (some fuzzer) p

section

variable {first p q : Subject} {used : Bool} {held : Option Fuzzer} {agent : Agent}
  {region : Region}

theorem Stage.onStack (stage : Stage first used held p) (stack : List UInt64) :
    Stage first used held (p.onStack stack) := by
  cases stage with
  | untouched other => exact .untouched stack
  | free inSession slot nobody => exact .free (inSession.of_same rfl rfl rfl rfl) slot nobody
  | driven holding =>
      exact .driven ⟨holding.inSession.of_same rfl rfl rfl rfl, holding.slot, holding.taken⟩

/-- Giving the session back leaves it free. -/
theorem Holding.leave (holding : Holding first agent region p) :
    ∃ q, Returns (leaveSession agent false) p () q ∧ Stage first true none q :=
  ⟨_, returns_modify _ p, .free (holding.inSession.of_same rfl rfl rfl rfl) rfl rfl⟩

/-- An acquire or a release by whoever has the session. -/
theorem Holding.move (holding : Holding first agent region p) {move : Move}
    (turns : Guest.Turns move) {α : Type} {action : AgentM α}
    (acts : (⟨agent, p.vm⟩ : Guest).make move =
      let ran := (action.run agent).run p.vm
      ⟨ran.1.2, ran.2⟩) :
    ∃ result after q calls, Returns (guest _ (action.run agent)) p (result, after) q ∧
      p.Made q calls ∧ (∀ call ∈ calls, call.isTerminal = false) ∧
      Holding first after region q := by
  have ran : (action.run agent).run p.vm =
      (((action.run agent).run p.vm).1, ((⟨agent, p.vm⟩ : Guest).make move).vm) := by
    rw [acts]
    rfl
  obtain ⟨q, calls, returns, same, made, quiet, inSession⟩ := holding.inSession.move turns ran
  refine ⟨_, _, q, calls, returns, made, quiet, ?_, ?_, ?_⟩
  · rw [acts] at inSession
    exact inSession
  · rw [same]
    exact holding.slot
  · rw [same]
    exact holding.taken

theorem Holding.acquire (holding : Holding first agent region p) (dest : Buffer) :
    ∃ result after q calls, Returns (guest _ ((Agent.acquire dest).run agent)) p
        (result, after) q ∧
      p.Made q calls ∧ (∀ call ∈ calls, call.isTerminal = false) ∧
      Holding first after region q :=
  holding.move (.acquire dest) (Guest.make_acquire ⟨agent, p.vm⟩ dest)

theorem Holding.release (holding : Holding first agent region p) :
    ∃ result after q calls, Returns (guest _ (Agent.release.run agent)) p (result, after) q ∧
      p.Made q calls ∧ (∀ call ∈ calls, call.isTerminal = false) ∧
      Holding first after region q := by
  refine holding.move .release ?_
  rw [Guest.make_release, Agent.release_run]

/-- While a handle is live no request comes back. -/
theorem Holding.turns_away (holding : Holding first agent region p) (request : Request)
    (held : Option Fuzzer) :
    ∃ how q, Ends ((perform request.operation).run held) p how q ∧ p.TurnedAway q := by
  obtain ⟨kept, slot⟩ := holding.slot
  obtain ⟨how, q, ends, away⟩ := hostSession_of_held slot holding.taken
  exact ⟨how, q, request.ends_perform held ends, away⟩

/-! ## A callback, part by part -/

/-- A callback prints, and it comes back unless it asks for the session, which the handle that
runs it has. -/
theorem Holding.parts (holding : Holding first agent region p) (parts : List Part) :
    ∃ q, p.Made q (Part.prints parts) ∧ Holding first agent region q ∧
      (parts.any Part.asks = false → Returns (parts.forM Part.action) p () q) ∧
      (parts.any Part.asks = true → ∃ how r,
        Ends (parts.forM Part.action) p how r ∧ q.TurnedAway r) := by
  induction parts generalizing p with
  | nil => exact ⟨p, .refl p, holding, fun _ => returns_pure () p, nofun⟩
  | cons part rest ih =>
      cases part with
      | ask request =>
          obtain ⟨kept, slot⟩ := holding.slot
          obtain ⟨how, r, ends, away⟩ := hostSession_of_held slot holding.taken
          refine ⟨p, .refl p, holding, nofun, fun _ => ⟨how, r, ?_, away⟩⟩
          exact (request.ends_action ends).bind _
      | print text =>
          obtain ⟨q, printed, same, told, inSession⟩ := holding.inSession.print text
          have held : Holding first agent region q :=
            ⟨inSession, by rw [same]; exact holding.slot, by rw [same]; exact holding.taken⟩
          obtain ⟨last, made, still, back, away⟩ := ih held
          refine ⟨last, told.trans made, still, fun none => printed.bind (back none), ?_⟩
          intro some
          obtain ⟨how, r, ends, turned⟩ := away some
          exact ⟨how, r, printed.ends ends, turned⟩

/-! ## One run on a live handle -/

theorem returns_perform_run {fuzzer after : Fuzzer} {target : Target} {outcome : Outcome}
    {inputs : List Bytes}
    (ran : Returns ((runFuzzer fuzzer (recording target) : RecordM (Outcome × Fuzzer)).run []) p
      ((outcome, after), inputs) q) :
    Returns ((perform (.runFuzzer target)).run (some fuzzer)) p
      (.ran inputs (some after.agent.state), some after) q := by
  refine (state_returns_get _ p).state_bind ?_
  refine (ran.lift (some fuzzer)).state_bind ?_
  exact (state_returns_set _ (some after) q).state_bind (state_returns_pure _ _ q)

theorem ends_perform_run {fuzzer : Fuzzer} {target : Target} {how : Ending}
    (ended : Ends ((runFuzzer fuzzer (recording target) : RecordM (Outcome × Fuzzer)).run []) p
      how q) : Ends ((perform (.runFuzzer target)).run (some fuzzer)) p how q :=
  (state_returns_get _ p).state_ends ((ended.lift (some fuzzer)).bind _)

/-- What comes of a run is decided before the callback does anything: no input can be had and
the process ends, or there is an input.  A callback that then only prints comes back, and one
that asks for the session is turned away, since the handle that runs it has it. -/
theorem Holding.run {fuzzer : Fuzzer} (holding : Holding first fuzzer.agent region p) :
    ∃ agent q calls, p.Made q calls ∧ (∀ call ∈ calls, call.isTerminal = false) ∧
      Holding first agent region q ∧
      ((∃ error : AgentError, ∀ parts, ∃ how r late,
          Ends ((perform (Use.run parts).operation).run (some fuzzer)) p how r ∧
          q.Made r (.userAbort (hostText error.message) :: late) ∧
          ∀ call ∈ late, call.op = .panicExtended) ∨
        ∃ input, ∀ parts,
          ((parts input).any Part.asks = false → ∃ next last,
            Returns ((perform (Use.run parts).operation).run (some fuzzer)) p
              (.ran [input] (some next.agent.state), some next) last ∧
            Holding first next.agent region last) ∧
          ((parts input).any Part.asks = true → ∃ how asking r,
            Ends ((perform (Use.run parts).operation).run (some fuzzer)) p how r ∧
            q.Made asking (Part.prints (parts input)) ∧ asking.TurnedAway r)) := by
  -- The callback starts behind the acquire, with the session still handed out.
  obtain ⟨result, agent, q, calls, acquired, made, goesOn, held⟩ := holding.acquire fuzzer.input
  refine ⟨agent, q, calls, made, goesOn, held, ?_⟩
  cases result with
  | error error =>
      refine .inl ⟨error, fun parts => ?_⟩
      obtain ⟨how, r, late, ends, made, reports⟩ :=
        runFuzzer_of_error acquired (callback parts) []
      exact ⟨how, r, late, ends_perform_run ends, made, reports⟩
  | ok delivered =>
      obtain ⟨len, input⟩ := delivered
      refine .inr ⟨input.take len, fun parts => ?_⟩
      obtain ⟨asking, printed, still, back, away⟩ := held.parts (parts (input.take len))
      constructor
      · intro none
        obtain ⟨_, after, last, -, released, -, -, again⟩ := still.release
        have came : Returns (callback parts (input.take len)) q () asking := back none
        have ran := returns_runFuzzer acquired came released []
        exact ⟨⟨after, input⟩, last, returns_perform_run ran, again⟩
      · intro some
        obtain ⟨how, r, ends, turned⟩ := away some
        have stopped : Ends (callback parts (input.take len)) q how r := ends
        exact ⟨how, asking, r, ends_perform_run (runFuzzer_of_ended acquired stopped []), printed,
          turned⟩

/-- A run that comes back leaves its handle live. -/
theorem Holding.step_run {fuzzer : Fuzzer} (holding : Holding first fuzzer.agent region p)
    {parts : Bytes → List Part} {answer : Answer} {next : Option Fuzzer}
    (came : Returns ((perform (Use.run parts).operation).run (some fuzzer)) p
      (answer, next) q) : Stage first true next q := by
  obtain ⟨agent, r, calls, -, -, -, ⟨error, fails⟩ | ⟨input, ways⟩⟩ := holding.run
  · obtain ⟨how, last, -, ends, -⟩ := fails parts
    exact absurd ends came.not_ends
  · obtain ⟨back, away⟩ := ways parts
    cases asks : (parts input).any Part.asks with
    | false =>
        obtain ⟨fuzzer, last, returns, again⟩ := back asks
        obtain ⟨same, rfl⟩ := came.unique returns
        cases same
        exact .driven again
    | true =>
        obtain ⟨how, _, last, ends, -⟩ := away asks
        exact absurd ends came.not_ends

/-- Closing a handle gives the session back. -/
theorem Holding.step_close {fuzzer : Fuzzer} (holding : Holding first fuzzer.agent region p)
    {answer : Answer} {next : Option Fuzzer}
    (came : Returns ((perform .closeFuzzer).run (some fuzzer)) p (answer, next) q) :
    Stage first true next q := by
  obtain ⟨last, leaves, free⟩ := holding.leave
  have closes : Returns ((perform .closeFuzzer).run (some fuzzer)) p (.flag true, none) last := by
    refine (state_returns_get _ p).state_bind ?_
    refine (state_returns_set _ none p).state_bind ?_
    exact (leaves.lift none).state_bind (state_returns_pure _ _ last)
  obtain ⟨same, rfl⟩ := came.unique closes
  cases same
  exact free

/-! ## Asking for a session that is not taken -/

section

variable (hosted : first.Hosted) (unused : first.session = .empty)
include hosted unused

/-- The first request attaches, where that is possible. -/
theorem hostSession_of_untouched (stack : List UInt64) :
    (first.Free ∧ first.Takes → ∃ agent region q,
      Returns hostSession (first.onStack stack) agent q ∧ Holding first agent region q) ∧
    (¬ (first.Free ∧ first.Takes) → ∃ how q, Ends hostSession (first.onStack stack) how q) := by
  obtain ⟨options, happened, read, prints⟩ := returns_readOptions (first.onStack stack)
  -- What the logger makes of the options comes first, so the process attaches from here.
  let ready : Subject := (first.onStack stack).grown happened
  have none : (first.onStack stack).session.agent = none := congrArg Slot.agent unused
  have nobody : (first.onStack stack).session.held = false := congrArg Slot.held unused
  have same : ready.Takes ↔ first.Takes := takes_congr rfl rfl rfl
  constructor
  · rintro ⟨free, takes⟩
    have fit : ready.Hosted := ⟨hosted.all, hosted.compatible, hosted.sized, hosted.once,
      hosted.grants, hosted.room⟩
    obtain ⟨agent, region, q, attached, inSession, -⟩ :=
      attach_returns options fit ⟨free.present, free.unclaimed⟩ (same.mpr takes)
    have made : first.Made ready _ := ((first.onStack stack).made_grown happened).of_trail rfl
    have asked := hostSession_of_fresh none nobody read attached
    have inSession := inSession.earlier made prints rfl
    exact ⟨agent, region, _, asked, inSession.of_same rfl rfl rfl rfl, ⟨agent, rfl⟩, rfl⟩
  · intro refused
    have refuses : ¬ (ready.Free ∧ ready.Takes) := by
      rintro ⟨free, takes⟩
      exact refused ⟨⟨free.present, free.unclaimed⟩, same.mp takes⟩
    obtain ⟨how, q, ended⟩ := attach_ends options refuses
    refine ⟨how, q, (returns_get _).ends ?_⟩
    rw [Slot.lock_of_empty _ none nobody]
    exact ((read.ends ended).bind _).bind _

/-- What comes of asking for a session that no handle has. -/
theorem Stage.hostSession_cases (stage : Stage first used none p) :
    (∃ agent region q, Returns hostSession p agent q ∧ Holding first agent region q) ∨
      (used = false ∧ ¬ (first.Free ∧ first.Takes) ∧ ∃ how q, Ends hostSession p how q) := by
  cases stage with
  | untouched stack =>
      obtain ⟨attaches, fails⟩ := hostSession_of_untouched hosted unused stack
      by_cases attachable : first.Free ∧ first.Takes
      · exact .inl (attaches attachable)
      · exact .inr ⟨rfl, attachable, fails attachable⟩
  | free inSession slot nobody =>
      exact .inl ⟨_, _, _, hostSession_of_free slot nobody,
        inSession.of_same rfl rfl rfl rfl, ⟨_, slot⟩, rfl⟩

/-- A session that is handed out is one of the process. -/
theorem Stage.holding (stage : Stage first used none p) (came : Returns hostSession p agent q) :
    ∃ region, Holding first agent region q := by
  rcases stage.hostSession_cases hosted unused with ⟨agent, region, q, asked, holding⟩ |
      ⟨-, -, how, q, ended⟩
  · obtain ⟨rfl, rfl⟩ := came.unique asked
    exact ⟨region, holding⟩
  · exact absurd ended came.not_ends

/-! ## One request -/

theorem Stage.start (stage : Stage first used none p) {size : Nat}
    (came : Returns Exports.start p size q) :
    size = first.vm.host.config.payloadBufferSize.toNat ∧ Stage first true none q := by
  obtain ⟨agent, taken, asked, rest⟩ := came.parts
  obtain ⟨region, holding⟩ := stage.holding hosted unused asked
  obtain ⟨left, leaves, free⟩ := holding.leave
  obtain ⟨rfl, rfl⟩ := rest.unique (leaves.bind (returns_pure _ left))
  exact ⟨holding.inSession.sized, free⟩

theorem Stage.fetch (stage : Stage first used none p) {dest : Buffer} {delivered : Nat × Buffer}
    (came : Returns (Exports.getFuzzData dest) p delivered q) : Stage first true none q := by
  obtain ⟨agent, taken, asked, rest⟩ := came.parts
  obtain ⟨region, holding⟩ := stage.holding hosted unused asked
  obtain ⟨result, after, r, -, acquired, -, -, held⟩ := holding.acquire dest
  obtain ⟨answer, s, again, rest⟩ := rest.parts
  obtain ⟨rfl, rfl⟩ := again.unique acquired
  cases result with
  | error error =>
      obtain ⟨how, left, -, ends, -⟩ := abortWith_ends (α := Nat × Buffer) error _
      exact absurd ends rest.not_ends
  | ok delivered =>
      obtain ⟨left, leaves, free⟩ := held.leave
      obtain ⟨-, rfl⟩ := rest.unique (leaves.bind (returns_pure _ left))
      exact free

theorem Stage.release (stage : Stage first used none p) (came : Returns Exports.release p () q) :
    Stage first true none q := by
  obtain ⟨agent, taken, asked, rest⟩ := came.parts
  obtain ⟨region, holding⟩ := stage.holding hosted unused asked
  obtain ⟨result, after, r, -, released, -, -, held⟩ := holding.release
  obtain ⟨left, leaves, free⟩ := held.leave
  obtain ⟨-, rfl⟩ := rest.unique (released.bind leaves)
  exact free

theorem Stage.drive (stage : Stage first used none p) {fuzzer : Fuzzer}
    (came : Returns openFuzzer p fuzzer q) : Stage first true (some fuzzer) q := by
  obtain ⟨agent, taken, asked, rest⟩ := came.parts
  obtain ⟨region, holding⟩ := stage.holding hosted unused asked
  obtain ⟨rfl, rfl⟩ := rest.unique (returns_pure _ taken)
  exact .driven holding

/-- A request that comes back makes the session and leaves it free, or hands it out. -/
theorem Stage.ask (stage : Stage first used none p) {request : Request} {answer : Answer}
    {next : Option Fuzzer}
    (came : Returns ((perform request.operation).run none) p (answer, next) q) :
    Stage first true next q := by
  cases request with
  | start =>
      obtain ⟨size, r, started, rest⟩ := Returns.of_lift came
      obtain ⟨same, rfl⟩ := rest.unique (returns_pure _ r)
      cases same
      exact (stage.start hosted unused started).2
  | fetch dest =>
      obtain ⟨delivered, r, fetched, rest⟩ := Returns.of_lift came
      obtain ⟨same, rfl⟩ := rest.unique (returns_pure _ r)
      cases same
      exact stage.fetch hosted unused fetched
  | release =>
      obtain ⟨_, r, released, rest⟩ := Returns.of_lift came
      obtain ⟨same, rfl⟩ := rest.unique (returns_pure _ r)
      cases same
      exact stage.release hosted unused released
  | drive =>
      obtain ⟨fuzzer, r, opened, rest⟩ := Returns.of_lift came
      obtain ⟨same, rfl⟩ := rest.unique (returns_pure _ r)
      cases same
      exact stage.drive hosted unused opened

/-! ## One use after another -/

/-- A use that comes back leads from one stage to another. -/
theorem Stage.next (stage : Stage first used held p) {use : Use} {stack : List UInt64}
    {answer : Answer} {next : Option Fuzzer}
    (came : step ⟨stack, use.operation⟩ held p = (.ok (answer, next), q)) :
    Stage first (used || use.asks) next q := by
  have placed := stage.onStack stack
  have came : Returns ((perform use.operation).run held) (p.onStack stack) (answer, next) q := came
  -- Whether a handle is live decides which uses can come back at all.
  cases held with
  | none =>
      cases use with
      | ask request =>
          rw [Use.asks, Bool.or_true]
          exact placed.ask hosted unused came
      | run parts =>
          have idle : Returns ((perform (Use.run parts).operation).run none) (p.onStack stack)
              (.done, none) (p.onStack stack) := rfl
          obtain ⟨same, rfl⟩ := came.unique idle
          cases same
          have unasked : (used || (Use.run parts).asks) = used := Bool.or_false used
          rw [unasked]
          exact placed
      | close =>
          have idle : Returns ((perform Use.close.operation).run none) (p.onStack stack)
              (.flag false, none) (p.onStack stack) := rfl
          obtain ⟨same, rfl⟩ := came.unique idle
          cases same
          have unasked : (used || Use.close.asks) = used := Bool.or_false used
          rw [unasked]
          exact placed
  | some fuzzer =>
      cases placed with
      | driven holding =>
          cases use with
          | ask request =>
              obtain ⟨how, last, ends, -⟩ := holding.turns_away request (some fuzzer)
              exact absurd ends came.not_ends
          | run parts => exact holding.step_run came
          | close => exact holding.step_close came

/-- Whatever uses were made, the process is at a stage. -/
theorem Lives.stage {uses : List Use} (lives : Lives first uses held p) :
    Stage first (uses.any Use.asks) held p := by
  induction lives with
  | untouched => exact .untouched first.stack
  | later before came ih =>
      rw [List.any_append, List.any_cons, List.any_nil, Bool.or_false]
      exact ih.next hosted unused came

end

end

/-! ## One session -/

open Call

/-- What the host heard of a process since `first`: one handshake once the session was used,
the payload buffer and the execution mode at most once, and at most one snapshot. -/
structure Sparing (first : Subject) (used : Bool) (p : Subject) : Prop where
  calls : ∃ calls, first.Made p calls ∧
    tally .getHostConfig calls = used.toNat ∧ tally .setAgentConfig calls = used.toNat ∧
    tally .getPayload calls ≤ 1 ∧ tally .userSubmitMode calls ≤ 1
  snapshots : p.vm.host.snapshots ≤ 1

/-- What comes of a run on a live handle, whatever its callback asks for. -/
inductive Runs (first : Subject) (fuzzer : Fuzzer) (p : Subject) (stack : List UInt64) : Prop
  /-- No input can be had: the host hears why and the process ends. -/
  | failed {q : Subject} {calls : List Call} (error : AgentError) (made : p.Made q calls)
      (goesOn : ∀ call ∈ calls, call.isTerminal = false) (sparing : Sparing first true q)
      (ends : ∀ parts, ∃ how r late,
        step ⟨stack, (Use.run parts).operation⟩ (some fuzzer) p = (.error how, r) ∧
        q.Made r (.userAbort (hostText error.message) :: late))
  /-- The callback gets this input.  If it only prints it comes back, and on the first request
  that it makes the process is turned away. -/
  | called {q : Subject} {calls : List Call} (input : Bytes) (made : p.Made q calls)
      (goesOn : ∀ call ∈ calls, call.isTerminal = false) (sparing : Sparing first true q)
      (back : ∀ parts, (parts input).any Part.asks = false → ∃ next r,
        step ⟨stack, (Use.run parts).operation⟩ (some fuzzer) p =
          (.ok (.ran [input] (some next.agent.state), some next), r))
      (away : ∀ parts, (parts input).any Part.asks = true → ∃ how asking r,
        step ⟨stack, (Use.run parts).operation⟩ (some fuzzer) p = (.error how, r) ∧
        q.Made asking (Part.prints (parts input)) ∧ asking.TurnedAway r)

/-- What holds of a process that shares one session among all who ask for it. -/
structure Shares (first : Subject) (used : Bool) (held : Option Fuzzer) (p : Subject) : Prop where
  sparing : Sparing first used p
  /-- A start that comes back tells the size of the host's payload buffer. -/
  size : ∀ stack answer next q, step ⟨stack, .start⟩ held p = (.ok (answer, next), q) →
    answer = .number first.vm.host.config.payloadBufferSize.toNat
  /-- It comes back unless a handle is live, or the process cannot attach. -/
  starts : held = none → used = true ∨ first.Free ∧ first.Takes → ∀ stack, ∃ q,
    step ⟨stack, .start⟩ held p =
      (.ok (.number first.vm.host.config.payloadBufferSize.toNat, none), q)
  /-- Whoever asks while a handle is live is turned away. -/
  away : ∀ fuzzer, held = some fuzzer → ∀ stack (request : Request), ∃ how q,
    step ⟨stack, request.operation⟩ held p = (.error how, q) ∧ p.TurnedAway q
  runs : ∀ fuzzer, held = some fuzzer → ∀ stack, Runs first fuzzer p stack

section

variable {first p q : Subject} {used : Bool} {held : Option Fuzzer} {agent : Agent}
  {region : Region}

theorem InSession.sparing (inSession : InSession first agent region p) :
    Sparing first true p := by
  obtain ⟨calls, made, asked, declared, announced, submitted⟩ := inSession.counted
  refine ⟨⟨calls, made, asked, declared, ?_, ?_⟩, inSession.once⟩
  · rw [announced]
    exact Bool.toNat_le _
  · rw [submitted]
    exact Bool.toNat_le _

theorem Stage.sparing (stage : Stage first used held p) (hosted : first.Hosted) :
    Sparing first used p := by
  cases stage with
  | untouched stack =>
      refine ⟨⟨[], made_of_trail rfl, rfl, rfl, Nat.zero_le 1, Nat.zero_le 1⟩, ?_⟩
      show first.vm.host.snapshots ≤ 1
      rw [hosted.once]
      exact Nat.zero_le 1
  | free inSession slot nobody => exact inSession.sparing
  | driven holding => exact holding.inSession.sparing

theorem TurnedAway.onStack {stack : List UInt64} (away : (p.onStack stack).TurnedAway q) :
    p.TurnedAway q := by
  obtain ⟨late, made, reports⟩ := away
  exact ⟨late, made.of_trail rfl, reports⟩

/-- A start of a process comes back with one size only. -/
theorem Stage.start_size (stage : Stage first used held p) (hosted : first.Hosted)
    (unused : first.session = .empty) {answer : Answer} {next : Option Fuzzer}
    (came : Returns ((perform .start).run held) p (answer, next) q) :
    answer = .number first.vm.host.config.payloadBufferSize.toNat := by
  cases held with
  | none =>
      obtain ⟨size, r, started, rest⟩ := Returns.of_lift came
      obtain ⟨same, rfl⟩ := rest.unique (returns_pure _ r)
      cases same
      rw [(stage.start hosted unused started).1]
  | some fuzzer =>
      cases stage with
      | driven holding =>
          obtain ⟨how, last, ends, -⟩ := holding.turns_away .start (some fuzzer)
          exact absurd ends came.not_ends

/-- A start comes back where the session is free or can be made. -/
theorem Stage.starts (stage : Stage first used none p) (hosted : first.Hosted)
    (unused : first.session = .empty) (able : used = true ∨ first.Free ∧ first.Takes) :
    ∃ q, Returns ((perform .start).run none) p
      (.number first.vm.host.config.payloadBufferSize.toNat, none) q := by
  rcases stage.hostSession_cases hosted unused with ⟨agent, region, q, asked, holding⟩ |
      ⟨unasked, unable, -⟩
  · obtain ⟨left, leaves, -⟩ := holding.leave
    have started : Returns Exports.start p agent.maxInputSize left :=
      asked.bind (leaves.bind (returns_pure _ left))
    rw [holding.inSession.sized] at started
    exact ⟨left, (started.lift none).state_bind (state_returns_pure _ none left)⟩
  · rcases able with asked | able
    · rw [unasked] at asked
      cases asked
    · exact absurd able unable

/-- While a handle is live whoever asks is turned away. -/
theorem Stage.away {fuzzer : Fuzzer} (stage : Stage first used (some fuzzer) p)
    (stack : List UInt64) (request : Request) : ∃ how q,
      step ⟨stack, request.operation⟩ (some fuzzer) p = (.error how, q) ∧ p.TurnedAway q := by
  cases stage.onStack stack with
  | driven holding =>
      obtain ⟨how, q, ends, away⟩ := holding.turns_away request (some fuzzer)
      exact ⟨how, q, ends, away.onStack⟩

/-- A live handle runs the callback on one input in the session. -/
theorem Stage.runs {fuzzer : Fuzzer} (stage : Stage first used (some fuzzer) p)
    (stack : List UInt64) : Runs first fuzzer p stack := by
  cases stage.onStack stack with
  | driven holding =>
      obtain ⟨agent, q, calls, made, goesOn, held, ⟨error, ends⟩ | ⟨input, ways⟩⟩ := holding.run
      · refine .failed error (made.of_trail rfl) goesOn held.inSession.sparing fun parts => ?_
        obtain ⟨how, r, late, ended, reported, -⟩ := ends parts
        exact ⟨how, r, late, ended, reported⟩
      · refine .called input (made.of_trail rfl) goesOn held.inSession.sparing ?_ ?_
        · intro parts none
          obtain ⟨next, r, returns, -⟩ := (ways parts).1 none
          exact ⟨next, r, returns⟩
        · intro parts some
          exact (ways parts).2 some

/-- Whatever uses of the session a process made, in whatever order and by whichever of its
two interfaces: there was one handshake, and whoever asks while a handle is live is turned
away, a callback included. -/
theorem one_session {uses : List Use} (hosted : first.Hosted) (unused : first.session = .empty)
    (lives : Lives first uses held p) : Shares first (uses.any Use.asks) held p := by
  have stage := lives.stage hosted unused
  refine ⟨stage.sparing hosted, ?_, ?_, ?_, ?_⟩
  · intro stack answer next q came
    exact (stage.onStack stack).start_size hosted unused came
  · rintro rfl able stack
    exact (stage.onStack stack).starts hosted unused able
  · rintro fuzzer rfl stack request
    exact stage.away stack request
  · rintro fuzzer rfl stack
    exact stage.runs stack

end

/-- A process on an ordinary kernel, under a host with room for inputs of 256 bytes. -/
def beginner : Subject :=
  fresh (Vm.fresh .ordinary .absent (Host.fresh (.compatible 0x40 0x100))) (.standard 0) true
    fun _ => none

/-- It may open a handle first. -/
theorem one_session_driven :
    beginner.Hosted ∧ beginner.session = .empty ∧ ∃ fuzzer p,
      Lives beginner [.ask .drive] (some fuzzer) p ∧ Shares beginner true (some fuzzer) p := by
  have hosted : beginner.Hosted :=
    ⟨rfl, ⟨rfl, rfl⟩, by decide, rfl, Kernel.ordinary_grants, Memory.fresh_hasRoom .ordinary⟩
  have able : beginner.Free ∧ beginner.Takes := ⟨⟨rfl, rfl⟩, takes_of_no_refusals rfl rfl⟩
  obtain ⟨agent, region, p, asked, -⟩ := (hostSession_of_untouched hosted rfl []).1 able
  have opened : Returns openFuzzer (beginner.onStack []) (Fuzzer.ofAgent agent) p :=
    asked.bind (returns_pure _ p)
  have driven : Returns ((perform .openFuzzer).run none) (beginner.onStack [])
      (.opened (Fuzzer.ofAgent agent).maxInputSize agent.state, some (Fuzzer.ofAgent agent)) p := by
    refine (opened.lift none).state_bind ?_
    exact (state_returns_set _ (some (Fuzzer.ofAgent agent)) p).state_bind
      (state_returns_pure _ _ p)
  have lives : Lives beginner [.ask .drive] (some (Fuzzer.ofAgent agent)) p :=
    .later .untouched driven
  exact ⟨hosted, rfl, _, p, lives, one_session hosted rfl lives⟩

end Rewind.Subject
