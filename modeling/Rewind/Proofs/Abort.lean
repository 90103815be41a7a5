/-
# Rewind.Proofs.Abort -- what a host still hears of a process that aborts

To abort is to raise a signal, unless the agent's library stands in front of the C library;
then it is a report at once.  The signal has whatever action was registered for it, and with
the crash handlers in place that action reports too.  Where it is ignored it is reset and
raised again, and where the kernel refuses even that an instruction that is not allowed
raises another signal.

`Subject.abortReason?` follows these ways and says what is reported at the end of them, if
anything is.  An error of the agent goes to the host first and the process then aborts, so
the same report may stand behind it.

Main statements: `Subject.abort_endsWith`, `Subject.abortWith_endsWith` and
`Subject.abortWith_ends` (an error reaches the host first and ends the process).
-/
import Rewind.Proofs.Process

namespace Rewind.Subject

set_option autoImplicit false

/-! ## The actions of signals -/

section

variable {p : Subject} {number other : Int} {new : SignalAction}

theorem action_setAction (p : Subject) (number : Int) (new : SignalAction) :
    (p.setAction number new).action number = new := by
  rw [action, setAction, List.lookup_cons_self]
  rfl

/-- The actions of other signals stay. -/
theorem action_setAction_of_ne (different : other ≠ number) :
    (p.setAction number new).action other = p.action other := by
  have kept (entries : List (Int × SignalAction)) :
      (entries.filter fun entry => entry.1 != number).lookup other = entries.lookup other := by
    induction entries with
    | nil => rfl
    | cons entry rest ih =>
        by_cases same : entry.1 = number
        · have passed : (other == entry.1) = false := by
            rw [same, beq_eq_false_iff_ne]
            exact different
          rw [List.filter_cons_of_neg (by simp [same]), ih, List.lookup_cons, passed]
        · rw [List.filter_cons_of_pos (by simp [same]), List.lookup_cons, List.lookup_cons, ih]
  have front : (other == number) = false := beq_eq_false_iff_ne.mpr different
  rw [action, setAction, List.lookup_cons, front]
  exact congrArg (Option.getD · .standard) (kept p.actions)

end

/-- The kernel refuses a request and says why. -/
def Refuses (p : Subject) (request : SignalRequest) : Prop :=
  ∃ errno : Errno, p.refusal? request = some errno ∧ errno ≠ ⟨0⟩

section

variable {p : Subject} {request : SignalRequest}

/-- What the kernel takes is registered. -/
theorem returns_sigaction_of_taken (taken : p.refusal? request = none) :
    Returns (sigaction request) p
      ⟨0, ⟨0⟩, if request.wantsOld then some (p.action request.number) else none⟩
      (request.action.elim p (p.setAction request.number)) := by
  refine (returns_get p).bind ?_
  simp only [taken]
  cases request.action with
  | none => exact returns_pure _ p
  | some new => exact (returns_set p _).bind (returns_pure _ _)

/-- What it refuses changes nothing, whether or not it says so. -/
theorem returns_sigaction_of_refused {errno : Errno} (refused : p.refusal? request = some errno) :
    Returns (sigaction request) p
      (if errno = ⟨0⟩ then ⟨0, ⟨0⟩, none⟩ else ⟨-1, errno, none⟩) p := by
  refine (returns_get p).bind ?_
  simp only [refused]
  by_cases silent : errno = ⟨0⟩
  · subst silent
    exact returns_pure _ p
  · rw [if_neg silent]
    simp only
    exact returns_pure _ p

/-- The kernel's registration comes back and changes the actions alone. -/
theorem returns_sigaction (request : SignalRequest) (p : Subject) :
    ∃ answer actions, Returns (sigaction request) p answer { p with actions := actions } ∧
      (answer.ret = -1 ↔ p.Refuses request) := by
  have good : ¬ (0 : Int) = -1 := by decide
  cases refusal : p.refusal? request with
  | none =>
      have served := returns_sigaction_of_taken refusal
      have only : request.action.elim p (p.setAction request.number) =
          { p with actions := (request.action.elim p (p.setAction request.number)).actions } := by
        cases request.action <;> rfl
      rw [only] at served
      refine ⟨_, _, served, iff_of_false good ?_⟩
      rintro ⟨errno, refused, -⟩
      rw [refusal] at refused
      cases refused
  | some errno =>
      refine ⟨_, p.actions, returns_sigaction_of_refused refusal, ?_⟩
      by_cases silent : errno = ⟨0⟩
      · rw [if_pos silent]
        refine iff_of_false good ?_
        rintro ⟨other, refused, reason⟩
        rw [refusal, silent] at refused
        exact reason (Option.some.inj refused).symm
      · rw [if_neg silent]
        exact iff_of_true rfl ⟨errno, refusal, silent⟩

end

/-! ## One report -/

/-- What the host of the crash reports hears, if there is one. -/
def crashCalls (p : Subject) (reason : String) : List Call :=
  if p.crashChannel.isSome then
    [.panicExtended (Report.hostReport p.places (some reason) p.stack).cString]
  else []

section

variable {α : Type}

/-- The action ends the process, and these hypercalls are made before. -/
def EndsWith (action : SubjectM α) (p : Subject) (calls : List Call) : Prop :=
  ∃ how q, Ends action p how q ∧ p.Made q calls

theorem endsWith_finish (how : Ending) (p : Subject) :
    EndsWith (finish how : SubjectM α) p [] :=
  ⟨how, p, ends_finish how p, .refl p⟩

section

variable {β : Type} {action : SubjectM α} {next : α → SubjectM β} {p q : Subject} {a : α}
  {calls early late : List Call}

theorem EndsWith.bind (ends : EndsWith action p calls) (next : α → SubjectM β) :
    EndsWith (action >>= next) p calls := by
  obtain ⟨how, q, ends, made⟩ := ends
  exact ⟨how, q, ends.bind next, made⟩

theorem EndsWith.behind (first : Returns action p a q) (made : p.Made q early)
    (rest : EndsWith (next a) q late) : EndsWith (action >>= next) p (early ++ late) := by
  obtain ⟨how, r, ends, more⟩ := rest
  exact ⟨how, r, first.ends ends, made.trans more⟩

/-- An action that only looks at the process comes first. -/
theorem EndsWith.after (first : Returns action p a p) (rest : EndsWith (next a) p late) :
    EndsWith (action >>= next) p late :=
  EndsWith.behind first (.refl p) rest

end

/-- A report ends the process. -/
theorem panicWithBacktrace_endsWith (reason : String) (p : Subject) :
    EndsWith (panicWithBacktrace (some reason) : SubjectM α) p (p.crashCalls reason) := by
  refine EndsWith.after (returns_get p) ?_
  unfold crashCalls
  cases p.crashChannel with
  | none =>
      refine EndsWith.behind (returns_modify _ p) (made_of_trail rfl) ?_
      exact endsWith_finish _ _
  | some channel =>
      let report : Call :=
        .panicExtended (Report.hostReport p.places (some reason) p.stack).cString
      have sees : channel.sees report = true := Bool.or_true _
      have made : p.Made (left (call channel report none) p) [report] := by
        rw [left_call, traced, if_pos sees]
        exact p.made_grown _
      rcases returns_or_ends (call channel report none) p with ⟨_, returns⟩ | ⟨how, ends⟩
      · exact EndsWith.behind returns made (endsWith_finish _ _)
      · exact EndsWith.bind ⟨how, _, ends, made⟩ _

end

/-! ## One signal -/

section

variable {p : Subject} {number : Int}

/-- What a signal does to a process follows the action that is registered for it. -/
theorem act_of_caught (caught : number ≠ Signal.kill.number)
    (handler : (p.action number).handler = .crashReport) :
    (act number).run.run p = (handleFault number : SubjectM Unit).run.run p := by
  rw [act, if_neg caught]
  refine ((returns_get p).run_bind _).trans ?_
  simp only [handler]

theorem act_of_own (caught : number ≠ Signal.kill.number)
    (handler : (p.action number).handler = .own) :
    Ends (act number) p (.exited 0) (p.grown [.handled number]) := by
  rw [act, if_neg caught]
  refine (returns_get p).ends ?_
  simp only [handler]
  have noted : Returns (note (.handled number)) p () (p.grown [.handled number]) :=
    returns_modify _ p
  exact noted.ends (ends_finish _ _)

theorem act_of_standard (caught : number ≠ Signal.kill.number)
    (deadly : harmless.contains number = false)
    (handler : (p.action number).handler = .standard) :
    Ends (act number) p (.killed number) p := by
  rw [act, if_neg caught]
  refine (returns_get p).ends ?_
  simp only [handler, deadly]
  exact ends_finish _ p

theorem act_of_ignored (caught : number ≠ Signal.kill.number)
    (handler : (p.action number).handler = .ignore) : Returns (act number) p () p := by
  rw [act, if_neg caught]
  refine (returns_get p).bind ?_
  simp only [handler]
  exact returns_pure () p

/-- With the crash handler in place a signal is reported. -/
theorem act_reports (caught : number ≠ Signal.kill.number)
    (handler : (p.action number).handler = .crashReport) :
    EndsWith (act number) p (p.crashCalls (Report.signalReason number)) := by
  obtain ⟨how, q, ends, made⟩ :=
    panicWithBacktrace_endsWith (α := Unit) (Report.signalReason number) p
  exact ⟨how, q, (act_of_caught caught handler).trans ends, made⟩

/-- Without it nothing is heard of a signal that is deadly. -/
theorem act_endsWith (caught : number ≠ Signal.kill.number)
    (deadly : harmless.contains number = false)
    (handler : (p.action number).handler = .own ∨ (p.action number).handler = .standard) :
    EndsWith (act number) p [] := by
  rcases handler with own | standard
  · exact ⟨_, _, act_of_own caught own, p.made_grown _⟩
  · exact ⟨_, p, act_of_standard caught deadly standard, .refl p⟩

/-- A signal of the processor does what any signal does, unless it is ignored. -/
theorem trap_of_ends {α : Type} {how : Ending} {q : Subject}
    (heeded : (p.action number).handler ≠ .ignore) (ends : Ends (act number) p how q) :
    Ends (trap number : SubjectM α) p how q := by
  refine (returns_get p).ends ?_
  rw [if_pos heeded]
  exact ends.bind _

theorem trap_of_ignored {α : Type} (handler : (p.action number).handler = .ignore) :
    Ends (trap number : SubjectM α) p (.killed number) p := by
  refine (returns_get p).ends ?_
  rw [if_neg (not_not_intro handler)]
  exact ends_finish _ p

/-- The reason of the report that a signal of the processor comes to, if it comes to one. -/
def trapReason? (p : Subject) (number : Int) : Option String :=
  if (p.action number).handler = .crashReport then some (Report.signalReason number) else none

theorem trap_endsWith {α : Type} (caught : number ≠ Signal.kill.number)
    (deadly : harmless.contains number = false) (p : Subject) :
    EndsWith (trap number : SubjectM α) p ((p.trapReason? number).elim [] p.crashCalls) := by
  have heeds {calls : List Call} (heeded : (p.action number).handler ≠ .ignore)
      (acts : EndsWith (act number) p calls) : EndsWith (trap number : SubjectM α) p calls := by
    obtain ⟨how, q, ends, made⟩ := acts
    exact ⟨how, q, trap_of_ends heeded ends, made⟩
  unfold trapReason?
  cases handler : (p.action number).handler with
  | crashReport => exact heeds (by rw [handler]; decide) (act_reports caught handler)
  | own => exact heeds (by rw [handler]; decide) (act_endsWith caught deadly (.inl handler))
  | standard => exact heeds (by rw [handler]; decide) (act_endsWith caught deadly (.inr handler))
  | ignore => exact ⟨_, p, trap_of_ignored handler, .refl p⟩

end

/-! ## To abort -/

/-- The reason of the report that an abort comes to, if it comes to one. -/
def abortReason? (p : Subject) : Option String :=
  if p.overridesAbort then some "abort"
  else
    match (p.action Signal.abrt.number).handler with
    | .crashReport => some (Report.signalReason Signal.abrt.number)
    | .own | .standard => none
    | .ignore =>
        -- An ignored signal is reset, and only where that is refused does the abort go on.
        if (p.refusal? ⟨Signal.abrt.number, some .standard, false⟩).isSome then
          p.trapReason? Signal.segv.number
        else none

/-- What a host hears of an abort. -/
def abortCalls (p : Subject) : List Call :=
  p.abortReason?.elim [] p.crashCalls

/-- An abort ends the process, and this is all that is heard of it. -/
theorem abort_endsWith {α : Type} (p : Subject) :
    EndsWith (abort : SubjectM α) p p.abortCalls := by
  have caught : Signal.abrt.number ≠ Signal.kill.number := by decide
  have deadly : harmless.contains Signal.abrt.number = false := by decide
  refine EndsWith.after (returns_get p) ?_
  unfold abortCalls abortReason?
  by_cases overrides : p.overridesAbort = true
  · rw [if_pos overrides, if_pos overrides]
    exact (panicWithBacktrace_endsWith "abort" p).bind _
  · rw [if_neg overrides, if_neg overrides]
    cases handler : (p.action Signal.abrt.number).handler with
    | crashReport => exact (act_reports caught handler).bind _
    | own => exact (act_endsWith caught deadly (.inl handler)).bind _
    | standard => exact (act_endsWith caught deadly (.inr handler)).bind _
    | ignore =>
        refine EndsWith.after (act_of_ignored caught handler) ?_
        cases refusal : p.refusal? ⟨Signal.abrt.number, some .standard, false⟩ with
        | none =>
            -- The reset works, so the second signal kills the process.
            have standard : ((p.setAction Signal.abrt.number .standard).action
                Signal.abrt.number).handler = .standard := by
              rw [action_setAction]
              rfl
            refine EndsWith.behind (returns_sigaction_of_taken refusal)
              (made_of_trail rfl) ?_
            exact (act_endsWith caught deadly (.inr standard)).bind _
        | some errno =>
            have trapped {β : Type} := trap_endsWith (α := β)
              (show Signal.segv.number ≠ Signal.kill.number by decide) (by decide) p
            obtain ⟨answer, refused⟩ : ∃ answer, Returns (sigaction _) p answer p :=
              ⟨_, returns_sigaction_of_refused refusal⟩
            refine EndsWith.after refused ?_
            dsimp only
            rw [Option.isSome_some, if_pos rfl]
            split
            · exact trapped.bind _
            · exact EndsWith.after (act_of_ignored caught handler) trapped

/-- Nothing but a crash report comes of an abort. -/
theorem abortCalls_op (p : Subject) : ∀ call ∈ p.abortCalls, call.op = .panicExtended := by
  intro call member
  unfold abortCalls at member
  cases reason : p.abortReason? with
  | none =>
      rw [reason] at member
      cases member
  | some reason' =>
      rw [reason, Option.elim_some, crashCalls] at member
      split at member
      · obtain rfl := List.mem_singleton.mp member
        rfl
      · cases member

/-! ## Errors of the agent -/

section

variable {α : Type}

/-- The host hears of an error first.  It ends the process then, or the abort behind the
error is heard as well. -/
theorem hostAbort_endsWith (channel : Channel) (reason : String) (p : Subject) :
    EndsWith (hostAbort channel reason : SubjectM α) p
      (.userAbort (hostText reason) :: if channel.stopsOnAbort then [] else p.abortCalls) := by
  let told : Occurrence := .called channel (.userAbort (hostText reason)) none
  have called : (call channel (.userAbort (hostText reason)) none).run.run p =
      (if channel.stopsOnAbort then .error (.exited 0) else .ok (), p.grown [told]) := by
    obtain ⟨id, stopsOnAbort, lingers, textOnly⟩ := channel
    cases stopsOnAbort <;> cases textOnly <;> rfl
  cases stops : channel.stopsOnAbort with
  | true =>
      rw [stops] at called
      exact EndsWith.bind ⟨_, _, called, p.made_grown [told]⟩ _
  | false =>
      rw [stops] at called
      -- What an abort comes to does not depend on the trail.
      exact EndsWith.behind (a := ()) called (p.made_grown [told]) (abort_endsWith (p.grown [told]))

theorem abortWith_endsWith (error : AgentError) (p : Subject) :
    EndsWith (abortWith error : SubjectM α) p
      (.userAbort (hostText error.message) ::
        if p.channel.stopsOnAbort then [] else p.abortCalls) :=
  EndsWith.after (returns_get p) (hostAbort_endsWith p.channel error.message p)

/-- An error reaches the host before anything else, and the process ends; all that may still
come is a crash report. -/
theorem abortWith_ends (error : AgentError) (p : Subject) :
    ∃ how q late, Ends (abortWith error : SubjectM α) p how q ∧
      p.Made q (.userAbort (hostText error.message) :: late) ∧
      ∀ call ∈ late, call.op = .panicExtended := by
  obtain ⟨how, q, ends, made⟩ := abortWith_endsWith (α := α) error p
  refine ⟨how, q, _, ends, made, ?_⟩
  split
  · exact nofun
  · exact p.abortCalls_op

/-- The action never comes back. -/
def Final (action : SubjectM α) : Prop :=
  ∀ p, ∃ how, Ends action p how (left action p)

theorem final_of_endsWith {action : SubjectM α} (calls : Subject → List Call)
    (ends : ∀ p, EndsWith action p (calls p)) : Final action := by
  intro p
  obtain ⟨how, q, ended, -⟩ := ends p
  exact ⟨how, by rwa [ended.left_eq]⟩

theorem final_abort : Final (abort : SubjectM α) := final_of_endsWith _ abort_endsWith

theorem final_abortWith (error : AgentError) : Final (abortWith error : SubjectM α) :=
  final_of_endsWith _ (abortWith_endsWith error)

end

end Rewind.Subject
