/-
# Rewind.Proofs.Process -- what the actions of a process add to its trail

An action of a process comes back with an answer (`Subject.Returns`) or ends the process
(`Subject.Ends`), and either way the trail only grows.  `Subject.Made` lists the hypercalls
that were made in between.

Main statements: `Subject.returns_relay` (a process sees the events of its guest one after
another) and `Subject.guest_returns` (it sees what happened in its guest, with log records in
between).
-/
import Rewind.Exports
import Rewind.Proofs.Actions

namespace Rewind

set_option autoImplicit false

namespace Occurrence

/-- The hypercall that an occurrence is. -/
def call? : Occurrence → Option Call
  | called _ call _ => some call
  | handled _ => none

end Occurrence

namespace Subject

/-! ## The calls made in between -/

/-- From one state of a process to the other these hypercalls were made, in this order. -/
def Made (before after : Subject) (calls : List Call) : Prop :=
  ∃ happened, after.trail = before.trail ++ happened ∧
    happened.filterMap Occurrence.call? = calls

theorem Made.trans {p q r : Subject} {early late : List Call} (first : p.Made q early)
    (second : q.Made r late) : p.Made r (early ++ late) := by
  obtain ⟨happened, grown, rfl⟩ := first
  obtain ⟨more, grownMore, rfl⟩ := second
  exact ⟨happened ++ more, by rw [grownMore, grown, List.append_assoc], List.filterMap_append⟩

theorem made_of_trail {before after : Subject} (same : after.trail = before.trail) :
    before.Made after [] :=
  ⟨[], by rw [same, List.append_nil], rfl⟩

theorem Made.refl (p : Subject) : p.Made p [] := made_of_trail rfl

/-- What was made in between is known from the two states. -/
theorem Made.unique {before after : Subject} {calls others : List Call}
    (made : before.Made after calls) (other : before.Made after others) : calls = others := by
  obtain ⟨happened, grown, rfl⟩ := made
  obtain ⟨again, grownAgain, rfl⟩ := other
  rw [List.append_cancel_left (grown.symm.trans grownAgain)]

/-- The same trail may be looked at from a state that has the same trail. -/
theorem Made.of_trail {before other after : Subject} {calls : List Call}
    (made : before.Made after calls) (same : other.trail = before.trail) :
    other.Made after calls := by
  obtain ⟨happened, grown, listed⟩ := made
  exact ⟨happened, by rw [same, grown], listed⟩

/-- The process with more on its trail. -/
def grown (p : Subject) (happened : List Occurrence) : Subject :=
  { p with trail := p.trail ++ happened }

@[simp] theorem grown_nil (p : Subject) : p.grown [] = p := by
  rw [grown, List.append_nil]

@[simp] theorem grown_grown (p : Subject) (early late : List Occurrence) :
    (p.grown early).grown late = p.grown (early ++ late) := by
  simp only [grown, List.append_assoc]

theorem made_grown (p : Subject) (happened : List Occurrence) :
    p.Made (p.grown happened) (happened.filterMap Occurrence.call?) :=
  ⟨happened, rfl, rfl⟩

/-! ## How an action comes out -/

section

variable {α β : Type}

/-- The action comes back with an answer and leaves the process in this state. -/
def Returns (action : SubjectM α) (p : Subject) (a : α) (q : Subject) : Prop :=
  action.run.run p = (.ok a, q)

/-- The action ends the process, and this is what is left of it. -/
def Ends (action : SubjectM α) (p : Subject) (how : Ending) (q : Subject) : Prop :=
  action.run.run p = (.error how, q)

/-- What an action leaves, however it came out. -/
def left (action : SubjectM α) (p : Subject) : Subject := (action.run.run p).2

variable {action : SubjectM α} {next : α → SubjectM β} {p q r : Subject} {a : α} {b : β}
  {how : Ending}

theorem Returns.left_eq (returns : Returns action p a q) : left action p = q :=
  congrArg Prod.snd returns

theorem Ends.left_eq (ends : Ends action p how q) : left action p = q :=
  congrArg Prod.snd ends

theorem returns_or_ends (action : SubjectM α) (p : Subject) :
    (∃ a, Returns action p a (left action p)) ∨ ∃ how, Ends action p how (left action p) := by
  cases came : (action.run.run p).1 with
  | ok a => exact .inl ⟨a, Prod.ext came rfl⟩
  | error how => exact .inr ⟨how, Prod.ext came rfl⟩

theorem bind_run (action : SubjectM α) (next : α → SubjectM β) (p : Subject) :
    (action >>= next).run.run p =
      match action.run.run p with
      | (.ok a, q) => (next a).run.run q
      | (.error how, q) => (.error how, q) := by
  simp only [ExceptT.run_bind, StateT.run_bind]
  rcases action.run.run p with ⟨came | came, q⟩
  · rfl
  · rfl

/-- Once the first part came back, the rest decides. -/
theorem Returns.run_bind (first : Returns action p a q) (next : α → SubjectM β) :
    (action >>= next).run.run p = (next a).run.run q := by
  rw [Subject.bind_run, first]

theorem Returns.bind (first : Returns action p a q) (second : Returns (next a) q b r) :
    Returns (action >>= next) p b r := by
  rw [Returns, bind_run, first]
  exact second

theorem Returns.ends (first : Returns action p a q) (second : Ends (next a) q how r) :
    Ends (action >>= next) p how r := by
  rw [Ends, bind_run, first]
  exact second

theorem Ends.bind (first : Ends action p how q) (next : α → SubjectM β) :
    Ends (action >>= next) p how q := by
  rw [Ends, bind_run, first]

/-- An action that comes back does so in all its parts. -/
theorem Returns.parts (whole : Returns (action >>= next) p b r) :
    ∃ a q, Returns action p a q ∧ Returns (next a) q b r := by
  rcases returns_or_ends action p with ⟨a, first⟩ | ⟨how, ends⟩
  · refine ⟨a, _, first, ?_⟩
    rwa [Returns, bind_run, first] at whole
  · rw [Returns, ends.bind next] at whole
    cases whole

theorem Returns.unique {a' : α} {q' : Subject} (one : Returns action p a q)
    (other : Returns action p a' q') : a = a' ∧ q = q' := by
  obtain ⟨same, left⟩ := Prod.mk.inj (one.symm.trans other)
  exact ⟨Except.ok.inj same, left⟩

theorem Returns.not_ends {q' : Subject} (returns : Returns action p a q) :
    ¬ Ends action p how q' := by
  intro ends
  cases (Prod.mk.inj (returns.symm.trans ends)).1

theorem returns_pure (a : α) (p : Subject) : Returns (pure a) p a p := rfl

theorem returns_get (p : Subject) : Returns get p p p := rfl

theorem returns_set (p q : Subject) : Returns (set q) p () q := rfl

theorem returns_modify (f : Subject → Subject) (p : Subject) :
    Returns (modify f) p () (f p) := rfl

theorem ends_finish (how : Ending) (p : Subject) : Ends (finish how : SubjectM α) p how p := rfl

end

/-! ## One hypercall -/

/-- What a hypercall leaves on the trail. -/
def traced (channel : Channel) (call : Call) (trace : Option Buffer) : List Occurrence :=
  if channel.sees call then [.called channel call trace] else []

/-- A hypercall leaves itself on the trail and nothing else, whether or not it ends the
process. -/
theorem left_call (channel : Channel) (c : Call) (trace : Option Buffer) (p : Subject) :
    left (call channel c trace) p = p.grown (traced channel c trace) := by
  obtain ⟨id, stopsOnAbort, lingers, textOnly⟩ := channel
  unfold traced
  cases c <;> cases textOnly <;> cases stopsOnAbort <;> cases lingers <;>
    first | rfl | exact p.grown_nil.symm

/-- A hypercall that reports no end comes back. -/
theorem returns_call {channel : Channel} {c : Call} (goesOn : c.isTerminal = false)
    (trace : Option Buffer) (p : Subject) :
    Returns (call channel c trace) p () (p.grown (traced channel c trace)) := by
  refine Prod.ext ?_ (left_call channel c trace p)
  obtain ⟨id, stopsOnAbort, lingers, textOnly⟩ := channel
  cases c <;> cases textOnly <;> first | rfl | cases goesOn

/-! ## What a process sees of its guest -/

/-- What the logger of a process leaves on the trail for a record. -/
def printed (p : Subject) (record : LogRecord) : List Occurrence :=
  match p.logger with
  | some (channel, threshold) =>
      if p.maxLevel.admits record.level && threshold.admits record.level then
        traced channel (.printf (hostText (Logger.line record))) none
      else []
  | none => []

theorem returns_log (record : LogRecord) (p : Subject) :
    Returns (log record) p () (p.grown (p.printed record)) := by
  have quiet : Returns (pure ()) p () (p.grown []) := by
    rw [grown_nil]
    exact returns_pure () p
  refine (returns_get p).bind ?_
  unfold printed
  cases admitted : p.maxLevel.admits record.level with
  | false =>
      cases p.logger with
      | none => exact quiet
      | some target => exact quiet
  | true =>
      cases p.logger with
      | none => exact quiet
      | some target =>
          obtain ⟨channel, threshold⟩ := target
          cases lets : threshold.admits record.level with
          | false =>
              simp only [Logger.call?, lets]
              exact quiet
          | true =>
              simp only [Logger.call?, lets]
              exact returns_call rfl none p

/-- Records are logged one after another. -/
theorem returns_logs (records : List LogRecord) (p : Subject) :
    Returns (records.forM log) p () (p.grown (records.flatMap p.printed)) := by
  induction records generalizing p with
  | nil =>
      rw [List.flatMap_nil, grown_nil]
      exact returns_pure () p
  | cons record rest ih =>
      rw [List.flatMap_cons, ← grown_grown]
      exact (returns_log record p).bind (ih (p.grown (p.printed record)))

/-- A logger only prints. -/
theorem printed_calls (p : Subject) (record : LogRecord) :
    ∀ call ∈ (p.printed record).filterMap Occurrence.call?, call.op = .printf := by
  intro call member
  unfold printed at member
  split at member
  · split at member
    · unfold traced at member
      split at member
      · obtain rfl := List.mem_singleton.mp member
        rfl
      · cases member
    · cases member
  · cases member

/-- What an event of a guest leaves on the trail. -/
def seen (p : Subject) (channel : Channel) : Event → List Occurrence
  | .called c trace => traced channel c trace
  | .logged record => p.printed record
  | .locked .. | .unlocked .. => []

/-- Where hypercalls are served a process sees the events of its guest one after another, and none
that reports no end stops it. -/
theorem returns_relay (channel : Channel) {events : List Event}
    (goesOn : ∀ call ∈ events.filterMap Event.call?, call.isTerminal = false) (p : Subject) :
    Returns (relay channel true events) p () (p.grown (events.flatMap (p.seen channel))) := by
  induction events generalizing p with
  | nil =>
      rw [List.flatMap_nil, grown_nil]
      exact returns_pure () p
  | cons event rest ih =>
      have later : ∀ call ∈ rest.filterMap Event.call?, call.isTerminal = false := by
        intro call member
        obtain ⟨origin, inside, same⟩ := List.mem_filterMap.mp member
        exact goesOn call (List.mem_filterMap.mpr ⟨origin, List.mem_cons_of_mem _ inside, same⟩)
      have quiet : Returns (pure ()) p () (p.grown []) := by
        rw [grown_nil]
        exact returns_pure () p
      rw [List.flatMap_cons, ← grown_grown]
      -- The logger is the same behind the first event, so the rest is seen as before.
      refine Returns.bind (a := ()) ?_ (ih later (p.grown (p.seen channel event)))
      cases event with
      | called c trace => exact returns_call (goesOn c List.mem_cons_self) trace p
      | logged record => exact returns_log record p
      | locked addr len => exact quiet
      | unlocked addr len => exact quiet

/-- An action of the guest runs, and the process then sees what happened there. -/
theorem guest_run {α : Type} {action : VmM α} {p : Subject} {a : α} {vm : Vm}
    {events : List Event} (ran : action.run p.vm = (a, vm))
    (grown : vm.history = p.vm.history ++ events) :
    (guest α action).run.run p =
      (do relay p.channel p.served events; return a : SubjectM α).run.run { p with vm := vm } := by
  have drops : vm.history.drop p.vm.history.length = events := by
    rw [grown, List.drop_left]
  refine ((returns_get p).run_bind _).trans ?_
  simp only [ran]
  refine ((returns_set p { p with vm := vm }).run_bind _).trans ?_
  rw [drops]

/-- An action of the guest comes back whatever its answer, provided that it reports no end. -/
theorem returns_guest {α : Type} {action : VmM α} {p : Subject} {a : α} {vm : Vm}
    {events : List Event} (served : p.served = true) (ran : action.run p.vm = (a, vm))
    (grown : vm.history = p.vm.history ++ events)
    (goesOn : ∀ call ∈ events.filterMap Event.call?, call.isTerminal = false) :
    Returns (guest α action) p a
      ({ p with vm := vm }.grown (events.flatMap (p.seen p.channel))) := by
  rw [Returns, guest_run ran grown, served]
  exact (returns_relay p.channel goesOn { p with vm := vm }).bind (returns_pure a _)

/-- What a print tells the host. -/
def printCall (text : Exports.CText) : Call := .printf (hostText (Exports.read text))

/-- A print goes to the host behind the hypercall instruction. -/
theorem returns_print {p : Subject} (served : p.served = true) (text : Exports.CText) :
    Returns (Exports.print text) p () ({ p with vm := p.vm.serve (printCall text) }.grown
      [.called p.channel (printCall text) (p.vm.host.trace? p.vm.memory)]) := by
  have goesOn : ∀ call ∈ [Event.called (printCall text)
      (p.vm.host.trace? p.vm.memory)].filterMap Event.call?, call.isTerminal = false := by
    intro call member
    obtain rfl := List.mem_singleton.mp member
    rfl
  have sees : p.channel.sees (printCall text) = true := Bool.or_true _
  have returns := returns_guest served (Vm.hypercall_run (printCall text) p.vm) rfl goesOn
  rwa [List.flatMap_singleton, seen, traced, if_pos sees] at returns

end Subject

/-! ## The calls behind the prints -/

namespace Call

/-- The calls that are no prints. -/
def unprinted (calls : List Call) : List Call := calls.filter fun call => call.op != .printf

@[simp] theorem unprinted_append (early late : List Call) :
    unprinted (early ++ late) = unprinted early ++ unprinted late := List.filter_append ..

theorem unprinted_of_prints {calls : List Call} (prints : ∀ call ∈ calls, call.op = .printf) :
    unprinted calls = [] := by
  rw [unprinted, List.filter_eq_nil_iff]
  intro call member
  rw [prints call member]
  decide

/-- Prints aside the same calls: none of them reports an end if none of the others does. -/
theorem go_on_of_unprinted {calls others : List Call} (same : unprinted calls = unprinted others)
    (goesOn : ∀ call ∈ others, call.isTerminal = false) :
    ∀ call ∈ calls, call.isTerminal = false := by
  intro call member
  by_cases print : call.op = .printf
  · cases call with
    | printf text => rfl
    | _ => cases print
  · have kept : call ∈ unprinted calls := List.mem_filter.mpr ⟨member, bne_iff_ne.mpr print⟩
    rw [same] at kept
    exact goesOn call (List.mem_filter.mp kept).1

end Call

namespace Subject

/-- A host that sees every call learns of the guest what the guest did, with prints in
between. -/
theorem unprinted_seen {p : Subject} {channel : Channel} (all : channel.textOnly = false)
    (events : List Event) :
    Call.unprinted ((events.flatMap (p.seen channel)).filterMap Occurrence.call?) =
      Call.unprinted (events.filterMap Event.call?) := by
  induction events with
  | nil => rfl
  | cons event rest ih =>
      rw [List.flatMap_cons, List.filterMap_append, Call.unprinted_append, ih]
      cases event with
      | called c trace =>
          have sees : channel.sees c = true := by rw [Channel.sees, all]; rfl
          rw [seen, traced, if_pos sees]
          exact (Call.unprinted_append [c] _).symm
      | logged record => rw [seen, Call.unprinted_of_prints (p.printed_calls record)]; rfl
      | locked addr len => rfl
      | unlocked addr len => rfl

/-- What an action of the guest makes of a process: its answer comes back, the machine is
as the action left it, and the calls are those of the action with prints in between. -/
theorem guest_returns {α : Type} {action : VmM α} {p : Subject} {a : α} {vm : Vm}
    {calls : List Call} (served : p.served = true) (all : p.channel.textOnly = false)
    (ran : action.run p.vm = (a, vm)) (made : p.vm.Made vm calls)
    (goesOn : ∀ call ∈ calls, call.isTerminal = false) :
    ∃ happened, Returns (guest α action) p a ({ p with vm := vm }.grown happened) ∧
      Call.unprinted (happened.filterMap Occurrence.call?) = Call.unprinted calls ∧
      ∀ call ∈ happened.filterMap Occurrence.call?, call.isTerminal = false := by
  obtain ⟨events, grown, rfl⟩ := made
  have same := unprinted_seen (p := p) all events
  exact ⟨_, returns_guest served ran grown goesOn, same, Call.go_on_of_unprinted same goesOn⟩

end Subject

end Rewind
