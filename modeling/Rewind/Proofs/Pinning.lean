/-
# Rewind.Proofs.Pinning -- memory is locked exactly while the host uses it

The host writes inputs into the payload buffer and reads dumped bytes by their addresses,
so the pages of both have to be in memory during those calls.  An agent locks a range,
makes its calls and unlocks the range (`Access`).  Locks do not nest: a page is locked from
one lock to the next unlock of any range that touches it (`lockedPages`), so two accesses
that overlapped in time would take each other's pages away.

An operation makes its accesses one after another, up to the first whose lock is refused
(`Memory.grantedOf`).  From that everything follows, for every kernel.

Main statements: `Guest.accessed_make` (what each operation locks, uses and unlocks),
`Guest.pinned_while_used` (the same along every run).
-/
import Rewind.Proofs.Runs

namespace Rewind

set_option autoImplicit false

/-- A page of memory that the range touches. -/
def Region.OnPage (range : Region) (page : Nat) : Prop :=
  range.addr.toNat / Memory.pageSize ≤ page ∧
    page * Memory.pageSize < range.addr.toNat + range.len

namespace Call

/-- The host goes by addresses of the guest's memory while it serves the call. -/
def usesMemory : Call → Bool
  | getPayload _ | userFastAcquire _ | dumpFile _ _ _ _ => true
  | _ => false

/-- The memory that has to be there during a call, given the payload buffer: the buffer that
is announced or written into, or the bytes that are dumped. -/
def reach? (payload : Option Region) : Call → Option Region
  | getPayload addr => payload.filter fun region => region.addr = addr
  | userFastAcquire _ => payload
  | dumpFile _ addr content _ => some ⟨addr, content.size⟩
  | _ => none

theorem reach?_mono {payload later : Option Region}
    (kept : ∀ region, payload = some region → later = some region) {call : Call} {range : Region}
    (reached : call.reach? payload = some range) : call.reach? later = some range := by
  cases payload with
  | some region =>
      rw [kept region rfl]
      exact reached
  | none =>
      cases call with
      | dumpFile name addr content append => exact reached
      | _ => cases reached

end Call

/-- Something that is done with locked memory. -/
inductive Deed
  | lock (range : Region)
  | unlock (range : Region)
  | use (call : Call)

namespace Deed

/-- The locked pages behind a deed, given those before it.  Locks are not counted. -/
def after (locked : Nat → Prop) : Deed → Nat → Prop
  | lock range, page => locked page ∨ range.OnPage page
  | unlock range, page => locked page ∧ ¬ range.OnPage page
  | use _, page => locked page

end Deed

def unlocked : Nat → Prop := fun _ => False

/-- The locked pages behind some deeds, where none was locked before them. -/
def lockedPages (deeds : List Deed) : Nat → Prop := deeds.foldl Deed.after unlocked

/-- The deed that an event is. -/
def Event.deed? : Event → Option Deed
  | locked addr len => some (.lock ⟨addr, len⟩)
  | unlocked addr len => some (.unlock ⟨addr, len⟩)
  | called call _ => if call.usesMemory then some (.use call) else none
  | logged _ => none

/-- A range that is locked, with the calls made meanwhile. -/
structure Access where
  range : Region
  calls : List Call

namespace Access

def announcing (region : Region) : Access := ⟨region, [.getPayload region.addr]⟩

def asking (region : Region) : Access := ⟨region, [.userFastAcquire 0]⟩

def storing (name : Bytes) (data : Slice) (append : Bool) : Access :=
  ⟨⟨data.addr, data.content.size⟩,
    [.dumpFile (name.takeWhile (· != 0)) data.addr data.content append.toUInt8]⟩

def deeds (access : Access) : List Deed :=
  .lock access.range :: access.calls.map .use ++ [.unlock access.range]

/-- The calls of an access reach for the range that it locks and for no other. -/
def Fits (payload : Option Region) (access : Access) : Prop :=
  ∀ call ∈ access.calls, call.reach? payload = some access.range

theorem fits_announcing (region : Region) : (announcing region).Fits (some region) := by
  intro call member
  obtain rfl := List.mem_singleton.mp member
  simp [Call.reach?, announcing]

theorem fits_asking (region : Region) : (asking region).Fits (some region) := by
  intro call member
  obtain rfl := List.mem_singleton.mp member
  rfl

theorem fits_storing (payload : Option Region) (name : Bytes) (data : Slice) (append : Bool) :
    (storing name data append).Fits payload := by
  intro call member
  obtain rfl := List.mem_singleton.mp member
  rfl

end Access

/-! ## Locked pages -/

/-- At every use all pages that the host may reach for are locked, given those that are
locked before these deeds. -/
def Covered (payload : Option Region) : (Nat → Prop) → List Deed → Prop
  | _, [] => True
  | locked, .use call :: rest =>
      (∃ range, call.reach? payload = some range ∧ ∀ page, range.OnPage page → locked page) ∧
        Covered payload locked rest
  | locked, deed :: rest => Covered payload (deed.after locked) rest

section

variable {payload : Option Region} {locked : Nat → Prop}

theorem covered_append {early late : List Deed} :
    Covered payload locked (early ++ late) ↔
      Covered payload locked early ∧ Covered payload (early.foldl Deed.after locked) late := by
  induction early generalizing locked with
  | nil => exact (true_and _).symm ▸ Iff.rfl
  | cons deed rest ih =>
      cases deed with
      | use call =>
          simp only [List.cons_append, Covered, ih, and_assoc]
          rfl
      | lock range => exact ih
      | unlock range => exact ih

theorem Covered.use {early late : List Deed} {call : Call}
    (covered : Covered payload locked (early ++ .use call :: late)) :
    ∃ range, call.reach? payload = some range ∧
      ∀ page, range.OnPage page → early.foldl Deed.after locked page :=
  (covered_append.mp covered).2.1

/-- Calls lock and unlock nothing. -/
theorem foldl_uses (calls : List Call) : (calls.map Deed.use).foldl Deed.after locked = locked := by
  induction calls with
  | nil => rfl
  | cons call rest ih => exact ih

theorem covered_uses {calls : List Call} {range : Region}
    (fits : ∀ call ∈ calls, call.reach? payload = some range)
    (all : ∀ page, range.OnPage page → locked page) :
    Covered payload locked (calls.map Deed.use) := by
  induction calls with
  | nil => trivial
  | cons call rest ih =>
      exact ⟨⟨range, fits call List.mem_cons_self, all⟩,
        ih fun other member => fits other (List.mem_cons_of_mem _ member)⟩

/-- An access leaves no page locked that was not before. -/
theorem Access.foldl_deeds (access : Access) :
    access.deeds.foldl Deed.after unlocked = unlocked := by
  rw [deeds, List.cons_append, List.foldl_cons, List.foldl_append, foldl_uses]
  funext page
  apply propext
  show ((False ∨ access.range.OnPage page) ∧ ¬ access.range.OnPage page) ↔ False
  rw [false_or]
  exact and_not_self_iff _

theorem Access.covered {access : Access} (fits : access.Fits payload) :
    Covered payload unlocked access.deeds := by
  show Covered payload ((Deed.lock access.range).after unlocked)
    (access.calls.map Deed.use ++ [.unlock access.range])
  refine covered_append.mpr ⟨covered_uses fits fun page on => .inr on, ?_⟩
  rw [foldl_uses]
  trivial

theorem foldl_accesses (accesses : List Access) :
    (accesses.flatMap Access.deeds).foldl Deed.after unlocked = unlocked := by
  induction accesses with
  | nil => rfl
  | cons access rest ih => rw [List.flatMap_cons, List.foldl_append, access.foldl_deeds, ih]

theorem covered_accesses {accesses : List Access}
    (fits : ∀ access ∈ accesses, access.Fits payload) :
    Covered payload unlocked (accesses.flatMap Access.deeds) := by
  induction accesses with
  | nil => trivial
  | cons access rest ih =>
      rw [List.flatMap_cons, covered_append, access.foldl_deeds]
      exact ⟨Access.covered (fits access List.mem_cons_self),
        ih fun other member => fits other (List.mem_cons_of_mem _ member)⟩

end

namespace Memory

/-- The accesses that come about: their locks are asked for one after another, until one is
refused. -/
def grantedOf (m : Memory) : List Access → List Access
  | [] => []
  | access :: rest =>
      if (m.lock access.range.addr access.range.len).1 = none then
        access :: (m.lock access.range.addr access.range.len).2.grantedOf rest
      else []

section

variable {m : Memory} {range : Region} {calls : List Call} (rest : List Access)

theorem grantedOf_cons_of_granted (granted : (m.lock range.addr range.len).1 = none) :
    m.grantedOf (⟨range, calls⟩ :: rest) =
      ⟨range, calls⟩ :: (m.lock range.addr range.len).2.grantedOf rest := if_pos granted

theorem grantedOf_cons_of_refused {errno : Errno}
    (refused : (m.lock range.addr range.len).1 = some errno) :
    m.grantedOf (⟨range, calls⟩ :: rest) = [] :=
  if_neg (by rw [refused]; exact Option.some_ne_none errno)

end

/-- What can be locked is in memory. -/
theorem isResident_of_granted {m : Memory} {addr : UInt64} {len : Nat}
    (granted : (m.lock addr len).1 = none) : m.isResident addr = true := by
  by_cases resident : m.isResident addr = true
  · exact resident
  · rw [lock, if_neg resident, Option.or_eq_none_iff] at granted
    cases granted.2

/-- Writing leaves in memory what is there. -/
theorem isResident_modify (m : Memory) (addr other : UInt64) (change : Buffer → Buffer) :
    (m.modify addr change).isResident other = m.isResident other := by
  unfold isResident
  by_cases here : other = addr
  · rw [here, region?_modify_self, Option.isSome_map]
  · rw [region?_modify_ne m change here]

end Memory

theorem Host.isResident_deliver (h : Host) (m : Memory) (addr : UInt64) :
    (h.deliver m).2.isResident addr = m.isResident addr := by
  unfold deliver
  split
  · rfl
  · split
    · rfl
    · exact Memory.isResident_modify _ _ _ _

namespace Vm

def deeds (vm : Vm) : List Deed := vm.history.filterMap Event.deed?

section

variable {vm : Vm} {addr : UInt64}

theorem deeds_append (vm : Vm) (event : Event) :
    (vm.append event).deeds = vm.deeds ++ event.deed?.toList := by
  rw [deeds, deeds, append, List.filterMap_append]
  cases deed : event.deed? <;> simp [deed]

theorem deeds_held (vm : Vm) (range : Region) :
    (vm.held range.addr range.len).deeds = vm.deeds ++ [.lock range] :=
  (vm.tried range.addr range.len).deeds_append (.locked range.addr range.len)

theorem deeds_freed {vm : Vm} {range : Region} (resident : vm.memory.isResident range.addr = true) :
    (vm.freed range.addr range.len).deeds = vm.deeds ++ [.unlock range] := by
  have unlocks : vm.unlocking range.addr range.len = .unlocked range.addr range.len := by
    rw [unlocking, Memory.unlockRefusal, if_pos resident]
  rw [freed, unlocks, deeds_append]
  rfl

theorem deeds_serve (vm : Vm) {call : Call} (uses : call.usesMemory = true) :
    (vm.serve call).deeds = vm.deeds ++ [.use call] := by
  have served := vm.deeds_append (.called call (vm.host.trace? vm.memory))
  rw [Event.deed?, if_pos uses] at served
  exact served

theorem deeds_serve_other (vm : Vm) {call : Call} (none : call.usesMemory = false) :
    (vm.serve call).deeds = vm.deeds := by
  have served := vm.deeds_append (.called call (vm.host.trace? vm.memory))
  rw [Event.deed?, none] at served
  exact served.trans (List.append_nil _)

/-- A range that is locked, calls that leave it in memory, and the range unlocked again. -/
theorem deeds_of_access {vm inside : Vm} (access : Access)
    (granted : (vm.memory.lock access.range.addr access.range.len).1 = none)
    (used : inside.deeds =
      (vm.held access.range.addr access.range.len).deeds ++ access.calls.map .use)
    (stays : inside.memory.isResident access.range.addr =
      vm.memory.isResident access.range.addr) :
    (inside.freed access.range.addr access.range.len).deeds = vm.deeds ++ access.deeds := by
  have resident := stays.trans (Memory.isResident_of_granted granted)
  rw [deeds_freed resident, used, deeds_held, Access.deeds]
  simp only [List.append_assoc, List.cons_append, List.nil_append]

/-- No call takes memory away. -/
theorem isResident_serve (vm : Vm) (call : Call) (addr : UInt64) :
    (vm.serve call).memory.isResident addr = vm.memory.isResident addr := by
  cases call with
  | userFastAcquire arg => exact Host.isResident_deliver _ vm.memory addr
  | _ => rfl

end

end Vm

namespace Agent

open Vm

theorem deeds_registered {vm : Vm} {region : Region}
    (granted : (vm.memory.lock region.addr region.len).1 = none) :
    (vm.registered region).deeds = vm.deeds ++ (Access.announcing region).deeds := by
  have told : ((vm.held region.addr region.len).serve (.getPayload region.addr)).deeds =
      (vm.held region.addr region.len).deeds ++ [.use (.getPayload region.addr)] :=
    deeds_serve _ rfl
  have announced : (vm.announced region).deeds = vm.deeds ++ (Access.announcing region).deeds :=
    deeds_of_access (.announcing region) granted told (isResident_serve _ _ _)
  have logged : (vm.registered region).deeds = (vm.announced region).deeds ++ [] :=
    deeds_append _ _
  rw [logged, announced, List.append_nil]

theorem deeds_submitted (agent : Agent) (vm : Vm) : (agent.submitted vm).deeds = vm.deeds := by
  unfold submitted
  split
  · exact deeds_serve_other vm rfl
  · rfl

theorem deeds_acquiredIn (agent : Agent) {vm : Vm} {region : Region}
    (granted : (vm.memory.lock region.addr region.len).1 = none) :
    (agent.acquiredIn region vm).deeds = vm.deeds ++ (Access.asking region).deeds := by
  have asked : (agent.fastAcquired (vm.held region.addr region.len)).deeds =
      (agent.submitted (vm.held region.addr region.len)).deeds ++ [.use (.userFastAcquire 0)] :=
    deeds_serve _ rfl
  rw [deeds_submitted] at asked
  refine deeds_of_access (.asking region) granted asked ?_
  refine (Memory.isResident_modify _ agent.trace.addr _ Buffer.mark).trans ?_
  rw [isResident_serve, submitted_memory]
  rfl

end Agent

namespace Guest

open Agent Vm

/-- The accesses that bytes are stored by. -/
def storingPlan (name : Bytes) (data : Slice) (append : Bool) : List Access :=
  if data.content.size = 0 then [] else [.storing name data append]

/-- The accesses that an operation is out for, and the memory that it asks for their locks:
the payload buffer is locked for each call that names it, and bytes that are stored. -/
def plan (guest : Guest) : Operation → Memory × List Access
  | .acquire _ =>
      match guest.agent.payload with
      | some region => (guest.vm.memory, [.asking region])
      | none =>
          if guest.agent.maxInputSize = 0 then (guest.vm.memory, [])
          else
            match guest.vm.memory.map guest.agent.maxInputSize with
            | (.ok region, memory) => (memory, [.announcing region, .asking region])
            | (.error _, memory) => (memory, [])
  | .uploadFile name data append => (guest.vm.memory, storingPlan name data append)
  | .uploadDictionary data =>
      (guest.vm.memory, storingPlan (Utf8.ofString dictionaryFile) data true)
  | .release | .print _ | .setCoverage _ => (guest.vm.memory, [])

/-- The accesses that an operation makes. -/
def accesses (guest : Guest) (operation : Operation) : List Access :=
  (guest.plan operation).1.grantedOf (guest.plan operation).2

/-! ## One move -/

/-- What a move did with locked memory: these accesses, each of which reached for the range
that it locked. -/
structure Accessed (guest after : Guest) (accesses : List Access) : Prop where
  deeds : after.vm.deeds = guest.vm.deeds ++ accesses.flatMap Access.deeds
  fits : ∀ access ∈ accesses, access.Fits after.agent.payload

theorem accessed_nothing {guest after : Guest} (same : after.vm.deeds = guest.vm.deeds) :
    guest.Accessed after [] where
  deeds := by rw [same, List.flatMap_nil, List.append_nil]
  fits access member := by cases member

theorem accessed_once {guest after : Guest} {access : Access}
    (deeds : after.vm.deeds = guest.vm.deeds ++ access.deeds)
    (fits : access.Fits after.agent.payload) : guest.Accessed after [access] where
  deeds := by rw [deeds, List.flatMap_singleton]
  fits := List.forall_mem_singleton.mpr fits

theorem Accessed.trans {a b c : Guest} {early late : List Access} (first : a.Accessed b early)
    (second : b.Accessed c late)
    (kept : ∀ region, b.agent.payload = some region → c.agent.payload = some region) :
    a.Accessed c (early ++ late) where
  deeds := by rw [second.deeds, first.deeds, List.flatMap_append, List.append_assoc]
  fits access member := by
    rcases List.mem_append.mp member with before | behind
    · exact fun call made => Call.reach?_mono kept (first.fits access before call made)
    · exact second.fits access behind

/-- The payload buffer was locked to be announced, if it is new. -/
theorem accessed_readies {agent known : Agent} {vm ready : Vm} {region : Region}
    (readies : Readies agent vm region known ready) :
    (⟨agent, vm⟩ : Guest).Accessed ⟨known, ready⟩
      (if agent.payload = none then [.announcing region] else []) := by
  cases readies with
  | known payload =>
      rw [payload]
      exact accessed_nothing rfl
  | @registered memory new sized mapped granted =>
      rw [if_pos new]
      have announced : (({ vm with memory := memory } : Vm).registered region).deeds = _ :=
        deeds_registered granted
      exact accessed_once announced (Access.fits_announcing region)

theorem grantedOf_readies {guest : Guest} {known : Agent} {ready : Vm} {region : Region}
    (readies : Readies guest.agent guest.vm region known ready) (dest : Buffer) :
    guest.accesses (.acquire dest) =
      (if guest.agent.payload = none then [.announcing region] else []) ++
        ready.memory.grantedOf [.asking region] := by
  cases readies with
  | known payload =>
      simp only [accesses, plan, payload]
      rfl
  | @registered memory new sized mapped granted =>
      simp only [accesses, plan, new, if_neg sized, mapped]
      exact Memory.grantedOf_cons_of_granted _ granted

theorem accessed_acquire (guest : Guest) (dest : Buffer) :
    guest.Accessed (guest.make (.ask (.acquire dest))) (guest.accesses (.acquire dest)) := by
  obtain ⟨result, left, after, ran, ways⟩ := Agent.acquires guest.agent guest.vm dest
  rw [make_acquire, ran]
  cases ways with
  | unready new unready =>
      have none : guest.accesses (.acquire dest) = [] := by
        cases unready with
        | empty nothing =>
            simp only [accesses, plan, new, if_pos nothing]
            rfl
        | unmapped sized refused =>
            simp only [accesses, plan, new, if_neg sized, refused]
            rfl
        | unlocked sized mapped refused =>
            simp only [accesses, plan, new, if_neg sized, mapped]
            exact Memory.grantedOf_cons_of_refused _ refused
      rw [none]
      cases unready <;> exact accessed_nothing rfl
  | @unlocked region known ready errno readies refused =>
      have none : ready.memory.grantedOf [.asking region] = [] :=
        Memory.grantedOf_cons_of_refused [] refused
      have tried : (⟨left, ready⟩ : Guest).Accessed
          ⟨left, ready.tried region.addr region.len⟩ [] := accessed_nothing rfl
      rw [grantedOf_readies readies, none]
      exact (accessed_readies readies).trans tried fun _ same => same
  | @acquired region known ready readies granted =>
      have one : ready.memory.grantedOf [.asking region] = [.asking region] :=
        Memory.grantedOf_cons_of_granted [] granted
      have asked : (⟨known, ready⟩ : Guest).Accessed
          ⟨{ known with state := .running }, known.acquiredIn region ready⟩ [.asking region] := by
        refine accessed_once (known.deeds_acquiredIn granted) ?_
        show (Access.asking region).Fits known.payload
        rw [readies.payload]
        exact Access.fits_asking region
      rw [grantedOf_readies readies, one]
      exact (accessed_readies readies).trans asked fun _ same => same

theorem accessed_uploads {vm after : Vm} {name : Bytes} {data : Slice} {append : Bool}
    {result : Except AgentError Unit} (agent : Agent)
    (uploads : Uploads name data append vm result after) :
    (⟨agent, vm⟩ : Guest).Accessed ⟨agent, after⟩
      (vm.memory.grantedOf (storingPlan name data append)) := by
  cases uploads with
  | empty nothing =>
      rw [storingPlan, if_pos nothing]
      exact accessed_nothing rfl
  | unlocked sized refused =>
      have none : vm.memory.grantedOf [.storing name data append] = [] :=
        Memory.grantedOf_cons_of_refused [] refused
      rw [storingPlan, if_neg sized, none]
      exact accessed_nothing rfl
  | stored sized granted =>
      have one : vm.memory.grantedOf [.storing name data append] = [.storing name data append] :=
        Memory.grantedOf_cons_of_granted [] granted
      have told : ((vm.held data.addr data.content.size).serve (.dumpFile
          (name.takeWhile (· != 0)) data.addr data.content append.toUInt8)).deeds =
            (vm.held data.addr data.content.size).deeds ++ [.use (.dumpFile
              (name.takeWhile (· != 0)) data.addr data.content append.toUInt8)] :=
        deeds_serve _ rfl
      have stored := deeds_of_access (.storing name data append) granted told
        (isResident_serve _ _ _)
      rw [storingPlan, if_neg sized, one]
      exact accessed_once stored (Access.fits_storing _ name data append)

/-- Every operation makes its accesses and does nothing else with locked memory. -/
theorem accessed_make (guest : Guest) (operation : Operation) :
    guest.Accessed (guest.make (.ask operation)) (guest.accesses operation) := by
  cases operation with
  | acquire dest => exact guest.accessed_acquire dest
  | release =>
      have bridged : (guest.agent.bridged guest.vm).deeds = guest.vm.deeds := by
        unfold bridged
        split <;> rfl
      have told : ((guest.agent.bridged guest.vm).serve (.release 0)).deeds = _ :=
        deeds_serve_other _ rfl
      rw [make_release]
      exact accessed_nothing (told.trans bridged)
  | print text => exact accessed_nothing (deeds_serve_other guest.vm rfl)
  | setCoverage map => exact accessed_nothing rfl
  | uploadFile name data append =>
      exact accessed_uploads guest.agent (uploads name data append guest.vm)
  | uploadDictionary data =>
      let logged := guest.vm.append (.logged ⟨.info, "uploading " ++
        Text.hex data.content.size ++ " bytes of auto-dictionary"⟩)
      have noted : guest.Accessed ⟨guest.agent, logged⟩ [] :=
        accessed_nothing ((deeds_append _ _).trans (List.append_nil _))
      let sent := (uploadFile (Utf8.ofString dictionaryFile) data true).run logged
      have stored : (⟨guest.agent, logged⟩ : Guest).Accessed ⟨guest.agent, sent.2⟩
          (guest.accesses (.uploadDictionary data)) :=
        accessed_uploads guest.agent (uploads (Utf8.ofString dictionaryFile) data true logged)
      exact noted.trans stored fun _ same => same

/-! ## A run -/

/-- A payload buffer stays for good. -/
theorem make_payload {guest : Guest} {region : Region}
    (payload : guest.agent.payload = some region) (move : Move) :
    (guest.make move).agent.payload = some region := by
  rcases move.kinds with ⟨dest, rfl⟩ | rfl | ⟨acquires, releases⟩
  · obtain ⟨result, left, after, ran, ways⟩ := Agent.acquires guest.agent guest.vm dest
    rw [make_acquire, ran]
    have same : ∀ {other known ready}, Readies guest.agent guest.vm other known ready →
        known.payload = some region := by
      intro other known ready readies
      cases readies with
      | known _ => exact payload
      | registered new => rw [new] at payload; cases payload
    cases ways with
    | unready new unready => exact payload
    | unlocked readies refused => exact same readies
    | @acquired _ known _ readies granted =>
        show known.payload = some region
        exact same readies
  · rw [make_release]
    exact payload
  · obtain ⟨⟨coverage, changed⟩, -⟩ := guest.make_aside acquires releases
    rw [changed]
    exact payload

theorem play_payload {guest : Guest} {region : Region}
    (payload : guest.agent.payload = some region) (moves : List Move) :
    (guest.play moves).agent.payload = some region := by
  induction moves generalizing guest with
  | nil => exact payload
  | cons move rest ih => exact ih (make_payload payload move)

/-- Nothing that comes from outside locks memory or uses it for the guest. -/
theorem deeds_outside (guest : Guest) (stimulus : Stimulus) :
    (guest.make (.outside stimulus)).vm.deeds = guest.vm.deeds := by
  show ((guest.vm.stimulate stimulus).getD guest.vm).deeds = _
  cases stimulus with
  | scribble bytes =>
      rw [stimulate]
      cases guest.vm.host.scribble? guest.vm.memory bytes <;> rfl
  | _ => rfl

/-- A run is made of accesses. -/
theorem accessed_play (guest : Guest) (moves : List Move) :
    ∃ accesses, guest.Accessed (guest.play moves) accesses := by
  induction moves generalizing guest with
  | nil => exact ⟨[], accessed_nothing rfl⟩
  | cons move rest ih =>
      obtain ⟨early, first⟩ : ∃ early, guest.Accessed (guest.make move) early := by
        cases move with
        | ask operation => exact ⟨_, guest.accessed_make operation⟩
        | outside stimulus => exact ⟨[], accessed_nothing (guest.deeds_outside stimulus)⟩
      obtain ⟨late, others⟩ := ih (guest.make move)
      exact ⟨early ++ late, first.trans others fun _ payload => play_payload payload rest⟩

/-- Whatever is asked of an agent and comes from outside, and whatever the kernel refuses to
lock: at each announcement of the payload buffer and each time an input is asked for, all
pages of that buffer are locked; at each dump those of the dumped bytes are; no page is left
locked; and the next operation, whichever it is, gets as far as its locks are granted and
uses no memory behind the first that is refused. -/
theorem pinned_while_used (guest : Guest) (moves : List Move) :
    let now := guest.play moves
    ∃ deeds, now.vm.deeds = guest.vm.deeds ++ deeds ∧
      (∀ early call late, deeds = early ++ .use call :: late →
        ∃ range, call.reach? now.agent.payload = some range ∧
          ∀ page, range.OnPage page → lockedPages early page) ∧
      (∀ page, ¬ lockedPages deeds page) ∧
      ∀ operation, (now.make (.ask operation)).vm.deeds =
        now.vm.deeds ++ (now.accesses operation).flatMap Access.deeds := by
  intro now
  obtain ⟨accesses, accessed⟩ := guest.accessed_play moves
  refine ⟨accesses.flatMap Access.deeds, accessed.deeds, ?_, ?_, ?_⟩
  · intro early call late split
    have covered := covered_accesses accessed.fits
    rw [split] at covered
    exact covered.use
  · intro page
    rw [lockedPages, foldl_accesses]
    exact id
  · exact fun operation => (now.accessed_make operation).deeds

end Guest

end Rewind
