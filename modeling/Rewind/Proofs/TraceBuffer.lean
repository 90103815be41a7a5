/-
# Rewind.Proofs.TraceBuffer -- what the host finds in the trace buffer

The host reads the trace buffer at each release.  The guest writes there twice a run: an
acquire that asks for an input leaves a mark of life on the first byte, and a release copies
the coverage map over the front, as the map is at that moment, and then sets the mark again.
The map may be longer or shorter than the buffer or be gone; bytes that it does not reach
stay as they were.  Inputs are delivered elsewhere, and a kernel that refuses changes nothing
here.

Main statements: `Guest.make_acquire_trace`, `Guest.make_release_trace` (what one move does
to the buffer), `Guest.Marked.play` (the mark stays through a run),
`Guest.trace_at_release` (what the host is shown, in every state that an agent can reach).
-/
import Rewind.Proofs.Payload

namespace Rewind

set_option autoImplicit false

namespace Buffer

theorem toList_mark_eq_set (b : Buffer) : b.mark.toList = b.toList.set 0 1 := by
  rw [toList_mark]
  by_cases nothing : b.size = 0
  · have empty : b.toList = [] := List.eq_nil_of_length_eq_zero (b.length_toList.trans nothing)
    rw [if_pos nothing, empty, List.set_nil]
  · obtain ⟨first, rest, content⟩ : ∃ first rest, b.toList = first :: rest := by
      apply List.exists_cons_of_length_pos
      rw [b.length_toList]
      omega
    rw [if_neg nothing, content, List.tail_cons, List.set_cons_zero]

end Buffer

namespace CoverageMap

/-- There is no map at this moment: its pointer is null or it has no bytes. -/
def IsAbsent (i : Instrumentation) : CoverageMap → Prop
  | runtime => i.area.join = none ∨ i.mapSize.getD 0 = 0
  | fixed bytes => bytes = []

/-- The bytes of a map at this moment.  A fixed map has its own; the runtime's has as many as its
size says, from its pointer on, where zeros stand behind the bytes that are known. -/
inductive Holds (i : Instrumentation) : CoverageMap → Bytes → Prop
  | fixed {bytes : Bytes} (some : bytes ≠ []) : Holds i (.fixed bytes) bytes
  | runtime {behind : Bytes} {size : UInt32} (pointer : i.area = some (some behind))
      (sized : i.mapSize = some size) (some : size ≠ 0) :
      Holds i .runtime ((behind ++ List.replicate size.toNat 0).take size.toNat)

section

variable {i : Instrumentation} {map : CoverageMap}

theorem current?_of_isAbsent (absent : map.IsAbsent i) : map.current? i = none := by
  cases map with
  | fixed bytes => exact if_pos absent
  | runtime =>
      obtain ⟨area, mapSize, dictionary, dictionarySize⟩ := i
      rcases area with - | - | bytes
      · rfl
      · rfl
      · rcases mapSize with - | size
        · rfl
        · have null : size = 0 := absent.resolve_left (fun null => by cases null)
          exact if_pos null

/-- The bytes of a map are what is copied of it. -/
theorem current?_of_holds {bytes : Bytes} (holds : map.Holds i bytes) :
    ∃ content : Buffer, map.current? i = some content ∧ content.toList = bytes := by
  cases holds with
  | fixed some => exact ⟨_, if_neg some, Buffer.toList_ofList bytes⟩
  | @runtime behind size pointer sized some =>
      refine ⟨Buffer.padded size.toNat behind, ?_, ?_⟩
      · simp only [current?, Instrumentation.currentMap?, pointer, sized, if_neg some]
      · rw [Buffer.toList_padded, List.take_append, List.take_replicate,
          Nat.min_eq_left (Nat.sub_le _ _)]

theorem Holds.ne_nil {bytes : Bytes} (holds : map.Holds i bytes) : bytes ≠ [] := by
  cases holds with
  | fixed some => exact some
  | @runtime behind size _ _ some =>
      have positive : 0 < size.toNat := UInt32.pos_iff_ne_zero.mpr some
      rw [← List.length_pos_iff, List.length_take, List.length_append, List.length_replicate]
      omega

/-- A map that is not absent has bytes. -/
theorem exists_holds (here : ¬ map.IsAbsent i) : ∃ bytes, map.Holds i bytes ∧ bytes ≠ [] := by
  have held : ∃ bytes, map.Holds i bytes := by
    cases map with
    | fixed bytes => exact ⟨bytes, .fixed here⟩
    | runtime =>
        obtain ⟨area, mapSize, dictionary, dictionarySize⟩ := i
        rcases area with - | - | behind
        · exact absurd (.inl rfl) here
        · exact absurd (.inl rfl) here
        · rcases mapSize with - | size
          · exact absurd (.inr rfl) here
          · exact ⟨_, .runtime rfl rfl fun nothing => here (.inr nothing)⟩
  obtain ⟨bytes, holds⟩ := held
  exact ⟨bytes, holds, holds.ne_nil⟩

end

end CoverageMap

namespace Move

def IsScribble (move : Move) : Prop := ∃ bytes, move = .outside (.scribble bytes)

end Move

namespace Guest

open Agent Vm

def trace (guest : Guest) : Bytes := (guest.vm.memory.read guest.agent.trace).toList

/-- An input was asked for by one of these calls. -/
def Asked (calls : List Call) : Prop := ∃ call ∈ calls, call.op = .userFastAcquire

/-- What the host is shown at a release: the trace buffer as it was, with the map over its
front and the mark of life on its first byte where coverage is bridged.  A map that is not
absent has bytes, and these are what is copied. -/
structure Shown (guest : Guest) (seen : Bytes) : Prop where
  unbridged : guest.agent.coverage = none → seen = guest.trace
  absent : ∀ map, guest.agent.coverage = some map → map.IsAbsent guest.vm.instrumentation →
    seen = guest.trace.set 0 1
  present : ∀ map, guest.agent.coverage = some map → ¬ map.IsAbsent guest.vm.instrumentation →
    ∃ bytes, map.Holds guest.vm.instrumentation bytes ∧ bytes ≠ []
  length : seen.length = guest.trace.length
  live : guest.agent.coverage ≠ none → seen[0]? = some 1
  copied : ∀ map bytes, guest.agent.coverage = some map →
    map.Holds guest.vm.instrumentation bytes →
      ∀ i, 1 ≤ i → i < min bytes.length guest.trace.length → seen[i]? = bytes[i]?
  kept : ∀ map bytes, guest.agent.coverage = some map →
    map.Holds guest.vm.instrumentation bytes →
      ∀ i, min bytes.length guest.trace.length ≤ i → seen[i]? = guest.trace[i]?

section

variable {guest : Guest} {agent : Agent} {vm after : Vm}

/-! ## The buffer and its frame -/

theorem trace_eq_of_region? {now : Guest} (same : now.agent.trace = guest.agent.trace)
    (content : now.vm.memory.region? guest.agent.trace.addr =
      guest.vm.memory.region? guest.agent.trace.addr) : now.trace = guest.trace := by
  rw [trace, trace, Memory.read, Memory.read, same, content]

/-- The buffer of an agent that is in place is mapped, and is the one that the host reads. -/
theorem trace?_of_placed (placed : Placed agent vm) :
    vm.memory.region? agent.trace.addr = some (vm.memory.read agent.trace) ∧
      vm.host.trace? vm.memory = some (vm.memory.read agent.trace) := by
  obtain ⟨content, found, -⟩ := placed.trace
  have read : vm.memory.read agent.trace = content := by
    rw [Memory.read, found]
    rfl
  refine ⟨by rw [found, read], ?_⟩
  rw [Host.trace?, placed.listens, read]
  exact found

theorem length_trace (placed : Placed guest.agent guest.vm) :
    guest.trace.length = guest.agent.trace.len := by
  obtain ⟨content, found, size⟩ := placed.trace
  rw [trace, Memory.read, found, Option.getD_some, Buffer.length_toList, size]

/-- A change of the buffer is a change of its bytes. -/
theorem trace_changed (placed : Placed agent vm) (f : Buffer → Buffer) :
    (vm.changed agent.trace f).memory.read agent.trace = f (vm.memory.read agent.trace) := by
  have found := (trace?_of_placed placed).1
  show ((vm.memory.modify agent.trace.addr f).region? agent.trace.addr).getD _ = _
  rw [Memory.region?_modify_self, found]
  rfl

theorem region?_deliver {h : Host} {m : Memory} {addr : UInt64} (apart : h.payload ≠ some addr) :
    (h.deliver m).2.region? addr = m.region? addr := by
  unfold Host.deliver
  split
  · rfl
  · next other announced =>
      split
      · rfl
      · refine Memory.region?_modify_ne m _ ?_
        intro same
        rw [announced, same] at apart
        exact apart rfl

/-- A call changes no region but the announced payload buffer. -/
theorem region?_serve (vm : Vm) (call : Call) {addr : UInt64}
    (apart : vm.host.payload ≠ some addr) :
    (vm.serve call).memory.region? addr = vm.memory.region? addr := by
  cases call with
  | userFastAcquire arg =>
      refine region?_deliver ?_
      split
      · exact apart
      · exact apart
  | _ => rfl

/-- The mark of life goes on the buffer as it was, wherever the input was delivered. -/
theorem trace_acquiredIn {region : Region} (placed : Placed agent vm)
    (payload : agent.payload = some region) :
    (agent.acquiredIn region vm).memory.read agent.trace = (vm.memory.read agent.trace).mark := by
  let moded := agent.submitted (vm.held region.addr region.len)
  have moding : vm.Settled moded :=
    (vm.settled_held region.addr region.len).trans (agent.settled_submitted _)
  have asking : moded.Settled (moded.serve (.userFastAcquire 0)) :=
    settled_serve moded _ (by decide) (by decide)
  have stays : moded.memory.region? agent.trace.addr = vm.memory.region? agent.trace.addr := by
    show (agent.submitted (vm.held region.addr region.len)).memory.region? _ = _
    rw [submitted_memory]
    rfl
  have apart : moded.host.payload ≠ some agent.trace.addr := by
    obtain ⟨announced, -, ne, -⟩ := placed.payload region payload
    rw [moding.payload, announced]
    intro same
    exact ne (Option.some.inj same)
  have marked := trace_changed (placed.lasts (moding.trans asking).toLasts) Buffer.mark
  have content := region?_serve moded (.userFastAcquire 0) apart
  show ((moded.serve (.userFastAcquire 0)).changed agent.trace Buffer.mark).memory.read _ = _
  rw [marked]
  simp only [Memory.read]
  rw [content, stays]

theorem trace_of_readies {region : Region} {known : Agent}
    (readies : Readies agent vm region known after) : known.trace = agent.trace := by
  cases readies with
  | known payload => rfl
  | registered new sized mapped granted => rfl

theorem region?_of_readies {region : Region} {known : Agent} (placed : Placed agent vm)
    (readies : Readies agent vm region known after) :
    after.memory.region? agent.trace.addr = vm.memory.region? agent.trace.addr := by
  cases readies with
  | known payload => rfl
  | @registered memory new sized mapped granted =>
      show memory.region? agent.trace.addr = _
      exact Memory.region?_map_ne mapped (Memory.addr_ne_of_map mapped placed.trace).symm

theorem region?_of_unready {error : AgentError} (placed : Placed agent vm)
    (unready : Unready agent vm error after) :
    after.memory.region? agent.trace.addr = vm.memory.region? agent.trace.addr := by
  cases unready with
  | empty nothing => rfl
  | unmapped sized refused => exact Memory.region?_map_error refused _
  | @unlocked region memory errno sized mapped refused =>
      show memory.region? agent.trace.addr = _
      exact Memory.region?_map_ne mapped (Memory.addr_ne_of_map mapped placed.trace).symm

end

/-! ## One move -/

section

variable {guest : Guest}

/-- An agent stays in place whatever it is asked and whatever comes from outside. -/
theorem placed_make (placed : Placed guest.agent guest.vm) (move : Move) :
    Placed (guest.make move).agent (guest.make move).vm := by
  rcases move.kinds with ⟨dest, rfl⟩ | rfl | ⟨acquires, releases⟩
  · obtain ⟨result, left, after, ran, ways⟩ := Agent.acquires guest.agent guest.vm dest
    rw [make_acquire, ran]
    exact placed.acquires ways
  · rw [make_release]
    have same := placed.lasts (guest.agent.settled_release guest.vm).toLasts
    exact ⟨same.config, same.listens, same.trace, same.payload⟩
  · obtain ⟨⟨coverage, changed⟩, settled, -⟩ := guest.make_aside acquires releases
    have same := placed.lasts settled.toLasts
    rw [changed]
    exact ⟨same.config, same.listens, same.trace, same.payload⟩

theorem placed_play (placed : Placed guest.agent guest.vm) (moves : List Move) :
    Placed (guest.play moves).agent (guest.play moves).vm := by
  induction moves generalizing guest with
  | nil => exact placed
  | cons move rest ih => exact ih (placed_make placed move)

theorem not_asked_nil : ¬ Asked [] := by
  rintro ⟨call, member, -⟩
  cases member

theorem not_asked_announcement (agent : Agent) (region : Region) :
    ¬ Asked (agent.announcement region) := by
  rintro ⟨call, member, asks⟩
  unfold announcement at member
  split at member
  · obtain rfl := List.mem_singleton.mp member
    cases asks
  · cases member

theorem asked_question (agent : Agent) (early : List Call) : Asked (early ++ agent.question) :=
  ⟨.userFastAcquire 0, by simp [question], rfl⟩

theorem asked_append {early late : List Call} :
    Asked (early ++ late) ↔ Asked early ∨ Asked late := by
  simp only [Asked, List.mem_append, or_and_right, exists_or]

/-- An acquire marks the first byte just if it asks for an input, and touches no other. -/
theorem make_acquire_trace (placed : Placed guest.agent guest.vm) (dest : Buffer) :
    let after := guest.make (.ask (.acquire dest))
    ∃ calls, guest.vm.Made after.vm calls ∧
      (Asked calls ∧ after.trace = guest.trace.set 0 1 ∨
        ¬ Asked calls ∧ after.trace = guest.trace) := by
  obtain ⟨result, left, after, ran, ways⟩ := Agent.acquires guest.agent guest.vm dest
  rw [make_acquire, ran]
  cases ways with
  | unready new unready =>
      refine ⟨[], unready.made, .inr ⟨not_asked_nil, ?_⟩⟩
      exact trace_eq_of_region? rfl (region?_of_unready placed unready)
  | unlocked readies refused =>
      refine ⟨_, readies.made.trans (made_tried _ _ _), .inr ⟨?_, ?_⟩⟩
      · rw [List.append_nil]
        exact not_asked_announcement _ _
      · have content := region?_of_readies placed readies
        exact trace_eq_of_region? (trace_of_readies readies) content
  | @acquired region known ready readies granted =>
      have content := region?_of_readies placed readies
      have marked := trace_acquiredIn (readies.placed placed) readies.payload
      refine ⟨_, readies.made.trans (known.made_acquiredIn region ready),
        .inl ⟨asked_question _ _, ?_⟩⟩
      show ((known.acquiredIn region ready).memory.read known.trace).toList = _
      rw [marked, Buffer.toList_mark_eq_set, trace_of_readies readies, Memory.read, content]
      rfl

/-- The host is shown the buffer that the release left, and the buffer stays so. -/
theorem make_release_trace (placed : Placed guest.agent guest.vm) :
    let after := guest.make (.ask .release)
    let seen := (guest.agent.bridged guest.vm).memory.read guest.agent.trace
    after.vm.history = guest.vm.history ++ [.called (.release 0) (some seen)] ∧
      after.trace = seen.toList := by
  have still := placed.lasts (guest.agent.settled_bridged guest.vm).toLasts
  have shown := (trace?_of_placed still).2
  have history : (guest.agent.bridged guest.vm).history = guest.vm.history := by
    unfold bridged
    split <;> rfl
  rw [make_release]
  refine ⟨?_, rfl⟩
  show (guest.agent.bridged guest.vm).history ++ [.called (.release 0) (Host.trace? _ _)] = _
  rw [history, shown]

theorem getElem?_bridge {i : Instrumentation} {map : CoverageMap} {bytes : Bytes}
    (holds : map.Holds i bytes) (trace : Buffer) (k : Nat) :
    (map.bridge i trace).toList[k]? =
      if k < min bytes.length trace.size then bytes[k]? else trace.toList[k]? := by
  obtain ⟨content, found, rfl⟩ := CoverageMap.current?_of_holds holds
  have whole : content.toList.length = content.size := content.length_toList
  have most : trace.toList.length = trace.size := trace.length_toList
  rw [CoverageMap.toList_bridge trace found, List.getElem?_append, List.length_take, whole,
    Nat.min_comm]
  by_cases covered : k < min content.size trace.size
  · rw [if_pos covered, if_pos covered, List.getElem?_take_of_lt (by omega)]
  · rw [if_neg covered, if_neg covered, List.getElem?_drop]
    rcases Nat.le_total content.size trace.size with le | le
    · rw [Nat.min_eq_left le] at covered ⊢
      rw [Nat.add_sub_cancel' (by omega)]
    · rw [Nat.min_eq_right le] at covered ⊢
      rw [List.getElem?_eq_none (by omega), List.getElem?_eq_none (by omega)]

/-- What a release leaves in the buffer, from the source of the coverage. -/
theorem read_bridged (placed : Placed guest.agent guest.vm) {map : CoverageMap}
    (coverage : guest.agent.coverage = some map) :
    ((guest.agent.bridged guest.vm).memory.read guest.agent.trace).toList =
      (map.bridge guest.vm.instrumentation
        (guest.vm.memory.read guest.agent.trace)).toList.set 0 1 := by
  have copied := trace_changed placed
    fun trace => (map.bridge guest.vm.instrumentation trace).mark
  simp only [bridged, coverage]
  rw [copied, Buffer.toList_mark_eq_set]

/-- Without coverage a release leaves the buffer alone. -/
theorem shown_of_uncovered (coverage : guest.agent.coverage = none) :
    guest.Shown ((guest.agent.bridged guest.vm).memory.read guest.agent.trace).toList := by
  have same : guest.agent.bridged guest.vm = guest.vm := by rw [bridged, coverage]
  have uncovered : ∀ {map}, ¬ guest.agent.coverage = some map := by
    intro map found
    cases coverage.symm.trans found
  rw [same]
  exact
    { unbridged := fun _ => rfl
      absent := fun _ found => absurd found uncovered
      present := fun _ found => absurd found uncovered
      length := rfl
      live := fun bridges => absurd coverage bridges
      copied := fun _ _ found => absurd found uncovered
      kept := fun _ _ found => absurd found uncovered }

/-- With coverage it is the map of this moment that lies over the front of the buffer, and the
mark over that. -/
theorem shown_of_covered (placed : Placed guest.agent guest.vm)
    (sized : 0 < guest.agent.trace.len) {map : CoverageMap}
    (coverage : guest.agent.coverage = some map) :
    guest.Shown ((guest.agent.bridged guest.vm).memory.read guest.agent.trace).toList := by
  let before := guest.vm.memory.read guest.agent.trace
  have length : guest.trace.length = before.size := before.length_toList
  have size : before.size = guest.agent.trace.len := length.symm.trans (length_trace placed)
  have same {other : CoverageMap} (found : guest.agent.coverage = some other) : map = other :=
    Option.some.inj (coverage.symm.trans found)
  rw [read_bridged placed coverage]
  constructor
  case unbridged =>
    intro none
    cases none.symm.trans coverage
  case absent =>
    intro other found absent
    obtain rfl := same found
    have gone := CoverageMap.current?_of_isAbsent absent
    simp only [CoverageMap.bridge, gone]
    rfl
  case present => exact fun _ _ here => CoverageMap.exists_holds here
  case length =>
    rw [List.length_set, Buffer.length_toList, CoverageMap.size_bridge, length]
  case live =>
    intro _
    refine List.getElem?_set_self ?_
    rw [Buffer.length_toList, CoverageMap.size_bridge]
    show 0 < before.size
    omega
  case copied =>
    intro other bytes found here i first covered
    obtain rfl := same found
    rw [length] at covered
    rw [List.getElem?_set_ne (by omega), getElem?_bridge here, if_pos covered]
  case kept =>
    intro other bytes found here i beyond
    obtain rfl := same found
    have some := List.length_pos_iff.mpr here.ne_nil
    rw [length] at beyond
    have late : ¬ i < min bytes.length before.size := Nat.not_lt.mpr beyond
    rw [List.getElem?_set_ne (by omega), getElem?_bridge here, if_neg late]
    rfl

theorem shown_of_bridged (placed : Placed guest.agent guest.vm)
    (sized : 0 < guest.agent.trace.len) :
    guest.Shown ((guest.agent.bridged guest.vm).memory.read guest.agent.trace).toList := by
  cases coverage : guest.agent.coverage with
  | none => exact shown_of_uncovered coverage
  | some map => exact shown_of_covered placed sized coverage

/-! ## The mark through a run -/

theorem not_asked_of_quiet {calls : List Call} (quiet : calls.filter Call.isCycle = []) :
    ¬ Asked calls := by
  rintro ⟨call, member, asks⟩
  cases call with
  | userFastAcquire arg => exact List.filter_eq_nil_iff.mp quiet _ member rfl
  | _ => cases asks

/-- Besides an acquire and a release only what writes there from outside touches the
buffer. -/
theorem make_aside_trace (guest : Guest) {move : Move} (acquires : move.isAcquire = false)
    (releases : move.isRelease = false) (scribbles : ¬ move.IsScribble) :
    (guest.make move).trace = guest.trace := by
  cases move with
  | outside stimulus =>
      cases stimulus with
      | scribble bytes => exact absurd ⟨bytes, rfl⟩ scribbles
      | _ => rfl
  | ask operation =>
      cases operation with
      | acquire dest => cases acquires
      | release => cases releases
      | print text => rfl
      | setCoverage map => rfl
      | uploadFile name data append =>
          refine trace_eq_of_region? rfl ?_
          exact (uploads name data append guest.vm).region? guest.agent.trace.addr
      | uploadDictionary data =>
          refine trace_eq_of_region? rfl ?_
          exact (uploads (Utf8.ofString dictionaryFile) data true
            (guest.vm.append (.logged ⟨.info, "uploading " ++ Text.hex data.content.size ++
              " bytes of auto-dictionary"⟩))).region? guest.agent.trace.addr

/-- A move leaves the mark on the first byte, or it asks for no input and leaves the buffer
as it was. -/
theorem make_trace (placed : Placed guest.agent guest.vm) (sized : 0 < guest.agent.trace.len)
    {move : Move} (scribbles : ¬ move.IsScribble) :
    ∃ calls, guest.vm.Made (guest.make move).vm calls ∧
      ((guest.make move).trace[0]? = some 1 ∨
        ¬ Asked calls ∧ (guest.make move).trace = guest.trace) := by
  have some : 0 < guest.trace.length := by
    rw [length_trace placed]
    exact sized
  rcases move.kinds with ⟨dest, rfl⟩ | rfl | ⟨acquires, releases⟩
  · obtain ⟨calls, made, ⟨-, marked⟩ | unasked⟩ := make_acquire_trace placed dest
    · refine ⟨calls, made, .inl ?_⟩
      rw [marked]
      exact List.getElem?_set_self some
    · exact ⟨calls, made, .inr unasked⟩
  · obtain ⟨-, left⟩ := make_release_trace placed
    have shown := shown_of_bridged placed sized
    have made : guest.vm.Made (guest.make (.ask .release)).vm [.release 0] := by
      rw [make_release]
      exact guest.agent.made_release guest.vm
    refine ⟨_, made, ?_⟩
    rw [left]
    by_cases coverage : guest.agent.coverage = none
    · refine .inr ⟨?_, shown.unbridged coverage⟩
      rintro ⟨call, member, asks⟩
      obtain rfl := List.mem_singleton.mp member
      cases asks
    · exact .inl (shown.live coverage)
  · obtain ⟨-, -, calls, made, quiet⟩ := guest.make_aside acquires releases
    exact ⟨calls, made, .inr ⟨not_asked_of_quiet quiet,
      make_aside_trace guest acquires releases scribbles⟩⟩

/-- If an input was asked for since, then the mark is on the first byte. -/
def Marked (start : Vm) (guest : Guest) : Prop :=
  ∃ calls, start.Made guest.vm calls ∧ (Asked calls → guest.trace[0]? = some 1)

theorem Marked.make {start : Vm} (marked : Marked start guest)
    (placed : Placed guest.agent guest.vm) (sized : 0 < guest.agent.trace.len) {move : Move}
    (scribbles : ¬ move.IsScribble) : Marked start (guest.make move) := by
  obtain ⟨calls, made, mark⟩ := marked
  obtain ⟨more, grown, live | ⟨unasked, same⟩⟩ := make_trace placed sized scribbles
  · exact ⟨calls ++ more, made.trans grown, fun _ => live⟩
  · refine ⟨calls ++ more, made.trans grown, ?_⟩
    intro asked
    rw [same]
    rcases asked_append.mp asked with early | late
    · exact mark early
    · exact absurd late unasked

/-- No move moves the trace buffer. -/
theorem make_trace_region (guest : Guest) (move : Move) :
    (guest.make move).agent.trace = guest.agent.trace := by
  obtain ⟨_, _, _, changed⟩ := guest.make_agent move
  rw [changed]

theorem play_trace_region (guest : Guest) (moves : List Move) :
    (guest.play moves).agent.trace = guest.agent.trace := by
  obtain ⟨_, _, _, changed⟩ := guest.play_agent moves
  rw [changed]

theorem Marked.play {start : Vm} (marked : Marked start guest)
    (placed : Placed guest.agent guest.vm) (sized : 0 < guest.agent.trace.len)
    {moves : List Move} (unscribbled : ∀ move ∈ moves, ¬ move.IsScribble) :
    Marked start (guest.play moves) := by
  induction moves generalizing guest with
  | nil => exact marked
  | cons move rest ih =>
      have next := marked.make placed sized (unscribbled move List.mem_cons_self)
      have still : 0 < (guest.make move).agent.trace.len := by
        rw [make_trace_region]
        exact sized
      exact ih next (placed_make placed move) still
        fun later member => unscribbled later (List.mem_cons_of_mem _ member)

/-! ## From the handshake on -/

/-- The trace buffer in every state that an agent can reach from its handshake, whatever was
asked of it, whatever came from outside and whatever the kernel refused.  It has the bytes of
the host's bitmap, and one for a host without.  A release shows the host the buffer as it
is, with the coverage map of this moment over its front and the mark of life on its first
byte where coverage is bridged.  An acquire sets that mark just if it asks for an input, and
changes no other byte.  So where nothing else writes into the buffer, every release behind
such an acquire shows the mark, as does every release that bridges coverage. -/
theorem trace_at_release (options : Options) {vm ready : Vm} {agent : Agent}
    (connected : (negotiate options).run vm = (.ok agent, ready)) (moves : List Move) :
    let now := (⟨agent, ready⟩ : Guest).play moves
    now.trace.length = max vm.host.config.bitmapSize.toNat 1 ∧
    (∃ seen : Buffer,
      (now.make (.ask .release)).vm.history =
        now.vm.history ++ [.called (.release 0) (some seen)] ∧
      now.Shown seen.toList ∧
      ((∀ move ∈ moves, ¬ move.IsScribble) →
        (∃ calls, ready.Made now.vm calls ∧ Asked calls) ∨ now.agent.coverage ≠ none →
          seen.toList[0]? = some 1)) ∧
    ∀ dest,
      let after := now.make (.ask (.acquire dest))
      ∃ calls, now.vm.Made after.vm calls ∧
        (Asked calls ∧ after.trace = now.trace.set 0 1 ∨
          ¬ Asked calls ∧ after.trace = now.trace) := by
  intro now
  have met := negotiated_of_run connected
  let start : Guest := ⟨agent, ready⟩
  have settled : Placed start.agent start.vm := met.placed
  have placed := placed_play settled moves
  have size : now.agent.trace.len = max vm.host.config.bitmapSize.toNat 1 := by
    obtain ⟨memory, mapped, -⟩ := met.mapped
    rw [play_trace_region]
    exact (Memory.region?_map_self mapped).1
  have sized : 0 < now.agent.trace.len := by
    rw [size]
    exact Nat.lt_of_lt_of_le Nat.zero_lt_one (Nat.le_max_right _ _)
  have shown := shown_of_bridged placed sized
  refine ⟨(length_trace placed).trans size, ?_, make_acquire_trace placed⟩
  refine ⟨_, (make_release_trace placed).1, shown, ?_⟩
  intro unscribbled asked
  by_cases coverage : now.agent.coverage = none
  · have unmarked : Marked ready start :=
      ⟨[], .refl ready, fun asked => absurd asked not_asked_nil⟩
    have early : 0 < start.agent.trace.len := by
      rw [← play_trace_region start moves]
      exact sized
    obtain ⟨calls, made, mark⟩ := unmarked.play settled early unscribbled
    rw [shown.unbridged coverage]
    rcases asked with ⟨others, same, asked⟩ | bridges
    · have unique : others = calls :=
        List.append_cancel_left (same.calls.symm.trans made.calls)
      exact mark (unique ▸ asked)
    · exact absurd coverage bridges
  · exact shown.live coverage

/-- What is shown of a map that has bytes, as one list. -/
theorem Shown.eq_set {seen bytes : Bytes} {map : CoverageMap} (shown : guest.Shown seen)
    (coverage : guest.agent.coverage = some map)
    (holds : map.Holds guest.vm.instrumentation bytes) :
    seen = (bytes.take guest.trace.length ++ guest.trace.drop bytes.length).set 0 1 := by
  have live := shown.live (fun none => by cases none.symm.trans coverage)
  have some : 0 < guest.trace.length := by
    rw [← shown.length]
    exact (List.getElem?_eq_some_iff.mp live).1
  have first : 0 < bytes.length := List.length_pos_iff.mpr holds.ne_nil
  apply List.ext_getElem?
  intro k
  rcases Nat.eq_zero_or_pos k with rfl | later
  · rw [live, List.getElem?_set_self]
    rw [List.length_append, List.length_take, List.length_drop]
    omega
  · rw [List.getElem?_set_ne (by omega), List.getElem?_append, List.length_take]
    by_cases covered : k < min bytes.length guest.trace.length
    · rw [shown.copied map bytes coverage holds k later covered, if_pos (by omega),
        List.getElem?_take_of_lt (by omega)]
    · rw [shown.kept map bytes coverage holds k (by omega), if_neg (by omega),
        List.getElem?_drop]
      rcases Nat.le_total bytes.length guest.trace.length with le | le
      · congr 1
        omega
      · rw [List.getElem?_eq_none (by omega), List.getElem?_eq_none (by omega)]

/-- A machine whose trace buffer is to have four bytes, with a runtime whose map has two. -/
def wired : Vm :=
  Vm.fresh .ordinary ⟨some (some [0x10, 0x11]), some 2, none, none⟩
    (Host.fresh (.compatible 4 0x40))

theorem wired_mapped : wired.memory.map wired.host.config.traceSize =
    (.ok ⟨0x10000, 4⟩, (wired.memory.map wired.host.config.traceSize).2) := by
  have first : (wired.memory.map wired.host.config.traceSize).1 = .ok ⟨0x10000, 4⟩ := rfl
  exact Prod.ext first rfl

/-- The buffer is written over from outside.  Between two releases the runtime moves its map
to where there are two bytes, and has it three bytes long. -/
theorem trace_at_release_moved :
    let written : List Move := [.outside (.scribble [5, 6, 7, 8])]
    let moved : List Move := written ++ [.ask .release,
      .outside (.globals ⟨some (some [0x20, 0x21]), some 3, none, none⟩)]
    ∃ agent ready, (negotiate .standard).run wired = (.ok agent, ready) ∧
      let early := (⟨agent, ready⟩ : Guest).play written
      let late := (⟨agent, ready⟩ : Guest).play moved
      early.trace = [5, 6, 7, 8] ∧
        (∃ seen : Buffer, (early.make (.ask .release)).vm.history =
            early.vm.history ++ [.called (.release 0) (some seen)] ∧
          seen.toList = [1, 0x11, 7, 8]) ∧
        ∃ seen : Buffer, (late.make (.ask .release)).vm.history =
            late.vm.history ++ [.called (.release 0) (some seen)] ∧
          seen.toList = [1, 0x21, 0, 8] := by
  intro written moved
  have connected := negotiate_of_mapped .standard rfl wired_mapped
  refine ⟨_, _, connected, ?_⟩
  intro early late
  obtain ⟨-, ⟨seen, history, shown, -⟩, -⟩ := trace_at_release .standard connected written
  obtain ⟨-, ⟨again, later, shownAgain, -⟩, -⟩ := trace_at_release .standard connected moved
  have before : early.trace = [5, 6, 7, 8] := by decide +kernel
  have between : late.trace = [1, 0x11, 7, 8] := by decide +kernel
  refine ⟨before, ⟨seen, history, ?_⟩, ⟨again, later, ?_⟩⟩
  · rw [shown.eq_set rfl (.runtime rfl rfl (by decide)), show Guest.trace _ = _ from before]
    decide
  · rw [shownAgain.eq_set rfl (.runtime rfl rfl (by decide)), show Guest.trace _ = _ from between]
    decide

end

end Guest

end Rewind
