/-
# Rewind.Proofs.Handshake -- what the handshake does, and to whom

The handshake has two gates, the magic before the version.  A host that is held at
either is asked for its configuration and for nothing else.  One that passes learns of
a trace buffer of zeros and, where the options and the runtime of the target give one,
of a dictionary; the agent that comes of it has no payload buffer yet.

Main statements: `Agent.negotiate_cases` (what a handshake can come to),
`Agent.negotiate_outcome` (what it does where memory is granted, for every host, every choice
of options and all globals of a runtime), `Agent.Negotiated.placed` and
`Agent.negotiated_of_run` (what any handshake that went through leaves, whatever the kernel
refused).
-/
import Rewind.Proofs.Operations

namespace Rewind

set_option autoImplicit false

namespace Vm

/-- The machine after the host was asked what it can do and its answer was logged. -/
def greeted (vm : Vm) : Vm :=
  ((Agent.logCapabilities vm.host.config).run (vm.serve .getHostConfig)).2

theorem made_greeted (vm : Vm) : vm.Made vm.greeted [.getHostConfig] := by
  have asked := vm.made_serve .getHostConfig
  exact ((asked.trans (made_append _ rfl)).trans (made_append _ rfl)).trans (made_append _ rfl)

/-- The coverage that an agent is to bridge. -/
def bridged? (vm : Vm) (options : Options) : Option CoverageMap :=
  if options.bridgeCoverage then CoverageMap.discover vm.instrumentation else none

/-- The dictionary that the host is to have. -/
def seed? (vm : Vm) (options : Options) : Option Slice :=
  if options.uploadDictionary then vm.instrumentation.dictionary? else none

/-- The machine after coverage was looked for. -/
def searched (vm : Vm) (options : Options) : Vm :=
  if (vm.bridged? options).isSome then
    vm.append (.logged ⟨.debug, "bridging instrumentation coverage into the trace buffer"⟩)
  else vm

theorem discoverCoverage_run (options : Options) (vm : Vm) :
    (Agent.discoverCoverage options).run vm = (vm.bridged? options, vm.searched options) := by
  obtain ⟨memory, ⟨area, mapSize, dictionary, dictionarySize⟩, host, history⟩ := vm
  obtain ⟨logLevel, uploadDictionary, bridgeCoverage, blockTargetOverrides⟩ := options
  cases bridgeCoverage with
  | false => rfl
  | true => cases area <;> cases mapSize <;> rfl

theorem made_searched (vm : Vm) (options : Options) : vm.Made (vm.searched options) [] := by
  unfold searched
  split
  · exact made_append vm rfl
  · exact .refl vm

/-- The machine after an agent with this trace buffer declared itself. -/
def introduced (vm : Vm) (trace : Region) (memory : Memory) (options : Options) : Vm :=
  (({ vm.greeted with memory := memory } : Vm).serve
    (.setAgentConfig (Agent.declaration trace))).searched options

theorem made_introduced (vm : Vm) (trace : Region) (memory : Memory) (options : Options) :
    vm.Made (vm.introduced trace memory options)
      [.getHostConfig, .setAgentConfig (Agent.declaration trace)] := by
  have mapped : vm.greeted.Made { vm.greeted with memory := memory } [] := made_of_history rfl
  have declared := made_serve ({ vm.greeted with memory := memory } : Vm)
    (.setAgentConfig (Agent.declaration trace))
  exact ((vm.made_greeted.trans mapped).trans declared).trans (made_searched _ options)

theorem introduced_instrumentation (vm : Vm) (trace : Region) (memory : Memory)
    (options : Options) :
    (vm.introduced trace memory options).instrumentation = vm.instrumentation := by
  unfold introduced searched
  split <;> rfl

end Vm

namespace Agent

open Vm

/-- The agent that a handshake makes. -/
def newcomer (vm : Vm) (trace : Region) (options : Options) : Agent where
  hostConfig := vm.host.config
  state := .negotiated
  trace := trace
  payload := none
  coverage := vm.bridged? options

/-! ## How a handshake can come out -/

theorem negotiate_of_incompatible {vm : Vm} {error : AgentError} (options : Options)
    (refused : incompatibility? vm.host.config = some error) :
    (negotiate options).run vm = (.error error, vm.serve .getHostConfig) := by
  simp only [negotiate, bind_run, fetchConfig_run, refused]
  rfl

theorem traceSize_ne_zero (config : HostConfig) : config.traceSize ≠ 0 :=
  Nat.ne_of_gt (Nat.le_max_right _ _)

theorem negotiate_of_unmapped {vm : Vm} {errno : Errno} {memory : Memory} (options : Options)
    (compatible : incompatibility? vm.host.config = none)
    (unmapped : vm.memory.map vm.host.config.traceSize = (.error errno, memory)) :
    (negotiate options).run vm =
      (.error (.map vm.host.config.traceSize errno), { vm.greeted with memory := memory }) := by
  have greeting : (logCapabilities vm.host.config).run (vm.serve .getHostConfig) =
      ((), vm.greeted) := rfl
  have refused : vm.greeted.memory.map vm.host.config.traceSize = (.error errno, memory) := unmapped
  simp only [negotiate, bind_run, fetchConfig_run, compatible, greeting,
    map_run_of_refused (traceSize_ne_zero _) refused]
  rfl

/-- How the dictionary came to the host, if there is one, and the machine behind that. -/
def seeded (vm : Vm) (trace : Region) (memory : Memory) (options : Options) :
    Except AgentError Unit × Vm :=
  match vm.seed? options with
  | none => (.ok (), vm.introduced trace memory options)
  | some data => (uploadDictionary data).run (vm.introduced trace memory options)

/-- Once the trace buffer is mapped, only the dictionary can still keep the agent from
being handed out. -/
theorem negotiate_of_mapped {vm : Vm} {trace : Region} {memory : Memory} (options : Options)
    (compatible : incompatibility? vm.host.config = none)
    (mapped : vm.memory.map vm.host.config.traceSize = (.ok trace, memory)) :
    (negotiate options).run vm =
      let sent := seeded vm trace memory options
      (sent.1.map fun _ => newcomer vm trace options, sent.2) := by
  have greeting : (logCapabilities vm.host.config).run (vm.serve .getHostConfig) =
      ((), vm.greeted) := rfl
  have granted : vm.greeted.memory.map vm.host.config.traceSize = (.ok trace, memory) := mapped
  simp only [negotiate, bind_run, fetchConfig_run, compatible, greeting,
    map_run_of_granted (traceSize_ne_zero _) granted, hypercall_run,
    discoverCoverage_run]
  change (if (!options.uploadDictionary) = true then
      pure (.ok (newcomer vm trace options))
    else do
      match (← get).instrumentation.dictionary? with
      | none => return .ok (newcomer vm trace options)
      | some dictionary =>
          return (← uploadDictionary dictionary).map fun _ => newcomer vm trace options :
      VmM (Except AgentError Agent)).run (vm.introduced trace memory options) = _
  have globals := introduced_instrumentation vm trace memory options
  cases uploads : options.uploadDictionary with
  | false =>
      simp only [seeded, seed?, uploads]
      rfl
  | true =>
      cases found : vm.instrumentation.dictionary? with
      | none =>
          simp only [seeded, seed?, uploads, Bool.not_true, Bool.false_eq_true, if_true, if_false,
            bind_run, get_run, globals, found]
          rfl
      | some data =>
          simp only [seeded, seed?, uploads, Bool.not_true, Bool.false_eq_true, if_true, if_false,
            bind_run, get_run, globals, found]
          rfl

/-- What a handshake can come to: the host is refused, or there is no trace buffer, or the rest
hangs on the dictionary. -/
theorem negotiate_cases (options : Options) (vm : Vm) :
    let ran := (negotiate options).run vm
    (∃ error, incompatibility? vm.host.config = some error ∧
      ran = (.error error, vm.serve .getHostConfig)) ∨
    (∃ errno memory, incompatibility? vm.host.config = none ∧
      vm.memory.map vm.host.config.traceSize = (.error errno, memory) ∧
      ran = (.error (.map vm.host.config.traceSize errno), { vm.greeted with memory := memory })) ∨
    ∃ trace memory, incompatibility? vm.host.config = none ∧
      vm.memory.map vm.host.config.traceSize = (.ok trace, memory) ∧
      ran = (let sent := seeded vm trace memory options
        (sent.1.map fun _ => newcomer vm trace options, sent.2)) := by
  cases compatible : incompatibility? vm.host.config with
  | some error => exact .inl ⟨error, rfl, negotiate_of_incompatible options compatible⟩
  | none =>
      right
      cases mapped : vm.memory.map vm.host.config.traceSize with
      | mk result memory =>
          cases result with
          | error errno =>
              exact .inl ⟨errno, memory, rfl, rfl, negotiate_of_unmapped options compatible mapped⟩
          | ok trace =>
              exact .inr ⟨trace, memory, rfl, rfl, negotiate_of_mapped options compatible mapped⟩

/-! ## What a handshake that went through leaves -/

section

variable {options : Options} {vm ready : Vm} {agent : Agent}

/-- A handshake went through: this agent on this machine came of it. -/
structure Negotiated (options : Options) (vm : Vm) (agent : Agent) (ready : Vm) : Prop where
  compatible : incompatibility? vm.host.config = none
  fresh : agent = newcomer vm agent.trace options
  mapped : ∃ memory, vm.memory.map vm.host.config.traceSize = (.ok agent.trace, memory) ∧
    ready = (seeded vm agent.trace memory options).2

theorem introduced_host (vm : Vm) (trace : Region) (memory : Memory) (options : Options) :
    (vm.introduced trace memory options).host =
      { vm.host with agentConfig := some (declaration trace) } := by
  unfold introduced searched
  split <;> rfl

theorem introduced_memory (vm : Vm) (trace : Region) (memory : Memory) (options : Options) :
    (vm.introduced trace memory options).memory = memory := by
  unfold introduced searched
  split <;> rfl

/-- Where there is a dictionary, it is uploaded behind a record of its size. -/
theorem seeded_cases (vm : Vm) (trace : Region) (memory : Memory) (options : Options) :
    let sent := seeded vm trace memory options
    let met := vm.introduced trace memory options
    (vm.seed? options = none ∧ sent = (.ok (), met)) ∨
      ∃ data told, vm.seed? options = some data ∧ told.host = met.host ∧
        told.memory = met.memory ∧ met.Made told [] ∧
          Uploads (Utf8.ofString dictionaryFile) data true told sent.1 sent.2 := by
  cases seed : vm.seed? options with
  | none =>
      refine .inl ⟨rfl, ?_⟩
      rw [seeded, seed]
  | some data =>
      let told := (vm.introduced trace memory options).append
        (.logged ⟨.info, "uploading " ++ Text.hex data.content.size ++ " bytes of auto-dictionary"⟩)
      refine .inr ⟨data, told, rfl, rfl, rfl, made_append _ rfl, ?_⟩
      rw [seeded, seed]
      exact uploads (Utf8.ofString dictionaryFile) data true _

theorem seeded_frame (vm : Vm) (trace : Region) (memory : Memory) (options : Options) :
    let after := (seeded vm trace memory options).2
    after.host = { vm.host with agentConfig := some (declaration trace) } ∧
      after.memory.kernel = memory.kernel ∧ after.memory.next = memory.next ∧
        ∀ addr, after.memory.region? addr = memory.region? addr := by
  have host := introduced_host vm trace memory options
  have stays := introduced_memory vm trace memory options
  rcases seeded_cases vm trace memory options with ⟨-, sent⟩ |
      ⟨data, told, -, sameHost, sameMemory, -, uploads⟩
  · rw [sent]
    exact ⟨host, by rw [stays], by rw [stays], fun addr => by rw [stays]⟩
  · have settled := uploads.settled
    rw [stays] at sameMemory
    refine ⟨uploads.host.trans (sameHost.trans host), ?_, ?_, fun addr => ?_⟩
    · rw [settled.kernel, sameMemory]
    · rw [settled.next, sameMemory]
    · rw [uploads.region?, sameMemory]

theorem negotiated_of_run (ran : (negotiate options).run vm = (.ok agent, ready)) :
    Negotiated options vm agent ready := by
  rcases negotiate_cases options vm with
    ⟨_, -, stops⟩ | ⟨_, _, -, -, stops⟩ | ⟨trace, memory, compatible, mapped, goes⟩
  · cases stops.symm.trans ran
  · cases stops.symm.trans ran
  · obtain ⟨made, rfl⟩ := Prod.mk.inj (goes.symm.trans ran)
    cases sent : (seeded vm trace memory options).1 with
    | error error =>
        rw [sent] at made
        cases made
    | ok sentWhole =>
        rw [sent] at made
        obtain rfl := Except.ok.inj made
        exact ⟨compatible, rfl, memory, mapped, rfl⟩

theorem Negotiated.state (negotiated : Negotiated options vm agent ready) :
    agent.state = .negotiated := by
  rw [negotiated.fresh]
  rfl

theorem Negotiated.payload (negotiated : Negotiated options vm agent ready) :
    agent.payload = none := by
  rw [negotiated.fresh]
  rfl

theorem Negotiated.hostConfig (negotiated : Negotiated options vm agent ready) :
    agent.hostConfig = vm.host.config := by
  rw [negotiated.fresh]
  rfl

theorem Negotiated.host (negotiated : Negotiated options vm agent ready) :
    ready.host = { vm.host with agentConfig := some (declaration agent.trace) } := by
  obtain ⟨memory, -, rfl⟩ := negotiated.mapped
  exact (seeded_frame vm agent.trace memory options).1

theorem Negotiated.memory (negotiated : Negotiated options vm agent ready) :
    ∃ memory, vm.memory.map vm.host.config.traceSize = (.ok agent.trace, memory) ∧
      ready.memory.kernel = memory.kernel ∧ ready.memory.next = memory.next ∧
        ∀ addr, ready.memory.region? addr = memory.region? addr := by
  obtain ⟨memory, mapped, rfl⟩ := negotiated.mapped
  exact ⟨memory, mapped, (seeded_frame vm agent.trace memory options).2⟩

theorem Negotiated.placed (negotiated : Negotiated options vm agent ready) :
    Placed agent ready where
  config := by rw [negotiated.host, negotiated.hostConfig]
  listens := by rw [negotiated.host]
  trace := by
    obtain ⟨memory, mapped, -, -, same⟩ := negotiated.memory
    obtain ⟨content, found, size⟩ := Memory.holds_new mapped
    exact ⟨content, (same _).trans found, size⟩
  payload region payload := by
    rw [negotiated.payload] at payload
    cases payload

theorem Negotiated.kernel (negotiated : Negotiated options vm agent ready) :
    ready.memory.kernel = vm.memory.kernel := by
  obtain ⟨memory, mapped, kernel, -, -⟩ := negotiated.memory
  have same := vm.memory.kernel_map vm.host.config.traceSize
  rw [mapped] at same
  exact kernel.trans same

/-- No host asks for a trace buffer that takes more than a region may. -/
theorem traceSize_lt (config : HostConfig) : config.traceSize < Memory.regionLimit := by
  have small := config.bitmapSize.toNat_lt
  simp only [HostConfig.traceSize, Memory.regionLimit]
  omega

theorem Negotiated.hasRoom {regions : Nat} (negotiated : Negotiated options vm agent ready)
    (grants : vm.memory.kernel.Grants) (room : vm.memory.HasRoom (regions + 1)) :
    ready.memory.HasRoom regions := by
  obtain ⟨memory, mapped, -, next, -⟩ := negotiated.memory
  obtain ⟨after, granted, left⟩ := Memory.map_of_grants grants room (traceSize_lt vm.host.config)
  rw [mapped] at granted
  obtain ⟨-, rfl⟩ := Prod.mk.inj granted
  rw [Memory.HasRoom, next]
  exact left

end

/-! ## The outcome where memory is granted -/

section

variable {vm : Vm}

/-- The hypercalls that hand over a dictionary: one, or none where the option is off, a
global is missing, the pointer is null or there are no bytes. -/
def dictionaryCalls (globals : Instrumentation) (options : Options) : List Call :=
  match options.uploadDictionary, globals.dictionary, globals.dictionarySize with
  | true, some (some bytes), some size =>
      if 0 < size then
        [.dumpFile (Utf8.ofString "afl_autodict.txt") (UInt64.ofNat Memory.dataStart)
          (Buffer.padded size.toNat bytes) 1]
      else []
  | _, _, _ => []

/-- A dictionary that is handed over has bytes, and lies with the data of the program. -/
theorem seed_placed {data : Slice} {options : Options} (seed : vm.seed? options = some data) :
    data.content.size ≠ 0 ∧ data.addr = UInt64.ofNat Memory.dataStart := by
  unfold seed? Instrumentation.dictionary? at seed
  split at seed
  · split at seed
    · next bytes size found counted =>
        split at seed
        · cases seed
        · next sized =>
            obtain rfl := Option.some.inj seed
            refine ⟨?_, rfl⟩
            intro nothing
            exact sized (UInt32.toNat_inj.mp nothing)
    · cases seed
  · cases seed

theorem dictionaryCalls_eq (vm : Vm) (options : Options) :
    dictionaryCalls vm.instrumentation options =
      (vm.seed? options).toList.map fun data =>
        .dumpFile (Utf8.ofString "afl_autodict.txt") data.addr data.content 1 := by
  unfold dictionaryCalls seed? Instrumentation.dictionary?
  cases options.uploadDictionary with
  | false => rfl
  | true =>
      rcases vm.instrumentation.dictionary with - | - | bytes
      · rfl
      · rfl
      · cases vm.instrumentation.dictionarySize with
        | none => rfl
        | some size =>
            by_cases nothing : size = 0
            · subst nothing
              rfl
            · have sized : 0 < size := UInt32.pos_iff_ne_zero.mpr nothing
              simp only [if_true, if_pos sized, if_neg nothing]
              rfl

theorem dictionary_name :
    (Utf8.ofString dictionaryFile).takeWhile (· != 0) = Utf8.ofString "afl_autodict.txt" := by
  decide

theorem seeded_of_grants (vm : Vm) {memory : Memory} (grants : memory.kernel.Grants)
    (trace : Region) (options : Options) :
    let sent := seeded vm trace memory options
    sent.1 = .ok () ∧ vm.Made sent.2
      ([.getHostConfig, .setAgentConfig (declaration trace)] ++
        dictionaryCalls vm.instrumentation options) := by
  have met := vm.made_introduced trace memory options
  have stays := introduced_memory vm trace memory options
  rcases seeded_cases vm trace memory options with ⟨seed, sent⟩ |
      ⟨data, told, seed, -, sameMemory, made, uploads⟩
  · rw [sent, dictionaryCalls_eq, seed]
    exact ⟨rfl, met⟩
  · obtain ⟨sized, place⟩ := seed_placed seed
    rw [stays] at sameMemory
    have granted : (told.memory.lock data.addr data.content.size).1 = none := by
      rw [sameMemory, place]
      exact Memory.lock_of_grants grants memory.isResident_dataStart _
    have handed := uploads.stored_of_granted sized granted
    rw [dictionary_name] at handed
    rw [dictionaryCalls_eq, seed]
    exact ⟨handed.1, (met.trans made).trans handed.2⟩

theorem incompatibility?_eq_none {config : HostConfig} :
    incompatibility? config = none ↔
      config.hostMagic = Rewind.hostMagic ∧ config.hostVersion = Rewind.hostVersion := by
  unfold incompatibility?
  by_cases magic : config.hostMagic = Rewind.hostMagic
  · by_cases version : config.hostVersion = Rewind.hostVersion
    · simp [magic, version]
    · simp [magic, version]
  · simp [magic]

/-- Coverage is bridged where the option is on and both globals of the map are there. -/
theorem bridged?_eq (vm : Vm) (options : Options) :
    vm.bridged? options =
      if options.bridgeCoverage ∧ vm.instrumentation.area.isSome ∧
          vm.instrumentation.mapSize.isSome then
        some .runtime
      else none := by
  unfold bridged? CoverageMap.discover
  by_cases bridges : options.bridgeCoverage
  · simp [bridges]
  · simp [bridges]

theorem negotiate_of_grants (vm : Vm) (options : Options) (grants : vm.memory.kernel.Grants)
    (room : vm.memory.HasRoom 1) (compatible : incompatibility? vm.host.config = none) :
    ∃ agent, ((negotiate options).run vm).1 = .ok agent ∧
      vm.Made ((negotiate options).run vm).2
        ([.getHostConfig, .setAgentConfig (declaration agent.trace)] ++
          dictionaryCalls vm.instrumentation options) := by
  obtain ⟨memory, mapped, -⟩ := Memory.map_of_grants grants room (traceSize_lt vm.host.config)
  have granted : memory.kernel.Grants := by
    have same := vm.memory.kernel_map vm.host.config.traceSize
    rw [mapped] at same
    rwa [same]
  obtain ⟨sent, made⟩ := seeded_of_grants vm granted
    ⟨UInt64.ofNat vm.memory.next, vm.host.config.traceSize⟩ options
  rw [negotiate_of_mapped options compatible mapped]
  refine ⟨newcomer vm ⟨UInt64.ofNat vm.memory.next, vm.host.config.traceSize⟩ options, ?_, made⟩
  simp only [sent]
  rfl

/-- What a handshake does where the kernel grants every region and every lock, for every
configuration of the host, all options and whatever the runtime of the target exports. -/
theorem negotiate_outcome (vm : Vm) (options : Options) (grants : vm.memory.kernel.Grants)
    (room : vm.memory.HasRoom 1) :
    let config := vm.host.config
    let globals := vm.instrumentation
    let ran := (negotiate options).run vm
    ((∃ agent, ran.1 = .ok agent) ↔
      config.hostMagic = Rewind.hostMagic ∧ config.hostVersion = Rewind.hostVersion) ∧
    (config.hostMagic ≠ Rewind.hostMagic →
      ran.1 = .error (.hostMagic config.hostMagic Rewind.hostMagic) ∧
        ran.2.calls = vm.calls ++ [.getHostConfig] ∧ ran.2.memory = vm.memory) ∧
    (config.hostMagic = Rewind.hostMagic → config.hostVersion ≠ Rewind.hostVersion →
      ran.1 = .error (.hostVersion config.hostVersion Rewind.hostVersion) ∧
        ran.2.calls = vm.calls ++ [.getHostConfig] ∧ ran.2.memory = vm.memory) ∧
    ∀ agent, ran.1 = .ok agent →
      ran.2.calls = vm.calls ++ ([.getHostConfig, .setAgentConfig
        { agentMagic := Rewind.agentMagic, agentVersion := Rewind.agentVersion
          timeoutDetection := 0, tracing := 1, ijonTracing := 0, nonReloadMode := 0
          traceBufferVaddr := agent.trace.addr, ijonTraceBufferVaddr := 0
          coverageBitmapSize := 0, inputBufferSize := 0, dumpPayloads := 0 }] ++
        dictionaryCalls globals options) ∧
      agent.state = .negotiated ∧ agent.payload = none ∧
      agent.trace.len = max config.bitmapSize.toNat 1 ∧
      ran.2.memory.region? agent.trace.addr =
        some (Buffer.zeros (max config.bitmapSize.toNat 1)) ∧
      agent.maxInputSize = config.payloadBufferSize.toNat ∧
      agent.coverage =
        if options.bridgeCoverage ∧ globals.area.isSome ∧ globals.mapSize.isSome then
          some .runtime
        else none := by
  intro config globals ran
  refine ⟨?_, ?_, ?_, ?_⟩
  · constructor
    · rintro ⟨agent, ok⟩
      have through : ran = (.ok agent, ran.2) := Prod.ext ok rfl
      have negotiated := negotiated_of_run through
      exact incompatibility?_eq_none.mp negotiated.compatible
    · intro speaks
      obtain ⟨agent, ok, -⟩ :=
        negotiate_of_grants vm options grants room (incompatibility?_eq_none.mpr speaks)
      exact ⟨agent, ok⟩
  · intro foreign
    have refused : incompatibility? config = some (.hostMagic config.hostMagic Rewind.hostMagic) :=
      if_pos foreign
    have stops : ran = _ := negotiate_of_incompatible options refused
    rw [stops]
    exact ⟨rfl, (vm.made_serve .getHostConfig).calls, rfl⟩
  · intro speaks outdated
    have refused : incompatibility? config =
        some (.hostVersion config.hostVersion Rewind.hostVersion) := by
      rw [incompatibility?, if_neg (not_not_intro speaks), if_pos outdated]
    have stops : ran = _ := negotiate_of_incompatible options refused
    rw [stops]
    exact ⟨rfl, (vm.made_serve .getHostConfig).calls, rfl⟩
  · intro agent ok
    have through : ran = (.ok agent, ran.2) := Prod.ext ok rfl
    have negotiated := negotiated_of_run through
    obtain ⟨maker, made, calls⟩ :=
      negotiate_of_grants vm options grants room negotiated.compatible
    obtain rfl : agent = maker := Except.ok.inj (ok.symm.trans made)
    obtain ⟨memory, mapped, -, -, same⟩ := negotiated.memory
    obtain ⟨size, zeros, -⟩ := Memory.region?_map_self mapped
    refine ⟨calls.calls, negotiated.state, negotiated.payload, size, ?_, ?_, ?_⟩
    · rw [same, zeros]
      rfl
    · rw [maxInputSize, negotiated.hostConfig]
    · rw [negotiated.fresh]
      exact bridged?_eq vm options

/-- A target with a dictionary of two bytes and a map that has no size. -/
def seededTarget : Instrumentation := ⟨some none, none, some (some [0x41, 0x42]), some 2⟩

theorem negotiate_outcome_seeded :
    let vm := Vm.fresh .ordinary seededTarget (Host.fresh (.compatible 0 0x1000))
    vm.memory.kernel.Grants ∧ vm.memory.HasRoom 1 ∧
      ∃ agent, ((negotiate .standard).run vm).1 = .ok agent ∧ agent.trace.len = 1 ∧
        agent.coverage = none ∧ ((negotiate .standard).run vm).2.calls =
          [.getHostConfig, .setAgentConfig (declaration agent.trace),
            .dumpFile (Utf8.ofString "afl_autodict.txt") 0x8010 (Buffer.padded 2 [0x41, 0x42])
              1] := by
  intro vm
  have grants : vm.memory.kernel.Grants := Kernel.ordinary_grants
  have room : vm.memory.HasRoom 1 :=
    Memory.hasRoom_mono (Memory.fresh_hasRoom .ordinary) (by decide)
  obtain ⟨meets, -, -, met⟩ := negotiate_outcome vm .standard grants room
  obtain ⟨agent, ok⟩ := meets.mpr ⟨rfl, rfl⟩
  obtain ⟨calls, -, -, len, -, -, coverage⟩ := met agent ok
  exact ⟨grants, room, agent, ok, len, coverage, calls⟩

end

end Agent

end Rewind
