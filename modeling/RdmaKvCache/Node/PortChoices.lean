import Mathlib.Data.Bool.Basic
import Mathlib.Data.Prod.Lex
import RdmaKvCache.Library.GreatestScans
import RdmaKvCache.Node.NodeSetup

/-!
# The port of a GPU

Two functions choose an active port for a GPU, the one of `RDMAEngine` and the
one of the device probe.  Each goes through the ports once: a port on the GPU's
NUMA node beats one on another node, and then the faster port beats the slower
one.

The first scan begins with the first port and looks at it again, the second one
begins with nothing.  Both end with the same port, and this is what a node that
starts registers.
-/

namespace RdmaKvCache

open GreatestScans

/-- What is read of an active port when one is chosen. -/
structure IbPortInfo where
  devName : ByteString
  port : Int32
  numaNode : Int32
  speedGbps : UInt64
  deriving DecidableEq

namespace IbPortInfo

/-- The two tests of either loop for taking `port` in place of `best`. -/
def beats (gpuNuma : Int32) (port best : IbPortInfo) : Bool :=
  let sameNumaNew := decide (port.numaNode = gpuNuma)
  let sameNumaBest := decide (best.numaNode = gpuNuma)
  if sameNumaNew && !sameNumaBest then
    true
  else
    sameNumaNew == sameNumaBest && decide (best.speedGbps < port.speedGbps)

/-- What a port is preferred for: first for its NUMA node, then for its speed. -/
def preference (gpuNuma : Int32) (port : IbPortInfo) : Bool ×ₗ Nat :=
  toLex (decide (port.numaNode = gpuNuma), port.speedGbps.toNat)

theorem beats_iff (gpuNuma : Int32) (port best : IbPortInfo) :
    port.beats gpuNuma best = true ↔
      best.preference gpuNuma < port.preference gpuNuma := by
  rw [beats, preference, preference, Prod.Lex.toLex_lt_toLex, Bool.lt_iff]
  by_cases sameNumaNew : port.numaNode = gpuNuma
  · by_cases sameNumaBest : best.numaNode = gpuNuma
    · simp [sameNumaNew, sameNumaBest, UInt64.lt_iff_toNat_lt]
    · simp [sameNumaNew, sameNumaBest]
  · by_cases sameNumaBest : best.numaNode = gpuNuma
    · simp [sameNumaNew, sameNumaBest]
    · simp [sameNumaNew, sameNumaBest, UInt64.lt_iff_toNat_lt]

end IbPortInfo

/-! ## The loops -/

section Scans

variable (gpuNuma : Int32) (ibPorts : List IbPortInfo)

/-- The body of a loop, for pointers `best` and `port` into the list. -/
def betterPort (best port : Fin ibPorts.length) : Fin ibPorts.length :=
  if ibPorts[port].beats gpuNuma ibPorts[best] then port else best

/-- The port that `RDMAEngine::probe_and_bind_devices` picks. -/
def RDMAEngine.bestPort : Option (Fin ibPorts.length) :=
  if nonempty : 0 < ibPorts.length then
    some
      ((List.finRange ibPorts.length).foldl (betterPort gpuNuma ibPorts)
        ⟨0, nonempty⟩)
  else
    none

/-- The body of the loop in `bind_gpus_to_hcas`. -/
def betterBoundPort
    (best : Option (Fin ibPorts.length)) (port : Fin ibPorts.length) :
    Option (Fin ibPorts.length) :=
  match best with
  | none => some port
  | some best => some (betterPort gpuNuma ibPorts best port)

/-- The port that `bind_gpus_to_hcas` picks for a GPU. -/
def bestBoundPort : Option (Fin ibPorts.length) :=
  (List.finRange ibPorts.length).foldl (betterBoundPort gpuNuma ibPorts) none

/-- The key of a position. -/
def portKey (position : Fin ibPorts.length) : Bool ×ₗ Nat :=
  ibPorts[position].preference gpuNuma

theorem betterPort_eq_keepGreater :
    betterPort gpuNuma ibPorts = keepGreater (portKey gpuNuma ibPorts) := by
  funext best port
  rw [betterPort, keepGreater]
  exact if_congr (ibPorts[port].beats_iff gpuNuma ibPorts[best]) rfl rfl

theorem bestBoundPort_eq_argmax :
    bestBoundPort gpuNuma ibPorts =
      List.argmax (portKey gpuNuma ibPorts)
        (List.finRange ibPorts.length) := by
  have sameStep :
      betterBoundPort gpuNuma ibPorts =
        keepGreaterFrom (portKey gpuNuma ibPorts) := by
    funext best port
    cases best with
    | none =>
        rfl
    | some best =>
        rw [betterBoundPort, betterPort_eq_keepGreater]
        rfl
  rw [bestBoundPort, sameStep, foldl_keepGreaterFrom]

theorem RDMAEngine.bestPort_eq_argmax :
    bestPort gpuNuma ibPorts =
      List.argmax (portKey gpuNuma ibPorts)
        (List.finRange ibPorts.length) := by
  rw [bestPort, betterPort_eq_keepGreater]
  cases ibPorts with
  | nil =>
      rfl
  | cons head rest =>
      have nonempty : 0 < (head :: rest).length :=
        Nat.zero_lt_succ rest.length
      have positions :
          List.finRange (head :: rest).length =
            0 :: (List.finRange rest.length).map Fin.succ :=
        List.finRange_succ
      rw [dif_pos nonempty, positions]
      exact
        some_foldl_keepGreater_head (portKey gpuNuma (head :: rest)) 0
          ((List.finRange rest.length).map Fin.succ)

end Scans

/-- Both loops pick the first of the ports that are preferred to all others. -/
theorem port_choices_agree
    (gpuNuma : Int32) {ibPorts : List IbPortInfo} (nonempty : ibPorts ≠ []) :
    ∃ chosen : Fin ibPorts.length,
      RDMAEngine.bestPort gpuNuma ibPorts = some chosen ∧
        bestBoundPort gpuNuma ibPorts = some chosen ∧
        FirstGreatest (portKey gpuNuma ibPorts) chosen := by
  obtain ⟨chosen, found, isFirst⟩ :=
    exists_argmax_finRange (portKey gpuNuma ibPorts)
      (List.length_pos_of_ne_nil nonempty)
  refine ⟨chosen, ?_, ?_, isFirst⟩
  · rw [RDMAEngine.bestPort_eq_argmax]
    exact found
  · rw [bestBoundPort_eq_argmax]
    exact found

def sampleIbPorts : List IbPortInfo :=
  [⟨.ofText "mlx5_0", 1, 0, 100⟩, ⟨.ofText "mlx5_1", 1, 1, 200⟩,
    ⟨.ofText "mlx5_1", 2, 1, 200⟩, ⟨.ofText "mlx5_2", 1, 1, 100⟩]

/-- For a GPU on node one it is the second port, not the equally fast third. -/
theorem port_choices_agree_sample :
    sampleIbPorts ≠ [] ∧
      bestBoundPort 1 sampleIbPorts = some ⟨1, by decide⟩ ∧
      FirstGreatest (portKey 1 sampleIbPorts) ⟨1, by decide⟩ := by
  have nonempty : sampleIbPorts ≠ [] :=
    List.cons_ne_nil _ _
  obtain ⟨chosen, probed, bound, isFirst⟩ := port_choices_agree 1 nonempty
  have second : RDMAEngine.bestPort 1 sampleIbPorts = some ⟨1, by decide⟩ := by
    decide
  rw [second] at probed
  cases probed
  exact ⟨nonempty, bound, isFirst⟩

/-! ## What the engine records -/

/-- What the driver reports of a GPU. -/
structure GpuProperties where
  name : ByteString
  totalGlobalMem : UInt64
  numaNode : Int32

/-- What is discovered; instead of a list there may be an exception. -/
structure ProbeAnswers where
  gpuIds : Option (List Int32)
  properties : Int32 → GpuProperties
  ibPorts : Option (List IbPortInfo)

namespace RDMAEngine

/-- The first GPU; a build without GPUs has a name for none. -/
def selectGpu (gpuDirect : Bool) (answers : ProbeAnswers) :
    Option (Int32 × GpuProperties) :=
  if gpuDirect then
    answers.gpuIds.bind fun gpuIds =>
      gpuIds.head?.map fun gpuId => (gpuId, answers.properties gpuId)
  else
    some
      (0, { name := .ofText "CPU-only", totalGlobalMem := 0, numaNode := 0 })

def probeAndBindDevices (gpuDirect : Bool) (answers : ProbeAnswers) :
    Option ProbedDevices :=
  (selectGpu gpuDirect answers).bind fun (gpuId, gpu) =>
    answers.ibPorts.bind fun ibPorts =>
      (bestPort gpu.numaNode ibPorts).map fun best =>
        { gpuId := gpuId
          gpuName := gpu.name
          gpuNuma := gpu.numaNode
          gpuMemBytes := gpu.totalGlobalMem
          ibDevName := ibPorts[best].devName
          ibPort := ibPorts[best].port
          ibNuma := ibPorts[best].numaNode
          ibSpeedGbps := ibPorts[best].speedGbps }

end RDMAEngine

/-- The port that is recorded. -/
def ProbedDevices.boundPort (devices : ProbedDevices) : IbPortInfo where
  devName := devices.ibDevName
  port := devices.ibPort
  numaNode := devices.ibNuma
  speedGbps := devices.ibSpeedGbps

/-- The devices a node tells the others about. -/
def NodeInfo.probedDevices (nodeInfo : NodeInfo) : ProbedDevices where
  gpuId := nodeInfo.gpuId
  gpuName := nodeInfo.gpuName
  gpuNuma := nodeInfo.gpuNuma
  gpuMemBytes := nodeInfo.gpuMemBytes
  ibDevName := nodeInfo.ibDevName
  ibPort := nodeInfo.ibPort
  ibNuma := nodeInfo.ibNuma
  ibSpeedGbps := nodeInfo.ibSpeedGbps

theorem RDMAEngine.probeAndBindDevices_eq_some
    {gpuDirect : Bool} {answers : ProbeAnswers} {devices : ProbedDevices}
    (probed : probeAndBindDevices gpuDirect answers = some devices) :
    ∃ ibPorts, answers.ibPorts = some ibPorts ∧
      ∃ chosen : Fin ibPorts.length,
        FirstGreatest (portKey devices.gpuNuma ibPorts) chosen ∧
          devices.boundPort = ibPorts[chosen] := by
  simp only [probeAndBindDevices, Option.bind_eq_some_iff,
    Option.map_eq_some_iff] at probed
  obtain ⟨⟨gpuId, gpu⟩, _, ibPorts, discovered, chosen, picked, same⟩ := probed
  rw [bestPort_eq_argmax] at picked
  cases same
  exact
    ⟨ibPorts, discovered, chosen, argmax_finRange_eq_some_iff.mp picked, rfl⟩

/-- A node with a GPU registers the devices it has probed. -/
theorem Node.start_probedDevices
    {config : NodeConfig} {answers : SetupAnswers} {fd : Int32}
    {accepted : List (ByteString × Int32)} {registered : NodeInfo}
    {peerQps : PeerQps} (useGpu : config.useGpu = true)
    (started :
      start config answers fd accepted = some (registered, peerQps)) :
    answers.devices = some registered.probedDevices := by
  rw [start] at started
  split at started
  · cases started
  · obtain ⟨⟨initialized, made⟩, built, same⟩ :=
      Option.map_eq_some_iff.mp started
    cases same
    simp only [NodeInfo.initializeRdma, Option.bind_eq_some_iff] at built
    obtain ⟨devices, isProbed, opened⟩ := built
    split at opened
    · obtain ⟨memory, _, created⟩ := Option.bind_eq_some_iff.mp opened
      split at created
      · have kept :=
          congrArg NodeInfo.probedDevices (createPeerQps_nodeInfo created)
        rw [isProbed]
        exact congrArg some kept.symm
      · cases created
    · cases opened

/-! ## What the device probe binds -/

structure BoundDevice where
  gpuId : Int32 := -1
  gpuName : ByteString := []
  gpuNuma : Int32 := -1
  gpuMemBytes : UInt64 := 0
  ibDevName : ByteString := []
  ibPort : Int32 := 1
  ibNuma : Int32 := -1
  ibSpeedGbps : UInt64 := 0
  ibState : ByteString := []
  gid : Vector UInt8 16 := .replicate 16 0

/-- The exceptions of `bind_gpus_to_hcas`. -/
inductive BindError where
  | noIbPort
  | numaMismatch
  deriving DecidableEq

/-- The text of an exception. -/
def BindError.what : BindError → ByteString
  | noIbPort => .ofText "[BIND] No IB port for GPU"
  | numaMismatch => .ofText "[BIND] NUMA mismatch"

/-- What the driver reports, and the GID of a device that can be opened. -/
structure BindAnswers where
  properties : Int32 → GpuProperties
  gid : ByteString → Int32 → Option (Vector UInt8 16)

namespace BoundDevice

/-- A GPU before it has a port. -/
def ofGpu (gpuDirect : Bool) (answers : BindAnswers) (gpuId : Int32) :
    BoundDevice :=
  if gpuDirect then
    { gpuId := gpuId
      gpuName := (answers.properties gpuId).name
      gpuMemBytes := (answers.properties gpuId).totalGlobalMem
      gpuNuma := (answers.properties gpuId).numaNode }
  else
    { gpuId := gpuId }

def withPort
    (device : BoundDevice) (answers : BindAnswers) (best : IbPortInfo) :
    BoundDevice :=
  { device with
    ibDevName := best.devName
    ibPort := best.port
    ibNuma := best.numaNode
    ibSpeedGbps := best.speedGbps
    ibState := .ofText "PORT_ACTIVE"
    gid := (answers.gid best.devName best.port).getD device.gid }

/-- The GPU and the port are known to be on different NUMA nodes. -/
def Mismatched (device : BoundDevice) : Prop :=
  device.gpuNuma ≠ device.ibNuma ∧ device.gpuNuma ≠ -1 ∧ device.ibNuma ≠ -1

instance Mismatched.decidable (device : BoundDevice) :
    Decidable device.Mismatched :=
  inferInstanceAs (Decidable (_ ∧ _))

/-- The port that is bound. -/
def boundPort (device : BoundDevice) : IbPortInfo where
  devName := device.ibDevName
  port := device.ibPort
  numaNode := device.ibNuma
  speedGbps := device.ibSpeedGbps

end BoundDevice

section Bindings

variable (gpuDirect requireSameNuma : Bool) (answers : BindAnswers)

/-- The body of the loop over the GPUs. -/
def bindGpuToHca (ibPorts : List IbPortInfo) (gpuId : Int32) :
    Except BindError BoundDevice :=
  let device := BoundDevice.ofGpu gpuDirect answers gpuId
  match bestBoundPort device.gpuNuma ibPorts with
  | none => .error .noIbPort
  | some best =>
      let bound := device.withPort answers ibPorts[best]
      if requireSameNuma ∧ bound.Mismatched then
        .error .numaMismatch
      else
        .ok bound

def bindGpusToHcas (ibPorts : List IbPortInfo) :
    List Int32 → Except BindError (List BoundDevice)
  | [] => .ok []
  | gpuId :: rest =>
      (bindGpuToHca gpuDirect requireSameNuma answers ibPorts gpuId).bind
        fun bound => (bindGpusToHcas ibPorts rest).map (bound :: ·)

/-- The device of a GPU has its first greatest port. -/
structure BoundDevice.BoundTo
    (ibPorts : List IbPortInfo) (gpuId : Int32) (device : BoundDevice) :
    Prop where
  gpu : device.gpuId = gpuId
  best :
    ∃ chosen : Fin ibPorts.length,
      FirstGreatest (portKey device.gpuNuma ibPorts) chosen ∧
        device.boundPort = ibPorts[chosen]
  sameNuma : requireSameNuma = true → ¬ device.Mismatched

variable {gpuDirect requireSameNuma} {answers}
variable {ibPorts : List IbPortInfo}

theorem bindGpuToHca_eq_ok
    {gpuId : Int32} {bound : BoundDevice}
    (binds :
      bindGpuToHca gpuDirect requireSameNuma answers ibPorts gpuId =
        .ok bound) :
    BoundDevice.BoundTo requireSameNuma ibPorts gpuId bound := by
  rw [bindGpuToHca] at binds
  split at binds
  · cases binds
  · rename_i chosen picked
    rw [bestBoundPort_eq_argmax] at picked
    dsimp only at binds
    split at binds
    · cases binds
    · rename_i admitted
      cases binds
      refine ⟨?_, ⟨chosen, argmax_finRange_eq_some_iff.mp picked, rfl⟩, ?_⟩
      · cases gpuDirect with
        | false =>
            rfl
        | true =>
            rfl
      · intro required mismatched
        exact admitted ⟨required, mismatched⟩

/-- Every GPU is bound to its first greatest port. -/
theorem bindGpusToHcas_eq_ok
    {gpuIds : List Int32} {bound : List BoundDevice}
    (binds :
      bindGpusToHcas gpuDirect requireSameNuma answers ibPorts gpuIds =
        .ok bound) :
    List.Forall₂ (BoundDevice.BoundTo requireSameNuma ibPorts) gpuIds
      bound := by
  induction gpuIds generalizing bound with
  | nil =>
      cases binds
      exact List.Forall₂.nil
  | cons gpuId rest inductionHypothesis =>
      rw [bindGpusToHcas] at binds
      cases first :
          bindGpuToHca gpuDirect requireSameNuma answers ibPorts gpuId with
      | error problem =>
          rw [first] at binds
          cases binds
      | ok device =>
          rw [first] at binds
          cases others :
              bindGpusToHcas gpuDirect requireSameNuma answers ibPorts
                rest with
          | error problem =>
              simp only [Except.bind, others] at binds
              cases binds
          | ok devices =>
              simp only [Except.bind, others] at binds
              cases binds
              exact
                List.Forall₂.cons (bindGpuToHca_eq_ok first)
                  (inductionHypothesis others)

/-- With a port to choose, only the NUMA nodes can keep a GPU from being bound. -/
theorem bindGpuToHca_eq_error
    {gpuId : Int32} {problem : BindError} (nonempty : ibPorts ≠ [])
    (fails :
      bindGpuToHca gpuDirect requireSameNuma answers ibPorts gpuId =
        .error problem) :
    requireSameNuma = true ∧ problem = .numaMismatch := by
  obtain ⟨chosen, picked, _⟩ :=
    exists_argmax_finRange
      (portKey (BoundDevice.ofGpu gpuDirect answers gpuId).gpuNuma ibPorts)
      (List.length_pos_of_ne_nil nonempty)
  rw [← bestBoundPort_eq_argmax] at picked
  simp only [bindGpuToHca, picked] at fails
  split at fails
  · rename_i refused
    cases fails
    exact ⟨refused.1, rfl⟩
  · cases fails

theorem bindGpusToHcas_eq_error
    {gpuIds : List Int32} {problem : BindError} (nonempty : ibPorts ≠ [])
    (fails :
      bindGpusToHcas gpuDirect requireSameNuma answers ibPorts gpuIds =
        .error problem) :
    requireSameNuma = true ∧ problem = .numaMismatch := by
  induction gpuIds with
  | nil =>
      cases fails
  | cons gpuId rest inductionHypothesis =>
      rw [bindGpusToHcas] at fails
      cases first :
          bindGpuToHca gpuDirect requireSameNuma answers ibPorts gpuId with
      | error earlier =>
          rw [first] at fails
          cases fails
          exact bindGpuToHca_eq_error nonempty first
      | ok device =>
          rw [first] at fails
          cases others :
              bindGpusToHcas gpuDirect requireSameNuma answers ibPorts
                rest with
          | error later =>
              simp only [Except.bind, others] at fails
              cases fails
              exact inductionHypothesis others
          | ok devices =>
              simp only [Except.bind, others] at fails
              cases fails

end Bindings

/-! ## The port that is registered -/

/-- A node with a GPU that starts registers the first of the ports preferred to all
others.  Binding GPUs to the same ports gives each one such a port, the one that is
registered if the GPU is on the same NUMA node; only the NUMA nodes can keep a GPU
from being bound. -/
theorem bound_ports_are_registered
    {gpuDirect bindsDirect requireSameNuma : Bool} {probing : ProbeAnswers}
    {binding : BindAnswers} {ibPorts : List IbPortInfo} {config : NodeConfig}
    {answers : SetupAnswers} {fd : Int32}
    {accepted : List (ByteString × Int32)} {registered : NodeInfo}
    {peerQps : PeerQps} (useGpu : config.useGpu = true)
    (probes :
      answers.devices = RDMAEngine.probeAndBindDevices gpuDirect probing)
    (discovered : probing.ibPorts = some ibPorts)
    (started :
      Node.start config answers fd accepted = some (registered, peerQps))
    (gpuIds : List Int32) :
    (∃ chosen : Fin ibPorts.length,
      FirstGreatest (portKey registered.gpuNuma ibPorts) chosen ∧
        registered.probedDevices.boundPort = ibPorts[chosen]) ∧
      (∀ bound,
        bindGpusToHcas bindsDirect requireSameNuma binding ibPorts gpuIds =
            .ok bound →
          List.Forall₂
            (fun gpuId device =>
              device.BoundTo requireSameNuma ibPorts gpuId ∧
                (device.gpuNuma = registered.gpuNuma →
                  device.boundPort = registered.probedDevices.boundPort))
            gpuIds bound) ∧
      ∀ problem,
        bindGpusToHcas bindsDirect requireSameNuma binding ibPorts gpuIds =
            .error problem →
          requireSameNuma = true ∧ problem = .numaMismatch := by
  have probed := Node.start_probedDevices useGpu started
  rw [probes] at probed
  obtain ⟨seen, isSeen, chosen, isFirst, recorded⟩ :=
    RDMAEngine.probeAndBindDevices_eq_some probed
  rw [discovered] at isSeen
  cases isSeen
  refine ⟨⟨chosen, isFirst, recorded⟩, ?_, ?_⟩
  · intro bound binds
    apply (bindGpusToHcas_eq_ok binds).imp
    intro gpuId device isBound
    refine ⟨isBound, ?_⟩
    intro sameGpu
    obtain ⟨other, isOther, boundPort⟩ := isBound.best
    rw [sameGpu] at isOther
    rw [boundPort, recorded, isOther.unique isFirst]
  · intro problem fails
    exact
      bindGpusToHcas_eq_error (List.ne_nil_of_length_pos chosen.pos) fails

/-- Two GPUs on different NUMA nodes, the first of which the engine takes. -/
def sampleProbing : ProbeAnswers where
  gpuIds := some [0, 1]
  properties := fun gpuId =>
    { name := .ofText "GPU"
      totalGlobalMem := 1024
      numaNode := if gpuId = 0 then 1 else 0 }
  ibPorts := some sampleIbPorts

def sampleBinding : BindAnswers where
  properties := sampleProbing.properties
  gid := fun _ _ => none

def sampleGpuConfig : NodeConfig where
  nodeId := [1]
  role := .ofText "decode"
  numLayers := 1
  memory := {}
  prefillNodes := []
  decodeNodes := []

def sampleGpuAnswers : SetupAnswers where
  devices := RDMAEngine.probeAndBindDevices true sampleProbing
  deviceBound := true
  deviceOpened := true
  memory := some ⟨4096, 7, 8, 1024⟩
  cqsCreated := true
  creates := fun _ => none

/-- The first GPU is bound to the port that is registered. -/
theorem sample_ports_are_registered :
    ∃ registered peerQps first second,
      Node.start sampleGpuConfig sampleGpuAnswers 4 [] =
          some (registered, peerQps) ∧
        bindGpusToHcas true true sampleBinding sampleIbPorts [0, 1] =
          .ok [first, second] ∧
        first.boundPort = registered.probedDevices.boundPort := by
  have starts :
      (Node.start sampleGpuConfig sampleGpuAnswers 4 []).map
          (fun started => started.1.gpuNuma) = some 1 := by
    decide
  obtain ⟨⟨registered, peerQps⟩, started, onNode⟩ :=
    Option.map_eq_some_iff.mp starts
  have probes :
      sampleGpuAnswers.devices =
        RDMAEngine.probeAndBindDevices true sampleProbing :=
    rfl
  have discovered : sampleProbing.ibPorts = some sampleIbPorts :=
    rfl
  have binds :
      bindGpusToHcas true true sampleBinding sampleIbPorts [0, 1] =
        .ok [_, _] :=
    rfl
  have bound :=
    (bound_ports_are_registered rfl probes discovered started [0, 1]).2.1 _
      binds
  refine ⟨registered, peerQps, _, _, started, binds, ?_⟩
  cases bound with
  | cons first rest =>
      exact first.2 onNode.symm

/-- Without GPUs the engine takes node zero for the GPU's and the device probe
none, so that they may well differ. -/
example :
    RDMAEngine.bestPort 0 sampleIbPorts ≠
      bestBoundPort (-1) sampleIbPorts := by
  decide

end RdmaKvCache
