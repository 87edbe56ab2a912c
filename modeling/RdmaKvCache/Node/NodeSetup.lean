import RdmaKvCache.Common.Config
import RdmaKvCache.Common.WireMessages
import RdmaKvCache.Rdma.QueuePairs

/-!
# Starting a node

A node fills in its `NodeInfo` in the constructor, in the RDMA engine and on
connecting to the orchestrator, and registers with it.  What the adapter, the
operating system and the GPU driver answer comes from outside; a step that fails
ends the start of the node.
-/

namespace RdmaKvCache

open CheckedReaders

/-- A value-initialised `NodeInfo`. -/
def NodeInfo.zero : NodeInfo where
  nodeId := []
  role := .orchestrator
  ipAddress := []
  tcpPort := 0
  nodeOwnOrchestratorFd := 0
  nodeOtherNodeFd := []
  vllmPort := 0
  isHealthy := false
  gpuId := 0
  gpuName := []
  gpuNuma := 0
  gpuMemBytes := 0
  ibDevName := []
  ibPort := 0
  ibNuma := 0
  ibSpeedGbps := 0
  gpuBaseAddr := 0
  lkey := 0
  rkey := 0
  memoryPoolSize := 0
  qmaps := []

structure NodeConfig extends Config where
  useGpu : Bool := true
  prefillNodes : List ByteString
  decodeNodes : List ByteString

/-- The GPU and the port that are found. -/
structure ProbedDevices where
  gpuId : Int32
  gpuName : ByteString
  gpuNuma : Int32
  gpuMemBytes : UInt64
  ibDevName : ByteString
  ibPort : Int32
  ibNuma : Int32
  ibSpeedGbps : UInt64

structure RegisteredMemory where
  addr : UInt64
  lkey : UInt32
  rkey : UInt32
  bytes : UInt64

/-- What the steps of `RDMAEngine::initialize` find, unless they fail. -/
structure SetupAnswers where
  devices : Option ProbedDevices
  deviceBound : Bool
  deviceOpened : Bool
  memory : Option RegisteredMemory
  cqsCreated : Bool
  creates : Nat → Option CreatedQueuePair

namespace NodeInfo

def probeAndBindDevices (nodeInfo : NodeInfo) (devices : ProbedDevices) :
    NodeInfo :=
  { nodeInfo with
    gpuId := devices.gpuId
    gpuName := devices.gpuName
    gpuNuma := devices.gpuNuma
    gpuMemBytes := devices.gpuMemBytes
    ibDevName := devices.ibDevName
    ibPort := devices.ibPort
    ibNuma := devices.ibNuma
    ibSpeedGbps := devices.ibSpeedGbps }

def allocAndRegisterGpuMemory
    (nodeInfo : NodeInfo) (memory : RegisteredMemory) : NodeInfo :=
  { nodeInfo with
    gpuBaseAddr := memory.addr
    lkey := memory.lkey.toUInt64
    rkey := memory.rkey.toUInt64
    memoryPoolSize := memory.bytes }

/-- `RDMAEngine::initialize`. -/
def initializeRdma
    (nodeInfo : NodeInfo) (config : NodeConfig) (answers : SetupAnswers) :
    Option (NodeInfo × PeerQps) :=
  answers.devices.bind fun devices =>
    let probed := nodeInfo.probeAndBindDevices devices
    if answers.deviceBound && answers.deviceOpened then
      answers.memory.bind fun memory =>
        let allocated := probed.allocAndRegisterGpuMemory memory
        if answers.cqsCreated then
          createPeerQps answers.creates
            (expectedPeers allocated.role config.prefillNodes
              config.decodeNodes)
            (allocated, [])
        else
          none
    else
      none

end NodeInfo

namespace Node

/-- `node_info_` as the constructor of `Node` leaves it. -/
def nodeInfo (config : NodeConfig) : NodeInfo :=
  { NodeInfo.zero with
    nodeId := config.nodeId
    role :=
      if config.role = .ofText "prefill" then .prefill else .decode }

/-- What `start` registers: `fd` is the connection to the orchestrator, and the
other ones have been accepted before. -/
def start
    (config : NodeConfig) (answers : SetupAnswers) (fd : Int32)
    (accepted : List (ByteString × Int32)) : Option (NodeInfo × PeerQps) :=
  if config.memory.kvBufferMb < config.memory.requiredMb then
    none
  else
    (if config.useGpu then
        (nodeInfo config).initializeRdma config answers
      else
        some (nodeInfo config, [])).map fun (initialized, peerQps) =>
      ({ initialized with
          nodeOwnOrchestratorFd := fd
          nodeOtherNodeFd := accepted },
        peerQps)

/-- The message `send_node_info_to_orchestrator` enqueues. -/
def registration (origin : Message.Origin) (nodeInfo : NodeInfo) : Message :=
  .createRdmaProcessRegistration origin nodeInfo.nodeId nodeInfo

end Node

/-! ## What a node registers -/

theorem NodeInfo.initializeRdma_eq_some
    {nodeInfo final : NodeInfo} {config : NodeConfig} {answers : SetupAnswers}
    {peerQps : PeerQps}
    (initialized :
      nodeInfo.initializeRdma config answers = some (final, peerQps)) :
    ∃ allocated : NodeInfo,
      allocated.nodeId = nodeInfo.nodeId ∧ allocated.role = nodeInfo.role ∧
        allocated.isHealthy = nodeInfo.isHealthy ∧
        allocated.qmaps = nodeInfo.qmaps ∧
        createPeerQps answers.creates
            (expectedPeers allocated.role config.prefillNodes
              config.decodeNodes)
            (allocated, []) =
          some (final, peerQps) := by
  simp only [initializeRdma, Option.bind_eq_some_iff] at initialized
  obtain ⟨devices, _, opened⟩ := initialized
  split at opened
  · obtain ⟨memory, _, created⟩ := Option.bind_eq_some_iff.mp opened
    split at created
    · exact
        ⟨(nodeInfo.probeAndBindDevices devices).allocAndRegisterGpuMemory
            memory,
          rfl, rfl, rfl, rfl, created⟩
    · cases created
  · cases opened

/-- A node registers under its name, with the role of its configuration, and as
one that is not healthy. -/
theorem Node.start_eq_some
    {config : NodeConfig} {answers : SetupAnswers} {fd : Int32}
    {accepted : List (ByteString × Int32)} {registered : NodeInfo}
    {peerQps : PeerQps}
    (started :
      start config answers fd accepted = some (registered, peerQps)) :
    registered.nodeId = config.nodeId ∧
      registered.role = (nodeInfo config).role ∧
      registered.isHealthy = false := by
  rw [start] at started
  split at started
  · cases started
  · obtain ⟨⟨initialized, made⟩, built, same⟩ :=
      Option.map_eq_some_iff.mp started
    cases same
    split at built
    · obtain ⟨allocated, nodeId, role, isHealthy, _, created⟩ :=
        NodeInfo.initializeRdma_eq_some built
      have kept := createPeerQps_nodeInfo created
      have keptId := congrArg NodeInfo.nodeId kept
      have keptRole := congrArg NodeInfo.role kept
      have keptHealth := congrArg NodeInfo.isHealthy kept
      exact
        ⟨keptId.trans nodeId, keptRole.trans role,
          keptHealth.trans isHealthy⟩
    · cases built
      exact ⟨rfl, rfl, rfl⟩

/-! ## What arrives -/

/-- The message with the status of which one byte is sent. -/
def Message.withSentStatus (message : Message) : Message :=
  { message with
    status := .ofCode (codeOfByte (byteOfCode message.status.code)) }

theorem serializeMessage_withSentStatus (message : Message) :
    serializeMessage message.withSentStatus = serializeMessage message := by
  simp only [serializeMessage, Message.withSentStatus,
    RequestStatus.code_ofCode, byteOfCode_codeOfByte]

theorem Node.registration_fits
    (origin : Message.Origin) {nodeInfo : NodeInfo} (fits : nodeInfo.Fits) :
    (registration origin nodeInfo).withSentStatus.Fits where
  type := by
    change FitsOneByte MessageType.rdmaProcessRegistration.code
    decide
  status := by
    change FitsOneByte (RequestStatus.ofCode (codeOfByte _)).code
    rw [RequestStatus.code_ofCode]
    exact fitsOneByte_codeOfByte _
  sourceNodeId := fits.nodeId
  requestInfo := by
    constructor <;>
      exact Nat.two_pow_pos 32
  nodeInfo := fits
  membershipListInfo := Nat.two_pow_pos 32
  members := by
    intro member listed
    cases listed
  errorMessage := Nat.two_pow_pos 32
  responseText := Nat.two_pow_pos 32

theorem Node.deserialize_registration
    (origin : Message.Origin) {nodeInfo : NodeInfo} (fits : nodeInfo.Fits) :
    deserializeMessage (serializeMessage (registration origin nodeInfo)) =
      .done (registration origin nodeInfo).withSentStatus.overTheWire [] := by
  have carried :=
    Message.carried_overTheWire (registration_fits origin fits)
  have read :=
    reads_deserializeMessage.read_append (encodes_serializeMessage carried) []
  rwa [List.append_nil, serializeMessage_overTheWire,
    serializeMessage_withSentStatus] at read

/-- The orchestrator receives what the node knows of itself, but for the
descriptors. -/
theorem Node.registration_arrives
    {origin : Message.Origin} {nodeInfo : NodeInfo} {received : Message}
    {rest : ByteString} (fits : nodeInfo.Fits)
    (arrived :
      deserializeMessage (serializeMessage (registration origin nodeInfo)) =
        .done received rest) :
    received.type = .rdmaProcessRegistration ∧
      received.nodeInfo = nodeInfo.overTheWire := by
  rw [deserialize_registration origin fits] at arrived
  cases arrived
  exact ⟨rfl, rfl⟩

end RdmaKvCache
