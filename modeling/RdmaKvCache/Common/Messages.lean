import RdmaKvCache.Common.Types

/-!
# Messages

Every process sends and receives the one record `Message`, whose type says which
fields matter.  The constructor of the source initialises the strings, the
vectors and the slot; the other fields of a new message hold what the memory
held before, so each factory function takes that memory along with the reading
of the clock.
-/

namespace RdmaKvCache

structure Message where
  transactionId : UInt64
  timestamp : UInt64
  sourceNodeId : ByteString
  type : MessageType
  status : RequestStatus
  requestInfo : RequestInfo
  nodeInfo : NodeInfo
  membershipListInfo : List NodeInfo
  errorMessage : ByteString
  kvMetadata : KVMetaData
  responseText : ByteString
  deriving DecidableEq

def RequestInfo.new (memory : RequestInfo) : RequestInfo :=
  { memory with
    requestId := []
    prompt := []
    prefillNodeId := []
    decodeNodeId := []
    slotId := -1
    slotBaseOffset := 0 }

def NodeInfo.new (memory : NodeInfo) : NodeInfo :=
  { memory with
    nodeId := []
    ipAddress := []
    nodeOtherNodeFd := []
    gpuName := []
    ibDevName := []
    qmaps := [] }

namespace Message

def new (memory : Message) : Message :=
  { memory with
    sourceNodeId := []
    requestInfo := .new memory.requestInfo
    nodeInfo := .new memory.nodeInfo
    membershipListInfo := []
    errorMessage := []
    responseText := [] }

/-- What a factory function finds when it makes a message. -/
structure Origin where
  memory : Message
  now : UInt64

/-! ## Factory functions -/

/-- A message of which the type, the sender and the time are set. -/
def sent
    (origin : Origin) (type : MessageType) (sourceNodeId : ByteString) :
    Message :=
  { new origin.memory with
    type := type
    sourceNodeId := sourceNodeId
    timestamp := origin.now }

/-- A message about a request. -/
def about
    (origin : Origin) (type : MessageType) (sourceNodeId : ByteString)
    (requestInfo : RequestInfo) : Message :=
  { sent origin type sourceNodeId with requestInfo := requestInfo }

def createRdmaProcessRegistration
    (origin : Origin) (sourceNodeId : ByteString) (nodeInfo : NodeInfo) :
    Message :=
  { sent origin .rdmaProcessRegistration sourceNodeId with
    nodeInfo := nodeInfo }

def createBroadcastMemberInfo
    (origin : Origin) (sourceNodeId : ByteString)
    (membershipListInfo : List NodeInfo) : Message :=
  { sent origin .broadcastMemberInfo sourceNodeId with
    membershipListInfo := membershipListInfo }

def createRdmaReady (origin : Origin) (sourceNodeId : ByteString) : Message :=
  sent origin .rdmaReady sourceNodeId

def createAssignRequest
    (origin : Origin) (sourceNodeId : ByteString)
    (requestInfo : RequestInfo) : Message :=
  about origin .assignRequest sourceNodeId requestInfo

def createPrepareDecodeSlot
    (origin : Origin) (sourceNodeId : ByteString)
    (requestInfo : RequestInfo) : Message :=
  about origin .prepareDecodeSlot sourceNodeId requestInfo

def prefillComplete
    (origin : Origin) (sourceNodeId : ByteString)
    (requestInfo : RequestInfo) : Message :=
  about origin .prefillComplete sourceNodeId requestInfo

def createPrefillCompleteOrchestrator
    (origin : Origin) (sourceNodeId : ByteString)
    (requestInfo : RequestInfo) : Message :=
  about origin .prefillCompleteOrchestrator sourceNodeId requestInfo

def decodeComplete
    (origin : Origin) (sourceNodeId : ByteString)
    (requestInfo : RequestInfo) (responseText : ByteString) : Message :=
  { about origin .decodeComplete sourceNodeId requestInfo with
    responseText := responseText }

def createRequestFailed
    (origin : Origin) (sourceNodeId : ByteString)
    (requestInfo : RequestInfo) (errorMessage : ByteString) : Message :=
  { about origin .requestFailed sourceNodeId requestInfo with
    errorMessage := errorMessage }

def createClientResponse
    (origin : Origin) (sourceNodeId : ByteString)
    (requestInfo : RequestInfo) (responseText : ByteString) : Message :=
  { about origin .clientResponse sourceNodeId requestInfo with
    responseText := responseText }

/-- An error has no sender. -/
def createError (origin : Origin) (errorMessage : ByteString) : Message :=
  { sent origin .clientError [] with errorMessage := errorMessage }

end Message

/-- Memory full of zeros. -/
def Message.cleared : Message where
  transactionId := 0
  timestamp := 0
  sourceNodeId := []
  type := .clientRequest
  status := .pending
  requestInfo :=
    { requestId := []
      prompt := []
      maxTokens := 0
      prefillNodeId := []
      decodeNodeId := []
      timestampCreated := 0
      timestampPrefillStart := 0
      timestampPrefillDone := 0
      timestampDecodeStart := 0
      timestampDecodeDone := 0 }
  nodeInfo := .healthy [] .orchestrator
  membershipListInfo := []
  errorMessage := []
  kvMetadata := ⟨0, 0⟩
  responseText := []

/-- A message and the connection it came from, or `-1`. -/
structure Event where
  clientFd : Int32
  message : Message
  deriving DecidableEq

end RdmaKvCache
