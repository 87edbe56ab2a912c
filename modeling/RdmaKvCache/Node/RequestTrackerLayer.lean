import RdmaKvCache.Common.Types

/-!
# The request tracker of a node

`RequestTrackerLayer` follows the requests a node has slots for: which layers of
each have arrived and which request a sequence number stands for.  Every
operation below is one critical section of its mutex.

The metadata of a request has one entry for each of its layers; this is part of
its type.
-/

namespace RdmaKvCache

namespace RequestTrackerLayer

structure MemoryLayout where
  bufferSizeBytes : UInt64 := 16 * 1024 * 1024 * 1024
  maxConcurrentRequests : Int32 := 8
  numLayers : Int32 := 32
  layerSizeBytes : UInt64 := 128 * 1024 * 1024
  deriving DecidableEq

namespace MemoryLayout

def getRequestSize (layout : MemoryLayout) : UInt64 :=
  layout.numLayers.toInt64.toUInt64 * layout.layerSizeBytes

def getSlotBaseOffset (layout : MemoryLayout) (slot : Int32) : UInt64 :=
  slot.toInt64.toUInt64 * layout.getRequestSize

def getLayerOffset (layout : MemoryLayout) (slot layerId : Int32) : UInt64 :=
  layout.getSlotBaseOffset slot +
    layerId.toInt64.toUInt64 * layout.layerSizeBytes

def validateOffset (layout : MemoryLayout) (offset length : UInt64) : Bool :=
  offset + length ≤ layout.bufferSizeBytes

end MemoryLayout

inductive State where
  | assigned
  | waitingForPrefill
  | waitingForKv
  | receivingKv
  | readyForDecode
  | decoding
  | completed
  | failed
  deriving DecidableEq

structure LayerMetadata where
  layerId : Int32
  offset : UInt64
  size : UInt64
  received : Bool
  deriving DecidableEq

structure RequestInfo where
  requestId : ByteString
  prefillNodeId : ByteString
  seqNum : UInt16
  slotId : Int32
  baseOffset : UInt64
  numLayers : Int32
  layers : Vector LayerMetadata numLayers.toInt.toNat
  layersReceivedCount : Int32
  state : State
  prompt : ByteString
  numTokens : Int32
  maxOutputTokens : Int32
  deriving DecidableEq

/-- The exceptions of `add_request`; the last one is thrown by the vector of
layers. -/
inductive AddRequestError where
  | invalidSlot (slot : Int32)
  | slotInUse (slot : Int32) (holder : ByteString)
  | negativeLayerCount (numLayers : Int32)
  deriving DecidableEq

end RequestTrackerLayer

structure RequestTrackerLayer where
  layout : RequestTrackerLayer.MemoryLayout := {}
  requests : UnorderedMap ByteString RequestTrackerLayer.RequestInfo := ∅
  requestToSeq : UnorderedMap ByteString UInt16 := ∅
  seqToRequest : UnorderedMap UInt16 ByteString := ∅
  totalRequests : UInt64 := 0
  completedRequests : UInt64 := 0
  failedRequests : UInt64 := 0

namespace RequestTrackerLayer

/-! ## Lifecycle -/

/-- Some request that holds the slot. -/
def slotHolder (tracker : RequestTrackerLayer) (slot : Int32) :
    Option ByteString :=
  (tracker.requests.entries.find? fun entry =>
    decide (entry.2.slotId = slot)).map Sigma.fst

/-- The record of a request none of whose layers has arrived. -/
def newRequest
    (layout : MemoryLayout) (requestId prefillNodeId : ByteString)
    (assignedSlot numLayers : Int32) : RequestInfo where
  requestId := requestId
  prefillNodeId := prefillNodeId
  seqNum := UInt16.ofInt assignedSlot.toInt
  slotId := assignedSlot
  baseOffset := layout.getSlotBaseOffset assignedSlot
  numLayers := numLayers
  layers :=
    .ofFn fun index =>
      { layerId := Int32.ofNat index
        offset := layout.getLayerOffset assignedSlot (Int32.ofNat index)
        size := layout.layerSizeBytes
        received := false }
  layersReceivedCount := 0
  state := .assigned
  prompt := []
  numTokens := 0
  maxOutputTokens := 0

def addRequest
    (tracker : RequestTrackerLayer) (requestId prefillNodeId : ByteString)
    (assignedSlot numLayers : Int32) :
    Except AddRequestError (UInt16 × RequestTrackerLayer) :=
  if assignedSlot < 0 ∨ tracker.layout.maxConcurrentRequests ≤ assignedSlot then
    .error (.invalidSlot assignedSlot)
  else
    match tracker.slotHolder assignedSlot with
    | some holder => .error (.slotInUse assignedSlot holder)
    | none =>
        if numLayers < 0 then
          .error (.negativeLayerCount numLayers)
        else
          let info :=
            newRequest tracker.layout requestId prefillNodeId assignedSlot
              numLayers
          .ok
            (info.seqNum,
              { tracker with
                requests := tracker.requests.insert requestId info
                requestToSeq :=
                  tracker.requestToSeq.insert requestId info.seqNum
                seqToRequest :=
                  tracker.seqToRequest.insert info.seqNum requestId
                totalRequests := tracker.totalRequests + 1 })

def updateState
    (tracker : RequestTrackerLayer) (requestId : ByteString)
    (newState : State) : Bool × RequestTrackerLayer :=
  match tracker.requests.lookup requestId with
  | none => (false, tracker)
  | some info =>
      (true,
        { tracker with
          requests :=
            tracker.requests.insert requestId { info with state := newState }
          completedRequests :=
            if newState = .completed then tracker.completedRequests + 1
            else tracker.completedRequests
          failedRequests :=
            if newState = .failed then tracker.failedRequests + 1
            else tracker.failedRequests })

def getRequest (tracker : RequestTrackerLayer) (requestId : ByteString) :
    Option RequestInfo :=
  tracker.requests.lookup requestId

def removeRequest (tracker : RequestTrackerLayer) (requestId : ByteString) :
    RequestTrackerLayer :=
  match tracker.requests.lookup requestId with
  | none => tracker
  | some info =>
      { tracker with
        requests := tracker.requests.erase requestId
        requestToSeq := tracker.requestToSeq.erase requestId
        seqToRequest := tracker.seqToRequest.erase info.seqNum }

/-! ## Layers -/

theorem layerIndex_lt {layerId numLayers : Int32}
    (inRange : 0 ≤ layerId ∧ layerId < numLayers) :
    layerId.toInt.toNat < numLayers.toInt.toNat := by
  have nonneg : 0 ≤ layerId.toInt := Int32.le_iff_toInt_le.mp inRange.1
  have below : layerId.toInt < numLayers.toInt :=
    Int32.lt_iff_toInt_lt.mp inRange.2
  omega

/-- Record one more layer; a layer that is not one of the request's or that has
arrived before is refused. -/
def RequestInfo.receiveLayer (info : RequestInfo) (layerId : Int32) :
    Option RequestInfo :=
  if inRange : 0 ≤ layerId ∧ layerId < info.numLayers then
    have bound := layerIndex_lt inRange
    let layer := info.layers[layerId.toInt.toNat]
    if layer.received then none else
      let receivedCount := info.layersReceivedCount + 1
      some
        { info with
          layers :=
            info.layers.set layerId.toInt.toNat { layer with received := true }
          layersReceivedCount := receivedCount
          state :=
            if receivedCount = info.numLayers then .readyForDecode
            else if receivedCount = 1 then .receivingKv
            else info.state }
  else
    none

/-- Tells whether the marked layer was the last one missing. -/
def markLayerReceived
    (tracker : RequestTrackerLayer) (requestId : ByteString)
    (layerId : Int32) : Bool × RequestTrackerLayer :=
  match tracker.requests.lookup requestId with
  | none => (false, tracker)
  | some info =>
      match info.receiveLayer layerId with
      | none => (false, tracker)
      | some received =>
          (decide (received.layersReceivedCount = received.numLayers),
            { tracker with
              requests := tracker.requests.insert requestId received })

def isLayerReady
    (tracker : RequestTrackerLayer) (requestId : ByteString)
    (layerId : Int32) : Bool :=
  match tracker.requests.lookup requestId with
  | none => false
  | some info =>
      if inRange : 0 ≤ layerId ∧ layerId < info.numLayers then
        have bound := layerIndex_lt inRange
        info.layers[layerId.toInt.toNat].received
      else
        false

/-- The exceptions of `get_layer_offset`. -/
inductive LayerOffsetError where
  | requestNotFound (requestId : ByteString)
  | invalidLayerId (layerId : Int32)
  deriving DecidableEq

def getLayerOffset
    (tracker : RequestTrackerLayer) (requestId : ByteString)
    (layerId : Int32) : Except LayerOffsetError UInt64 :=
  match tracker.requests.lookup requestId with
  | none => .error (.requestNotFound requestId)
  | some info =>
      if inRange : 0 ≤ layerId ∧ layerId < info.numLayers then
        have bound := layerIndex_lt inRange
        .ok info.layers[layerId.toInt.toNat].offset
      else
        .error (.invalidLayerId layerId)

/-! ## Sequence numbers -/

/-- The empty id stands for an unknown sequence number. -/
def resolveSeqNum (tracker : RequestTrackerLayer) (seqNum : UInt16) :
    ByteString :=
  (tracker.seqToRequest.lookup seqNum).getD []

def getSeqNum (tracker : RequestTrackerLayer) (requestId : ByteString) :
    UInt16 :=
  (tracker.requestToSeq.lookup requestId).getD 0

def getSlotId (tracker : RequestTrackerLayer) (requestId : ByteString) :
    Int32 :=
  match tracker.requests.lookup requestId with
  | none => -1
  | some info => info.slotId

def encodeLayerId (requestSeq layerId : UInt16) : UInt32 :=
  requestSeq.toUInt32 <<< 16 ||| layerId.toUInt32

def decodeLayerId (immData : UInt32) : UInt16 × UInt16 :=
  ((immData >>> 16).toUInt16, (immData &&& 0xFFFF).toUInt16)

/-! ## What the operations change -/

variable {tracker next : RequestTrackerLayer}

theorem addRequest_eq_ok
    {requestId prefillNodeId : ByteString} {assignedSlot numLayers : Int32}
    {seqNum : UInt16}
    (added :
      tracker.addRequest requestId prefillNodeId assignedSlot numLayers =
        .ok (seqNum, next)) :
    seqNum = UInt16.ofInt assignedSlot.toInt ∧
      (0 ≤ assignedSlot ∧ assignedSlot < tracker.layout.maxConcurrentRequests) ∧
      tracker.slotHolder assignedSlot = none ∧
      0 ≤ numLayers ∧
      next =
        { tracker with
          requests :=
            tracker.requests.insert requestId
              (newRequest tracker.layout requestId prefillNodeId assignedSlot
                numLayers)
          requestToSeq := tracker.requestToSeq.insert requestId seqNum
          seqToRequest := tracker.seqToRequest.insert seqNum requestId
          totalRequests := tracker.totalRequests + 1 } := by
  rw [addRequest] at added
  split at added
  · cases added
  · rename_i valid
    rw [not_or, Int32.not_lt, Int32.not_le] at valid
    split at added
    · cases added
    · rename_i noHolder
      split at added
      · cases added
      · rename_i notNegative
        cases added
        exact ⟨rfl, valid, noHolder, Int32.not_lt.mp notNegative, rfl⟩

theorem updateState_layout
    (tracker : RequestTrackerLayer) (requestId : ByteString)
    (newState : State) :
    (tracker.updateState requestId newState).2.layout = tracker.layout := by
  rw [updateState]
  split <;> rfl

theorem removeRequest_layout
    (tracker : RequestTrackerLayer) (requestId : ByteString) :
    (tracker.removeRequest requestId).layout = tracker.layout := by
  rw [removeRequest]
  split <;> rfl

theorem markLayerReceived_layout
    (tracker : RequestTrackerLayer) (requestId : ByteString)
    (layerId : Int32) :
    (tracker.markLayerReceived requestId layerId).2.layout =
      tracker.layout := by
  rw [markLayerReceived]
  split
  · rfl
  · split <;> rfl

theorem updateState_seqToRequest
    (tracker : RequestTrackerLayer) (requestId : ByteString)
    (newState : State) :
    (tracker.updateState requestId newState).2.seqToRequest =
      tracker.seqToRequest := by
  rw [updateState]
  split <;> rfl

theorem markLayerReceived_seqToRequest
    (tracker : RequestTrackerLayer) (requestId : ByteString)
    (layerId : Int32) :
    (tracker.markLayerReceived requestId layerId).2.seqToRequest =
      tracker.seqToRequest := by
  rw [markLayerReceived]
  split
  · rfl
  · split <;> rfl

section ReceiveLayer

variable {info received : RequestInfo} {layerId : Int32}

/-- A recorded layer is one of the request's and has not arrived before. -/
theorem receiveLayer_eq_some
    (receives : info.receiveLayer layerId = some received) :
    (0 ≤ layerId ∧ layerId < info.numLayers) ∧
      ∃ bound : layerId.toInt.toNat < info.numLayers.toInt.toNat,
        ¬ info.layers[layerId.toInt.toNat].received = true ∧
          received =
            { info with
              layers :=
                info.layers.set layerId.toInt.toNat
                  { info.layers[layerId.toInt.toNat] with received := true }
              layersReceivedCount := info.layersReceivedCount + 1
              state :=
                if info.layersReceivedCount + 1 = info.numLayers then
                  .readyForDecode
                else if info.layersReceivedCount + 1 = 1 then .receivingKv
                else info.state } := by
  rw [RequestInfo.receiveLayer] at receives
  split at receives
  · rename_i inRange
    simp only at receives
    split at receives
    · cases receives
    · rename_i missing
      exact
        ⟨inRange, layerIndex_lt inRange, missing,
          (Option.some.inj receives).symm⟩
  · cases receives

/-- A layer of the request is only refused when it has arrived before. -/
theorem receiveLayer_eq_none
    (inRange : 0 ≤ layerId ∧ layerId < info.numLayers)
    (refused : info.receiveLayer layerId = none) :
    ∃ bound : layerId.toInt.toNat < info.numLayers.toInt.toNat,
      info.layers[layerId.toInt.toNat].received = true := by
  rw [RequestInfo.receiveLayer, dif_pos inRange] at refused
  simp only at refused
  split at refused
  · rename_i isReceived
    exact ⟨layerIndex_lt inRange, isReceived⟩
  · cases refused

theorem receiveLayer_same
    (receives : info.receiveLayer layerId = some received) :
    received.slotId = info.slotId ∧ received.seqNum = info.seqNum ∧
      received.numLayers = info.numLayers ∧
      received.layersReceivedCount = info.layersReceivedCount + 1 := by
  obtain ⟨_, _, _, isReceived⟩ := receiveLayer_eq_some receives
  rw [isReceived]
  exact ⟨rfl, rfl, rfl, rfl⟩

end ReceiveLayer

/-- Removing a request gives no sequence number a new meaning. -/
theorem seqToRequest_of_removeRequest
    {removed requestId : ByteString} {seqNum : UInt16}
    (resolves :
      (tracker.removeRequest removed).seqToRequest.lookup seqNum =
        some requestId) :
    tracker.seqToRequest.lookup seqNum = some requestId := by
  rw [removeRequest] at resolves
  split at resolves
  · exact resolves
  · rename_i info _
    by_cases same : seqNum = info.seqNum
    · subst same
      rw [AList.lookup_erase] at resolves
      cases resolves
    · rwa [AList.lookup_erase_ne same] at resolves

/-- A sequence number stands for a request with a name, or for none. -/
theorem resolveSeqNum_ne_nil
    {seqNum : UInt16} (known : tracker.resolveSeqNum seqNum ≠ []) :
    tracker.seqToRequest.lookup seqNum =
      some (tracker.resolveSeqNum seqNum) := by
  unfold resolveSeqNum at known ⊢
  cases found : tracker.seqToRequest.lookup seqNum with
  | none =>
      rw [found] at known
      exact absurd rfl known
  | some requestId =>
      rfl

end RequestTrackerLayer

end RdmaKvCache
