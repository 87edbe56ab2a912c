import RdmaKvCache.Rdma.ImmediateData

/-!
# The connector between vLLM and the engine

On a prefill node `save_kv_layer` writes the keys and then the values of one
layer of each stored request into the buffer of the peer.  On a decode node
`start_load_kv` views the same layer in the staging buffer.  Both ask
`_calculate_rdma_offset` where the layer is.

Python integers are unbounded.  A value that does not fit the C++ type of the
parameter it is bound to is refused by the bindings.
-/

namespace RdmaKvCache

open RequestTrackerLayer

/-- The exceptions of the connector. -/
inductive ConnectorError where
  | invalidMetadata
  | missingSlot (tokenIds : List Int)
  | offsetOutOfBounds (slotId layerId finalOffset maxOffset : Int)
  | offsetExceedsBuffer (offset bufferSize : Int)
  | invalidLiteral (part : List Char)
  | invalidShape (shape : List Nat)
  | indexOutOfRange
  | incompatibleArguments
  | rdmaWriteFailed
  | stagingBufferMissing
  | injectionFailed
  deriving DecidableEq

/-- `str.isdigit` and `int`; which characters are digits is left open. -/
structure PythonDigits where
  isdigit : List Char → Bool
  int : List Char → Option Nat

/-- Both on ASCII text. -/
def PythonDigits.ascii : PythonDigits where
  isdigit part := !part.isEmpty && part.all Char.isDigit
  int part :=
    some (part.foldl (fun value digit => value * 10 + (digit.toNat - 48)) 0)

/-- The number of the first part that is one, zero when none is. -/
def firstNumber (digits : PythonDigits) :
    List (List Char) → Except ConnectorError Nat
  | [] => .ok 0
  | part :: rest =>
      if digits.isdigit part then
        match digits.int part with
        | some value => .ok value
        | none => .error (.invalidLiteral part)
      else
        firstNumber digits rest

def extractLayerId (digits : PythonDigits) (layerName : List Char) :
    Except ConnectorError Nat :=
  firstNumber digits (layerName.splitOn '.')

structure Tensor where
  dataPtr : UInt64
  shape : List Nat
  elementSize : Nat
  deriving DecidableEq

def Tensor.nbytes (tensor : Tensor) : Nat :=
  tensor.shape.prod * tensor.elementSize

/-- What the connector metadata say about a request. -/
structure ConnectorRequest where
  tokenIds : List Int
  slotMapping : List Int
  isStore : Bool
  mmHashes : List ByteString := []
  slotId : Option Int
  slotBaseOffset : Option Int
  deriving DecidableEq

structure RegisteredRegion where
  gpuPtr : UInt64
  size : UInt64
  lkey : UInt32
  deriving DecidableEq

structure RDMABindings where
  rdmaEngine : RDMAEngine
  registeredRegions : List RegisteredRegion := []
  writeCounter : UInt64 := 0

namespace RDMABindings

def getLkeyForPtr (bindings : RDMABindings) (gpuPtr : UInt64) :
    Option UInt32 :=
  (bindings.registeredRegions.find? fun region =>
    decide (region.gpuPtr ≤ gpuPtr) &&
      decide (gpuPtr < region.gpuPtr + region.size)).map RegisteredRegion.lkey

/-- Every eighth write is signaled. -/
def cqBatchSize : UInt64 := 8

def rdmaWrite
    (bindings : RDMABindings) (accepts : UInt32 → SendWorkRequest → Bool)
    (peerId : ByteString) (localAddr remoteOffset size : UInt64)
    (immData : UInt32) : RDMAEngine.PostOutcome × RDMABindings :=
  match bindings.getLkeyForPtr localAddr with
  | none => (.refused, bindings)
  | some lkey =>
      let writeCounter := bindings.writeCounter + 1
      let (outcome, engine) :=
        bindings.rdmaEngine.postWriteExternal accepts peerId localAddr lkey
          remoteOffset size immData (writeCounter % cqBatchSize == 0)
      (outcome,
        { bindings with rdmaEngine := engine, writeCounter := writeCounter })

/-- A posted write is one of the engine, with the key found for its address. -/
theorem rdmaWrite_eq_posted
    {bindings next : RDMABindings} {accepts : UInt32 → SendWorkRequest → Bool}
    {peerId : ByteString} {localAddr remoteOffset size : UInt64}
    {immData qpNum : UInt32} {request : SendWorkRequest}
    (posted :
      bindings.rdmaWrite accepts peerId localAddr remoteOffset size immData =
        (.posted qpNum request, next)) :
    ∃ lkey engine,
      bindings.getLkeyForPtr localAddr = some lkey ∧
        bindings.rdmaEngine.postWriteExternal accepts peerId localAddr lkey
            remoteOffset size immData
            ((bindings.writeCounter + 1) % cqBatchSize == 0) =
          (.posted qpNum request, engine) ∧
        next =
          { bindings with
            rdmaEngine := engine
            writeCounter := bindings.writeCounter + 1 } := by
  rw [rdmaWrite] at posted
  cases found : bindings.getLkeyForPtr localAddr with
  | none =>
      rw [found] at posted
      cases posted
  | some lkey =>
      rw [found] at posted
      obtain ⟨isPosted, isNext⟩ := Prod.mk.inj posted
      exact ⟨lkey, _, rfl, Prod.ext isPosted rfl, isNext.symm⟩

end RDMABindings

/-- The connector of one node.  The sizes come from its extra configuration, the
metadata are absent when they are not of the expected class. -/
structure RDMAConnector where
  role : ByteString
  peerId : ByteString
  rdmaAvailable : Bool := true
  layerSize : Int := 128 * 1024 * 1024
  numLayers : Int := 32
  bufferSizeMb : Int := 16384
  metadata : Option (List ConnectorRequest)
  /-- The number of float16 elements of the wrapped staging buffer. -/
  stagingBuffer : Option Nat := none

namespace RDMAConnector

/-! ## Where a layer is -/

/-- The first request with these tokens. -/
def matchingRequest (connector : RDMAConnector) (tokenIds : List Int) :
    Option ConnectorRequest :=
  connector.metadata.bind fun requests =>
    requests.find? fun request => decide (request.tokenIds = tokenIds)

/-- The offset of a layer of a slot, within the slot's share and the buffer. -/
def checkedOffset
    (connector : RDMAConnector) (slotId slotBaseOffset layerId : Int) :
    Except ConnectorError Int :=
  let finalOffset := slotBaseOffset + layerId * connector.layerSize
  let maxOffsetForSlot :=
    slotBaseOffset + connector.numLayers * connector.layerSize
  if maxOffsetForSlot ≤ finalOffset then
    .error (.offsetOutOfBounds slotId layerId finalOffset maxOffsetForSlot)
  else
    let bufferSize := connector.bufferSizeMb * 1024 * 1024
    if bufferSize ≤ finalOffset then
      .error (.offsetExceedsBuffer finalOffset bufferSize)
    else
      .ok finalOffset

def calculateRdmaOffset
    (connector : RDMAConnector) (digits : PythonDigits)
    (layerName : List Char) (tokenIds : List Int) :
    Except ConnectorError Int :=
  match connector.metadata with
  | none => .error .invalidMetadata
  | some _ =>
      match connector.matchingRequest tokenIds with
      | some { slotId := some slotId, slotBaseOffset := some base, .. } =>
          match extractLayerId digits layerName with
          | .error exception => .error exception
          | .ok layerId => connector.checkedOffset slotId base layerId
      | _ => .error (.missingSlot tokenIds)

/-! ## Saving a layer -/

/-- What a save takes from outside: Unicode, the adapter, where PyTorch puts the
extracted keys and values, and the hash of the tokens. -/
structure SaveEnvironment where
  digits : PythonDigits
  accepts : UInt64 → UInt32 → SendWorkRequest → Bool
  address : ConnectorRequest → UInt64
  requestHash : List Int → List ByteString → Nat

/-- Whether an index into a dimension of that length is valid. -/
def validIndex (length : Nat) (index : Int) : Bool :=
  decide (-(length : Int) ≤ index) && decide (index < length)

/-- The shape of what `_extract_kv_from_layer_parent` takes out of the paged
cache. -/
def extractedShape (kvLayer : Tensor) (slotMapping : List Int) :
    Except ConnectorError (List Nat) :=
  match kvLayer.shape with
  | [first, numBlocks, blockSize, last] =>
      let slots := numBlocks * blockSize
      let elements := first * slots * last
      if 2 * slots = 0 ∨ elements % (2 * slots) ≠ 0 then
        .error (.invalidShape kvLayer.shape)
      else if slotMapping.all (validIndex slots) then
        .ok [2, slotMapping.length, elements / (2 * slots)]
      else
        .error .indexOutOfRange
  | first :: rest =>
      if slotMapping.all (validIndex first) then
        .ok (slotMapping.length :: rest)
      else
        .error .indexOutOfRange
  | [] => .error .indexOutOfRange

/-- The shape of the keys, and of the values, within what was extracted: a
leading dimension of two separates them, else both are the whole. -/
def keyShape : List Nat → List Nat
  | 2 :: rest => rest
  | shape => shape

/-- The number of bytes of the keys, and of the values, of the given slots. -/
def keyBytes (kvLayer : Tensor) (slotMapping : List Int) : Nat :=
  match extractedShape kvLayer slotMapping with
  | .ok shape => (keyShape shape).prod * kvLayer.elementSize
  | .error _ => 0

/-- One remote write, by its offset in the peer's buffer and its size. -/
structure RemoteWrite where
  offset : Int
  size : Nat
  outcome : RDMAEngine.PostOutcome
  deriving DecidableEq

/-- Arguments that do not fit their types are refused before the call. -/
def rdmaWrite
    (connector : RDMAConnector) (environment : SaveEnvironment)
    (bindings : RDMABindings) (localPtr : UInt64) (remoteOffset : Int)
    (size : Nat) (requestSeq layerId : Int) :
    Except ConnectorError (RemoteWrite × RDMABindings) :=
  let immData := encodeImmData requestSeq layerId
  if remoteOffset < 0 ∨ 2 ^ 64 ≤ remoteOffset ∨ 2 ^ 64 ≤ size ∨
      2 ^ 32 ≤ immData then
    .error .incompatibleArguments
  else
    let (outcome, next) :=
      bindings.rdmaWrite (environment.accepts bindings.writeCounter)
        connector.peerId localPtr (UInt64.ofInt remoteOffset)
        (UInt64.ofNat size) (UInt32.ofNat immData)
    if outcome.returned = some true then
      .ok ({ offset := remoteOffset, size := size, outcome := outcome }, next)
    else
      .error .rdmaWriteFailed

/-- One iteration of `save_kv_layer` that has completed. -/
structure SavedLayer where
  request : ConnectorRequest
  layerId : Nat
  writes : List RemoteWrite
  deriving DecidableEq

def saveRequest
    (connector : RDMAConnector) (environment : SaveEnvironment)
    (layerName : List Char) (kvLayer : Tensor) (request : ConnectorRequest)
    (bindings : RDMABindings) :
    Except ConnectorError (SavedLayer × RDMABindings) := do
  let shape ← extractedShape kvLayer request.slotMapping
  let rdmaOffset ←
    connector.calculateRdmaOffset environment.digits layerName request.tokenIds
  let layerId ← extractLayerId environment.digits layerName
  let requestSeq :=
    request.slotId.getD
      (environment.requestHash request.tokenIds request.mmHashes)
  let size := (keyShape shape).prod * kvLayer.elementSize
  let keyPtr := environment.address request
  let valuePtr :=
    if keyShape shape = shape then keyPtr else keyPtr + UInt64.ofNat size
  if connector.rdmaAvailable then
    let (key, afterKey) ←
      connector.rdmaWrite environment bindings keyPtr rdmaOffset size
        requestSeq layerId
    let (value, afterValue) ←
      connector.rdmaWrite environment afterKey valuePtr (rdmaOffset + size)
        size requestSeq layerId
    .ok
      ({ request := request, layerId := layerId, writes := [key, value] },
        afterValue)
  else
    .ok ({ request := request, layerId := layerId, writes := [] }, bindings)

/-- The loop over the requests of the metadata. -/
def saveRequests
    (connector : RDMAConnector) (environment : SaveEnvironment)
    (layerName : List Char) (kvLayer : Tensor) :
    List ConnectorRequest → RDMABindings →
      Except ConnectorError (List SavedLayer × RDMABindings)
  | [], bindings => .ok ([], bindings)
  | request :: rest, bindings =>
      if request.isStore then do
        let (saved, next) ←
          connector.saveRequest environment layerName kvLayer request bindings
        let (others, final) ←
          connector.saveRequests environment layerName kvLayer rest next
        .ok (saved :: others, final)
      else
        connector.saveRequests environment layerName kvLayer rest bindings

def saveKvLayer
    (connector : RDMAConnector) (environment : SaveEnvironment)
    (layerName : List Char) (kvLayer : Tensor) (bindings : RDMABindings) :
    Except ConnectorError (List SavedLayer × RDMABindings) :=
  if connector.role = .ofText "send" then
    match connector.metadata with
    | none => .ok ([], bindings)
    | some requests =>
        connector.saveRequests environment layerName kvLayer requests bindings
  else
    .ok ([], bindings)

/-! ## Loading a layer -/

/-- How Python slicing resolves a bound. -/
def sliceBound (length : Nat) (index : Int) : Nat :=
  if index < 0 then (index + length).toNat else min index.toNat length

/-- A view of the staging buffer, from its first element on: the keys and then
the values of `numTokens` tokens. -/
structure StagingView where
  start : Nat
  numTokens : Nat
  hiddenDim : Nat
  deriving DecidableEq

def loadKvFromStagingBuffer
    (connector : RDMAConnector) (offset : Int) (numTokens hiddenDim : Nat) :
    Except ConnectorError StagingView :=
  match connector.stagingBuffer with
  | none => .error .stagingBufferMissing
  | some length =>
      let numElements := 2 * numTokens * hiddenDim
      let start := sliceBound length offset
      let stop := sliceBound length (offset + numElements)
      if stop - start = numElements then
        .ok
          { start := start
            numTokens := numTokens
            hiddenDim := hiddenDim }
      else
        .error (.invalidShape [2, numTokens, hiddenDim])

/-- A layer of the forward context: its name and, if it has a cache, the shape
of the cache. -/
structure ContextLayer where
  layerName : List Char
  kvCacheShape : Option (List Nat)

structure LoadedLayer where
  request : ConnectorRequest
  layerName : List Char
  layerId : Nat
  view : StagingView
  deriving DecidableEq

/-- What a load takes from outside: Unicode, and whether the view can be copied
into the cache of the layer. -/
structure LoadEnvironment where
  digits : PythonDigits
  injects : ConnectorRequest → ContextLayer → StagingView → Bool

/-- A layer without a cache is skipped. -/
def loadLayer
    (connector : RDMAConnector) (environment : LoadEnvironment)
    (request : ConnectorRequest) (layer : ContextLayer) :
    Except ConnectorError (List LoadedLayer) :=
  match layer.kvCacheShape with
  | none => .ok []
  | some shape => do
      let rdmaOffset ←
        connector.calculateRdmaOffset environment.digits layer.layerName
          request.tokenIds
      let layerId ← extractLayerId environment.digits layer.layerName
      match shape.getLast? with
      | none => .error .indexOutOfRange
      | some hiddenDim =>
          let view ←
            connector.loadKvFromStagingBuffer rdmaOffset
              request.slotMapping.length hiddenDim
          if environment.injects request layer view then
            .ok
              [{ request := request
                 layerName := layer.layerName
                 layerId := layerId
                 view := view }]
          else
            .error .injectionFailed

/-- Run a fallible step on each element and join what the steps return. -/
def collect {source target : Type}
    (load : source → Except ConnectorError (List target)) :
    List source → Except ConnectorError (List target)
  | [] => .ok []
  | head :: rest => do
      let first ← load head
      let others ← collect load rest
      .ok (first ++ others)

/-- `layers` is absent when there are no attention metadata. -/
def startLoadKv
    (connector : RDMAConnector) (environment : LoadEnvironment)
    (layers : Option (List ContextLayer)) :
    Except ConnectorError (List LoadedLayer) :=
  if connector.role = .ofText "recv" then
    match connector.metadata, layers with
    | some requests, some layers =>
        collect
          (fun request => collect (connector.loadLayer environment request)
            layers)
          (requests.filter fun request => !request.isStore)
    | _, _ => .ok []
  else
    .ok []

end RDMAConnector

end RdmaKvCache
