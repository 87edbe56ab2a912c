import RdmaKvCache.Connector.RegisteredMemory
import RdmaKvCache.Connector.StagingViews
import RdmaKvCache.Library.PlacedWrites

/-!
# What the staging buffer holds

The adapter of a prefill node reads the bytes of a posted write from the memory of
the node and places them in the memory of the decode node.  Writes of different
saves, and the two writes of one save, can be delivered in any order.
-/

namespace RdmaKvCache

open PlacedWrites

/-- A posted write and the memory its bytes are read from. -/
structure Delivery where
  request : SendWorkRequest
  memory : Nat → UInt8

def Delivery.placed (delivery : Delivery) : PlacedWrite UInt8 where
  start := delivery.request.remoteAddr.toNat
  values :=
    readRange delivery.memory delivery.request.localAddr.toNat
      delivery.request.length.toNat

def deliverAll (memory : Nat → UInt8) (deliveries : List Delivery) :
    Nat → UInt8 :=
  overwriteAll memory (deliveries.map Delivery.placed)

namespace RDMAEngine.PostOutcome

def request? : RDMAEngine.PostOutcome → Option SendWorkRequest
  | .posted _ request => some request
  | .refused | .nothingToPost | .nullQueuePair => none

end RDMAEngine.PostOutcome

namespace RDMAConnector

/-- The writes a save has posted. -/
def SavedLayer.posted (saved : SavedLayer) : List SendWorkRequest :=
  saved.writes.filterMap fun write => write.outcome.request?

/-! ## What a write places where -/

theorem rdmaWrite_qmaps
    {connector : RDMAConnector} {environment : SaveEnvironment}
    {bindings next : RDMABindings} {localPtr : UInt64} {remoteOffset : Int}
    {size : Nat} {requestSeq layerId : Int} {write : RemoteWrite}
    (written :
      connector.rdmaWrite environment bindings localPtr remoteOffset size
        requestSeq layerId = .ok (write, next)) :
    next.rdmaEngine.qmaps = bindings.rdmaEngine.qmaps := by
  simp only [rdmaWrite] at written
  split at written
  · cases written
  · split at written
    · cases written
      rw [RDMABindings.rdmaWrite]
      cases bindings.getLkeyForPtr localPtr with
      | none =>
          rfl
      | some lkey =>
          simp only [RDMAEngine.postWriteExternal_snd]
    · cases written

theorem saveRequest_qmaps
    {connector : RDMAConnector} {environment : SaveEnvironment}
    {layerName : List Char} {kvLayer : Tensor} {request : ConnectorRequest}
    {bindings next : RDMABindings} {saved : SavedLayer}
    (completed :
      connector.saveRequest environment layerName kvLayer request bindings =
        .ok (saved, next)) :
    next.rdmaEngine.qmaps = bindings.rdmaEngine.qmaps := by
  rw [saveRequest] at completed
  obtain ⟨shape, _, afterShape⟩ := bind_ok completed
  obtain ⟨rdmaOffset, _, afterOffset⟩ := bind_ok afterShape
  obtain ⟨layerId, _, afterLayer⟩ := bind_ok afterOffset
  dsimp only at afterLayer
  split at afterLayer
  · obtain ⟨⟨key, afterKey⟩, keyWritten, remaining⟩ := bind_ok afterLayer
    obtain ⟨⟨value, afterValue⟩, valueWritten, returned⟩ := bind_ok remaining
    cases returned
    exact (rdmaWrite_qmaps valueWritten).trans (rdmaWrite_qmaps keyWritten)
  · cases afterLayer
    rfl

/-- A completed write of some bytes that fit a work request is posted with all of
them. -/
theorem rdmaWrite_posted
    {connector : RDMAConnector} {environment : SaveEnvironment}
    {bindings next : RDMABindings} {localPtr : UInt64} {remoteOffset : Int}
    {size : Nat} {requestSeq layerId : Int} {write : RemoteWrite}
    {peerInfo : PeerInfoandQPs}
    (written :
      connector.rdmaWrite environment bindings localPtr remoteOffset size
        requestSeq layerId = .ok (write, next))
    (known :
      bindings.rdmaEngine.findPeerInfo connector.peerId = some peerInfo)
    (someBytes : 0 < size) (complete : size < 2 ^ 32)
    (inAddressSpace :
      peerInfo.remoteAddr.toNat + remoteOffset + size ≤ 2 ^ 64) :
    ∃ request,
      write.outcome.request? = some request ∧
        request.localAddr = localPtr ∧ request.length.toNat = size ∧
        (request.remoteAddr.toNat : Int) =
          peerInfo.remoteAddr.toNat + remoteOffset := by
  simp only [rdmaWrite] at written
  split at written
  · cases written
  · rename_i compatible
    split at written
    · rename_i accepted
      cases written
      have sizeNat : (UInt64.ofNat size).toNat = size :=
        UInt64.toNat_ofNat_of_lt' (complete.trans (by decide))
      have positive : 0 < UInt64.ofNat size := by
        rw [UInt64.lt_iff_toNat_lt, sizeNat]
        exact someBytes
      obtain ⟨qpNum, request, posted, _⟩ :=
        RDMABindings.rdmaWrite_returned_true positive accepted
      obtain ⟨lkey, engine, _, sent, _⟩ :=
        RDMABindings.rdmaWrite_eq_posted (Prod.ext posted rfl)
      obtain ⟨sentPeer, sentKnown, _, _, _, isRequest, _⟩ :=
        RDMAEngine.postWriteExternal_eq_posted_iff.mp (congrArg Prod.fst sent)
      cases sentKnown.symm.trans known
      refine ⟨request, ?_, ?_, ?_, ?_⟩
      · simp only [posted, RDMAEngine.PostOutcome.request?]
      · rw [isRequest]
      · rw [isRequest]
        simp only
        rw [UInt64.toNat_toUInt32, sizeNat]
        exact Nat.mod_eq_of_lt complete
      · rw [isRequest]
        have offsetNat :
            (UInt64.ofInt remoteOffset).toNat = remoteOffset.toNat := by
          rw [UInt64.ofInt, Int.emod_eq_of_lt (by omega) (by omega)]
          exact UInt64.toNat_ofNat_of_lt' (by rw [UInt64.size]; omega)
        simp only
        rw [UInt64.toNat_add, offsetNat]
        omega
    · cases written

/-- Where the values are: a leading dimension of two separates them from the
keys. -/
def valueAddress
    (environment : SaveEnvironment) (kvLayer : Tensor)
    (request : ConnectorRequest) : UInt64 :=
  match extractedShape kvLayer request.slotMapping with
  | .ok shape =>
      if keyShape shape = shape then
        environment.address request
      else
        environment.address request +
          UInt64.ofNat (keyBytes kvLayer request.slotMapping)
  | .error _ => environment.address request

/-- Both writes of an iteration are posted, the values right behind the keys. -/
theorem saveRequest_posted
    {connector : RDMAConnector} {environment : SaveEnvironment}
    {layerName : List Char} {kvLayer : Tensor} {request : ConnectorRequest}
    {bindings next : RDMABindings} {saved : SavedLayer}
    {peerInfo : PeerInfoandQPs} {base : Int}
    (completed :
      connector.saveRequest environment layerName kvLayer request bindings =
        .ok (saved, next))
    (available : connector.rdmaAvailable = true)
    (matching : connector.offsetBase request.tokenIds = some base)
    (known :
      bindings.rdmaEngine.findPeerInfo connector.peerId = some peerInfo)
    (someBytes : 0 < keyBytes kvLayer request.slotMapping)
    (complete : keyBytes kvLayer request.slotMapping < 2 ^ 32)
    (inAddressSpace :
      peerInfo.remoteAddr.toNat + (base + saved.layerId * connector.layerSize) +
          2 * keyBytes kvLayer request.slotMapping ≤ 2 ^ 64) :
    ∃ key value,
      saved.posted = [key, value] ∧
        key.localAddr = environment.address request ∧
        key.length.toNat = keyBytes kvLayer request.slotMapping ∧
        (key.remoteAddr.toNat : Int) =
          peerInfo.remoteAddr.toNat +
            (base + saved.layerId * connector.layerSize) ∧
        value.localAddr = valueAddress environment kvLayer request ∧
        value.length.toNat = keyBytes kvLayer request.slotMapping ∧
        (value.remoteAddr.toNat : Int) =
          peerInfo.remoteAddr.toNat +
            (base + saved.layerId * connector.layerSize +
              keyBytes kvLayer request.slotMapping) := by
  rw [saveRequest] at completed
  obtain ⟨shape, extraction, afterShape⟩ := bind_ok completed
  obtain ⟨rdmaOffset, calculated, afterOffset⟩ := bind_ok afterShape
  obtain ⟨layerId, extracted, afterLayer⟩ := bind_ok afterOffset
  obtain ⟨foundBase, offsetLayer, foundMatching, sameLayer, isOffset, _⟩ :=
    calculateRdmaOffset_ok calculated
  rw [extracted] at sameLayer
  cases sameLayer
  cases foundMatching.symm.trans matching
  have size :
      keyBytes kvLayer request.slotMapping =
        (keyShape shape).prod * kvLayer.elementSize := by
    rw [keyBytes, extraction]
  have isValueAddress :
      valueAddress environment kvLayer request =
        if keyShape shape = shape then environment.address request
        else
          environment.address request +
            UInt64.ofNat ((keyShape shape).prod * kvLayer.elementSize) := by
    rw [valueAddress, extraction, ← size]
  rw [size] at someBytes complete
  dsimp only at afterLayer
  rw [if_pos available] at afterLayer
  obtain ⟨⟨key, afterKey⟩, keyWritten, remaining⟩ := bind_ok afterLayer
  obtain ⟨⟨value, afterValue⟩, valueWritten, returned⟩ := bind_ok remaining
  cases returned
  rw [isOffset] at keyWritten valueWritten
  simp only [size] at inAddressSpace ⊢
  obtain ⟨keyRequest, keyPosted, keyAddress, keyLength, keyRemote⟩ :=
    rdmaWrite_posted keyWritten known someBytes complete (by omega)
  have stillKnown :
      afterKey.rdmaEngine.findPeerInfo connector.peerId = some peerInfo := by
    rw [RDMAEngine.findPeerInfo, rdmaWrite_qmaps keyWritten]
    exact known
  obtain ⟨valueRequest, valuePosted, isAddress, valueLength, valueRemote⟩ :=
    rdmaWrite_posted valueWritten stillKnown someBytes complete (by omega)
  refine
    ⟨keyRequest, valueRequest, ?_, keyAddress, keyLength, keyRemote, ?_,
      valueLength, valueRemote⟩
  · simp [SavedLayer.posted, keyPosted, valuePosted]
  · rw [isAddress, isValueAddress]

/-- Every layer a save returns comes from one completed iteration with the same
peers. -/
theorem iteration_of_mem_saveKvLayer
    {connector : RDMAConnector} {environment : SaveEnvironment}
    {layerName : List Char} {kvLayer : Tensor} {bindings final : RDMABindings}
    {saved : SavedLayer} {layers : List SavedLayer}
    (completed :
      connector.saveKvLayer environment layerName kvLayer bindings =
        .ok (layers, final))
    (member : saved ∈ layers) :
    ∃ before after,
      before.rdmaEngine.qmaps = bindings.rdmaEngine.qmaps ∧
        connector.saveRequest environment layerName kvLayer saved.request
            before =
          .ok (saved, after) := by
  rw [saveKvLayer] at completed
  split at completed
  · split at completed
    · cases completed
      cases member
    · exact
        iteration_of_mem_saveRequests
          (fun before =>
            before.rdmaEngine.qmaps = bindings.rdmaEngine.qmaps)
          (fun same stored => (saveRequest_qmaps stored).trans same) rfl
          completed member
  · cases completed
    cases member

end RDMAConnector

/-! ## Saves and their peer -/

/-- A completed save and the memory of its node. -/
structure StagedSave extends CompletedSave where
  memory : Nat → UInt8

namespace StagedSave

def deliveries (save : StagedSave) : List Delivery :=
  save.saved.posted.map fun request =>
    { request := request, memory := save.memory }

/-- Where the first byte of the layer goes. -/
def offset (save : StagedSave) : Int :=
  save.matchedBase + save.saved.layerId * save.connector.layerSize

def keyPtr (save : StagedSave) : UInt64 :=
  save.environment.address save.saved.request

def valuePtr (save : StagedSave) : UInt64 :=
  RDMAConnector.valueAddress save.environment save.kvLayer save.saved.request

def keyContent (save : StagedSave) : List UInt8 :=
  readRange save.memory save.keyPtr.toNat save.keyBytes

def valueContent (save : StagedSave) : List UInt8 :=
  readRange save.memory save.valuePtr.toNat save.keyBytes

/-- The node has been told this address of its peer, whose address space holds the
layer.  A write is not longer than a work request can say. -/
structure Reaches (save : StagedSave) (stagingAddr : UInt64) : Prop where
  available : save.connector.rdmaAvailable = true
  known :
    ∃ peerInfo,
      save.bindings.rdmaEngine.findPeerInfo save.connector.peerId =
          some peerInfo ∧
        peerInfo.remoteAddr = stagingAddr
  someBytes : 0 < save.keyBytes
  complete : save.keyBytes < 2 ^ 32
  inAddressSpace :
    stagingAddr.toNat + save.offset + 2 * save.keyBytes ≤ 2 ^ 64

/-- The address of the first byte of the layer in the memory of the peer. -/
def address (save : StagedSave) (stagingAddr : UInt64) : Nat :=
  (stagingAddr.toNat + save.offset).toNat

def placed (save : StagedSave) (stagingAddr : UInt64) :
    List (PlacedWrite UInt8) :=
  [{ start := save.address stagingAddr, values := save.keyContent },
    { start := save.address stagingAddr + save.keyBytes
      values := save.valueContent }]

theorem offset_nonneg
    {save : StagedSave} {stagingAddr : UInt64}
    (reaches : save.Reaches stagingAddr) :
    0 ≤ save.offset :=
  save.written.nonneg reaches.available

theorem placed_deliveries
    {save : StagedSave} {stagingAddr : UInt64}
    (reaches : save.Reaches stagingAddr) :
    save.deliveries.map Delivery.placed = save.placed stagingAddr := by
  obtain ⟨before, after, sameQmaps, iteration⟩ :=
    RDMAConnector.iteration_of_mem_saveKvLayer save.completed save.member
  obtain ⟨peerInfo, known, isAddress⟩ := reaches.known
  have knownBefore :
      before.rdmaEngine.findPeerInfo save.connector.peerId = some peerInfo := by
    rw [RDMAEngine.findPeerInfo, sameQmaps]
    exact known
  obtain ⟨_, base, matching, _⟩ :=
    RDMAConnector.saveKvLayer_ok save.completed save.member
  have isOffset :
      base + save.saved.layerId * save.connector.layerSize = save.offset := by
    rw [offset, CompletedSave.matchedBase, matching]
    rfl
  have inAddressSpace := reaches.inAddressSpace
  rw [← isAddress, ← isOffset] at inAddressSpace
  obtain
    ⟨key, value, posted, keyAddress, keyLength, keyRemote, isValueAddress,
      valueLength, valueRemote⟩ :=
    RDMAConnector.saveRequest_posted iteration reaches.available matching
      knownBefore reaches.someBytes reaches.complete inAddressSpace
  have nonneg := offset_nonneg reaches
  rw [isAddress, isOffset] at keyRemote valueRemote
  have keyStart : key.remoteAddr.toNat = save.address stagingAddr := by
    rw [address]
    omega
  have valueStart :
      value.remoteAddr.toNat = save.address stagingAddr + save.keyBytes := by
    rw [address]
    change
      (value.remoteAddr.toNat : Int) =
        stagingAddr.toNat + (save.offset + save.keyBytes) at valueRemote
    omega
  simp only [deliveries, posted, List.map_cons, List.map_nil, Delivery.placed,
    keyStart, valueStart, keyAddress, isValueAddress, keyLength, valueLength]
  rfl

/-- What a save covers is what it writes, seen from the start of the memory. -/
theorem mem_bytes_of_covers
    {save : StagedSave} {stagingAddr : UInt64}
    (reaches : save.Reaches stagingAddr) {write : PlacedWrite UInt8}
    (member : write ∈ save.placed stagingAddr) {address : Nat}
    (covers : write.Covers address) :
    (address - stagingAddr.toNat : Int) ∈ save.saved.bytes := by
  have nonneg := offset_nonneg reaches
  have isStart :
      (save.address stagingAddr : Int) = stagingAddr.toNat + save.offset := by
    rw [StagedSave.address]
    omega
  have bounds :
      save.address stagingAddr ≤ address ∧
        address < save.address stagingAddr + 2 * save.keyBytes := by
    rw [placed, List.mem_cons, List.mem_singleton] at member
    rcases member with rfl | rfl <;>
      simp only [PlacedWrite.Covers, keyContent, valueContent,
        length_readRange] at covers <;>
      omega
  rw [save.mem_bytes, ← offset]
  exact ⟨reaches.available, by omega, by omega⟩

theorem placed_pairwise
    {saves : List StagedSave} {stagingAddr : UInt64}
    (reaches : ∀ save ∈ saves, save.Reaches stagingAddr)
    (apart :
      saves.Pairwise fun save other =>
        Disjoint save.saved.bytes other.saved.bytes) :
    (saves.flatMap fun save => save.placed stagingAddr).Pairwise
      PlacedWrite.Apart := by
  rw [List.pairwise_flatMap]
  constructor
  · intro save _
    rw [placed, List.pairwise_pair]
    intro address covers coversValue
    simp only [PlacedWrite.Covers, keyContent, length_readRange] at covers
    exact absurd coversValue.1 (by simp only; omega)
  · refine apart.imp_of_mem ?_
    intro save other member otherMember disjoint write isWrite otherWrite isOther
      address covers coversOther
    exact
      Set.disjoint_left.mp disjoint
        (mem_bytes_of_covers (reaches save member) isWrite covers)
        (mem_bytes_of_covers (reaches other otherMember) isOther coversOther)

section Delivering

variable {saves : List StagedSave} {stagingAddr : UInt64}
variable {deliveries : List Delivery}

theorem map_placed_perm
    (reaches : ∀ save ∈ saves, save.Reaches stagingAddr)
    (delivered : deliveries.Perm (saves.flatMap StagedSave.deliveries)) :
    (deliveries.map Delivery.placed).Perm
      (saves.flatMap fun save => save.placed stagingAddr) := by
  have same :
      (saves.flatMap StagedSave.deliveries).map Delivery.placed =
        saves.flatMap fun save => save.placed stagingAddr := by
    rw [List.map_flatMap]
    exact List.flatMap_congr fun save member =>
      placed_deliveries (reaches save member)
  rw [← same]
  exact delivered.map Delivery.placed

/-- The keys and then the values are where the save has put them. -/
theorem readRange_deliverAll
    (reaches : ∀ save ∈ saves, save.Reaches stagingAddr)
    (apart :
      saves.Pairwise fun save other =>
        Disjoint save.saved.bytes other.saved.bytes)
    (delivered : deliveries.Perm (saves.flatMap StagedSave.deliveries))
    (memory : Nat → UInt8) {save : StagedSave} (member : save ∈ saves) :
    readRange (deliverAll memory deliveries) (save.address stagingAddr)
        (save.keyBytes + save.keyBytes) =
      save.keyContent ++ save.valueContent := by
  have order := map_placed_perm reaches delivered
  have found {write : PlacedWrite UInt8}
      (isWrite : write ∈ save.placed stagingAddr) :
      readRange (deliverAll memory deliveries) write.start
          write.values.length =
        write.values :=
    readRange_overwriteAll_of_perm (placed_pairwise reaches apart) order
      (List.mem_flatMap.mpr ⟨save, member, isWrite⟩)
  have key := found List.mem_cons_self
  have value := found (List.mem_cons_of_mem _ (List.mem_singleton_self _))
  simp only [keyContent, valueContent, length_readRange] at key value
  rw [readRange_add, key, value]
  rfl

/-- All other bytes stay. -/
theorem deliverAll_elsewhere
    (reaches : ∀ save ∈ saves, save.Reaches stagingAddr)
    (delivered : deliveries.Perm (saves.flatMap StagedSave.deliveries))
    (memory : Nat → UInt8) {address : Nat}
    (elsewhere :
      ∀ save ∈ saves,
        (address - stagingAddr.toNat : Int) ∉ save.saved.bytes) :
    deliverAll memory deliveries address = memory address := by
  apply overwriteAll_of_not_covers
  intro write isWrite covers
  have inPlaced := (map_placed_perm reaches delivered).mem_iff.mp isWrite
  obtain ⟨save, member, isPlaced⟩ := List.mem_flatMap.mp inPlaced
  exact
    elsewhere save member
      (mem_bytes_of_covers (reaches save member) isPlaced covers)

end Delivering

/-- Two layers of four bytes. -/
def sampleConnector : RDMAConnector where
  role := .ofText "send"
  peerId := [2]
  layerSize := 4
  numLayers := 2
  metadata :=
    some
      [{ tokenIds := [7]
         slotMapping := [1]
         isStore := true
         slotId := some 0
         slotBaseOffset := some 0 }]

/-- One block of two slots with one float16 element each. -/
def sampleCache : Tensor where
  dataPtr := 4096
  shape := [2, 1, 2, 1]
  elementSize := 2

/-- The save of the first layer, whose node has these bytes from there on. -/
def firstSave : StagedSave where
  connector := sampleConnector
  environment := .accepting
  layerName := "layers.0".toList
  kvLayer := sampleCache
  bindings := .onePeer
  final := _
  layers := _
  saved := _
  completed := rfl
  member := List.mem_cons_self
  slotBaseOffset := 0
  carried := rfl
  memory address := UInt8.ofNat (address - 4096)

def secondSave : StagedSave where
  connector := sampleConnector
  environment := .accepting
  layerName := "layers.1".toList
  kvLayer := sampleCache
  bindings := .onePeer
  final := _
  layers := _
  saved := _
  completed := rfl
  member := List.mem_cons_self
  slotBaseOffset := 0
  carried := rfl
  memory address := UInt8.ofNat (address - 4000)

theorem firstSave_reaches : firstSave.Reaches 0x10000 where
  available := rfl
  known := ⟨_, rfl, rfl⟩
  someBytes := by decide +kernel
  complete := by decide +kernel
  inAddressSpace := by decide +kernel

theorem secondSave_reaches : secondSave.Reaches 0x10000 where
  available := rfl
  known := ⟨_, rfl, rfl⟩
  someBytes := by decide +kernel
  complete := by decide +kernel
  inAddressSpace := by decide +kernel

end StagedSave

end RdmaKvCache
