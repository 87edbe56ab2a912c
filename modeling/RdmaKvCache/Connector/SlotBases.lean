import RdmaKvCache.Connector.StagingViews

/-!
# Whose slot a layer goes to

`_calculate_rdma_offset` looks the slot of a request up again, by its tokens, and
takes that of the first request with these tokens; the sequence number a save
sends is taken from the request itself.  So a request uses its own slot exactly if
the first request with its tokens has the same base offset, as long as an offset
is calculated at all.
-/

namespace RdmaKvCache

namespace RDMABindings

variable (bindings : RDMABindings) (accepts : UInt32 → SendWorkRequest → Bool)
variable (peerId : ByteString) (localAddr remoteOffset size : UInt64)
variable (immData : UInt32)

theorem rdmaWrite_hostOrder :
    (bindings.rdmaWrite accepts peerId localAddr remoteOffset size
        immData).2.rdmaEngine.hostOrder =
      bindings.rdmaEngine.hostOrder := by
  rw [rdmaWrite]
  cases bindings.getLkeyForPtr localAddr with
  | none =>
      rfl
  | some lkey =>
      have sameOrder :
          (bindings.rdmaEngine.postWriteExternal accepts peerId localAddr lkey
              remoteOffset size immData
              ((bindings.writeCounter + 1) % cqBatchSize == 0)).2.hostOrder =
            bindings.rdmaEngine.hostOrder := by
        rw [RDMAEngine.postWriteExternal_snd]
      exact sameOrder

variable {bindings accepts peerId localAddr remoteOffset size immData}

theorem rdmaWrite_immData
    {qpNum : UInt32} {sent : SendWorkRequest}
    (posted :
      (bindings.rdmaWrite accepts peerId localAddr remoteOffset size
          immData).1 =
        .posted qpNum sent) :
    sent.immData = htonl bindings.rdmaEngine.hostOrder immData := by
  obtain ⟨_, _, _, sent, _⟩ := rdmaWrite_eq_posted (Prod.ext posted rfl)
  exact RDMAEngine.postWriteExternal_immData sent

end RDMABindings

namespace RDMAConnector

/-- If the write is posted, its immediate data carry the sequence number and the
layer. -/
def RemoteWrite.Carries
    (write : RemoteWrite) (hostOrder : ByteOrders.ByteOrder)
    (requestSeq layerId : Int) : Prop :=
  ∀ qpNum sent, write.outcome = .posted qpNum sent →
    sent.immData =
      htonl hostOrder (UInt32.ofNat (encodeImmData requestSeq layerId))

/-- Every offset calculated for the layer of the request is in its own slot: in
the function itself, in a save, which also sends the id of the slot, and in a
load. -/
structure UsesOwnSlot
    (connector : RDMAConnector) (digits : PythonDigits)
    (layerName : List Char) (request : ConnectorRequest) : Prop where
  calculated :
    ∀ offset,
      connector.calculateRdmaOffset digits layerName request.tokenIds =
          .ok offset →
        ∃ base layerId,
          request.slotBaseOffset = some base ∧
            extractLayerId digits layerName = .ok layerId ∧
            offset = base + layerId * connector.layerSize
  saved :
    ∀ environment kvLayer bindings saved next,
      environment.digits = digits →
        connector.saveRequest environment layerName kvLayer request bindings =
            .ok (saved, next) →
          (∃ base,
            request.slotBaseOffset = some base ∧
              saved.WrittenAt connector kvLayer base) ∧
            ∀ slotId ∈ request.slotId, ∀ write ∈ saved.writes,
              write.Carries bindings.rdmaEngine.hostOrder slotId saved.layerId
  loaded :
    ∀ (environment : LoadEnvironment) layer loadedLayers,
      environment.digits = digits →
        layer.layerName = layerName →
          connector.loadLayer environment request layer = .ok loadedLayers →
            ∀ loaded ∈ loadedLayers,
              ∃ base hiddenDim,
                request.slotBaseOffset = some base ∧
                  connector.loadKvFromStagingBuffer
                      (base + loaded.layerId * connector.layerSize)
                      request.slotMapping.length hiddenDim =
                    .ok loaded.view

/-- The layer lies within the share of a slot at that base, and starts within the
buffer. -/
def LayerInBounds
    (connector : RDMAConnector) (digits : PythonDigits)
    (layerName : List Char) (base : Int) : Prop :=
  ∃ layerId,
    extractLayerId digits layerName = .ok layerId ∧
      layerId * connector.layerSize <
        connector.numLayers * connector.layerSize ∧
      base + layerId * connector.layerSize <
        connector.bufferSizeMb * 1024 * 1024

/-- The first request with the same tokens has the same base offset, unless it
has no slot or the layer is out of bounds there. -/
def FindsOwnBase
    (connector : RDMAConnector) (digits : PythonDigits)
    (layerName : List Char) (requests : List ConnectorRequest)
    (request : ConnectorRequest) : Prop :=
  ∀ first,
    requests.find? (fun other => decide (other.tokenIds = request.tokenIds)) =
        some first →
      ∀ slotId base,
        first.slotId = some slotId →
          first.slotBaseOffset = some base →
            connector.LayerInBounds digits layerName base →
              request.slotBaseOffset = some base

/-! ## When an offset is calculated -/

theorem checkedOffset_eq_ok_iff
    {connector : RDMAConnector} {slotId base layerId offset : Int} :
    connector.checkedOffset slotId base layerId = .ok offset ↔
      (layerId * connector.layerSize <
          connector.numLayers * connector.layerSize ∧
        base + layerId * connector.layerSize <
          connector.bufferSizeMb * 1024 * 1024) ∧
        offset = base + layerId * connector.layerSize := by
  simp only [checkedOffset]
  split
  · refine iff_of_false ?_ ?_
    · intro refused
      cases refused
    · rintro ⟨⟨inShare, _⟩, _⟩
      omega
  · split
    · refine iff_of_false ?_ ?_
      · intro refused
        cases refused
      · rintro ⟨⟨_, inBuffer⟩, _⟩
        omega
    · rw [Except.ok.injEq]
      constructor
      · intro same
        exact ⟨⟨by omega, by omega⟩, same.symm⟩
      · rintro ⟨_, same⟩
        exact same.symm

/-- An offset is calculated from the first request with these tokens, if it has a
slot and the layer is in bounds. -/
theorem calculateRdmaOffset_eq_ok_iff
    {connector : RDMAConnector} {requests : List ConnectorRequest}
    (metadata : connector.metadata = some requests) {digits : PythonDigits}
    {layerName : List Char} {tokenIds : List Int} {offset : Int} :
    connector.calculateRdmaOffset digits layerName tokenIds = .ok offset ↔
      ∃ first matchedSlot matchedBase layerId,
        requests.find? (fun other => decide (other.tokenIds = tokenIds)) =
            some first ∧
          first.slotId = some matchedSlot ∧
          first.slotBaseOffset = some matchedBase ∧
          extractLayerId digits layerName = .ok layerId ∧
          connector.checkedOffset matchedSlot matchedBase layerId =
            .ok offset := by
  have matching :
      connector.matchingRequest tokenIds =
        requests.find? fun other => decide (other.tokenIds = tokenIds) := by
    rw [matchingRequest, metadata, Option.bind_some]
  simp only [calculateRdmaOffset, metadata, matching]
  cases requests.find? fun other => decide (other.tokenIds = tokenIds) with
  | none =>
      simp
  | some first =>
      obtain ⟨tokens, mapping, isStore, hashes, slotId, base⟩ := first
      cases slotId with
      | none =>
          simp
      | some slotId =>
          cases base with
          | none =>
              simp
          | some base =>
              cases extractLayerId digits layerName <;>
                simp

/-! ## What a save sends -/

theorem rdmaWrite_carries
    {connector : RDMAConnector} {environment : SaveEnvironment}
    {bindings next : RDMABindings} {localPtr : UInt64} {remoteOffset : Int}
    {size : Nat} {requestSeq layerId : Int} {write : RemoteWrite}
    (written :
      connector.rdmaWrite environment bindings localPtr remoteOffset size
        requestSeq layerId = .ok (write, next)) :
    write.Carries bindings.rdmaEngine.hostOrder requestSeq layerId ∧
      next.rdmaEngine.hostOrder = bindings.rdmaEngine.hostOrder := by
  simp only [rdmaWrite] at written
  split at written
  · cases written
  · split at written
    · cases written
      refine ⟨?_, RDMABindings.rdmaWrite_hostOrder _ _ _ _ _ _ _⟩
      intro qpNum sent posted
      exact RDMABindings.rdmaWrite_immData posted
    · cases written

theorem saveRequest_carries
    {connector : RDMAConnector} {environment : SaveEnvironment}
    {layerName : List Char} {kvLayer : Tensor} {request : ConnectorRequest}
    {bindings next : RDMABindings} {saved : SavedLayer} {slotId : Int}
    (isSlot : request.slotId = some slotId)
    (completed :
      connector.saveRequest environment layerName kvLayer request bindings =
        .ok (saved, next)) :
    ∀ write ∈ saved.writes,
      write.Carries bindings.rdmaEngine.hostOrder slotId saved.layerId := by
  rw [saveRequest] at completed
  obtain ⟨shape, _, afterShape⟩ := bind_ok completed
  obtain ⟨rdmaOffset, _, afterOffset⟩ := bind_ok afterShape
  obtain ⟨layerId, _, afterLayer⟩ := bind_ok afterOffset
  simp only [isSlot, Option.getD_some] at afterLayer
  split at afterLayer
  · obtain ⟨⟨key, afterKey⟩, keyWritten, remaining⟩ := bind_ok afterLayer
    obtain ⟨⟨value, afterValue⟩, valueWritten, returned⟩ := bind_ok remaining
    cases returned
    obtain ⟨keyCarries, sameOrder⟩ := rdmaWrite_carries keyWritten
    obtain ⟨valueCarries, _⟩ := rdmaWrite_carries valueWritten
    rw [sameOrder] at valueCarries
    intro write member
    rcases List.mem_cons.mp member with isKey | isLast
    · rw [isKey]
      exact keyCarries
    · rw [List.mem_singleton.mp isLast]
      exact valueCarries
  · cases afterLayer
    intro write member
    cases member

theorem calculated_of_saveRequest
    {connector : RDMAConnector} {environment : SaveEnvironment}
    {layerName : List Char} {kvLayer : Tensor} {request : ConnectorRequest}
    {bindings next : RDMABindings} {saved : SavedLayer}
    (completed :
      connector.saveRequest environment layerName kvLayer request bindings =
        .ok (saved, next)) :
    ∃ offset,
      connector.calculateRdmaOffset environment.digits layerName
          request.tokenIds =
        .ok offset := by
  rw [saveRequest] at completed
  obtain ⟨shape, _, afterShape⟩ := bind_ok completed
  obtain ⟨offset, calculated, _⟩ := bind_ok afterShape
  exact ⟨offset, calculated⟩

theorem calculated_of_loadLayer
    {connector : RDMAConnector} {environment : LoadEnvironment}
    {request : ConnectorRequest} {layer : ContextLayer}
    {loadedLayers : List LoadedLayer} {loaded : LoadedLayer}
    (completed :
      connector.loadLayer environment request layer = .ok loadedLayers)
    (member : loaded ∈ loadedLayers) :
    ∃ offset,
      connector.calculateRdmaOffset environment.digits layer.layerName
          request.tokenIds =
        .ok offset := by
  rw [loadLayer] at completed
  split at completed
  · cases completed
    cases member
  · obtain ⟨offset, calculated, _⟩ := bind_ok completed
    exact ⟨offset, calculated⟩

/-! ## The slot a request uses -/

section OwnSlot

variable {connector : RDMAConnector} {requests : List ConnectorRequest}
variable {request : ConnectorRequest} {digits : PythonDigits}
variable {layerName : List Char} {slotId base : Int}

/-- The base every calculated offset starts from is the request's own. -/
theorem FindsOwnBase.offsetBase_eq
    (finds : connector.FindsOwnBase digits layerName requests request)
    (metadata : connector.metadata = some requests) {offset : Int}
    (calculated :
      connector.calculateRdmaOffset digits layerName request.tokenIds =
        .ok offset) :
    connector.offsetBase request.tokenIds = request.slotBaseOffset := by
  obtain ⟨first, slotId, base, layerId, found, isSlot, isBase, extracted, checked⟩ :=
    (calculateRdmaOffset_eq_ok_iff metadata).mp calculated
  have inBounds : connector.LayerInBounds digits layerName base :=
    ⟨layerId, extracted, (checkedOffset_eq_ok_iff.mp checked).1⟩
  rw [offsetBase, matchingRequest, metadata, Option.bind_some, found,
    Option.bind_some, isBase,
    finds first found slotId base isSlot isBase inBounds]

/-- A request uses its own slot exactly if the first request with its tokens has
the same base offset or no offset is calculated from that one. -/
theorem own_slot_used_iff
    (metadata : connector.metadata = some requests) (digits : PythonDigits)
    (layerName : List Char) (request : ConnectorRequest) :
    connector.UsesOwnSlot digits layerName request ↔
      connector.FindsOwnBase digits layerName requests request := by
  constructor
  · intro uses first found slotId base isSlot isBase inBounds
    obtain ⟨layerId, extracted, bounds⟩ := inBounds
    have calculated :
        connector.calculateRdmaOffset digits layerName request.tokenIds =
          .ok (base + layerId * connector.layerSize) := by
      refine (calculateRdmaOffset_eq_ok_iff metadata).mpr ?_
      exact
        ⟨first, slotId, base, layerId, found, isSlot, isBase, extracted,
          checkedOffset_eq_ok_iff.mpr ⟨bounds, rfl⟩⟩
    obtain ⟨own, ownLayer, isOwn, ownExtracted, same⟩ :=
      uses.calculated _ calculated
    rw [extracted] at ownExtracted
    cases ownExtracted
    rw [isOwn, add_right_cancel same]
  · intro finds
    constructor
    · intro offset calculated
      obtain ⟨base, layerId, isBase, extracted, isOffset, _⟩ :=
        calculateRdmaOffset_ok calculated
      rw [finds.offsetBase_eq metadata calculated] at isBase
      exact ⟨base, layerId, isBase, extracted, isOffset⟩
    · intro environment kvLayer bindings saved next sameDigits completed
      subst sameDigits
      obtain ⟨offset, calculated⟩ := calculated_of_saveRequest completed
      obtain ⟨_, _, base, isBase, written⟩ := saveRequest_ok completed
      rw [finds.offsetBase_eq metadata calculated] at isBase
      refine ⟨⟨base, isBase, written⟩, ?_⟩
      intro slotId isSlot
      exact saveRequest_carries isSlot completed
    · intro environment layer loadedLayers sameDigits sameName completed loaded
        member
      subst sameDigits sameName
      obtain ⟨offset, calculated⟩ := calculated_of_loadLayer completed member
      obtain ⟨_, base, hiddenDim, isBase, viewed⟩ :=
        loadLayer_ok completed member
      rw [finds.offsetBase_eq metadata calculated] at isBase
      exact ⟨base, hiddenDim, isBase, viewed⟩

end OwnSlot

/-- A request whose tokens no other request has finds its own base. -/
theorem findsOwnBase_of_distinct
    {connector : RDMAConnector} {requests : List ConnectorRequest}
    {request : ConnectorRequest}
    (distinct :
      ∀ other ∈ requests, other.tokenIds = request.tokenIds → other = request)
    (digits : PythonDigits) (layerName : List Char) :
    connector.FindsOwnBase digits layerName requests request := by
  intro first found slotId base _ isBase _
  have isListed := List.mem_of_find?_eq_some found
  obtain ⟨isMatch, _⟩ := List.find?_eq_some_iff_append.mp found
  rw [← distinct first isListed (of_decide_eq_true isMatch)]
  exact isBase

/-! ## Two requests -/

/-- A prefill connector for two requests of two layers. -/
def twoRequestSender (first second : ConnectorRequest) : RDMAConnector :=
  { twoLayerSender first with metadata := some [first, second] }

/-- Requests of different prompts in slots zero and one. -/
theorem own_slot_used_iff_differentPrompts :
    (twoRequestSender (.stored 0 0 64) (.stored 1 2097152 64)).UsesOwnSlot
      .ascii "model.layers.0.attn".toList (.stored 1 2097152 64) := by
  refine (own_slot_used_iff rfl _ _ _).mpr ?_
  exact findsOwnBase_of_distinct (by decide) _ _

/-- The prompt of slot zero once more, in slot one. -/
def samePrompt : ConnectorRequest :=
  { ConnectorRequest.stored 1 2097152 64 with tokenIds := [0] }

/-- The keys and values of both requests are written to slot zero. -/
theorem same_prompt_shares_slot :
    ((twoRequestSender (.stored 0 0 64) samePrompt).saveKvLayer .accepting
          "model.layers.0.attn".toList .pagedCache .onePeer).map
        (fun returned =>
          returned.1.map fun saved =>
            (saved.request.slotId, saved.writes.map RemoteWrite.offset)) =
      .ok [(some 0, [0, 524288]), (some 1, [0, 524288])] ∧
      ¬ (twoRequestSender (.stored 0 0 64) samePrompt).UsesOwnSlot .ascii
        "model.layers.0.attn".toList samePrompt := by
  have saves :
      ((twoRequestSender (.stored 0 0 64) samePrompt).saveKvLayer .accepting
            "model.layers.0.attn".toList .pagedCache .onePeer).map
          (fun returned =>
            returned.1.map fun saved =>
              (saved.request.slotId, saved.writes.map RemoteWrite.offset)) =
        .ok [(some 0, [0, 524288]), (some 1, [0, 524288])] := by
    decide +kernel
  refine ⟨saves, ?_⟩
  intro uses
  have calculated :
      (twoRequestSender (.stored 0 0 64) samePrompt).calculateRdmaOffset .ascii
          "model.layers.0.attn".toList
          samePrompt.tokenIds =
        .ok 0 := by
    decide +kernel
  have isFirst :
      extractLayerId .ascii "model.layers.0.attn".toList = .ok 0 := by
    decide +kernel
  obtain ⟨base, layerId, isBase, extracted, same⟩ := uses.calculated 0 calculated
  rw [isFirst] at extracted
  cases extracted
  cases isBase
  revert same
  decide

end RDMAConnector

end RdmaKvCache
