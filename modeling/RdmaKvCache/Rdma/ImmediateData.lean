import RdmaKvCache.Node.RequestTrackerLayer
import RdmaKvCache.Rdma.RdmaEngine

/-!
# The way of the immediate data

A sequence number and a layer id are encoded into 32 bits, posted in network
byte order, delivered as four bytes and decoded by the poll loop of the
receiving node.  The loop decodes the field without converting it back to host
byte order, so a little-endian receiver reads the bytes backwards.
-/

namespace RdmaKvCache

open ByteOrders RequestTrackerLayer

/-- The Python encoder; both numbers are cut to 16 bits when they are out of
range. -/
def encodeImmData (requestSeq layerId : Int) : Nat :=
  let truncate (value : Int) : Nat :=
    if value < 0 ∨ 0xFFFF < value then (value % 0x10000).toNat
    else value.toNat
  truncate requestSeq <<< 16 ||| truncate layerId

/-- The value whose two bytes are exchanged. -/
def swapBytes (value : UInt16) : UInt16 :=
  value <<< 8 ||| value >>> 8

/-! ## Encoding and decoding in numbers -/

theorem shiftLeft_or_eq (high low width : Nat) (bound : low < 2 ^ width) :
    high <<< width ||| low = high * 2 ^ width + low := by
  rw [← Nat.shiftLeft_add_eq_or_of_lt bound, Nat.shiftLeft_eq]

theorem encodeLayerId_toNat (requestSeq layerId : UInt16) :
    (encodeLayerId requestSeq layerId).toNat =
      requestSeq.toNat * 65536 + layerId.toNat := by
  have seqBound : requestSeq.toNat < 65536 := requestSeq.toNat_lt
  have layerBound : layerId.toNat < 65536 := layerId.toNat_lt
  have shifted : requestSeq.toNat <<< 16 < 2 ^ 32 := by
    rw [Nat.shiftLeft_eq]
    omega
  rw [encodeLayerId, UInt32.toNat_or, UInt32.toNat_shiftLeft,
    UInt16.toNat_toUInt32, UInt16.toNat_toUInt32]
  change requestSeq.toNat <<< 16 % 2 ^ 32 ||| layerId.toNat = _
  rw [Nat.mod_eq_of_lt shifted]
  calc
    _ = requestSeq.toNat * 2 ^ 16 + layerId.toNat :=
      shiftLeft_or_eq _ _ 16 layerBound
    _ = _ := by omega

/-- The Python encoder agrees with the C++ one on 16-bit numbers. -/
theorem encodeImmData_eq (requestSeq layerId : UInt16) :
    UInt32.ofNat (encodeImmData requestSeq.toNat layerId.toNat) =
      encodeLayerId requestSeq layerId := by
  have seqBound : requestSeq.toNat < 65536 := requestSeq.toNat_lt
  have layerBound : layerId.toNat < 65536 := layerId.toNat_lt
  have seqInRange :
      ¬ ((requestSeq.toNat : Int) < 0 ∨ 0xFFFF < (requestSeq.toNat : Int)) := by
    omega
  have layerInRange :
      ¬ ((layerId.toNat : Int) < 0 ∨ 0xFFFF < (layerId.toNat : Int)) := by
    omega
  apply UInt32.toNat_inj.mp
  rw [encodeLayerId_toNat, UInt32.toNat_ofNat']
  simp only [encodeImmData, seqInRange, layerInRange, if_false,
    Int.toNat_natCast]
  rw [shiftLeft_or_eq _ _ 16 layerBound]
  omega

theorem decodeLayerId_toNat (immData : UInt32) :
    (decodeLayerId immData).1.toNat = immData.toNat / 65536 ∧
      (decodeLayerId immData).2.toNat = immData.toNat % 65536 := by
  have bound : immData.toNat < 4294967296 := immData.toNat_lt
  constructor
  · rw [decodeLayerId, UInt32.toNat_toUInt16, UInt32.toNat_shiftRight]
    change immData.toNat >>> 16 % 65536 = _
    rw [Nat.shiftRight_eq_div_pow]
    omega
  · rw [decodeLayerId, UInt32.toNat_toUInt16, UInt32.toNat_and]
    change (immData.toNat &&& 2 ^ 16 - 1) % 65536 = _
    rw [Nat.and_two_pow_sub_one_eq_mod]
    omega

theorem swapBytes_toNat (value : UInt16) :
    (swapBytes value).toNat =
      value.toNat % 256 * 256 + value.toNat / 256 := by
  have bound : value.toNat < 65536 := value.toNat_lt
  have highBound : value.toNat / 256 < 2 ^ 8 := by
    omega
  rw [swapBytes, UInt16.toNat_or, UInt16.toNat_shiftLeft,
    UInt16.toNat_shiftRight]
  change value.toNat <<< 8 % 2 ^ 16 ||| value.toNat >>> 8 = _
  have shifted : value.toNat <<< 8 % 2 ^ 16 = (value.toNat % 256) <<< 8 := by
    rw [Nat.shiftLeft_eq, Nat.shiftLeft_eq]
    omega
  rw [shifted, Nat.shiftRight_eq_div_pow]
  calc
    _ = value.toNat % 256 * 2 ^ 8 + value.toNat / 256 :=
      shiftLeft_or_eq _ _ 8 highBound
    _ = _ := by omega

/-! ## From the sender's work request to the receiver's completion -/

theorem htonl_toNat (hostOrder : ByteOrder) (value : UInt32) :
    (htonl hostOrder value).toNat =
      hostOrder.load (bigEndian 4 value.toNat) := by
  have bound := hostOrder.load_lt (bigEndian 4 value.toNat)
  rw [length_bigEndian] at bound
  rw [htonl, UInt32.toNat_ofNat']
  exact Nat.mod_eq_of_lt bound

/-- What the adapter sends is the immediate data in network byte order. -/
theorem immBytes_eq
    {request : SendWorkRequest} {hostOrder : ByteOrder} {immData : UInt32}
    (networkOrder : request.immData = htonl hostOrder immData) :
    request.immBytes hostOrder = bigEndian 4 immData.toNat := by
  have stored := hostOrder.store_load (bigEndian 4 immData.toNat)
  rw [length_bigEndian] at stored
  rw [SendWorkRequest.immBytes, networkOrder, htonl_toNat, stored]

theorem immData_of_bigEndian
    {completion : RecvCompletion} {immData : UInt32}
    (delivered : completion.immBytes = bigEndian 4 immData.toNat) :
    completion.immData .bigEndian = immData := by
  have bound : immData.toNat < 256 ^ 4 := immData.toNat_lt
  apply UInt32.toNat_inj.mp
  rw [RecvCompletion.immData, delivered, ByteOrder.load,
    ofBigEndian_bigEndian, Nat.mod_eq_of_lt bound]
  exact Nat.mod_eq_of_lt bound

/-- A little-endian receiver reads the four bytes backwards. -/
theorem immData_of_littleEndian
    {completion : RecvCompletion} {immData : UInt32}
    (delivered : completion.immBytes = bigEndian 4 immData.toNat) :
    (completion.immData .littleEndian).toNat =
      immData.toNat % 256 * 16777216 +
        immData.toNat / 256 % 256 * 65536 +
        immData.toNat / 65536 % 256 * 256 +
        immData.toNat / 16777216 := by
  have bound : immData.toNat < 4294967296 := immData.toNat_lt
  have bytes :
      ofBigEndian (bigEndian 4 immData.toNat).reverse =
        immData.toNat % 256 * 16777216 +
          immData.toNat / 256 % 256 * 65536 +
          immData.toNat / 65536 % 256 * 256 +
          immData.toNat / 16777216 := by
    simp only [bigEndian, List.nil_append, List.cons_append,
      List.reverse_cons, List.reverse_nil, ofBigEndian, List.foldl_cons,
      List.foldl_nil, UInt8.toNat_ofNat', Nat.div_div_eq_div_mul,
      Nat.reduceMul]
    omega
  rw [RecvCompletion.immData, delivered, ByteOrder.load, bytes,
    UInt32.toNat_ofNat']
  omega

private theorem splitHalves
    (first second : Nat) {third fourth : Nat}
    (thirdByte : third < 256) (fourthByte : fourth < 256) :
    (first * 16777216 + second * 65536 + third * 256 + fourth) / 65536 =
        first * 256 + second ∧
      (first * 16777216 + second * 65536 + third * 256 + fourth) % 65536 =
        third * 256 + fourth := by
  constructor <;> omega

/-- The receiver gets the pair back unless it reads the bytes backwards; then it
gets the two numbers exchanged and each with its bytes exchanged. -/
theorem decodeLayerId_immData_iff
    {completion : RecvCompletion} {immData : UInt32}
    {requestSeq layerId : UInt16} (receiverOrder : ByteOrder)
    (encoded : immData = encodeLayerId requestSeq layerId)
    (delivered : completion.immBytes = bigEndian 4 immData.toNat) :
    decodeLayerId (completion.immData receiverOrder) =
        (requestSeq, layerId) ↔
      receiverOrder = .bigEndian ∨ layerId = swapBytes requestSeq := by
  have seqBound : requestSeq.toNat < 65536 := requestSeq.toNat_lt
  have layerBound : layerId.toNat < 65536 := layerId.toNat_lt
  have value := encodeLayerId_toNat requestSeq layerId
  rw [← encoded] at value
  have decoded :=
    decodeLayerId_toNat (completion.immData receiverOrder)
  have numbers :
      decodeLayerId (completion.immData receiverOrder) =
          (requestSeq, layerId) ↔
        (decodeLayerId (completion.immData receiverOrder)).1.toNat =
            requestSeq.toNat ∧
          (decodeLayerId (completion.immData receiverOrder)).2.toNat =
            layerId.toNat := by
    rw [Prod.ext_iff, UInt16.toNat_inj, UInt16.toNat_inj]
  rw [numbers, decoded.1, decoded.2]
  cases receiverOrder with
  | bigEndian =>
      rw [immData_of_bigEndian delivered, value]
      simp only [true_or, iff_true]
      omega
  | littleEndian =>
      have lowest : immData.toNat % 256 = layerId.toNat % 256 := by
        omega
      have second : immData.toNat / 256 % 256 = layerId.toNat / 256 := by
        omega
      have third : immData.toNat / 65536 % 256 = requestSeq.toNat % 256 := by
        omega
      have highest : immData.toNat / 16777216 = requestSeq.toNat / 256 := by
        omega
      have seqHigh : requestSeq.toNat / 256 < 256 := by
        omega
      obtain ⟨upper, lower⟩ :=
        splitHalves (layerId.toNat % 256) (layerId.toNat / 256)
          (Nat.mod_lt requestSeq.toNat (by decide)) seqHigh
      rw [immData_of_littleEndian delivered, lowest, second, third, highest,
        upper, lower, ← UInt16.toNat_inj, swapBytes_toNat]
      simp only [reduceCtorEq, false_or]
      omega

/-- The ways a write gets its immediate data posted. -/
inductive PostsWrite (engine : RDMAEngine) (immData : UInt32) :
    SendWorkRequest → Prop where
  | postWriteExternal
      {accepts : UInt32 → SendWorkRequest → Bool} {peerId : ByteString}
      {localAddr : UInt64} {localLkey : UInt32} {remoteOffset length : UInt64}
      {signal : Bool} {qpNum : UInt32} {request : SendWorkRequest}
      {next : RDMAEngine}
      (posted :
        engine.postWriteExternal accepts peerId localAddr localLkey
          remoteOffset length immData signal = (.posted qpNum request, next)) :
      PostsWrite engine immData request
  | postWrite
      {accepts : UInt32 → SendWorkRequest → Bool} {peerId : ByteString}
      {srcOffset dstOffset length : UInt64} {signal : Bool} {qpNum : UInt32}
      {request : SendWorkRequest}
      (posted :
        engine.postWrite accepts peerId srcOffset dstOffset length immData
          signal = .posted qpNum request) :
      PostsWrite engine immData request
  | postRdmaWrite
      {accepts : UInt32 → SendWorkRequest → Bool} {qp : Option UInt32}
      {srcOffset remoteOffset len remoteAddr : UInt64} {remoteRkey : UInt32}
      {signal : Bool} {qpNum : UInt32} {request : SendWorkRequest}
      (posted :
        engine.postRdmaWrite accepts qp srcOffset remoteOffset len remoteAddr
          remoteRkey immData signal = .posted qpNum request) :
      PostsWrite engine immData request

theorem PostsWrite.immData_eq
    {engine : RDMAEngine} {immData : UInt32} {request : SendWorkRequest}
    (posts : PostsWrite engine immData request) :
    request.immData = htonl engine.hostOrder immData := by
  cases posts with
  | postWriteExternal posted =>
      exact RDMAEngine.postWriteExternal_immData posted
  | postWrite posted =>
      exact RDMAEngine.postWrite_immData posted
  | postRdmaWrite posted =>
      exact RDMAEngine.postRdmaWrite_immData posted

/-- The poll loop obtains the pair the sender encoded exactly on a big-endian
host, or when the bytes of the immediate data are a palindrome. -/
theorem immediate_data_survives_iff
    {engine : RDMAEngine} {requestSeq layerId : UInt16} {immData : UInt32}
    {request : SendWorkRequest} {completion : RecvCompletion}
    (receiverOrder : ByteOrder)
    (built :
      immData = UInt32.ofNat (encodeImmData requestSeq.toNat layerId.toNat) ∨
        immData = encodeLayerId requestSeq layerId)
    (posts : PostsWrite engine immData request)
    (delivered :
      completion.immBytes = request.immBytes engine.hostOrder) :
    decodeLayerId (completion.immData receiverOrder) =
        (requestSeq, layerId) ↔
      receiverOrder = .bigEndian ∨ layerId = swapBytes requestSeq := by
  have encoded : immData = encodeLayerId requestSeq layerId := by
    rcases built with python | cpp
    · rw [python, encodeImmData_eq]
    · exact cpp
  refine decodeLayerId_immData_iff receiverOrder encoded ?_
  rw [delivered, immBytes_eq posts.immData_eq]

/-- An engine with one peer, on a little-endian host. -/
def RDMAEngine.onePeer : RDMAEngine where
  kvBufferMb := 1
  hostOrder := .littleEndian
  mem := { bytes := 4096, lkey := 1, addr := 0 }
  qmaps :=
    [{ peerNodeId := [2]
       localQpNum := 5
       localLid := 0
       localGid := .replicate 16 0
       localPsn := 0
       remoteQpNum := 6
       remoteLid := 0
       remoteGid := .replicate 16 0
       remotePsn := 0
       remoteRkey := 7
       remoteAddr := 0x10000 }]
  peerQps := (∅ : UnorderedMap ByteString (Option UInt32)).insert [2] (some 5)

/-- The write an engine posts for slot zero and layer one. -/
def RDMAEngine.onePeerRequest : SendWorkRequest where
  wrId := 0
  localAddr := 0
  length := 16
  lkey := 1
  signaled := false
  immData := htonl .littleEndian (encodeLayerId 0 1)
  remoteAddr := 0x10000
  rkey := 7

theorem onePeer_posts :
    PostsWrite .onePeer (encodeLayerId 0 1) RDMAEngine.onePeerRequest := by
  have posted :
      (RDMAEngine.onePeer.postWriteExternal (fun _ _ => true) [2] 0 1 0 16
          (encodeLayerId 0 1) false).1 =
        .posted 5 RDMAEngine.onePeerRequest := by
    decide
  exact .postWriteExternal (Prod.ext posted rfl)

/-- Slot zero, layer one, sent and received on little-endian hosts: the loop
reads sequence number 256 and layer zero. -/
theorem slot_zero_layer_one_is_misread :
    ∃ completion : RecvCompletion,
      PostsWrite .onePeer (encodeLayerId 0 1) RDMAEngine.onePeerRequest ∧
        completion.immBytes =
          RDMAEngine.onePeerRequest.immBytes RDMAEngine.onePeer.hostOrder ∧
        decodeLayerId (completion.immData .littleEndian) = (256, 0) ∧
        decodeLayerId (completion.immData .littleEndian) ≠ (0, 1) := by
  refine
    ⟨{ success := true
       immBytes := RDMAEngine.onePeerRequest.immBytes .littleEndian
       qpNum := 6
       byteLen := 16 },
      onePeer_posts, rfl, ?_, ?_⟩ <;>
    decide

/-- The same write read on a big-endian host. -/
theorem slot_zero_layer_one_survives_bigEndian :
    ∃ completion : RecvCompletion,
      completion.immBytes =
          RDMAEngine.onePeerRequest.immBytes RDMAEngine.onePeer.hostOrder ∧
        decodeLayerId (completion.immData .bigEndian) = (0, 1) :=
  ⟨{ success := true
     immBytes := RDMAEngine.onePeerRequest.immBytes .littleEndian
     qpNum := 6
     byteLen := 16 },
    rfl,
    (immediate_data_survives_iff .bigEndian (Or.inr rfl) onePeer_posts rfl).mpr
      (Or.inl rfl)⟩

end RdmaKvCache
