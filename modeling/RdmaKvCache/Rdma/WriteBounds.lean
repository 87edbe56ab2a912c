import RdmaKvCache.Node.QueuePairExchange
import RdmaKvCache.Rdma.RdmaEngine

/-!
# Bounds of posted writes

`post_write_external` compares the end of a write with the size of the buffer
in this node's own configuration, in 64 bits, and posts the length as 32 bits.
The peer advertises the size of the region it has registered, which nobody reads.
-/

namespace RdmaKvCache

/-- The request transfers all `length` bytes, into the region of the peer. -/
structure SendWorkRequest.CompleteIn
    (request : SendWorkRequest) (peer : NodeInfo)
    (remoteOffset length : UInt64) : Prop where
  complete : request.length.toNat = length.toNat
  inPool : remoteOffset.toNat + length.toNat ≤ peer.memoryPoolSize.toNat
  start : peer.gpuBaseAddr.toNat ≤ request.remoteAddr.toNat
  stop :
    request.remoteAddr.toNat + request.length.toNat ≤
      peer.gpuBaseAddr.toNat + peer.memoryPoolSize.toNat

namespace RDMAEngine

/-- Neither the length nor the end is cut off, and the write does not end between
the end of the peer's region and the end of a buffer of this node's size. -/
structure NarrowedSafely
    (engine : RDMAEngine) (peer : NodeInfo) (remoteOffset length : UInt64) :
    Prop where
  length32 : length.toNat < 2 ^ 32
  end64 : remoteOffset.toNat + length.toNat < 2 ^ 64
  notBetween :
    ¬ (peer.memoryPoolSize.toNat < remoteOffset.toNat + length.toNat ∧
      remoteOffset.toNat + length.toNat ≤ engine.remoteBufferSize.toNat)

/-- The remote values of the engine come from a list of members. -/
structure Exchanged
    (engine : RDMAEngine) (nodeInfo : NodeInfo) (members : List NodeInfo) :
    Prop where
  coherent : PeerInfoandQPs.Coherent members
  qmaps :
    fillRemoteInfo nodeInfo members =
      .ok { nodeInfo with qmaps := engine.qmaps }

variable {engine : RDMAEngine} {nodeInfo peer : NodeInfo}
variable {members : List NodeInfo}

/-- The entry for a listed peer holds the address the peer advertises. -/
theorem Exchanged.remoteAddr
    (exchanged : engine.Exchanged nodeInfo members) (listed : peer ∈ members)
    (other : peer.nodeId ≠ nodeInfo.nodeId)
    {peerInfo : PeerInfoandQPs}
    (found : engine.findPeerInfo peer.nodeId = some peerInfo) :
    peerInfo.remoteAddr = peer.gpuBaseAddr := by
  obtain ⟨provided, filled⟩ := fillRemoteInfo_eq_ok.mp exchanged.qmaps
  have sameQmaps : engine.qmaps = _ := congrArg NodeInfo.qmaps filled
  have entry := List.mem_of_find?_eq_some found
  have isPeer : peerInfo.peerNodeId = peer.nodeId := by
    have decided := List.find?_some found
    exact of_decide_eq_true decided
  rw [sameQmaps] at entry
  obtain ⟨qmap, isQmap, isExchanged⟩ := List.mem_map.mp entry
  have samePeer : peerInfo.peerNodeId = qmap.peerNodeId := by
    rw [← isExchanged]
    exact (PeerInfoandQPs.sameLocal_exchanged qmap).peerNodeId
  have isMatch : qmap.Matches nodeInfo.nodeId peer :=
    ⟨samePeer.symm.trans isPeer, other⟩
  obtain ⟨peerQmap, isPeerQmap, _⟩ := provided peer listed qmap isQmap isMatch
  rw [← isExchanged,
    PeerInfoandQPs.exchanged_of_match exchanged.coherent listed isMatch,
    PeerInfoandQPs.filledFrom_of_matches isMatch isPeerQmap]
  rfl

/-- What is known of a write of some bytes for which true is returned. -/
theorem postWriteExternal_returned_true
    {accepts : UInt32 → SendWorkRequest → Bool} {peerId : ByteString}
    {localAddr : UInt64} {localLkey : UInt32} {remoteOffset length : UInt64}
    {immData : UInt32} {signal : Bool} (someBytes : 0 < length)
    (accepted :
      (engine.postWriteExternal accepts peerId localAddr localLkey
        remoteOffset length immData signal).1.returned = some true) :
    ∃ peerInfo qpNum request,
      (engine.postWriteExternal accepts peerId localAddr localLkey
          remoteOffset length immData signal).1 = .posted qpNum request ∧
        engine.findPeerInfo peerId = some peerInfo ∧
        remoteOffset + length ≤ engine.remoteBufferSize ∧
        request.length = length.toUInt32 ∧ request.lkey = localLkey ∧
        request.remoteAddr = peerInfo.remoteAddr + remoteOffset := by
  have notZero : length ≠ 0 := by
    intro zero
    rw [zero] at someBytes
    exact absurd someBytes (by decide)
  cases outcome :
      (engine.postWriteExternal accepts peerId localAddr localLkey
        remoteOffset length immData signal).1 with
  | refused =>
      rw [outcome] at accepted
      cases accepted
  | nothingToPost =>
      exact absurd (eq_zero_of_nothingToPost outcome) notZero
  | posted qpNum request =>
      obtain ⟨peerInfo, known, _, inBuffer, _, isRequest, _⟩ :=
        postWriteExternal_eq_posted_iff.mp outcome
      rw [isRequest]
      exact ⟨peerInfo, qpNum, _, rfl, known, inBuffer, rfl, rfl, rfl⟩
  | nullQueuePair =>
      rw [outcome] at accepted
      cases accepted

theorem toNat_add_of_fits
    {remoteOffset length : UInt64}
    (end64 : remoteOffset.toNat + length.toNat < 2 ^ 64) :
    (remoteOffset + length).toNat = remoteOffset.toNat + length.toNat := by
  rw [UInt64.toNat_add]
  exact Nat.mod_eq_of_lt end64

/-- The end of a write for which true is returned, when it is not cut off. -/
theorem end_le_of_accepted
    {remoteOffset length : UInt64}
    (end64 : remoteOffset.toNat + length.toNat < 2 ^ 64)
    (inBuffer : remoteOffset + length ≤ engine.remoteBufferSize) :
    remoteOffset.toNat + length.toNat ≤ engine.remoteBufferSize.toNat := by
  have sum := toNat_add_of_fits end64
  rw [← sum]
  exact UInt64.le_iff_toNat_le.mp inBuffer

theorem toNat_toUInt32_eq_iff (length : UInt64) :
    length.toUInt32.toNat = length.toNat ↔ length.toNat < 2 ^ 32 := by
  rw [UInt64.toNat_toUInt32]
  exact Nat.mod_eq_iff_lt (by decide)

/-- A write of some bytes for which true is returned is complete and lies in the
peer's region exactly if nothing is cut off and it does not end between the ends of
the two buffers. -/
theorem accepted_write_complete_iff
    {accepts : UInt32 → SendWorkRequest → Bool}
    {localAddr : UInt64} {localLkey : UInt32} {remoteOffset length : UInt64}
    {immData : UInt32} {signal : Bool}
    (exchanged : engine.Exchanged nodeInfo members) (listed : peer ∈ members)
    (other : peer.nodeId ≠ nodeInfo.nodeId)
    (inAddressSpace :
      peer.gpuBaseAddr.toNat + peer.memoryPoolSize.toNat ≤ 2 ^ 64)
    (someBytes : 0 < length)
    (accepted :
      (engine.postWriteExternal accepts peer.nodeId localAddr localLkey
        remoteOffset length immData signal).1.returned = some true) :
    (∃ qpNum request,
        (engine.postWriteExternal accepts peer.nodeId localAddr localLkey
            remoteOffset length immData signal).1 = .posted qpNum request ∧
          request.CompleteIn peer remoteOffset length) ↔
      engine.NarrowedSafely peer remoteOffset length := by
  obtain
    ⟨peerInfo, qpNum, request, posted, found, inBuffer, length32, _,
      remoteAddr⟩ :=
    postWriteExternal_returned_true someBytes accepted
  rw [exchanged.remoteAddr listed other found] at remoteAddr
  have positive : 0 < length.toNat := UInt64.lt_iff_toNat_lt.mp someBytes
  have poolBound := peer.memoryPoolSize.toNat_lt
  constructor
  · intro complete
    obtain ⟨otherQp, otherRequest, isPosted, whole⟩ := complete
    rw [posted] at isPosted
    cases isPosted
    have untruncated := whole.complete
    rw [length32] at untruncated
    have inPool := whole.inPool
    exact
      { length32 := (toNat_toUInt32_eq_iff length).mp untruncated
        end64 := by omega
        notBetween := by omega }
  · intro safely
    have untruncated : request.length.toNat = length.toNat := by
      rw [length32]
      exact (toNat_toUInt32_eq_iff length).mpr safely.length32
    have inLocal := end_le_of_accepted safely.end64 inBuffer
    have inPool :
        remoteOffset.toNat + length.toNat ≤ peer.memoryPoolSize.toNat := by
      have notBetween := safely.notBetween
      omega
    have target :
        request.remoteAddr.toNat =
          peer.gpuBaseAddr.toNat + remoteOffset.toNat := by
      rw [remoteAddr]
      exact toNat_add_of_fits (by omega)
    exact
      ⟨qpNum, request, posted,
        { complete := untruncated
          inPool := inPool
          start := by omega
          stop := by omega }⟩

/-! ## Two nodes with one MiB each -/

/-- An engine with a queue pair to the one peer it has exchanged values with. -/
def sampleWriter (qmaps : List PeerInfoandQPs) : RDMAEngine where
  kvBufferMb := 1
  hostOrder := .littleEndian
  mem := { bytes := 1048576, lkey := 5, addr := 8192 }
  qmaps := qmaps
  peerQps := AList.insert [3] (some 18) ∅

def sampleTarget : NodeInfo :=
  { sampleNode [3] .decode 9 [sampleEntry [1] 37] with
    memoryPoolSize := 1048576 }

def sampleWriterInfo : NodeInfo :=
  sampleNode [1] .prefill 7 [sampleEntry [3] 18]

def sampleWriterQmaps : List PeerInfoandQPs :=
  [(sampleEntry [3] 18).filled (sampleEntry [1] 37) sampleTarget]

theorem exchanged_sampleWriter :
    (sampleWriter sampleWriterQmaps).Exchanged sampleWriterInfo
      [sampleTarget] where
  coherent := by
    intro first firstListed second secondListed _
    rw [List.mem_singleton.mp firstListed, List.mem_singleton.mp secondListed]
  qmaps := rfl

theorem accepted_write_complete_sampleWriter :
    ∃ qpNum request,
      ((sampleWriter sampleWriterQmaps).postWriteExternal (fun _ _ => true)
          [3] 8192 5 4096 512 7 true).1 = .posted qpNum request ∧
        request.CompleteIn sampleTarget 4096 512 :=
  (accepted_write_complete_iff exchanged_sampleWriter
    (List.mem_singleton.mpr rfl) (by decide) (by decide) (by decide)
    rfl).mpr ⟨by decide, by decide, by decide⟩

/-- A write from one byte before the end of the address space passes the check: it
starts in front of the peer's region. -/
theorem sampleWriter_writes_before_region :
    (sampleWriter sampleWriterQmaps).Exchanged sampleWriterInfo
        [sampleTarget] ∧
      ∃ qpNum request,
        ((sampleWriter sampleWriterQmaps).postWriteExternal (fun _ _ => true)
            sampleTarget.nodeId 8192 5 0xFFFFFFFFFFFFFFFF 512 7 true).1 =
            .posted qpNum request ∧
          request.remoteAddr.toNat + 1 = sampleTarget.gpuBaseAddr.toNat ∧
          ¬ request.CompleteIn sampleTarget 0xFFFFFFFFFFFFFFFF 512 := by
  refine ⟨exchanged_sampleWriter, 18, _, rfl, by decide, ?_⟩
  intro complete
  exact absurd complete.start (by decide)

end RDMAEngine

end RdmaKvCache
