import RdmaKvCache.Common.Config
import RdmaKvCache.Library.ByteOrders

/-!
# The RDMA engine

`RDMAEngine` posts writes with immediate data to the queue pair of a peer and
polls the completions of the writes peers post to this node.  Immediate data
travels as four bytes in network byte order: the send work request holds
`htonl(imm_data)`, and the receive completion holds the same four bytes.

The adapter decides whether it accepts a work request, which completions it
reports, and whether receive work requests can be posted again.
-/

namespace RdmaKvCache

open ByteOrders

/-- The number whose bytes in memory are those of `value` in network order. -/
def htonl (hostOrder : ByteOrder) (value : UInt32) : UInt32 :=
  UInt32.ofNat (hostOrder.load (ByteOrder.bigEndian.store 4 value.toNat))

/-- A work request `IBV_WR_RDMA_WRITE_WITH_IMM` with its one scatter-gather
element. -/
structure SendWorkRequest where
  wrId : UInt64
  localAddr : UInt64
  length : UInt32
  lkey : UInt32
  signaled : Bool
  immData : UInt32
  remoteAddr : UInt64
  rkey : UInt32
  deriving DecidableEq

/-- The bytes the sending adapter takes from the work request. -/
def SendWorkRequest.immBytes
    (request : SendWorkRequest) (hostOrder : ByteOrder) : List UInt8 :=
  hostOrder.store 4 request.immData.toNat

/-- The registered memory region of a context. -/
structure GpuMemRegion where
  bytes : UInt64
  lkey : UInt32
  addr : UInt64
  deriving DecidableEq

/-- A receive completion.  `immBytes` are the bytes of its `imm_data` field. -/
structure RecvCompletion where
  success : Bool
  immBytes : List UInt8
  qpNum : UInt32
  byteLen : UInt32
  deriving DecidableEq

/-- The value of `wc.imm_data` on a host. -/
def RecvCompletion.immData
    (completion : RecvCompletion) (hostOrder : ByteOrder) : UInt32 :=
  UInt32.ofNat (hostOrder.load completion.immBytes)

structure RDMAEngine where
  kvBufferMb : UInt64
  hostOrder : ByteOrder
  mem : GpuMemRegion
  qmaps : List PeerInfoandQPs
  /-- The number of each peer's queue pair; `none` is a null pointer. -/
  peerQps : UnorderedMap ByteString (Option UInt32) := ∅
  recvWrReplenishFailures : Int32 := 0
  rdmaFatalError : Bool := false

namespace RDMAEngine

/-- What a call that posts a write does. -/
inductive PostOutcome where
  | refused
  | nothingToPost
  | posted (qpNum : UInt32) (request : SendWorkRequest)
  | nullQueuePair
  deriving DecidableEq

/-- The value the call returns; dereferencing a null pointer returns nothing. -/
def PostOutcome.returned : PostOutcome → Option Bool
  | .refused => some false
  | .nothingToPost => some true
  | .posted _ _ => some true
  | .nullQueuePair => none

def findPeerInfo (engine : RDMAEngine) (peerId : ByteString) :
    Option PeerInfoandQPs :=
  engine.qmaps.find? fun qmap => decide (qmap.peerNodeId = peerId)

def remoteBufferSize (engine : RDMAEngine) : UInt64 :=
  engine.kvBufferMb * 1024 * 1024

/-- `accepts` tells whether `ibv_post_send` takes a work request.  Looking a
peer up in `peer_qps_` creates a null entry when there is none. -/
def postWriteExternal
    (engine : RDMAEngine) (accepts : UInt32 → SendWorkRequest → Bool)
    (peerId : ByteString) (localAddr : UInt64) (localLkey : UInt32)
    (remoteOffset length : UInt64) (immData : UInt32) (signal : Bool) :
    PostOutcome × RDMAEngine :=
  let qp := (engine.peerQps.lookup peerId).getD none
  let engine :=
    { engine with peerQps := engine.peerQps.insert peerId qp }
  match engine.findPeerInfo peerId, qp with
  | none, _ => (.refused, engine)
  | some _, none => (.refused, engine)
  | some peerInfo, some qpNum =>
      if engine.remoteBufferSize < remoteOffset + length then
        (.refused, engine)
      else if length = 0 then
        (.nothingToPost, engine)
      else
        let request : SendWorkRequest :=
          { wrId := 0
            localAddr := localAddr
            length := length.toUInt32
            lkey := localLkey
            signaled := signal
            immData := htonl engine.hostOrder immData
            remoteAddr := peerInfo.remoteAddr + remoteOffset
            rkey := peerInfo.remoteRkey.toUInt32 }
        if accepts qpNum request then
          (.posted qpNum request, engine)
        else
          (.refused, engine)

/-- The body of `post_rdma_write`; its exceptions make `post_write` return
false. -/
def postRdmaWrite
    (engine : RDMAEngine) (accepts : UInt32 → SendWorkRequest → Bool)
    (qp : Option UInt32) (srcOffset remoteOffset len remoteAddr : UInt64)
    (remoteRkey immData : UInt32) (signal : Bool) : PostOutcome :=
  if len = 0 then
    .refused
  else if engine.mem.bytes < srcOffset + len then
    .refused
  else
    match qp with
    | none => .nullQueuePair
    | some qpNum =>
        let request : SendWorkRequest :=
          { wrId := immData.toUInt64
            localAddr := engine.mem.addr + srcOffset
            length := len.toUInt32
            lkey := engine.mem.lkey
            signaled := signal
            immData := htonl engine.hostOrder immData
            remoteAddr := remoteAddr + remoteOffset
            rkey := remoteRkey }
        if accepts qpNum request then .posted qpNum request else .refused

def postWrite
    (engine : RDMAEngine) (accepts : UInt32 → SendWorkRequest → Bool)
    (peerId : ByteString) (srcOffset dstOffset length : UInt64)
    (immData : UInt32) (signal : Bool) : PostOutcome :=
  match engine.peerQps.lookup peerId, engine.findPeerInfo peerId with
  | none, _ => .refused
  | some _, none => .refused
  | some qp, some peerInfo =>
      engine.postRdmaWrite accepts qp srcOffset dstOffset length
        peerInfo.remoteAddr peerInfo.remoteRkey.toUInt32 immData signal

def maxReplenishFailures : Int32 := 5

/-- `polled` is what `ibv_poll_cq` stores unless it fails, `replenished` whether
the receive work requests can be posted again.  A call that fails drops the
completions it took from the queue. -/
def pollRecvCq
    (engine : RDMAEngine) (polled : Option (List RecvCompletion))
    (replenished : Bool) : Option (List RecvCompletion) × RDMAEngine :=
  match polled with
  | none => (none, engine)
  | some completions =>
      if completions.any fun completion => !completion.success then
        (none, engine)
      else if completions.isEmpty then
        (some [], engine)
      else if replenished then
        (some completions, { engine with recvWrReplenishFailures := 0 })
      else
        let failures := engine.recvWrReplenishFailures + 1
        if maxReplenishFailures ≤ failures then
          (none,
            { engine with
              recvWrReplenishFailures := failures
              rdmaFatalError := true })
        else
          (some completions, { engine with recvWrReplenishFailures := failures })

theorem pollRecvCq_hostOrder
    (engine : RDMAEngine) (polled : Option (List RecvCompletion))
    (replenished : Bool) :
    (engine.pollRecvCq polled replenished).2.hostOrder =
      engine.hostOrder := by
  unfold pollRecvCq
  split
  · rfl
  · split
    · rfl
    · split
      · rfl
      · split
        · rfl
        · simp only
          split <;> rfl

/-- A batch is handed on only if all its completions are successful. -/
theorem pollRecvCq_success
    {engine next : RDMAEngine} {polled handedOn : List RecvCompletion}
    {replenished : Bool} {completion : RecvCompletion}
    (taken :
      engine.pollRecvCq (some polled) replenished = (some handedOn, next))
    (member : completion ∈ polled) :
    completion.success = true := by
  rw [pollRecvCq] at taken
  simp only at taken
  split at taken
  · cases taken
  · rename_i noneFailed
    simp only [List.any_eq_true, Bool.not_eq_true', not_exists, not_and,
      Bool.not_eq_false] at noneFailed
    exact noneFailed completion member

/-- Completions are only dropped along with one that has failed, or when the
receive work requests cannot be posted again once too often. -/
theorem pollRecvCq_dropped
    {engine next : RDMAEngine} {polled : List RecvCompletion}
    {replenished : Bool}
    (taken : engine.pollRecvCq (some polled) replenished = (none, next)) :
    (∃ completion ∈ polled, completion.success = false) ∨
      replenished = false ∧
        maxReplenishFailures ≤ engine.recvWrReplenishFailures + 1 := by
  rw [pollRecvCq] at taken
  simp only at taken
  split at taken
  · rename_i failed
    exact Or.inl (by simpa using failed)
  · split at taken
    · cases taken
    · split at taken
      · cases taken
      · rename_i notReplenished
        split at taken
        · rename_i tooOften
          exact Or.inr ⟨by simpa using notReplenished, tooOften⟩
        · cases taken

/-! ## Posting writes -/

section PostWriteExternal

variable {engine next : RDMAEngine}
variable {accepts : UInt32 → SendWorkRequest → Bool} {peerId : ByteString}
variable {localAddr : UInt64} {localLkey : UInt32}
variable {remoteOffset length : UInt64} {immData : UInt32} {signal : Bool}
variable {qpNum : UInt32} {request : SendWorkRequest}

/-- Whatever becomes of the write, its peer has an entry in the map afterwards. -/
theorem postWriteExternal_snd :
    (engine.postWriteExternal accepts peerId localAddr localLkey remoteOffset
        length immData signal).2 =
      { engine with
        peerQps :=
          engine.peerQps.insert peerId
            ((engine.peerQps.lookup peerId).getD none) } := by
  simp only [postWriteExternal]
  split
  · rfl
  · rfl
  · split
    · rfl
    · split
      · rfl
      · split <;> rfl

/-- A write is posted if its peer is known and has a queue pair, it has some bytes
and ends in the buffer, and the adapter takes it. -/
theorem postWriteExternal_eq_posted_iff :
    (engine.postWriteExternal accepts peerId localAddr localLkey remoteOffset
        length immData signal).1 = .posted qpNum request ↔
      ∃ peerInfo,
        engine.findPeerInfo peerId = some peerInfo ∧
          (engine.peerQps.lookup peerId).getD none = some qpNum ∧
          remoteOffset + length ≤ engine.remoteBufferSize ∧ length ≠ 0 ∧
          request =
            { wrId := 0
              localAddr := localAddr
              length := length.toUInt32
              lkey := localLkey
              signaled := signal
              immData := htonl engine.hostOrder immData
              remoteAddr := peerInfo.remoteAddr + remoteOffset
              rkey := peerInfo.remoteRkey.toUInt32 } ∧
          accepts qpNum request = true := by
  have samePeers (peerQps : UnorderedMap ByteString (Option UInt32)) :
      findPeerInfo { engine with peerQps := peerQps } peerId =
        engine.findPeerInfo peerId :=
    rfl
  have sameSize (peerQps : UnorderedMap ByteString (Option UInt32)) :
      remoteBufferSize { engine with peerQps := peerQps } =
        engine.remoteBufferSize :=
    rfl
  constructor
  · intro posted
    simp only [postWriteExternal, samePeers, sameSize] at posted
    split at posted
    · cases posted
    · cases posted
    · rename_i peerInfo peerQp known connected
      split at posted
      · cases posted
      · rename_i inBuffer
        split at posted
        · cases posted
        · rename_i nonempty
          split at posted
          · rename_i takes
            cases posted
            exact
              ⟨peerInfo, known, connected, UInt64.not_lt.mp inBuffer, nonempty,
                rfl, takes⟩
          · cases posted
  · intro postable
    obtain
      ⟨peerInfo, known, connected, inBuffer, nonempty, isRequest, takes⟩ :=
      postable
    rw [isRequest] at takes ⊢
    simp only [postWriteExternal, samePeers, sameSize, known, connected,
      UInt64.not_lt.mpr inBuffer, nonempty, takes, if_false, if_true]

theorem eq_zero_of_nothingToPost
    (nothing :
      (engine.postWriteExternal accepts peerId localAddr localLkey
        remoteOffset length immData signal).1 = .nothingToPost) :
    length = 0 := by
  simp only [postWriteExternal] at nothing
  split at nothing
  · cases nothing
  · cases nothing
  · split at nothing
    · cases nothing
    · split at nothing
      · assumption
      · split at nothing <;> cases nothing

/-- Both ways of posting a write put the immediate data into the work request in
network byte order. -/
theorem postWriteExternal_immData
    (posted :
      engine.postWriteExternal accepts peerId localAddr localLkey remoteOffset
        length immData signal = (.posted qpNum request, next)) :
    request.immData = htonl engine.hostOrder immData := by
  obtain ⟨_, _, _, _, _, isRequest, _⟩ :=
    postWriteExternal_eq_posted_iff.mp (congrArg Prod.fst posted)
  rw [isRequest]

end PostWriteExternal

theorem postRdmaWrite_immData
    {engine : RDMAEngine} {accepts : UInt32 → SendWorkRequest → Bool}
    {qp : Option UInt32} {srcOffset remoteOffset len remoteAddr : UInt64}
    {remoteRkey immData : UInt32} {signal : Bool} {qpNum : UInt32}
    {request : SendWorkRequest}
    (posted :
      engine.postRdmaWrite accepts qp srcOffset remoteOffset len remoteAddr
        remoteRkey immData signal = .posted qpNum request) :
    request.immData = htonl engine.hostOrder immData := by
  unfold postRdmaWrite at posted
  split at posted
  · cases posted
  · split at posted
    · cases posted
    · split at posted
      · cases posted
      · dsimp only at posted
        split at posted
        · cases posted
          rfl
        · cases posted

theorem postWrite_immData
    {engine : RDMAEngine} {accepts : UInt32 → SendWorkRequest → Bool}
    {peerId : ByteString} {srcOffset dstOffset length : UInt64}
    {immData : UInt32} {signal : Bool} {qpNum : UInt32}
    {request : SendWorkRequest}
    (posted :
      engine.postWrite accepts peerId srcOffset dstOffset length immData
        signal = .posted qpNum request) :
    request.immData = htonl engine.hostOrder immData := by
  rw [postWrite] at posted
  split at posted
  · cases posted
  · cases posted
  · exact postRdmaWrite_immData posted

end RDMAEngine

end RdmaKvCache
