import RdmaKvCache.Common.WireNumbers
import RdmaKvCache.Node.InferenceRequests
import RdmaKvCache.Orchestrator.Worker

/-!
# Leftover memory on the wire

Every message is written with all its fields, and a new message or request has
fields that hold what the memory held before.  No factory function sets the
transaction id, and the request that is assigned to nodes has only the first of
its timestamps set, so the bytes that are sent always depend on this memory.
-/

namespace RdmaKvCache

/-- The messages the system makes, with the arguments it makes them from; the last
one is made by `handle_assign_request` itself. -/
inductive SentMessage where
  | rdmaProcessRegistration (sourceNodeId : ByteString) (nodeInfo : NodeInfo)
  | broadcastMemberInfo
      (sourceNodeId : ByteString) (membershipListInfo : List NodeInfo)
  | rdmaReady (sourceNodeId : ByteString)
  | assignRequest (sourceNodeId : ByteString) (requestInfo : RequestInfo)
  | prepareDecodeSlot (sourceNodeId : ByteString) (requestInfo : RequestInfo)
  | prefillComplete (sourceNodeId : ByteString) (requestInfo : RequestInfo)
  | prefillCompleteOrchestrator
      (sourceNodeId : ByteString) (requestInfo : RequestInfo)
  | decodeComplete
      (sourceNodeId : ByteString) (requestInfo : RequestInfo)
      (responseText : ByteString)
  | requestFailed
      (sourceNodeId : ByteString) (requestInfo : RequestInfo)
      (errorMessage : ByteString)
  | clientResponse
      (sourceNodeId : ByteString) (requestInfo : RequestInfo)
      (responseText : ByteString)
  | error (errorMessage : ByteString)
  | prefillReport
      (config : WorkerConfig) (requestInfo : RequestInfo) (numTokens : Int32)

namespace SentMessage

def message (sent : SentMessage) (origin : Message.Origin) : Message :=
  match sent with
  | .rdmaProcessRegistration sourceNodeId nodeInfo =>
      .createRdmaProcessRegistration origin sourceNodeId nodeInfo
  | .broadcastMemberInfo sourceNodeId membershipListInfo =>
      .createBroadcastMemberInfo origin sourceNodeId membershipListInfo
  | .rdmaReady sourceNodeId => .createRdmaReady origin sourceNodeId
  | .assignRequest sourceNodeId requestInfo =>
      .createAssignRequest origin sourceNodeId requestInfo
  | .prepareDecodeSlot sourceNodeId requestInfo =>
      .createPrepareDecodeSlot origin sourceNodeId requestInfo
  | .prefillComplete sourceNodeId requestInfo =>
      .prefillComplete origin sourceNodeId requestInfo
  | .prefillCompleteOrchestrator sourceNodeId requestInfo =>
      .createPrefillCompleteOrchestrator origin sourceNodeId requestInfo
  | .decodeComplete sourceNodeId requestInfo responseText =>
      .decodeComplete origin sourceNodeId requestInfo responseText
  | .requestFailed sourceNodeId requestInfo errorMessage =>
      .createRequestFailed origin sourceNodeId requestInfo errorMessage
  | .clientResponse sourceNodeId requestInfo responseText =>
      .createClientResponse origin sourceNodeId requestInfo responseText
  | .error errorMessage => .createError origin errorMessage
  | .prefillReport config requestInfo numTokens =>
      prefillCompleteMessage config requestInfo numTokens origin

/-- The bytes that are sent. -/
def bytes (sent : SentMessage) (origin : Message.Origin) : ByteString :=
  serializeMessage (sent.message origin)

end SentMessage

/-- The bytes are the same whatever the memory has held before. -/
def IndependentOfMemory {Memory : Type} (bytes : Memory → ByteString) : Prop :=
  ∀ first second, bytes first = bytes second

/-- The bytes of a message about the request that is assigned, made in memory that
is known, by the memory of the request itself. -/
def assignmentBytes
    (send : RequestInfo → SentMessage) (origin : Message.Origin)
    (requested : RequestInfo) (routing : RoutingResult)
    (input : ProcessInput) (memory : RequestInfo) : ByteString :=
  let requestInfo :=
    WorkerOrchestrator.assignedRequest requested routing
      { input with requestMemory := memory }
  (send requestInfo).bytes origin

/-! ## What the bytes tell -/

theorem writeUint64_injective {first second : UInt64}
    (same : writeUint64 first = writeUint64 second) : first = second := by
  have firstBound : first.toNat < 256 ^ 8 := first.toNat_lt
  have secondBound : second.toNat < 256 ^ 8 := second.toNat_lt
  rw [writeUint64_eq, writeUint64_eq] at same
  have sameNumber := congrArg ByteOrders.ofBigEndian same
  rw [ByteOrders.ofBigEndian_bigEndian, ByteOrders.ofBigEndian_bigEndian,
    Nat.mod_eq_of_lt firstBound, Nat.mod_eq_of_lt secondBound] at sameNumber
  exact UInt64.toNat_inj.mp sameNumber

/-- The transaction id is written after the type and the status. -/
theorem transactionId_of_bytes {first second : Message}
    (same : serializeMessage first = serializeMessage second) :
    first.transactionId = second.transactionId := by
  have written (message : Message) :
      ((serializeMessage message).drop 2).take 8 =
        writeUint64 message.transactionId := by
    simp only [serializeMessage, writeUint8, List.append_assoc,
      List.cons_append, List.nil_append, List.drop_succ_cons, List.drop_zero]
    exact List.take_left' (length_writeUint64 message.transactionId)
  apply writeUint64_injective
  rw [← written first, ← written second, same]

/-- The time at which decoding is done is written last. -/
theorem timestampDecodeDone_of_bytes {first second : RequestInfo}
    (same : writeRequestInfo first = writeRequestInfo second) :
    first.timestampDecodeDone = second.timestampDecodeDone := by
  apply writeUint64_injective
  rw [writeRequestInfo, writeRequestInfo] at same
  apply List.append_inj_right' same
  rw [length_writeUint64, length_writeUint64]

/-- Messages that differ in their requests alone. -/
theorem requestInfo_of_bytes {message : Message} {first second : RequestInfo}
    (same :
      serializeMessage { message with requestInfo := first } =
        serializeMessage { message with requestInfo := second }) :
    writeRequestInfo first = writeRequestInfo second := by
  simpa only [serializeMessage, List.append_cancel_right_eq,
    List.append_cancel_left_eq] using same

theorem SentMessage.transactionId_message
    (sent : SentMessage) (origin : Message.Origin) :
    (sent.message origin).transactionId = origin.memory.transactionId := by
  cases sent <;> rfl

/-- A request that is assigned keeps the time its memory has held. -/
theorem assignmentBytes_not_independent
    {send : RequestInfo → SentMessage} (origin : Message.Origin)
    {message : Message}
    (carries :
      ∀ requestInfo,
        (send requestInfo).message origin =
          { message with requestInfo := requestInfo })
    (requested : RequestInfo) (routing : RoutingResult)
    (input : ProcessInput) :
    ¬ IndependentOfMemory
        (assignmentBytes send origin requested routing input) := by
  intro independent
  have same :=
    independent Message.cleared.requestInfo
      { Message.cleared.requestInfo with timestampDecodeDone := 1 }
  simp only [assignmentBytes, SentMessage.bytes, carries] at same
  have sameTime :=
    timestampDecodeDone_of_bytes (requestInfo_of_bytes same)
  have zeroIsOne : (0 : UInt64) = 1 := sameTime
  revert zeroIsOne
  decide

/-- The bytes depend on the memory of the message, whichever it is, and on the
memory of the request that is assigned. -/
theorem leftover_memory_sent
    (sent : SentMessage) (now : UInt64) (orchestratorId : ByteString)
    (origin : Message.Origin) (requested : RequestInfo)
    (routing : RoutingResult) (input : ProcessInput) :
    (¬ IndependentOfMemory fun memory : Message =>
      sent.bytes ⟨memory, now⟩) ∧
      ¬ IndependentOfMemory
          (assignmentBytes (.assignRequest orchestratorId) origin requested
            routing input) ∧
      ¬ IndependentOfMemory
          (assignmentBytes (.prepareDecodeSlot orchestratorId) origin requested
            routing input) := by
  refine ⟨?_, ?_, ?_⟩
  · intro independent
    have same :=
      independent .cleared { Message.cleared with transactionId := 1 }
    have sameId := transactionId_of_bytes same
    rw [SentMessage.transactionId_message,
      SentMessage.transactionId_message] at sameId
    have zeroIsOne : (0 : UInt64) = 1 := sameId
    revert zeroIsOne
    decide
  · exact
      assignmentBytes_not_independent origin (fun _ => rfl) requested routing
        input
  · exact
      assignmentBytes_not_independent origin (fun _ => rfl) requested routing
        input

/-- The error that refuses a client, made in memory of two contents. -/
theorem refusal_bytes_differ :
    (SentMessage.error
          (.ofText "All nodes at capacity. Please try again later.")).bytes
        ⟨.cleared, 0⟩ ≠
      (SentMessage.error
          (.ofText "All nodes at capacity. Please try again later.")).bytes
        ⟨{ Message.cleared with transactionId := 1 }, 0⟩ := by
  decide +kernel

end RdmaKvCache
