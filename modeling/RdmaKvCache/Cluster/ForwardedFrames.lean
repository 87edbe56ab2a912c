import RdmaKvCache.Cluster.RequestContents
import RdmaKvCache.Epoll.InputFrames

/-!
# Frames the orchestrator forwards

`parse_messages` takes payloads of up to 16 MiB, `enqueue_response` makes frames of
any length.  A message about a request is as long as the names and the prompt in it
make it, and the orchestrator adds the names of the nodes and its own.
-/

namespace RdmaKvCache

/-! ## Messages about requests -/

/-- The parser of a peer takes the frame of the message, and the length in its
header is that of the payload. -/
structure FrameAccepted (message : Message) : Prop where
  valid : ValidPayload (serializeMessage message)
  header :
    (headerLength (frame (serializeMessage message))).toNat =
      (serializeMessage message).length

/-- The length of a message about the request from a process of this name. -/
def lengthAbout (sourceNodeId : ByteString) (requestInfo : RequestInfo) : Nat :=
  204 + sourceNodeId.length + requestInfo.requestId.length +
    requestInfo.prompt.length + requestInfo.prefillNodeId.length +
    requestInfo.decodeNodeId.length

theorem length_about
    (origin : Message.Origin) (type : MessageType) (sourceNodeId : ByteString)
    (requestInfo : RequestInfo) :
    (serializeMessage
        (.about origin type sourceNodeId requestInfo)).length =
      lengthAbout sourceNodeId requestInfo := by
  rw [length_serializeMessage, lengthAbout]
  simp only [Message.about, Message.sent, Message.new, List.length_nil,
    length_writeRequestInfo, length_writeNodeInfo_new, writeList,
    List.flatMap_nil, List.append_nil, length_writeUint32]
  omega

theorem frameAccepted_iff (message : Message) :
    FrameAccepted message ↔
      (serializeMessage message).length ≤ maxMessageSize.toNat := by
  constructor
  · intro accepted
    exact accepted.valid.2
  · intro bounded
    have positive : 0 < (serializeMessage message).length := by
      rw [length_serializeMessage]
      omega
    have valid : ValidPayload (serializeMessage message) :=
      ⟨positive, bounded⟩
    refine ⟨valid, ?_⟩
    rw [frame, headerLength_write]
    exact toNat_size (validPayload_size valid)

/-- The parser goes on behind an accepted frame. -/
theorem FrameAccepted.parse
    {message : Message} (accepted : FrameAccepted message) (fd : Int32)
    (rest : ByteString) :
    parseMessages fd {} (frame (serializeMessage message) ++ rest) =
      (parseMessages fd {} rest).after
        (payloadEvent fd (serializeMessage message)).toList :=
  parse_frame fd accepted.valid rest

theorem frameAccepted_about_iff
    (origin : Message.Origin) (type : MessageType) (sourceNodeId : ByteString)
    (requestInfo : RequestInfo) :
    FrameAccepted (.about origin type sourceNodeId requestInfo) ↔
      lengthAbout sourceNodeId requestInfo ≤ maxMessageSize.toNat := by
  rw [frameAccepted_iff, length_about]

/-! ## What the handlers enqueue -/

namespace Assignment

variable (assignment : Assignment)

/-- The request as it goes to both nodes. -/
def requestInfo : RequestInfo :=
  WorkerOrchestrator.assignedRequest assignment.request.requestInfo
    assignment.routing assignment.input

theorem sends_prepare
    {decodeNodeFd : Int32}
    (connected :
      assignment.worker.nodeRegistry.getNodeFd
          assignment.routing.decodeNode.nodeId =
        some decodeNodeFd) :
    assignment.Sends
      (.createPrepareDecodeSlot (assignment.input.origin .prepareDecodeSlot)
        assignment.worker.orchestratorId assignment.requestInfo) := by
  refine ⟨decodeNodeFd, ?_⟩
  rw [WorkerOrchestrator.enqueuedSince_of_routed assignment.handled
    assignment.routed]
  apply List.mem_flatMap.mpr
  exact
    ⟨decodeNodeFd, Option.mem_toList.mpr connected, List.mem_cons_self⟩

/-- Both messages are about the request, from the orchestrator; none is sent unless
the decode node is connected. -/
theorem about_of_sends
    {message : Message} (sends : assignment.Sends message) :
    (assignment.worker.nodeRegistry.getNodeFd
        assignment.routing.decodeNode.nodeId).isSome = true ∧
      ∃ origin type,
        message =
          .about origin type assignment.worker.orchestratorId
            assignment.requestInfo := by
  obtain ⟨fd, listed⟩ := sends
  rw [WorkerOrchestrator.enqueuedSince_of_routed assignment.handled
    assignment.routed] at listed
  obtain ⟨decodeNodeFd, isDecode, among⟩ := List.mem_flatMap.mp listed
  have connected := Option.mem_toList.mp isDecode
  refine ⟨Option.isSome_iff_exists.mpr ⟨decodeNodeFd, connected⟩, ?_⟩
  rcases List.mem_cons.mp among with isPrepare | isAssign
  · cases isPrepare
    exact ⟨_, _, rfl⟩
  · obtain ⟨prefillFd, _, same⟩ := List.mem_map.mp isAssign
    cases same
    exact ⟨_, _, rfl⟩

theorem frames_accepted_iff :
    (∀ message, assignment.Sends message → FrameAccepted message) ↔
      (assignment.worker.nodeRegistry.getNodeFd
          assignment.routing.decodeNode.nodeId).isSome = true →
        lengthAbout assignment.worker.orchestratorId
            assignment.requestInfo ≤
          maxMessageSize.toNat := by
  constructor
  · intro accepted isConnected
    obtain ⟨decodeNodeFd, connected⟩ :=
      Option.isSome_iff_exists.mp isConnected
    have prepared := accepted _ (assignment.sends_prepare connected)
    exact (frameAccepted_about_iff _ _ _ _).mp prepared
  · intro bounded message sends
    obtain ⟨isConnected, origin, type, isAbout⟩ :=
      assignment.about_of_sends sends
    rw [isAbout]
    exact (frameAccepted_about_iff _ _ _ _).mpr (bounded isConnected)

end Assignment

namespace WorkerOrchestrator

variable (worker : WorkerOrchestrator) (msg : Message) (input : ProcessInput)

theorem prefill_complete_enqueued
    {decodeNodeFd : Int32}
    (connected :
      worker.nodeRegistry.getNodeFd msg.requestInfo.decodeNodeId =
        some decodeNodeFd) :
    (worker.handlePrefillCompleteOrchestrator msg input).enqueuedSince worker =
      [(decodeNodeFd,
        .prefillComplete (input.origin .prefillComplete)
          worker.orchestratorId msg.requestInfo)] := by
  apply enqueuedSince_of_append
  simp only [handlePrefillCompleteOrchestrator, updateStatus, connected,
    sendServerResponse, enqueueResponse]

/-- Without a connection at most the failure is enqueued, for the client. -/
theorem prefill_complete_not_enqueued
    (notConnected :
      worker.nodeRegistry.getNodeFd msg.requestInfo.decodeNodeId = none) :
    ∀ sent ∈
        (worker.handlePrefillCompleteOrchestrator msg input).enqueuedSince
          worker,
      sent.2.type = .requestFailed := by
  simp only [handlePrefillCompleteOrchestrator, updateStatus, notConnected,
    finishRequest]
  split
  · intro sent listed
    rw [enqueuedSince] at listed
    simp only [closeRequest, updateStatus, freeSlot, decrementNodeLoads,
      List.drop_length, List.not_mem_nil] at listed
  · rw [enqueuedSince_of_append rfl]
    intro sent listed
    rw [List.mem_singleton.mp listed]
    rfl

theorem prefill_complete_frame_accepted_iff :
    (∀ sent ∈
          (worker.handlePrefillCompleteOrchestrator msg input).enqueuedSince
            worker,
        sent.2.type = .prefillComplete → FrameAccepted sent.2) ↔
      (worker.nodeRegistry.getNodeFd
          msg.requestInfo.decodeNodeId).isSome = true →
        lengthAbout worker.orchestratorId msg.requestInfo ≤
          maxMessageSize.toNat := by
  cases connected :
      worker.nodeRegistry.getNodeFd msg.requestInfo.decodeNodeId with
  | none =>
      constructor
      · intro _ isConnected
        cases isConnected
      · intro _ sent listed isComplete
        have isFailed :=
          worker.prefill_complete_not_enqueued msg input connected sent listed
        rw [isFailed] at isComplete
        cases isComplete
  | some decodeNodeFd =>
      rw [worker.prefill_complete_enqueued msg input connected]
      constructor
      · intro accepted _
        have forwarded := accepted _ List.mem_cons_self rfl
        exact (frameAccepted_about_iff _ _ _ _).mp forwarded
      · intro bounded sent listed _
        rw [List.mem_singleton.mp listed]
        exact (frameAccepted_about_iff _ _ _ _).mpr (bounded rfl)

end WorkerOrchestrator

/-- The nodes take the frames of an assignment, and the decode node that of a
forwarded completion, exactly if the decode node is not connected or the names and
the prompt leave the payload within 16 MiB.  Behind a frame that is taken the parser
goes on. -/
theorem forwarded_frames_accepted_iff
    (assignment : Assignment) (worker : WorkerOrchestrator) (msg : Message)
    (input : ProcessInput) :
    ((∀ message, assignment.Sends message → FrameAccepted message) ↔
        (assignment.worker.nodeRegistry.getNodeFd
            assignment.routing.decodeNode.nodeId).isSome = true →
          lengthAbout assignment.worker.orchestratorId assignment.requestInfo ≤
            maxMessageSize.toNat) ∧
      ((∀ sent ∈
            (worker.handlePrefillCompleteOrchestrator msg input).enqueuedSince
              worker,
          sent.2.type = .prefillComplete → FrameAccepted sent.2) ↔
        (worker.nodeRegistry.getNodeFd
            msg.requestInfo.decodeNodeId).isSome = true →
          lengthAbout worker.orchestratorId msg.requestInfo ≤
            maxMessageSize.toNat) ∧
      ∀ message, FrameAccepted message → ∀ fd rest,
        parseMessages fd {} (frame (serializeMessage message) ++ rest) =
          (parseMessages fd {} rest).after
            (payloadEvent fd (serializeMessage message)).toList :=
  ⟨assignment.frames_accepted_iff,
    worker.prefill_complete_frame_accepted_iff msg input,
    fun _ accepted => accepted.parse⟩

/-! ## A request of 16 MiB -/

theorem WorkerOrchestrator.isSome_handleClientRequest
    {worker : WorkerOrchestrator} (clientFd : Int32) (msg : Message)
    {input : ProcessInput}
    (listed :
      input.prefillNodes.Perm (worker.nodeRegistry.getHealthyNodes .prefill) ∧
        input.decodeNodes.Perm
          (worker.nodeRegistry.getHealthyNodes .decode)) :
    (worker.handleClientRequest clientFd msg input).isSome = true := by
  rw [handleClientRequest, if_pos listed]
  split <;> rfl

namespace Assignment

open RequestPassage

/-- The request `samplePrompt` with another prompt. -/
def samplePromptOf (prompt : ByteString) : Message :=
  .about ⟨.cleared, 0⟩ .clientRequest []
    { samplePrompt.requestInfo with prompt := prompt }

theorem listed_sampleInput :
    sampleInput.prefillNodes.Perm
        (sampleOrchestrator.nodeRegistry.getHealthyNodes .prefill) ∧
      sampleInput.decodeNodes.Perm
        (sampleOrchestrator.nodeRegistry.getHealthyNodes .decode) := by
  decide +kernel

def sampleAssignmentOf (prompt : ByteString) : Assignment where
  worker := sampleOrchestrator
  clientFd := 9
  request := samplePromptOf prompt
  input := sampleInput
  next :=
    (sampleOrchestrator.handleClientRequest 9 (samplePromptOf prompt)
      sampleInput).get
        (WorkerOrchestrator.isSome_handleClientRequest 9 _ listed_sampleInput)
  routing := ⟨samplePrefillNode, sampleDecodeNode, 0, 0⟩
  handled := (Option.some_get _).symm
  routed := sampleAssignment.routed

theorem length_samplePromptOf (prompt : ByteString) :
    (serializeMessage (samplePromptOf prompt)).length = 205 + prompt.length := by
  have requestId : samplePrompt.requestInfo.requestId.length = 1 := by
    decide
  have noNodes :
      samplePrompt.requestInfo.prefillNodeId.length +
        samplePrompt.requestInfo.decodeNodeId.length = 0 := by
    decide
  rw [samplePromptOf, length_about, lengthAbout]
  simp only [requestId, List.length_nil]
  omega

/-- The names of the orchestrator and both nodes are added. -/
theorem lengthAbout_sampleAssignmentOf (prompt : ByteString) :
    lengthAbout sampleOrchestrator.orchestratorId
        (sampleAssignmentOf prompt).requestInfo =
      208 + prompt.length := by
  have names :
      sampleOrchestrator.orchestratorId.length = 1 ∧
        samplePrompt.requestInfo.requestId.length = 1 ∧
        samplePrefillNode.nodeId.length = 1 ∧
        sampleDecodeNode.nodeId.length = 1 := by
    decide
  obtain ⟨orchestrator, request, prefill, decode⟩ := names
  rw [lengthAbout]
  simp only [requestInfo, WorkerOrchestrator.assignedRequest,
    sampleAssignmentOf, samplePromptOf, Message.about, orchestrator, request,
    prefill, decode]
  omega

theorem fits_samplePromptOf_nil : (samplePromptOf []).Fits where
  type := by decide
  status := by decide
  sourceNodeId := by decide
  requestInfo := ⟨by decide, by decide, by decide, by decide⟩
  nodeInfo :=
    ⟨by decide, by decide, by decide, by decide, by decide, by decide,
      by decide⟩
  membershipListInfo := by decide
  members := List.forall_mem_nil _
  errorMessage := by decide
  responseText := by decide

theorem carried_samplePromptOf
    {prompt : ByteString} (fits : FitsSize prompt.length) :
    (samplePromptOf prompt).Carried := by
  have others := fits_samplePromptOf_nil
  have requestInfo : (samplePromptOf prompt).requestInfo.Fits :=
    ⟨others.requestInfo.requestId, fits, others.requestInfo.prefillNodeId,
      others.requestInfo.decodeNodeId⟩
  exact
    ⟨⟨others.type, others.status, others.sourceNodeId, requestInfo,
      others.nodeInfo, others.membershipListInfo, others.members,
      others.errorMessage, others.responseText⟩, rfl⟩

/-- A request whose payload has exactly 16 MiB is accepted, and the messages of its
assignment are three bytes too long. -/
theorem long_prompt_not_forwarded :
    ValidPayload
        (serializeMessage (samplePromptOf (List.replicate 16777011 97))) ∧
      deserializeMessage
          (serializeMessage (samplePromptOf (List.replicate 16777011 97))) =
        .done (sampleAssignmentOf (List.replicate 16777011 97)).request [] ∧
      ∃ message,
        (sampleAssignmentOf (List.replicate 16777011 97)).Sends message ∧
          ¬ FrameAccepted message := by
  have promptLength :
      (List.replicate 16777011 (97 : UInt8)).length = 16777011 :=
    List.length_replicate
  generalize List.replicate 16777011 (97 : UInt8) = prompt at promptLength ⊢
  have limit : maxMessageSize.toNat = 16777216 := by
    decide
  refine ⟨?_, ?_, ?_⟩
  · rw [ValidPayload, length_samplePromptOf, promptLength, limit]
    decide
  · have fits : FitsSize prompt.length := by
      rw [promptLength]
      decide
    have read :=
      reads_deserializeMessage.read_append
        (encodes_serializeMessage (carried_samplePromptOf fits)) []
    rw [List.append_nil] at read
    exact read
  · have connected :
        sampleOrchestrator.nodeRegistry.getNodeFd sampleDecodeNode.nodeId =
          some 8 := by
      decide +kernel
    refine ⟨_, (sampleAssignmentOf prompt).sends_prepare connected, ?_⟩
    intro accepted
    have bounded := (frameAccepted_about_iff _ _ _ _).mp accepted
    have length := lengthAbout_sampleAssignmentOf prompt
    rw [promptLength] at length
    rw [limit] at bounded
    have same :
        (sampleAssignmentOf prompt).worker.orchestratorId =
          sampleOrchestrator.orchestratorId :=
      rfl
    rw [same, length] at bounded
    omega

end Assignment

end RdmaKvCache
