import RdmaKvCache.Library.LabelledRuns
import RdmaKvCache.Common.WireMessages
import RdmaKvCache.Node.InferenceRequests
import RdmaKvCache.Orchestrator.RefusedRequests

/-!
# What is left of a request when its text is generated

A request passes through two nodes and twice through the orchestrator.  The decode
node makes its request to the inference server of what its tracker and the event of
the poll loop say, and nothing on the way puts the prompt, the number of tokens or
the node names into either of them.
-/

namespace RdmaKvCache

open RequestTrackerLayer

/-! ## Fields that nothing sets -/

namespace RequestTrackerLayer

/-- Nothing has set the prompt, the number of its tokens or the limit on the
generated ones. -/
structure RequestInfo.Unset (info : RequestTrackerLayer.RequestInfo) : Prop where
  prompt : info.prompt = []
  numTokens : info.numTokens = 0
  maxOutputTokens : info.maxOutputTokens = 0

def AllUnset (tracker : RequestTrackerLayer) : Prop :=
  ∀ requestId info, tracker.requests.lookup requestId = some info → info.Unset

namespace AllUnset

variable {tracker next : RequestTrackerLayer}

theorem of_insert
    (unset : tracker.AllUnset) {requestId : ByteString}
    {inserted : RequestTrackerLayer.RequestInfo} (isUnset : inserted.Unset)
    (requests :
      next.requests = tracker.requests.insert requestId inserted) :
    next.AllUnset := by
  intro tested info found
  rw [requests] at found
  by_cases same : tested = requestId
  · subst tested
    rw [AList.lookup_insert] at found
    cases found
    exact isUnset
  · rw [AList.lookup_insert_ne same] at found
    exact unset tested info found

theorem addRequest
    (unset : tracker.AllUnset) {requestId prefillNodeId : ByteString}
    {assignedSlot numLayers : Int32} {seqNum : UInt16}
    (added :
      tracker.addRequest requestId prefillNodeId assignedSlot numLayers =
        .ok (seqNum, next)) :
    next.AllUnset := by
  obtain ⟨_, _, _, _, rfl⟩ := addRequest_eq_ok added
  exact unset.of_insert ⟨rfl, rfl, rfl⟩ rfl

theorem updateState
    (unset : tracker.AllUnset) (requestId : ByteString) (newState : State) :
    (tracker.updateState requestId newState).2.AllUnset := by
  rw [RequestTrackerLayer.updateState]
  split
  · exact unset
  · rename_i info found
    have isUnset := unset requestId info found
    have stillUnset :
        ({ info with state := newState } :
          RequestTrackerLayer.RequestInfo).Unset :=
      ⟨isUnset.prompt, isUnset.numTokens, isUnset.maxOutputTokens⟩
    exact unset.of_insert stillUnset rfl

theorem removeRequest
    (unset : tracker.AllUnset) (requestId : ByteString) :
    (tracker.removeRequest requestId).AllUnset := by
  rw [RequestTrackerLayer.removeRequest]
  split
  · exact unset
  · intro tested info found
    by_cases same : tested = requestId
    · subst tested
      rw [AList.lookup_erase] at found
      cases found
    · rw [AList.lookup_erase_ne same] at found
      exact unset tested info found

theorem markLayerReceived
    (unset : tracker.AllUnset) (requestId : ByteString) (layerId : Int32) :
    (tracker.markLayerReceived requestId layerId).2.AllUnset := by
  rw [RequestTrackerLayer.markLayerReceived]
  split
  · exact unset
  · rename_i info found
    have isUnset := unset requestId info found
    split
    · exact unset
    · rename_i received receives
      have stillUnset : received.Unset := by
        obtain ⟨_, _, _, isReceived⟩ := receiveLayer_eq_some receives
        rw [isReceived]
        exact ⟨isUnset.prompt, isUnset.numTokens, isUnset.maxOutputTokens⟩
      exact unset.of_insert stillUnset rfl

end AllUnset

end RequestTrackerLayer

namespace DecodeNode

variable {node next : DecodeNode}

theorem allUnset_work
    {index : Nat} {input : WorkerInput}
    (taken : node.work index input = some next)
    (unset : node.tracker.AllUnset) : next.tracker.AllUnset := by
  obtain ⟨task, reached, worked⟩ := work_change taken
  cases worked.change with
  | unchanged _ tracker _ =>
      rw [tracker]
      exact unset
  | stateUpdated _ requestId state tracker _ =>
      rw [tracker]
      exact unset.updateState requestId state
  | requestAdded info assignment seqNum added _ =>
      exact unset.addRequest added
  | requestRemoved requestId tracker _ =>
      rw [tracker]
      exact unset.removeRequest requestId

theorem allUnset_advanceLoop
    {input : LoopInput} (taken : node.advanceLoop input = some next)
    (unset : node.tracker.AllUnset) : next.tracker.AllUnset := by
  cases isMarking : node.pollLoop.marking with
  | none =>
      rw [tracker_of_advanceLoop taken isMarking]
      exact unset
  | some marking =>
      rw [tracker_of_marking taken isMarking]
      exact unset.markLayerReceived _ _

/-- No step of a node sets the fields. -/
theorem allUnset_step
    {action : NodeAction} (taken : node.step action = some next)
    (unset : node.tracker.AllUnset) : next.tracker.AllUnset := by
  obtain ⟨_, taken⟩ := step_running taken
  cases action with
  | receive event =>
      cases taken
      rw [push_tracker]
      exact unset
  | waitAndPop =>
      obtain ⟨_, _, _, rfl⟩ := waitAndPop_eq_some taken
      exact unset
  | work index input =>
      exact allUnset_work taken unset
  | poll polled replenished =>
      obtain ⟨_, rfl | ⟨_, _, _, rfl⟩ | ⟨_, _, _, rfl⟩⟩ := poll_cases taken <;>
        exact unset
  | advanceLoop input =>
      exact allUnset_advanceLoop taken unset

theorem allUnset_of_run
    {actions : List NodeAction}
    (run : LabelledRuns.execute step node actions = some next)
    (unset : node.tracker.AllUnset) : next.tracker.AllUnset :=
  LabelledRuns.invariant_of_execute
    (fun _ _ _ taken holds => allUnset_step taken holds) run unset

end DecodeNode

/-! ## The hops of a request -/

/-- What the receiver of a message learns of the request. -/
structure Message.Arrives (sent received : Message) : Prop where
  type_eq : received.type = sent.type
  requestInfo_eq : received.requestInfo = sent.requestInfo
  kvMetadata_eq : received.kvMetadata = sent.kvMetadata
  responseText_eq : received.responseText = sent.responseText

/-- The wire carries it, in a message that fits. -/
theorem Message.arrives_of_fits
    {sent received : Message} {rest : ByteString} (fits : sent.Fits)
    (arrived :
      deserializeMessage (serializeMessage sent) = .done received rest) :
    sent.Arrives received := by
  have read :=
    reads_deserializeMessage.read_append
      (encodes_serializeMessage (Message.carried_overTheWire fits)) []
  rw [List.append_nil, serializeMessage_overTheWire] at read
  rw [read] at arrived
  cases arrived
  exact ⟨rfl, rfl, rfl, rfl⟩

/-- `handle_client_request` selects two nodes and assigns the request to them. -/
structure Assignment where
  worker : WorkerOrchestrator
  clientFd : Int32
  request : Message
  input : ProcessInput
  next : WorkerOrchestrator
  routing : RoutingResult
  handled : worker.handleClientRequest clientFd request input = some next
  routed :
    worker.routingOf request.requestInfo.requestId input = some routing

/-- One of the messages that assign the request. -/
def Assignment.Sends (assignment : Assignment) (message : Message) : Prop :=
  ∃ fd, (fd, message) ∈ assignment.next.enqueuedSince assignment.worker

/-- `handle_assign_request` has the inference server count the tokens of the
prompt. -/
structure Prefill where
  config : WorkerConfig
  nodeInfo : NodeInfo
  services : VllmServices
  origin : Message.Origin
  assigned : Message
  peer : PeerInfoandQPs
  response : HTTPResponse
  numTokens : Int32
  complete : Message
  known : decodePeer nodeInfo assigned.requestInfo.decodeNodeId = some peer
  answered :
    services.request config
        (prefillRequest config nodeInfo peer assigned.requestInfo) =
      .ok response
  counted : promptTokens services.library response.body = .ok numTokens
  handled :
    handleAssignRequest config nodeInfo services origin assigned =
      ⟨[complete], none⟩

/-- `handle_prefill_complete_orchestrator` tells the decode node; the handler of
that message does nothing. -/
structure Handover where
  worker : WorkerOrchestrator
  input : ProcessInput
  complete : Message
  decodeNodeFd : Int32
  connected :
    worker.nodeRegistry.getNodeFd complete.requestInfo.decodeNodeId =
      some decodeNodeFd

/-- A decode node prepares the slot, its poll loop finds all layers there and makes
an event, and `handle_kv_transfer_complete` has the text generated.  Before, after
and in between its threads do anything else. -/
structure Decoding where
  orchestratorId : ByteString
  numLayers : UInt32
  capacity : UInt64
  engine : RDMAEngine
  layout : MemoryLayout
  prepare : Message
  before : List NodeAction
  complete : DecodeNode
  ranBefore :
    LabelledRuns.execute DecodeNode.step
        (.start orchestratorId numLayers capacity engine layout) before =
      some complete
  assignment : Nat
  prepared :
    .added prepare.requestInfo.requestId prepare.requestInfo.prefillNodeId
        prepare.requestInfo.slotId assignment ∈
      complete.history
  rest : List Arrival
  fenced : complete.pollLoop = .fenced prepare.requestInfo.requestId rest
  tracked :
    (complete.tracker.getRequest prepare.requestInfo.requestId).isSome = true
  loopInput : LoopInput
  maxTokens : Int32
  copied : DecodeNode
  copies : complete.step (.advanceLoop loopInput) = some copied
  announces :
    copied.pollLoop =
      .announcing prepare.requestInfo.requestId maxTokens rest
  memory : Message
  later : List NodeAction
  handling : DecodeNode
  ranLater :
    LabelledRuns.execute DecodeNode.step copied later = some handling
  dispatched :
    .transferComplete
        (DecodeNode.transferMessage memory prepare.requestInfo.requestId
          maxTokens).requestInfo ∈
      handling.tasks
  config : WorkerConfig
  nodeInfo : NodeInfo
  services : VllmServices
  origin : Message.Origin
  info : RequestTrackerLayer.RequestInfo
  found :
    handling.tracker.getRequest prepare.requestInfo.requestId = some info
  text : ByteString
  generated :
    decodeText config nodeInfo services info
        (DecodeNode.transferMessage memory prepare.requestInfo.requestId
          maxTokens).requestInfo =
      .ok (some text)

/-! ## What each hop passes on -/

namespace Assignment

variable (assignment : Assignment)

/-- Both messages carry the request with the selected nodes. -/
theorem requestInfo_of_sends
    {message : Message} (sends : assignment.Sends message) :
    message.requestInfo =
      WorkerOrchestrator.assignedRequest assignment.request.requestInfo
        assignment.routing assignment.input := by
  obtain ⟨fd, listed⟩ := sends
  rw [WorkerOrchestrator.enqueuedSince_of_routed assignment.handled
    assignment.routed] at listed
  obtain ⟨decodeNodeFd, _, among⟩ := List.mem_flatMap.mp listed
  rcases List.mem_cons.mp among with isPrepare | isAssign
  · cases isPrepare
    rfl
  · obtain ⟨prefillFd, _, same⟩ := List.mem_map.mp isAssign
    cases same
    rfl

end Assignment

namespace Decoding

variable (decoding : Decoding)

/-- The event of the poll loop. -/
def event : Message :=
  DecodeNode.transferMessage decoding.memory
    decoding.prepare.requestInfo.requestId decoding.maxTokens

/-- What the inference server is asked. -/
def vllmRequest : Json :=
  decodeRequest decoding.config decoding.nodeInfo decoding.info
    decoding.event.requestInfo

def response : Message :=
  .decodeComplete decoding.origin decoding.handling.orchestratorId
    decoding.event.requestInfo decoding.text

theorem complete_allUnset : decoding.complete.tracker.AllUnset := by
  apply DecodeNode.allUnset_of_run decoding.ranBefore
  intro requestId info found
  cases found

theorem info_unset : decoding.info.Unset := by
  have copied : decoding.copied.tracker.AllUnset :=
    DecodeNode.allUnset_step decoding.copies decoding.complete_allUnset
  exact
    DecodeNode.allUnset_of_run decoding.ranLater copied _ _ decoding.found

/-- The loop finds no limit on the tokens. -/
theorem maxTokens_eq : decoding.maxTokens = 0 := by
  obtain ⟨_, taken⟩ := DecodeNode.step_running decoding.copies
  obtain ⟨info, tracked⟩ := Option.isSome_iff_exists.mp decoding.tracked
  have unset := decoding.complete_allUnset _ _ tracked
  have announces := decoding.announces
  simp only [DecodeNode.threadStep, DecodeNode.advanceLoop, decoding.fenced,
    Option.some.injEq] at taken
  rw [← taken] at announces
  simp only [tracked, PollLoop.announcing.injEq] at announces
  rw [← announces.2.1]
  exact unset.maxOutputTokens

end Decoding

/-! ## The whole way -/

/-- A request that passes through all handlers without an error. -/
structure RequestPassage where
  assignment : Assignment
  prefill : Prefill
  handover : Handover
  decoding : Decoding
  assign : Message
  isAssign : assign.type = .assignRequest
  assignSent : assignment.Sends assign
  assignArrives : assign.Arrives prefill.assigned
  prepare : Message
  isPrepare : prepare.type = .prepareDecodeSlot
  prepareSent : assignment.Sends prepare
  prepareArrives : prepare.Arrives decoding.prepare
  completeArrives : prefill.complete.Arrives handover.complete

namespace RequestPassage

def request (passage : RequestPassage) : RequestInfo :=
  passage.assignment.request.requestInfo

/-- The text is generated for what was asked, and the answer is about the request
as it was assigned. -/
structure ContentKept (passage : RequestPassage) : Prop where
  prompt :
    passage.decoding.vllmRequest.atPath ["prompt"] =
      some (.string passage.request.prompt)
  maxTokens :
    passage.decoding.vllmRequest.atPath ["max_tokens"] =
      some (.ofInt passage.request.maxTokens)
  numTokens :
    passage.decoding.vllmRequest.atPath
        ["extra_body", "kv_connector_config", "num_tokens"] =
      some (.ofInt passage.prefill.numTokens)
  requestId :
    passage.decoding.response.requestInfo.requestId =
      passage.request.requestId
  prefillNodeId :
    passage.decoding.response.requestInfo.prefillNodeId =
      passage.assignment.routing.prefillNode.nodeId
  decodeNodeId :
    passage.decoding.response.requestInfo.decodeNodeId =
      passage.assignment.routing.decodeNode.nodeId

/-- There is nothing to lose: no prompt, no limit, no tokens and no names. -/
structure Blank (passage : RequestPassage) : Prop where
  prompt : passage.request.prompt = []
  maxTokens : passage.request.maxTokens = 0
  numTokens : passage.prefill.numTokens = 0
  prefillNodeId : passage.assignment.routing.prefillNode.nodeId = []
  decodeNodeId : passage.assignment.routing.decodeNode.nodeId = []

variable (passage : RequestPassage)

theorem requestId_kept :
    passage.decoding.response.requestInfo.requestId =
      passage.request.requestId := by
  have arrived := passage.prepareArrives.requestInfo_eq
  rw [passage.assignment.requestInfo_of_sends passage.prepareSent] at arrived
  have same := congrArg RequestInfo.requestId arrived
  exact same

/-- What the inference server of the decode node is asked. -/
theorem vllmRequest_atPath :
    passage.decoding.vllmRequest.atPath ["prompt"] = some (.string []) ∧
      passage.decoding.vllmRequest.atPath ["max_tokens"] = some (.ofInt 0) ∧
      passage.decoding.vllmRequest.atPath
          ["extra_body", "kv_connector_config", "num_tokens"] =
        some (.ofInt 0) := by
  have unset := passage.decoding.info_unset
  have maxTokens : passage.decoding.event.requestInfo.maxTokens = 0 :=
    passage.decoding.maxTokens_eq
  refine ⟨?_, ?_, ?_⟩
  · change
      some
          (Json.string
            (if passage.decoding.info.prompt = [] then []
              else passage.decoding.info.prompt)) =
        _
    rw [if_pos unset.prompt]
  · change
      some
          (Json.ofInt
            (if 0 < passage.decoding.info.maxOutputTokens then _
              else passage.decoding.event.requestInfo.maxTokens)) =
        _
    rw [unset.maxOutputTokens, maxTokens]
    rfl
  · change some (Json.ofInt passage.decoding.info.numTokens) = _
    rw [unset.numTokens]

theorem ofInt_inj {first second : Int32} :
    Json.ofInt first = .ofInt second ↔ first = second := by
  constructor
  · intro same
    have widened : first.toInt64 = second.toInt64 := Json.integer.inj same
    have values := congrArg Int64.toInt widened
    rw [Int32.toInt_toInt64, Int32.toInt_toInt64] at values
    exact Int32.toInt_inj.mp values
  · intro same
    rw [same]

/-- The content of a request is kept exactly if there is none. -/
theorem contentKept_iff_blank :
    passage.ContentKept ↔ passage.Blank := by
  obtain ⟨prompt, maxTokens, numTokens⟩ := passage.vllmRequest_atPath
  have noNames :
      passage.decoding.response.requestInfo.prefillNodeId = [] ∧
        passage.decoding.response.requestInfo.decodeNodeId = [] :=
    ⟨rfl, rfl⟩
  constructor
  · intro kept
    refine ⟨?_, ?_, ?_, ?_, ?_⟩
    · have same := prompt.symm.trans kept.prompt
      simpa using same.symm
    · have same := maxTokens.symm.trans kept.maxTokens
      exact (ofInt_inj.mp (Option.some.inj same)).symm
    · have same := numTokens.symm.trans kept.numTokens
      exact (ofInt_inj.mp (Option.some.inj same)).symm
    · rw [← kept.prefillNodeId]
      exact noNames.1
    · rw [← kept.decodeNodeId]
      exact noNames.2
  · intro blank
    refine ⟨?_, ?_, ?_, passage.requestId_kept, ?_, ?_⟩
    · rw [blank.prompt]
      exact prompt
    · rw [blank.maxTokens]
      exact maxTokens
    · rw [blank.numTokens]
      exact numTokens
    · rw [blank.prefillNodeId]
      exact noNames.1
    · rw [blank.decodeNodeId]
      exact noNames.2

/-- It is kept exactly if there is none, and so never where the two nodes have
different names. -/
theorem content_kept_iff :
    (passage.ContentKept ↔ passage.Blank) ∧
      (passage.assignment.routing.prefillNode.nodeId ≠
          passage.assignment.routing.decodeNode.nodeId →
        ¬passage.ContentKept) := by
  have kept_iff := passage.contentKept_iff_blank
  refine ⟨kept_iff, ?_⟩
  intro different kept
  have blank := kept_iff.mp kept
  exact different (blank.prefillNodeId.trans blank.decodeNodeId.symm)

/-! ## A request with a prompt -/

def samplePrefillNode : NodeInfo :=
  { NodeInfo.healthy (.ofText "p") .prefill with
    qmaps :=
      [{ peerNodeId := .ofText "d"
         localQpNum := 17
         localLid := 0
         localGid := .replicate 16 0
         localPsn := 0
         remoteQpNum := 0
         remoteLid := 0
         remoteGid := .replicate 16 0
         remotePsn := 0
         remoteRkey := 0
         remoteAddr := 0 }] }

def sampleDecodeNode : NodeInfo :=
  .healthy (.ofText "d") .decode

/-- Both nodes are connected. -/
def sampleOrchestrator : WorkerOrchestrator :=
  { WorkerOrchestrator.start [0] [0] 1 1 with
    nodeRegistry :=
      ((({} : NodeRegistry).addNode samplePrefillNode).addNode
          sampleDecodeNode |>.addNodeFd (.ofText "p") 7).addNodeFd
        (.ofText "d") 8 }

def samplePrompt : Message :=
  .about ⟨.cleared, 0⟩ .clientRequest []
    { Message.cleared.requestInfo with
      requestId := .ofText "a"
      prompt := .ofText "hello"
      maxTokens := 5 }

def sampleInput : ProcessInput where
  prefillNodes := [samplePrefillNode]
  decodeNodes := [sampleDecodeNode]
  requestMemory := Message.cleared.requestInfo
  origin := fun _ => ⟨.cleared, 0⟩

def sampleAssignment : Assignment where
  worker := sampleOrchestrator
  clientFd := 9
  request := samplePrompt
  input := sampleInput
  next :=
    (sampleOrchestrator.handleClientRequest 9 samplePrompt sampleInput).get
      (by decide +kernel)
  routing := ⟨samplePrefillNode, sampleDecodeNode, 0, 0⟩
  handled := (Option.some_get _).symm
  routed := by
    decide +kernel

/-- The request as it is assigned. -/
def sampleRequestInfo : RequestInfo :=
  WorkerOrchestrator.assignedRequest samplePrompt.requestInfo
    sampleAssignment.routing sampleInput

def sampleAssign : Message :=
  .createAssignRequest ⟨.cleared, 0⟩ [0] sampleRequestInfo

def samplePrepare : Message :=
  .createPrepareDecodeSlot ⟨.cleared, 0⟩ [0] sampleRequestInfo

def samplePrefillText : String :=
  "\x7b\"extra_body\":\x7b\"kv_connector_config\":\x7b" ++
    "\"layer_size\":134217728,\"peer_id\":\"d\",\"rdma_device\":\"\"," ++
    "\"rdma_gid_index\":0,\"rdma_port\":0,\"rdma_qp_num\":17," ++
    "\"rdma_remote_addr\":0,\"rdma_remote_rkey\":0,\"request_id\":\"a\"," ++
    "\"request_seq\":0,\"role\":\"send\",\"slot_base_offset\":0," ++
    "\"slot_id\":0\x7d\x7d,\"max_tokens\":1,\"model\":\"m\"," ++
    "\"prompt\":\"hello\",\"temperature\":0.0\x7d"

/-- The prefill node's inference server finds three tokens. -/
def samplePrefillServices : VllmServices where
  library :=
    { dump := fun _ => .ok (.ofText samplePrefillText)
      parse := fun _ =>
        .ok
          (.object
            [("usage", .object [("prompt_tokens", .unsigned 3)])])
      toInt := fun _ => 0 }
  curl := fun _ _ =>
    .responded 200
      (.ofText "\x7b\"usage\":\x7b\"prompt_tokens\":3\x7d\x7d")

def samplePrefill : Prefill where
  config := VllmServices.sampleConfig
  nodeInfo := samplePrefillNode
  services := samplePrefillServices
  origin := ⟨.cleared, 0⟩
  assigned := sampleAssign
  peer := samplePrefillNode.qmaps.head (by decide)
  response :=
    ⟨true, 200, .ofText "\x7b\"usage\":\x7b\"prompt_tokens\":3\x7d\x7d", []⟩
  numTokens := 3
  complete :=
    prefillCompleteMessage VllmServices.sampleConfig sampleRequestInfo 3
      ⟨.cleared, 0⟩
  known := by
    decide +kernel
  answered := rfl
  counted := rfl
  handled := by
    decide +kernel

def sampleHandover : Handover where
  worker := sampleAssignment.next
  input := sampleInput
  complete := samplePrefill.complete
  decodeNodeFd := 8
  connected := by
    decide +kernel

/-- The slot is prepared and its only layer arrives. -/
def sampleLayers : List NodeAction :=
  [.receive ⟨⟨7, samplePrepare⟩, 0⟩, .waitAndPop, .work 0 {}, .work 0 {},
    .poll (some [⟨⟨true, [0, 0, 0, 0], 17, 4096⟩, none⟩]) true,
    .advanceLoop {}, .advanceLoop {}, .advanceLoop {}]

/-- The result of the second of two partial steps. -/
theorem apply_get
    {first second : Type} {middle : Option first} (f : first → Option second)
    (present : middle.isSome = true) (final : (middle.bind f).isSome = true) :
    f (middle.get present) = some ((middle.bind f).get final) := by
  rw [Option.get_bind, Option.some_get]

def sampleComplete : Option DecodeNode :=
  LabelledRuns.execute DecodeNode.step
    (.start [0] 1 16 VllmServices.sampleNode.engine {}) sampleLayers

def copyFields (node : DecodeNode) : Option DecodeNode :=
  node.step (.advanceLoop {})

def sampleCopied : Option DecodeNode :=
  sampleComplete.bind copyFields

/-- The event is put into the queue and taken from it. -/
def announceAndPop (node : DecodeNode) : Option DecodeNode :=
  LabelledRuns.execute DecodeNode.step node [.advanceLoop {}, .waitAndPop]

def sampleHandling : Option DecodeNode :=
  sampleCopied.bind announceAndPop

def lookUp (node : DecodeNode) : Option RequestTrackerLayer.RequestInfo :=
  node.tracker.getRequest (.ofText "a")

def sampleTracked : Option RequestTrackerLayer.RequestInfo :=
  sampleHandling.bind lookUp

def sampleDecoding : Decoding where
  orchestratorId := [0]
  numLayers := 1
  capacity := 16
  engine := VllmServices.sampleNode.engine
  layout := {}
  prepare := samplePrepare
  before := sampleLayers
  complete := sampleComplete.get (by decide +kernel)
  ranBefore := (Option.some_get _).symm
  assignment := 0
  prepared := by
    decide +kernel
  rest := []
  fenced := by
    decide +kernel
  tracked := by
    decide +kernel
  loopInput := {}
  maxTokens := 0
  copied := sampleCopied.get (by decide +kernel)
  copies := apply_get copyFields _ _
  announces := by
    decide +kernel
  memory := .cleared
  later := [.advanceLoop {}, .waitAndPop]
  handling := sampleHandling.get (by decide +kernel)
  ranLater := apply_get announceAndPop _ _
  dispatched := by
    decide +kernel
  config := VllmServices.sampleConfig
  nodeInfo := sampleDecodeNode
  services := VllmServices.sampleServices
  origin := ⟨.cleared, 0⟩
  info := sampleTracked.get (by decide +kernel)
  found := apply_get lookUp _ _
  text := .ofText "hi"
  generated := by
    change
      (generatedText VllmServices.sampleLibrary VllmServices.sampleBody).map
          some =
        _
    rw [VllmServices.generatedText_sampleBody]
    rfl

/-- The messages that pass the request on. -/
def sampleMessages : List Message :=
  [sampleAssign, samplePrepare, samplePrefill.complete]

theorem sampleMessages_arrive
    (message : Message) (isSample : message ∈ sampleMessages) :
    message.Arrives message := by
  have fit : ∀ sent ∈ sampleMessages, sent.Fits := by
    simp only [Message.fits_iff, RequestInfo.fits_iff, NodeInfo.fits_iff]
    decide +kernel
  have carried :
      ∀ sent ∈ sampleMessages,
        deserializeMessage (serializeMessage sent) = .done sent [] := by
    decide +kernel
  exact
    Message.arrives_of_fits (fit message isSample)
      (carried message isSample)

def samplePassage : RequestPassage where
  assignment := sampleAssignment
  prefill := samplePrefill
  handover := sampleHandover
  decoding := sampleDecoding
  assign := sampleAssign
  isAssign := rfl
  assignSent := ⟨7, by
    rw [WorkerOrchestrator.enqueuedSince_of_routed sampleAssignment.handled
      sampleAssignment.routed]
    decide +kernel⟩
  assignArrives := sampleMessages_arrive sampleAssign (by simp [sampleMessages])
  prepare := samplePrepare
  isPrepare := rfl
  prepareSent := ⟨8, by
    rw [WorkerOrchestrator.enqueuedSince_of_routed sampleAssignment.handled
      sampleAssignment.routed]
    decide +kernel⟩
  prepareArrives :=
    sampleMessages_arrive samplePrepare (by simp [sampleMessages])
  completeArrives :=
    sampleMessages_arrive samplePrefill.complete (by simp [sampleMessages])

/-- The text is generated for an empty prompt. -/
theorem prompt_lost :
    samplePassage.request.prompt = .ofText "hello" ∧
      samplePassage.decoding.vllmRequest.atPath ["prompt"] =
        some (.string []) ∧
      ¬ samplePassage.ContentKept := by
  have empty := samplePassage.vllmRequest_atPath.1
  have prompt : samplePassage.request.prompt = .ofText "hello" := by
    decide +kernel
  refine ⟨prompt, empty, ?_⟩
  intro kept
  have same := empty.symm.trans kept.prompt
  simp only [Option.some.injEq, Json.string.injEq, prompt] at same
  revert same
  decide

end RequestPassage

end RdmaKvCache
