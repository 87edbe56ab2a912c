import RdmaKvCache.Common.Config
import RdmaKvCache.Common.JsonValues
import RdmaKvCache.Node.DecodeNode

/-!
# Requests to the inference server

`handle_assign_request` has a prompt processed by the inference server of the prefill
node and reports to the orchestrator; `handle_kv_transfer_complete` has the decode
node's server generate the text.  Between the arrival of a request and the report
stand the lookup of the peer, the HTTP transfer and the JSON library, and each of
them can fail.

A handler has an exception or none, besides what it has done until then.
-/

namespace RdmaKvCache

/-! ## HTTP client -/

structure HTTPResponse where
  success : Bool
  statusCode : Int32
  body : ByteString
  error : ByteString
  deriving DecidableEq

/-- What the transfer library does with a request; a failure comes with its
description. -/
inductive CurlOutcome where
  | notInitialized
  | failed (description : ByteString)
  | responded (statusCode : Int64) (body : ByteString)

def HTTPClient.post
    (curl : ByteString → ByteString → CurlOutcome) (url jsonBody : ByteString) :
    HTTPResponse :=
  match curl url jsonBody with
  | .notInitialized =>
      { success := false
        statusCode := 0
        body := []
        error := .ofText "CURL not initialized" }
  | .failed description =>
      { success := false
        statusCode := 0
        body := []
        error := .ofText "CURL error: " ++ description }
  | .responded statusCode body =>
      if 200 ≤ statusCode ∧ statusCode < 300 then
        { success := true
          statusCode := statusCode.toInt32
          body := body
          error := [] }
      else
        { success := false
          statusCode := statusCode.toInt32
          body := body
          error := .ofText ("HTTP error " ++ toString statusCode.toInt) }

/-! ## Requests -/

/-- What the workers of a node read from its configuration. -/
structure WorkerConfig extends Config where
  modelName : ByteString
  vllmPort : UInt32
  gidIndex : Int32

/-- The libraries a worker calls, with the inference server behind them. -/
structure VllmServices where
  library : JsonLibrary
  curl : ByteString → ByteString → CurlOutcome

def WorkerConfig.vllmUrl (config : WorkerConfig) : ByteString :=
  .ofText
    ("http://localhost:" ++ toString config.vllmPort.toNat ++
      "/v1/completions")

def WorkerConfig.layerSize (config : WorkerConfig) : UInt64 :=
  config.memory.layerSizeMb * 1024 * 1024

/-- Write a request, post it and get the response. -/
def VllmServices.request
    (services : VllmServices) (config : WorkerConfig) (vllmRequest : Json) :
    Except JsonError HTTPResponse :=
  (services.library.dump vllmRequest).map fun body =>
    HTTPClient.post services.curl config.vllmUrl body

def prefillRequest
    (config : WorkerConfig) (nodeInfo : NodeInfo) (decodePeer : PeerInfoandQPs)
    (requestInfo : RequestInfo) : Json :=
  .object
    [("model", .string config.modelName),
      ("prompt", .string requestInfo.prompt),
      ("max_tokens", .ofInt 1),
      ("temperature", .float 0),
      ("extra_body",
        .object
          [("kv_connector_config",
            .object
              [("role", .ofText "send"),
                ("rdma_device", .string nodeInfo.ibDevName),
                ("rdma_port", .ofInt nodeInfo.ibPort),
                ("rdma_gid_index", .ofInt config.gidIndex),
                ("peer_id", .string requestInfo.decodeNodeId),
                ("rdma_qp_num",
                  .unsigned decodePeer.localQpNum.toUInt64),
                ("rdma_remote_addr", .unsigned decodePeer.remoteAddr),
                ("rdma_remote_rkey", .unsigned decodePeer.remoteRkey),
                ("layer_size", .unsigned config.layerSize),
                ("request_id", .string requestInfo.requestId),
                ("slot_id", .ofInt requestInfo.slotId),
                ("slot_base_offset",
                  .unsigned requestInfo.slotBaseOffset),
                ("request_seq", .ofInt requestInfo.slotId)])])]

/-- The tracked request `info` is what the tracker says, `requestInfo` what the
message does. -/
def decodeRequest
    (config : WorkerConfig) (nodeInfo : NodeInfo)
    (info : RequestTrackerLayer.RequestInfo) (requestInfo : RequestInfo) :
    Json :=
  .object
    [("model", .string config.modelName),
      ("prompt", .string (if info.prompt = [] then [] else info.prompt)),
      ("max_tokens",
        .ofInt
          (if 0 < info.maxOutputTokens then info.maxOutputTokens
            else requestInfo.maxTokens)),
      ("temperature", .float 0x3FE6666666666666),
      ("extra_body",
        .object
          [("kv_connector_config",
            .object
              [("role", .ofText "recv"),
                ("rdma_device", .string nodeInfo.ibDevName),
                ("rdma_port", .ofInt nodeInfo.ibPort),
                ("rdma_gid_index", .ofInt config.gidIndex),
                ("slot_id", .ofInt info.slotId),
                ("slot_base_offset", .unsigned info.baseOffset),
                ("layer_size", .unsigned config.layerSize),
                ("num_layers", .ofInt info.numLayers),
                ("num_tokens", .ofInt info.numTokens),
                ("request_id", .string requestInfo.requestId)])])]

/-! ## Responses -/

/-- The number of tokens of the prompt. -/
def promptTokens (library : JsonLibrary) (body : ByteString) :
    Except JsonError Int32 :=
  ((library.parse body).bind (Json.atKey "usage")).bind fun usage =>
    (usage.atKey "prompt_tokens").bind (Json.getInt library)

def generatedText (library : JsonLibrary) (body : ByteString) :
    Except JsonError ByteString :=
  ((library.parse body).bind (Json.atKey "choices")).bind fun choices =>
    (choices.atIndex 0).bind fun choice =>
      (choice.atKey "text").bind Json.getString

/-! ## Handlers -/

/-- What a handler has sent to the orchestrator, and the exception that has left
it. -/
structure Handled where
  sent : List Message
  thrown : Option JsonError
  deriving DecidableEq

def decodePeer (nodeInfo : NodeInfo) (decodeNodeId : ByteString) :
    Option PeerInfoandQPs :=
  nodeInfo.qmaps.find? fun qmap => decide (qmap.peerNodeId = decodeNodeId)

def prefillCompleteMessage
    (config : WorkerConfig) (requestInfo : RequestInfo) (numTokens : Int32)
    (origin : Message.Origin) : Message :=
  { Message.new origin.memory with
    type := .prefillCompleteOrchestrator
    requestInfo := { requestInfo with timestampPrefillDone := origin.now }
    kvMetadata := ⟨config.numLayers, numTokens.toUInt32⟩ }

def handleAssignRequest
    (config : WorkerConfig) (nodeInfo : NodeInfo) (services : VllmServices)
    (origin : Message.Origin) (msg : Message) : Handled :=
  match decodePeer nodeInfo msg.requestInfo.decodeNodeId with
  | none => ⟨[], none⟩
  | some peer =>
      match
        services.request config
          (prefillRequest config nodeInfo peer msg.requestInfo)
      with
      | .error thrown => ⟨[], some thrown⟩
      | .ok response =>
          if response.success then
            match promptTokens services.library response.body with
            | .error thrown => ⟨[], some thrown⟩
            | .ok numTokens =>
                ⟨[prefillCompleteMessage config msg.requestInfo numTokens
                    origin],
                  none⟩
          else
            ⟨[], none⟩

/-- The generated text, if the inference server answers. -/
def decodeText
    (config : WorkerConfig) (nodeInfo : NodeInfo) (services : VllmServices)
    (info : RequestTrackerLayer.RequestInfo) (requestInfo : RequestInfo) :
    Except JsonError (Option ByteString) :=
  (services.request config (decodeRequest config nodeInfo info requestInfo)).bind
    fun response =>
      if response.success then
        (generatedText services.library response.body).map some
      else
        .ok none

def handleKvTransferComplete
    (config : WorkerConfig) (nodeInfo : NodeInfo) (services : VllmServices)
    (origin : Message.Origin) (node : DecodeNode) (msg : Message) :
    DecodeNode × Option JsonError :=
  let requestId := msg.requestInfo.requestId
  match node.tracker.getRequest requestId with
  | none => (node, none)
  | some info =>
      let decoding := node.updateState requestId .decoding
      match decodeText config nodeInfo services info msg.requestInfo with
      | .error thrown => (decoding, some thrown)
      | .ok none => (decoding.updateState requestId .failed, none)
      | .ok (some text) =>
          let completed := decoding.updateState requestId .completed
          let response :=
            Message.decodeComplete origin node.orchestratorId msg.requestInfo
              text
          let answered :=
            { completed with sent := completed.sent ++ [response] }
          (answered.removeRequest requestId, none)

/-! ## The handler is what its sections do -/

/-- How the handler's sections see the end of the request. -/
def vllmOutcome : Except JsonError (Option ByteString) → VllmOutcome
  | .error _ => .exception
  | .ok none => .failed
  | .ok (some text) => .generated text

/-- The sections of a handler one after the other, with no other thread in
between. -/
def DecodeNode.runTask (input : WorkerInput) :
    Nat → DecodeNode × WorkerTask → DecodeNode × WorkerTask
  | 0, running => running
  | sections + 1, running =>
      match running.1.advanceTask input running.2 with
      | none => running
      | some next => runTask input sections next

/-- An exception ends the process. -/
def nodeAfter (handled : DecodeNode × Option JsonError) : DecodeNode :=
  if handled.2.isSome then { handled.1 with terminated := true }
  else handled.1

/-- The messages that tell the orchestrator how a request has ended on a node. -/
def reportsOf
    (requestId : ByteString) (success : MessageType) (sent : List Message) :
    List Message :=
  sent.filter fun message =>
    decide
      ((message.type = success ∨ message.type = .requestFailed) ∧
        message.requestInfo.requestId = requestId)

/-- The orchestrator is told once, and no exception leaves the handler. -/
structure AssignAnswered (handled : Handled) (requestId : ByteString) : Prop where
  oneReport :
    (reportsOf requestId .prefillCompleteOrchestrator handled.sent).length = 1
  noException : handled.thrown = none

/-- The orchestrator is told once, the request is not tracked any more, and no
exception leaves the handler. -/
structure TransferAnswered
    (node : DecodeNode) (handled : DecodeNode × Option JsonError)
    (requestId : ByteString) : Prop where
  oneReport :
    (reportsOf requestId .decodeComplete
      (handled.1.sent.drop node.sent.length)).length = 1
  untracked : handled.1.tracker.getRequest requestId = none
  noException : handled.2 = none

/-- The request can be written, the inference server answers it with success, and
the answer can be read. -/
def VllmServices.Answers
    {value : Type} (services : VllmServices) (config : WorkerConfig)
    (vllmRequest : Json) (read : ByteString → Except JsonError value) : Prop :=
  ∃ response found,
    services.request config vllmRequest = .ok response ∧
      response.success = true ∧ read response.body = .ok found

section Answering

variable (config : WorkerConfig) (nodeInfo : NodeInfo) (services : VllmServices)
variable (origin : Message.Origin)

theorem length_reportsOf_singleton
    {requestId : ByteString} {success : MessageType} {message : Message}
    (type : message.type = success)
    (about : message.requestInfo.requestId = requestId) :
    (reportsOf requestId success [message]).length = 1 := by
  simp [reportsOf, type, about]

theorem assignAnswered_iff (msg : Message) :
    AssignAnswered (handleAssignRequest config nodeInfo services origin msg)
        msg.requestInfo.requestId ↔
      ∃ peer,
        decodePeer nodeInfo msg.requestInfo.decodeNodeId = some peer ∧
          services.Answers config
            (prefillRequest config nodeInfo peer msg.requestInfo)
            (promptTokens services.library) := by
  have silent (thrown : Option JsonError) :
      ¬ AssignAnswered ⟨[], thrown⟩ msg.requestInfo.requestId := by
    intro answered
    cases answered.oneReport
  rw [handleAssignRequest]
  cases known : decodePeer nodeInfo msg.requestInfo.decodeNodeId with
  | none =>
      simp [silent]
  | some peer =>
      simp only [Option.some.injEq, exists_eq_left']
      rw [VllmServices.Answers]
      cases
          services.request config
            (prefillRequest config nodeInfo peer msg.requestInfo) with
      | error thrown =>
          simp [silent]
      | ok response =>
          cases success : response.success with
          | false =>
              simp [silent, success]
          | true =>
              cases counted : promptTokens services.library response.body with
              | error thrown =>
                  simp [silent, success, counted]
              | ok numTokens =>
                  simp only [success, if_true, counted]
                  apply iff_of_true
                  · exact ⟨length_reportsOf_singleton rfl rfl, rfl⟩
                  · exact ⟨response, numTokens, rfl, success, counted⟩

variable (node : DecodeNode) (msg : Message)

theorem getRequest_removeRequest (tracker : RequestTrackerLayer)
    (requestId : ByteString) :
    (tracker.removeRequest requestId).getRequest requestId = none := by
  rw [RequestTrackerLayer.removeRequest, RequestTrackerLayer.getRequest]
  split
  · assumption
  · exact AList.lookup_erase _ _

theorem transferAnswered_iff
    {info : RequestTrackerLayer.RequestInfo}
    (tracked : node.tracker.getRequest msg.requestInfo.requestId = some info) :
    TransferAnswered node
        (handleKvTransferComplete config nodeInfo services origin node msg)
        msg.requestInfo.requestId ↔
      services.Answers config
        (decodeRequest config nodeInfo info msg.requestInfo)
        (generatedText services.library) := by
  have silent {next : DecodeNode} (thrown : Option JsonError)
      (sent : next.sent = node.sent) :
      ¬ TransferAnswered node (next, thrown) msg.requestInfo.requestId := by
    intro answered
    have one := answered.oneReport
    simp only [sent, List.drop_length] at one
    cases one
  simp only [handleKvTransferComplete, tracked]
  rw [decodeText, VllmServices.Answers]
  cases
      services.request config
        (decodeRequest config nodeInfo info msg.requestInfo) with
  | error thrown =>
      simp [Except.bind, silent, DecodeNode.updateState]
  | ok response =>
      cases success : response.success with
      | false =>
          simp [Except.bind, success, silent, DecodeNode.updateState]
      | true =>
          cases generated : generatedText services.library response.body with
          | error thrown =>
              simp [Except.bind, Except.map, success, generated, silent,
                DecodeNode.updateState]
          | ok text =>
              simp only [Except.bind, Except.map, success, if_true, generated]
              apply iff_of_true
              · refine ⟨?_, getRequest_removeRequest _ _, rfl⟩
                change
                  (reportsOf msg.requestInfo.requestId .decodeComplete
                    ((node.sent ++
                      [Message.decodeComplete origin node.orchestratorId
                        msg.requestInfo text]).drop node.sent.length)).length =
                    1
                rw [List.drop_left]
                exact length_reportsOf_singleton rfl rfl
              · exact ⟨response, text, rfl, success, generated⟩

end Answering

/-- A request is answered exactly if the node knows its peer, where it needs one,
and the inference server answers with what is expected of it. -/
theorem requests_answered_iff
    (config : WorkerConfig) (nodeInfo : NodeInfo) (services : VllmServices)
    (origin : Message.Origin) (msg : Message) :
    (AssignAnswered (handleAssignRequest config nodeInfo services origin msg)
          msg.requestInfo.requestId ↔
        ∃ peer,
          decodePeer nodeInfo msg.requestInfo.decodeNodeId = some peer ∧
            services.Answers config
              (prefillRequest config nodeInfo peer msg.requestInfo)
              (promptTokens services.library)) ∧
      ∀ (node : DecodeNode) (info : RequestTrackerLayer.RequestInfo),
        node.tracker.getRequest msg.requestInfo.requestId = some info →
          (TransferAnswered node
              (handleKvTransferComplete config nodeInfo services origin node
                msg)
              msg.requestInfo.requestId ↔
            services.Answers config
              (decodeRequest config nodeInfo info msg.requestInfo)
              (generatedText services.library)) := by
  refine ⟨assignAnswered_iff config nodeInfo services origin msg, ?_⟩
  intro node info tracked
  exact
    transferAnswered_iff config nodeInfo services origin node msg tracked

/-! ## A request that is answered and one that times out -/

namespace VllmServices

def sampleConfig : WorkerConfig where
  nodeId := [2]
  role := .ofText "decode"
  numLayers := 1
  memory := {}
  modelName := .ofText "m"
  vllmPort := 8000
  gidIndex := 0

def sampleDecodeText : String :=
  "\x7b\"extra_body\":\x7b\"kv_connector_config\":\x7b" ++
    "\"layer_size\":134217728,\"num_layers\":1,\"num_tokens\":0," ++
    "\"rdma_device\":\"\",\"rdma_gid_index\":0,\"rdma_port\":0," ++
    "\"request_id\":\"a\",\"role\":\"recv\",\"slot_base_offset\":0," ++
    "\"slot_id\":0\x7d\x7d,\"max_tokens\":0,\"model\":\"m\"," ++
    "\"prompt\":\"\",\"temperature\":0.7\x7d"

def sampleBody : ByteString :=
  .ofText "\x7b\"choices\":[\x7b\"text\":\"hi\"\x7d]\x7d"

/-- The library on the texts of one request and its answer. -/
def sampleLibrary : JsonLibrary where
  dump := fun _ => .ok (.ofText sampleDecodeText)
  parse := fun body =>
    if body = sampleBody then
      .ok (.object [("choices", .array [.object [("text", .ofText "hi")]])])
    else
      .error .parseError
  toInt := fun _ => 0

def sampleServices : VllmServices where
  library := sampleLibrary
  curl := fun _ _ => .responded 200 sampleBody

def sampleTimeout : VllmServices where
  library := sampleLibrary
  curl := fun _ _ => .failed (.ofText "Timeout was reached")

/-- A transfer is complete for request `a`. -/
def sampleComplete : Message :=
  .about ⟨.cleared, 0⟩ .kvTransferComplete []
    { Message.cleared.requestInfo with requestId := .ofText "a" }

def sampleInfo : RequestTrackerLayer.RequestInfo :=
  RequestTrackerLayer.newRequest {} (.ofText "a") [1] 0 1

/-- A decode node that has prepared slot `0` for request `a`. -/
def sampleNode : DecodeNode where
  orchestratorId := [0]
  numLayers := 1
  capacity := 16
  engine :=
    { kvBufferMb := 1
      hostOrder := .littleEndian
      mem := ⟨1024, 7, 4096⟩
      qmaps := [] }
  tracker :=
    { requests := AList.insert (.ofText "a") sampleInfo ∅
      requestToSeq := AList.insert (.ofText "a") 0 ∅
      seqToRequest := AList.insert 0 (.ofText "a") ∅ }

/-- The prefill node `1` knows no peer; it is assigned request `a`. -/
def sampleAssign : Message :=
  .createAssignRequest ⟨.cleared, 0⟩ [0]
    { Message.cleared.requestInfo with
      requestId := .ofText "a"
      prefillNodeId := [1]
      decodeNodeId := [2] }

theorem sampleNode_tracked :
    sampleNode.tracker.getRequest sampleComplete.requestInfo.requestId =
      some sampleInfo := by
  decide +kernel

theorem generatedText_sampleBody :
    generatedText sampleLibrary sampleBody = .ok (.ofText "hi") := by
  rw [generatedText, sampleLibrary]
  dsimp only
  rw [if_pos rfl]
  rfl

theorem requests_answered_iff_sampleServices :
    TransferAnswered sampleNode
      (handleKvTransferComplete sampleConfig (.healthy [2] .decode)
        sampleServices ⟨.cleared, 0⟩ sampleNode sampleComplete)
      (.ofText "a") := by
  have answered :=
    (requests_answered_iff sampleConfig (.healthy [2] .decode) sampleServices
      ⟨.cleared, 0⟩ sampleComplete).2 sampleNode sampleInfo sampleNode_tracked
  apply answered.mpr
  exact
    ⟨⟨true, 200, sampleBody, []⟩, .ofText "hi", rfl, rfl,
      generatedText_sampleBody⟩

def sampleUnknownPeer : Handled :=
  handleAssignRequest sampleConfig (.healthy [1] .prefill) sampleServices
    ⟨.cleared, 0⟩ sampleAssign

def sampleTimedOut : DecodeNode × Option JsonError :=
  handleKvTransferComplete sampleConfig (.healthy [2] .decode) sampleTimeout
    ⟨.cleared, 0⟩ sampleNode sampleComplete

/-- Neither node says anything, and the decode node keeps its slot. -/
theorem requests_swallowed :
    sampleUnknownPeer = ⟨[], none⟩ ∧
      ¬ AssignAnswered sampleUnknownPeer (.ofText "a") ∧
      sampleTimedOut.1.sent = [] ∧ sampleTimedOut.2 = none ∧
      (sampleTimedOut.1.tracker.getRequest (.ofText "a")).map
          RequestTrackerLayer.RequestInfo.state = some .failed ∧
      ¬ TransferAnswered sampleNode sampleTimedOut (.ofText "a") := by
  have noReport : sampleUnknownPeer = ⟨[], none⟩ :=
    rfl
  have observed :
      sampleTimedOut.1.sent = [] ∧ sampleTimedOut.2 = none ∧
        (sampleTimedOut.1.tracker.getRequest (.ofText "a")).map
            RequestTrackerLayer.RequestInfo.state = some .failed := by
    decide +kernel
  obtain ⟨silent, noException, failed⟩ := observed
  refine ⟨noReport, ?_, silent, noException, failed, ?_⟩
  · rw [noReport]
    intro answered
    cases answered.oneReport
  · intro answered
    rw [answered.untracked] at failed
    cases failed

end VllmServices

end RdmaKvCache
