import RdmaKvCache.Library.LabelledRuns
import RdmaKvCache.Node.DecodeNode

/-!
# Transfers to one decode node

Any number of prefill nodes write the KV cache of their requests to a decode
node.  Nothing relates the channels involved to each other:

* the connection from the orchestrator delivers `PREPARE_DECODE_SLOT` messages
  to the decode node in the order in which they are sent;
* `ASSIGN_REQUEST` messages reach the prefill nodes at any time after the
  `PREPARE_DECODE_SLOT` message of the same request has been sent;
* each prefill node has one queue pair, which delivers its writes in the order
  in which they are posted.

A prefill node posts the writes of an assigned request in order.  The requests
being saved, the writes in flight and those delivered are listed oldest first.

The same request may be assigned more than once, so the assignments are counted.
The messages of an assignment, the writes posted for it and the record that its
slot has been prepared have its number.
-/

namespace RdmaKvCache

/-- A request a prefill node saves, the number of its assignment and that of its
writes posted. -/
structure Saving where
  info : RequestInfo
  assignment : Nat
  posted : Nat
  deriving DecidableEq

structure KvTransfer where
  node : DecodeNode
  assignments : Nat := 0
  link : List NodeEvent := []
  prepared : List (RequestInfo × Nat) := []
  saving : List Saving := []
  inFlight : List KvWrite := []
  recvCq : List Arrival := []
  delivered : List KvWrite := []

inductive TransferAction where
  | sendPrepare (event : Event)
  | assign (index : Nat)
  | post (index : Nat)
  | deliver (prefillNodeId : ByteString) (qpNum byteLen : UInt32)
  | flush (completion : RecvCompletion)
  | receivePrepare
  | receiveOther (event : Event)
  | waitAndPop
  | work (index : Nat) (input : WorkerInput)
  | poll (count : Option Nat) (replenished : Bool)
  | advanceLoop (input : LoopInput)

/-! ## Recorded assignments -/

/-- The prefill node of the request and the number of its assignment, as recorded
last. -/
def recordedSource (history : List NodeRecord) (requestId : ByteString) :
    Option (ByteString × Nat) :=
  history.findSome? fun record =>
    match record with
    | .added added prefillNodeId _ assignment =>
        if added = requestId then some (prefillNodeId, assignment) else none
    | _ => none

theorem recordedSource_cons
    {record : NodeRecord} (history : List NodeRecord) (requestId : ByteString)
    (notAdded :
      ∀ added prefillNodeId slotId assignment,
        record = .added added prefillNodeId slotId assignment →
          added ≠ requestId) :
    recordedSource (record :: history) requestId =
      recordedSource history requestId := by
  unfold recordedSource
  rw [List.findSome?_cons]
  cases record with
  | added added prefillNodeId slotId assignment =>
      simp only [if_neg (notAdded added prefillNodeId slotId assignment rfl)]
  | removed _ | lost _ | discarded _ | marked _ _ _ _ | pushed _ =>
      rfl

def NodeRecord.adds : NodeRecord → Bool
  | .added _ _ _ _ => true
  | _ => false

theorem recordedSource_of_not_adds
    {record : NodeRecord} (notAdded : record.adds = false)
    (history : List NodeRecord) (requestId : ByteString) :
    recordedSource (record :: history) requestId =
      recordedSource history requestId := by
  apply recordedSource_cons
  rintro _ _ _ _ rfl
  cases notAdded

theorem recordedSource_added
    (history : List NodeRecord) (requestId prefillNodeId : ByteString)
    (slotId : Int32) (assignment : Nat) :
    recordedSource
        (.added requestId prefillNodeId slotId assignment :: history)
        requestId = some (prefillNodeId, assignment) := by
  simp [recordedSource]

/-! ## Steps -/

namespace KvTransfer

/-- The second argument of `poll_recv_cq` in the poll loop. -/
def maxPolled : Nat := 32

def start (node : DecodeNode) : KvTransfer where
  node := node

def numLayers (transfer : KvTransfer) : Nat :=
  transfer.node.numLayers.toNat

/-- The write a prefill node posts next for a request. -/
def nextWrite (transfer : KvTransfer) (saving : Saving) : Option KvWrite :=
  (kvWrites saving.info saving.assignment transfer.numLayers)[saving.posted]?

def isOn (prefillNodeId : ByteString) (write : KvWrite) : Bool :=
  decide (write.prefillNodeId = prefillNodeId)

/-- What `ibv_poll_cq` takes, unless it fails or the loop stops before. -/
def polled (transfer : KvTransfer) (count : Option Nat) :
    Option (List Arrival) :=
  if transfer.node.engine.rdmaFatalError then none
  else count.map fun limit => transfer.recvCq.take (min limit maxPolled)

/-- A step of a thread of the decode node. -/
def nodeStep (transfer : KvTransfer) (action : NodeAction) :
    Option KvTransfer :=
  (transfer.node.step action).map fun node => { transfer with node := node }

def step (transfer : KvTransfer) : TransferAction → Option KvTransfer
  | .sendPrepare event =>
      if event.message.type = .prepareDecodeSlot then
        some
          { transfer with
            assignments := transfer.assignments + 1
            link := transfer.link ++ [⟨event, transfer.assignments⟩]
            prepared :=
              transfer.prepared ++
                [(event.message.requestInfo, transfer.assignments)] }
      else
        none
  | .assign index =>
      transfer.prepared[index]?.map fun (info, assignment) =>
        { transfer with
          prepared := transfer.prepared.eraseIdx index
          saving := transfer.saving ++ [⟨info, assignment, 0⟩] }
  | .post index =>
      transfer.saving[index]?.bind fun saving =>
        (transfer.nextWrite saving).map fun write =>
          { transfer with
            saving :=
              transfer.saving.set index
                { saving with posted := saving.posted + 1 }
            inFlight := transfer.inFlight ++ [write] }
  | .deliver prefillNodeId qpNum byteLen =>
      (transfer.inFlight.find? (isOn prefillNodeId)).map fun write =>
        { transfer with
          inFlight := transfer.inFlight.eraseP (isOn prefillNodeId)
          recvCq :=
            transfer.recvCq ++ [⟨write.completion qpNum byteLen, some write⟩]
          delivered := transfer.delivered ++ [write] }
  | .flush completion =>
      if completion.success then none else
        some { transfer with recvCq := transfer.recvCq ++ [⟨completion, none⟩] }
  | .receivePrepare =>
      match transfer.link with
      | [] => none
      | event :: rest =>
          { transfer with link := rest }.nodeStep (.receive event)
  | .receiveOther event =>
      if event.message.type = .prepareDecodeSlot ∨
          event.message.type = .kvTransferComplete then
        none
      else
        transfer.nodeStep (.receive ⟨event, 0⟩)
  | .waitAndPop => transfer.nodeStep .waitAndPop
  | .work index input => transfer.nodeStep (.work index input)
  | .poll count replenished =>
      let arrivals := transfer.polled count
      { transfer with
        recvCq := transfer.recvCq.drop (arrivals.getD []).length
      }.nodeStep (.poll arrivals replenished)
  | .advanceLoop input => transfer.nodeStep (.advanceLoop input)

/-! ## What a step changes -/

/-- A step outside of the decode node. -/
inductive OutsideStep (transfer : KvTransfer) :
    TransferAction → KvTransfer → Prop where
  | prepared (event : Event)
      (isPrepare : event.message.type = .prepareDecodeSlot) :
      OutsideStep transfer (.sendPrepare event)
        { transfer with
          assignments := transfer.assignments + 1
          link := transfer.link ++ [⟨event, transfer.assignments⟩]
          prepared :=
            transfer.prepared ++
              [(event.message.requestInfo, transfer.assignments)] }
  | assigned (index : Nat) (info : RequestInfo) (assignment : Nat)
      (found : transfer.prepared[index]? = some (info, assignment)) :
      OutsideStep transfer (.assign index)
        { transfer with
          prepared := transfer.prepared.eraseIdx index
          saving := transfer.saving ++ [⟨info, assignment, 0⟩] }
  | posted (index : Nat) (saving : Saving) (write : KvWrite)
      (found : transfer.saving[index]? = some saving)
      (following : transfer.nextWrite saving = some write) :
      OutsideStep transfer (.post index)
        { transfer with
          saving :=
            transfer.saving.set index
              { saving with posted := saving.posted + 1 }
          inFlight := transfer.inFlight ++ [write] }
  | delivered (prefillNodeId : ByteString) (qpNum byteLen : UInt32)
      (write : KvWrite)
      (found : transfer.inFlight.find? (isOn prefillNodeId) = some write) :
      OutsideStep transfer (.deliver prefillNodeId qpNum byteLen)
        { transfer with
          inFlight := transfer.inFlight.eraseP (isOn prefillNodeId)
          recvCq :=
            transfer.recvCq ++ [⟨write.completion qpNum byteLen, some write⟩]
          delivered := transfer.delivered ++ [write] }
  | flushed (completion : RecvCompletion)
      (failed : completion.success = false) :
      OutsideStep transfer (.flush completion)
        { transfer with recvCq := transfer.recvCq ++ [⟨completion, none⟩] }

/-- A step of a thread of the decode node. -/
inductive InsideStep (transfer : KvTransfer) :
    TransferAction → KvTransfer → Prop where
  | received {action : TransferAction} (event : NodeEvent)
      (link : List NodeEvent)
      (queued :
        transfer.link = event :: link ∨
          transfer.link = link ∧ event.message.type ≠ .prepareDecodeSlot ∧
            event.message.type ≠ .kvTransferComplete) :
      InsideStep transfer action
        { transfer with node := transfer.node.push event, link := link }
  | popped (node : DecodeNode) (changed : transfer.node.waitAndPop = some node) :
      InsideStep transfer .waitAndPop { transfer with node := node }
  | worked (index : Nat) (input : WorkerInput) (node : DecodeNode)
      (changed : transfer.node.work index input = some node) :
      InsideStep transfer (.work index input) { transfer with node := node }
  | polled (count : Option Nat) (replenished : Bool) (node : DecodeNode)
      (changed :
        transfer.node.poll (transfer.polled count) replenished = some node) :
      InsideStep transfer (.poll count replenished)
        { transfer with
          node := node
          recvCq :=
            transfer.recvCq.drop ((transfer.polled count).getD []).length }
  | advanced (input : LoopInput) (node : DecodeNode)
      (changed : transfer.node.advanceLoop input = some node) :
      InsideStep transfer (.advanceLoop input) { transfer with node := node }

theorem nodeStep_eq_some
    {transfer next : KvTransfer} {action : NodeAction}
    (stepped : transfer.nodeStep action = some next) :
    ∃ node,
      transfer.node.step action = some node ∧
        next = { transfer with node := node } := by
  obtain ⟨node, taken, rfl⟩ := Option.map_eq_some_iff.mp stepped
  exact ⟨node, taken, rfl⟩

theorem step_cases
    {transfer next : KvTransfer} {action : TransferAction}
    (taken : transfer.step action = some next) :
    transfer.OutsideStep action next ∨ transfer.InsideStep action next := by
  cases action with
  | sendPrepare event =>
      simp only [step] at taken
      split at taken
      · rename_i isPrepare
        cases taken
        exact Or.inl (.prepared event isPrepare)
      · cases taken
  | assign index =>
      obtain ⟨⟨info, assignment⟩, found, rfl⟩ :=
        Option.map_eq_some_iff.mp taken
      exact Or.inl (.assigned index info assignment found)
  | post index =>
      obtain ⟨saving, found, taken⟩ := Option.bind_eq_some_iff.mp taken
      obtain ⟨write, following, rfl⟩ := Option.map_eq_some_iff.mp taken
      exact Or.inl (.posted index saving write found following)
  | deliver prefillNodeId qpNum byteLen =>
      obtain ⟨write, found, rfl⟩ := Option.map_eq_some_iff.mp taken
      exact Or.inl (.delivered prefillNodeId qpNum byteLen write found)
  | flush completion =>
      simp only [step] at taken
      split at taken
      · cases taken
      · rename_i failed
        cases taken
        exact Or.inl (.flushed completion (by simpa using failed))
  | receivePrepare =>
      simp only [step] at taken
      split at taken
      · cases taken
      · rename_i event rest queued
        obtain ⟨node, stepped, rfl⟩ := nodeStep_eq_some taken
        obtain ⟨_, rfl⟩ := DecodeNode.step_receive stepped
        exact Or.inr (.received event rest (Or.inl queued))
  | receiveOther event =>
      simp only [step] at taken
      split at taken
      · cases taken
      · rename_i other
        rw [not_or] at other
        obtain ⟨node, stepped, rfl⟩ := nodeStep_eq_some taken
        obtain ⟨_, rfl⟩ := DecodeNode.step_receive stepped
        exact
          Or.inr (.received ⟨event, 0⟩ transfer.link (Or.inr ⟨rfl, other⟩))
  | waitAndPop =>
      obtain ⟨node, stepped, rfl⟩ := nodeStep_eq_some taken
      exact Or.inr (.popped node (DecodeNode.step_running stepped).2)
  | work index input =>
      obtain ⟨node, stepped, rfl⟩ := nodeStep_eq_some taken
      exact Or.inr (.worked index input node (DecodeNode.step_running stepped).2)
  | poll count replenished =>
      obtain ⟨node, stepped, rfl⟩ := nodeStep_eq_some taken
      exact
        Or.inr
          (.polled count replenished node (DecodeNode.step_running stepped).2)
  | advanceLoop input =>
      obtain ⟨node, stepped, rfl⟩ := nodeStep_eq_some taken
      exact Or.inr (.advanced input node (DecodeNode.step_running stepped).2)

theorem InsideStep.numLayers_eq
    {transfer next : KvTransfer} {action : TransferAction}
    (inside : transfer.InsideStep action next) :
    next.numLayers = transfer.numLayers := by
  unfold numLayers
  cases inside with
  | received event link queued =>
      rw [DecodeNode.push_numLayers]
  | popped node changed =>
      obtain ⟨_, _, _, rfl⟩ := DecodeNode.waitAndPop_eq_some changed
      rfl
  | worked index input node changed =>
      obtain ⟨_, _, worked⟩ := DecodeNode.work_change changed
      exact congrArg UInt32.toNat worked.sameLoop.numLayers_eq
  | polled count replenished node changed =>
      obtain ⟨_, rfl | ⟨_, _, _, rfl⟩ | ⟨_, _, _, rfl⟩⟩ :=
        DecodeNode.poll_cases changed <;>
        rfl
  | advanced input node changed =>
      rw [DecodeNode.numLayers_of_advanceLoop changed]

/-- Polling takes the oldest completions. -/
theorem polled_append (transfer : KvTransfer) (count : Option Nat) :
    (transfer.polled count).getD [] ++
        transfer.recvCq.drop ((transfer.polled count).getD []).length =
      transfer.recvCq := by
  rw [polled]
  split
  · rfl
  · cases count with
    | none =>
        rfl
    | some limit =>
        exact
          List.prefix_iff_eq_append.mp
            (List.take_prefix (min limit maxPolled) transfer.recvCq)

/-! ## Completions of writes -/

end KvTransfer

/-- The arrival is the completion of a write for one of the layers. -/
def Arrival.Genuine (arrival : Arrival) (numLayers : Nat) : Prop :=
  ∃ write qpNum byteLen,
    write.layerId < numLayers ∧
      arrival = ⟨KvWrite.completion write qpNum byteLen, some write⟩

namespace KvTransfer

/-- All writes are for layers of the cache, and what completes successfully is
one of them. -/
structure Authentic (transfer : KvTransfer) : Prop where
  inFlight :
    ∀ write ∈ transfer.inFlight, write.layerId < transfer.numLayers
  recvCq :
    ∀ arrival ∈ transfer.recvCq,
      arrival.completion.success = true →
        arrival.Genuine transfer.numLayers
  batch :
    ∀ arrival ∈ transfer.node.pollLoop.rest,
      arrival.Genuine transfer.numLayers

theorem authentic_start (node : DecodeNode) (idle : node.pollLoop = .polling) :
    (start node).Authentic where
  inFlight := by
    intro write member
    cases member
  recvCq := by
    intro arrival member
    cases member
  batch := by
    intro arrival member
    have isIdle : (start node).node.pollLoop = .polling := idle
    rw [isIdle] at member
    cases member

theorem Authentic.outside
    {transfer next : KvTransfer} {action : TransferAction}
    (authentic : transfer.Authentic)
    (outside : transfer.OutsideStep action next) : next.Authentic := by
  obtain ⟨inFlight, recvCq, batch⟩ := authentic
  cases outside with
  | prepared event isPrepare =>
      exact ⟨inFlight, recvCq, batch⟩
  | assigned index info assignment found =>
      exact ⟨inFlight, recvCq, batch⟩
  | posted index saving write found following =>
      refine ⟨?_, recvCq, batch⟩
      intro other member
      rcases List.mem_append.mp member with earlier | last
      · exact inFlight other earlier
      · rw [List.mem_singleton.mp last]
        exact (mem_kvWrites.mp (List.mem_of_getElem? following)).2.2.2
  | delivered prefillNodeId qpNum byteLen write found =>
      refine
        ⟨fun other member => inFlight other (List.mem_of_mem_eraseP member),
          ?_, batch⟩
      intro arrival member successful
      rcases List.mem_append.mp member with earlier | last
      · exact recvCq arrival earlier successful
      · exact
          ⟨write, qpNum, byteLen,
            inFlight write (List.mem_of_find?_eq_some found),
            List.mem_singleton.mp last⟩
  | flushed completion failed =>
      refine ⟨inFlight, ?_, batch⟩
      intro arrival member successful
      rcases List.mem_append.mp member with earlier | last
      · exact recvCq arrival earlier successful
      · rw [List.mem_singleton.mp last, failed] at successful
        cases successful

theorem Authentic.inside
    {transfer next : KvTransfer} {action : TransferAction}
    (authentic : transfer.Authentic)
    (inside : transfer.InsideStep action next) : next.Authentic := by
  have layers := inside.numLayers_eq
  obtain ⟨inFlight, recvCq, batch⟩ := authentic
  rw [← layers] at inFlight recvCq batch
  cases inside with
  | received event link queued =>
      refine ⟨inFlight, recvCq, ?_⟩
      rw [DecodeNode.push_pollLoop]
      exact batch
  | popped node changed =>
      obtain ⟨_, _, _, rfl⟩ := DecodeNode.waitAndPop_eq_some changed
      exact ⟨inFlight, recvCq, batch⟩
  | worked index input node changed =>
      obtain ⟨_, _, worked⟩ := DecodeNode.work_change changed
      refine ⟨inFlight, recvCq, ?_⟩
      simp only [worked.sameLoop.pollLoop_eq]
      exact batch
  | polled count replenished node changed =>
      have split := transfer.polled_append count
      refine
        ⟨inFlight,
          fun arrival member => recvCq arrival (List.mem_of_mem_drop member),
          ?_⟩
      obtain ⟨_, rfl | ⟨_, _, _, rfl⟩ | ⟨_, _, successful, rfl⟩⟩ :=
        DecodeNode.poll_cases changed
      · intro arrival member
        cases member
      · exact batch
      · intro arrival member
        refine recvCq arrival ?_ (successful arrival member)
        rw [← split]
        exact List.mem_append_left _ member
  | advanced input node changed =>
      refine ⟨inFlight, recvCq, ?_⟩
      intro arrival member
      exact batch arrival (DecodeNode.rest_of_advanceLoop changed arrival member)

theorem Authentic.step
    {transfer next : KvTransfer} {action : TransferAction}
    (authentic : transfer.Authentic)
    (taken : transfer.step action = some next) : next.Authentic := by
  rcases step_cases taken with outside | inside
  · exact authentic.outside outside
  · exact authentic.inside inside

/-! ## A prefill node and a decode node -/

/-- A decode node that has just been started. -/
def sampleStart (numLayers : UInt32) : KvTransfer :=
  start
    (.start [0] numLayers 16 .onePeer { numLayers := numLayers.toInt32 })

/-- Slot zero is to be prepared for a request of the prefill node `2`. -/
def samplePrepare (requestId : ByteString) : Event where
  clientFd := 7
  message :=
    .createPrepareDecodeSlot ⟨.cleared, 0⟩ [1]
      { Message.cleared.requestInfo with
        requestId := requestId
        prefillNodeId := [2]
        slotId := 0 }

/-- The decode node handles the message in its task `index` and the prefill node
starts to save the request. -/
def samplePrepared (requestId : ByteString) (index : Nat) :
    List TransferAction :=
  [.sendPrepare (samplePrepare requestId), .receivePrepare, .waitAndPop,
    .work index {}, .assign 0]

/-- One completion is polled and the loop goes on `steps` times. -/
def samplePolled (steps : Nat) : List TransferAction :=
  .poll (some 1) true :: List.replicate steps (.advanceLoop {})

/-- The decode node handles the announcement of a transfer in its task `index`
and forgets the request. -/
def sampleFinished (index : Nat) : List TransferAction :=
  .waitAndPop :: List.replicate 6 (.work index { vllm := .generated [] })

end KvTransfer

end RdmaKvCache
