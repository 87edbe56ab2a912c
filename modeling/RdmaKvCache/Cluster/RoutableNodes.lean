import RdmaKvCache.Node.NodeSetup
import RdmaKvCache.Orchestrator.HandlerSections

/-!
# Nodes that can be routed to

The router considers healthy nodes only.  A node builds its `NodeInfo` from a
value-initialised one and never sets `is_healthy`, the flag goes over the wire
as it is, and the orchestrator does not change it either.  So the registry of an
orchestrator whose nodes have registered in this way lists no healthy node, and
every client request is answered with a capacity error, even when the state is
`RUNNING` and all slots are free.
-/

namespace RdmaKvCache

/-- The message is the registration a started node has sent, as it arrives. -/
def Message.RegistersStarted (message : Message) : Prop :=
  ∃ (config : NodeConfig) (answers : SetupAnswers) (fd : Int32)
    (accepted : List (ByteString × Int32)) (registered : NodeInfo)
    (peerQps : PeerQps) (origin : Message.Origin) (rest : ByteString),
    Node.start config answers fd accepted = some (registered, peerQps) ∧
      registered.Fits ∧
      deserializeMessage
          (serializeMessage (Node.registration origin registered)) =
        .done message rest

theorem Message.RegistersStarted.isHealthy
    {message : Message} (registers : message.RegistersStarted) :
    message.nodeInfo.isHealthy = false := by
  obtain ⟨config, answers, fd, accepted, registered, peerQps, origin, rest,
    started, fits, arrived⟩ := registers
  obtain ⟨_, isNode⟩ := Node.registration_arrives fits arrived
  obtain ⟨_, _, notHealthy⟩ := Node.start_eq_some started
  rw [isNode]
  exact notHealthy

/-- The answer to a client request for which no nodes are selected. -/
def capacityError (input : ProcessInput) : Message :=
  .createError (input.origin .clientError)
    (.ofText "All nodes at capacity. Please try again later.")

/-- A handler of a client request that has not selected nodes. -/
def HandlerTask.isUnrouted : HandlerTask → Bool
  | .clientRequest (.selecting .entered) => true
  | .clientRequest (.selecting (.returned none)) => true
  | .clientRequest .refusing => true
  | .clientRequest _ => false
  | _ => true

namespace OrchestratorSystem

/-- The registrations are those of started nodes. -/
def StartedNodesRegister (_ : OrchestratorSystem) :
    OrchestratorSystemAction → Prop
  | .receive _ message =>
      message.type = .rdmaProcessRegistration → message.RegistersStarted
  | _ => True

/-- The cluster runs and has a free slot. -/
def HasCapacity (system : OrchestratorSystem) : Prop :=
  system.worker.state = .running ∧
    ∃ node ∈ system.worker.nodeRegistry.getAllNodes,
      node.role = .decode ∧
        0 < system.worker.requestRouter.getAvailableSlots node.nodeId

/-- Handling a client request selects nodes and does not answer with a capacity
error. -/
def AcceptsRequests (system : OrchestratorSystem) : Prop :=
  ∀ clientFd message input next,
    system.worker.handleClientRequest clientFd message input = some next →
      (system.worker.requestRouter.selectNodesAndAllocateSlot
            input.prefillNodes input.decodeNodes input.prefillDraw
            input.decodeDraw message.requestInfo.requestId).1 ≠
          none ∧
        next.responses ≠
          system.worker.responses ++ [(clientFd, capacityError input)]

/-- Handling a client request selects no nodes and answers with a capacity
error, and none of the running handlers has selected any. -/
structure RefusesRequests (system : OrchestratorSystem) : Prop where
  handled :
    ∀ clientFd message requestMemory origin,
      ∃ next,
        system.worker.handleClientRequest clientFd message
            { requestMemory := requestMemory
              origin := origin } =
          some next
  refused :
    ∀ clientFd message input next,
      system.worker.handleClientRequest clientFd message input = some next →
        (system.worker.requestRouter.selectNodesAndAllocateSlot
              input.prefillNodes input.decodeNodes input.prefillDraw
              input.decodeDraw message.requestInfo.requestId).1 =
            none ∧
          next =
            system.worker.sendClientResponse clientFd (capacityError input)
  unrouted :
    ∀ call ∈ system.calls, call.task.isUnrouted = true

theorem RefusesRequests.not_accepts
    {system : OrchestratorSystem} (refuses : system.RefusesRequests) :
    ¬ system.AcceptsRequests := by
  intro accepts
  obtain ⟨next, handled⟩ :=
    refuses.handled 0 .cleared Message.cleared.requestInfo
      fun _ => ⟨.cleared, 0⟩
  have refused := (refuses.refused _ _ _ next handled).1
  exact (accepts _ _ _ next handled).1 refused

/-! ## The invariant -/

/-- No healthy node has registered or is about to. -/
structure Unhealthy (system : OrchestratorSystem) : Prop where
  queued :
    ∀ received ∈ system.eventQueue,
      received.event.message.type = .rdmaProcessRegistration →
        received.event.message.nodeInfo.isHealthy = false
  handled :
    ∀ call ∈ system.calls,
      call.received.event.message.type = .rdmaProcessRegistration →
        call.received.event.message.nodeInfo.isHealthy = false
  adding :
    ∀ call ∈ system.calls,
      call.task = .registration .addingNode →
        call.received.event.message.type = .rdmaProcessRegistration
  registered :
    ∀ node ∈ system.worker.nodeRegistry.getAllNodes,
      node.isHealthy = false
  unrouted :
    ∀ call ∈ system.calls, call.task.isUnrouted = true

end OrchestratorSystem

theorem NodeRegistry.mem_getAllNodes_addNode
    {registry : NodeRegistry} {node tested : NodeInfo}
    (listed : tested ∈ (registry.addNode node).getAllNodes) :
    tested = node ∨ tested ∈ registry.getAllNodes := by
  obtain ⟨⟨nodeId, info⟩, member, same⟩ := List.mem_map.mp listed
  have found := AList.mem_lookup_iff.mpr member
  simp only at same
  subst same
  by_cases isNew : nodeId = node.nodeId
  · rw [isNew] at found
    simp only [addNode, AList.lookup_insert] at found
    exact Or.inl (Option.some.inj found).symm
  · simp only [addNode, AList.lookup_insert_ne isNew] at found
    exact
      Or.inr
        (List.mem_map.mpr
          ⟨⟨nodeId, info⟩, AList.mem_lookup_iff.mp found, rfl⟩)

theorem NodeRegistry.getHealthyNodes_eq_nil
    {registry : NodeRegistry}
    (unhealthy : ∀ node ∈ registry.getAllNodes, node.isHealthy = false)
    (role : NodeRole) :
    registry.getHealthyNodes role = [] := by
  apply List.filter_eq_nil_iff.mpr
  intro node listed
  rw [unhealthy node listed, Bool.and_false]
  exact Bool.false_ne_true

theorem HandlerTask.isUnrouted_first (message : Message) :
    (first message).isUnrouted = true := by
  rw [first]
  split <;> rfl

theorem HandlerTask.addingNode_first
    {message : Message}
    (isAdding : first message = .registration .addingNode) :
    message.type = .rdmaProcessRegistration := by
  apply messageType_first
  rw [isAdding]
  rfl

/-- Without healthy nodes no handler selects any. -/
theorem HandlerTask.isUnrouted_advance
    {worker : WorkerOrchestrator} {event : Event} {input : SectionInput}
    {task reached : HandlerTask} {effect : SectionEffect}
    (advanced : task.advance worker event input = some (effect, reached))
    (unhealthy :
      ∀ role, worker.nodeRegistry.getHealthyNodes role = [])
    (unrouted : task.isUnrouted = true) :
    reached.isUnrouted = true := by
  cases handlerSection_of_advance advanced with
  | @selecting state _ _ selected =>
      cases state with
      | entered =>
          simp only [SelectState.advance, SelectState.listed, unhealthy]
            at selected
          split at selected
          · rename_i isEmpty
            rw [List.perm_nil.mp isEmpty] at selected
            cases selected
            rfl
          · cases selected
      | returned =>
          cases selected
      | _ =>
          cases unrouted
  | selected | tracks | decodeMissing | decodeFound | prepares
  | prefillMissing | prefillFound | assigns | increments =>
      cases unrouted
  | _ =>
      rfl

/-- No section leads back to the first one of a registration. -/
theorem HandlerTask.ne_addingNode_advance
    {worker : WorkerOrchestrator} {event : Event} {input : SectionInput}
    {task : HandlerTask} {effect : SectionEffect} :
    task.advance worker event input ≠
      some (effect, .registration .addingNode) := by
  intro advanced
  cases handlerSection_of_advance advanced

namespace OrchestratorSystem

theorem Unhealthy.refuses
    {system : OrchestratorSystem} (unhealthy : system.Unhealthy) :
    system.RefusesRequests where
  handled := by
    intro clientFd message requestMemory origin
    simp only [WorkerOrchestrator.handleClientRequest,
      NodeRegistry.getHealthyNodes_eq_nil unhealthy.registered,
      List.Perm.refl, and_self, if_true]
    exact ⟨_, rfl⟩
  refused := by
    intro clientFd message input next handled
    simp only [WorkerOrchestrator.handleClientRequest,
      NodeRegistry.getHealthyNodes_eq_nil unhealthy.registered,
      List.perm_nil] at handled
    split at handled
    · rename_i noNodes
      rw [noNodes.1, noNodes.2] at handled ⊢
      cases handled
      exact ⟨rfl, rfl⟩
    · cases handled
  unrouted := unhealthy.unrouted

theorem unhealthy_start
    (orchestratorId nodeId : ByteString)
    (expectedPrefillNodes expectedDecodeNodes : Int32)
    (eventQueueSize : UInt64) :
    (start orchestratorId nodeId expectedPrefillNodes expectedDecodeNodes
      eventQueueSize).Unhealthy where
  queued := by
    intro received queued
    cases queued
  handled := by
    intro call called
    cases called
  adding := by
    intro call called
    cases called
  registered := by
    intro node listed
    cases listed
  unrouted := by
    intro call called
    cases called

theorem getAllNodes_apply
    {system : OrchestratorSystem} {received : ReceivedEvent}
    {effect : SectionEffect} {node : NodeInfo}
    (listed :
      node ∈
        (system.apply received effect).worker.nodeRegistry.getAllNodes) :
    node ∈ system.worker.nodeRegistry.getAllNodes ∨
      effect = .addNode node := by
  cases effect with
  | addNode added =>
      rcases NodeRegistry.mem_getAllNodes_addNode listed with same | earlier
      · rw [same]
        exact Or.inr rfl
      · exact Or.inl earlier
  | nothing | setRouter | setRequestTracker | trackRequest | addNodeFd
  | setExchangeTracker | setRunning | enqueueResponse =>
      exact Or.inl listed

theorem getAllNodes_step
    {system next : OrchestratorSystem} {action : OrchestratorSystemAction}
    (taken : system.step action = some next) {node : NodeInfo}
    (listed : node ∈ next.worker.nodeRegistry.getAllNodes) :
    node ∈ system.worker.nodeRegistry.getAllNodes ∨
      ∃ call ∈ system.calls,
        call.task = .registration .addingNode ∧
          node = call.received.event.message.nodeInfo := by
  cases action with
  | accept fd | removeConnection fd =>
      simp only [OrchestratorSystem.step] at taken
      split at taken <;>
        cases taken
      exact Or.inl listed
  | receive fd message =>
      obtain ⟨connection, _, same⟩ := Option.map_eq_some_iff.mp taken
      rw [← same] at listed
      exact Or.inl listed
  | waitAndPop =>
      simp only [OrchestratorSystem.step] at taken
      split at taken <;>
        cases taken
      exact Or.inl listed
  | advance index input =>
      obtain ⟨call, effect, task, found, advanced, same⟩ := step_advance taken
      have source := HandlerTask.comesFrom_advance advanced
      rw [same] at listed
      rcases getAllNodes_apply listed with earlier | isAdding
      · exact Or.inl earlier
      · rw [isAdding] at source
        exact
          Or.inr ⟨call, List.mem_of_getElem? found, source.1, source.2.1⟩

theorem Unhealthy.step
    {system next : OrchestratorSystem} {action : OrchestratorSystemAction}
    (unhealthy : system.Unhealthy) (taken : system.step action = some next)
    (started : system.StartedNodesRegister action) :
    next.Unhealthy := by
  refine ⟨?_, ?_, ?_, ?_, ?_⟩
  · intro received queued isRegistration
    rcases queued_step taken queued with earlier | ⟨isReceive, _⟩
    · exact unhealthy.queued received earlier isRegistration
    · rw [isReceive] at started
      exact (started isRegistration).isHealthy
  · intro call called
    cases callOrigin_step taken called with
    | running member | advanced _ member =>
        have handled := unhealthy.handled _ member
        exact handled
    | popped queued =>
        exact unhealthy.queued _ queued
  · intro call called isAdding
    cases callOrigin_step taken called with
    | running member =>
        exact unhealthy.adding call member isAdding
    | popped =>
        exact HandlerTask.addingNode_first isAdding
    | @advanced _ _ _ _ task _ _ advanced =>
        rw [show task = .registration .addingNode from isAdding] at advanced
        exact absurd advanced HandlerTask.ne_addingNode_advance
  · intro node listed
    rcases getAllNodes_step taken listed with
      earlier | ⟨call, member, isAdding, same⟩
    · exact unhealthy.registered node earlier
    · rw [same]
      exact
        unhealthy.handled call member (unhealthy.adding call member isAdding)
  · intro call called
    cases callOrigin_step taken called with
    | running member =>
        exact unhealthy.unrouted call member
    | popped =>
        exact HandlerTask.isUnrouted_first _
    | advanced _ member advanced =>
        apply HandlerTask.isUnrouted_advance advanced
        · exact NodeRegistry.getHealthyNodes_eq_nil unhealthy.registered
        · exact unhealthy.unrouted _ member

end OrchestratorSystem

open OrchestratorSystem in
/-- In a run in which nodes register as they are started, every client request is
refused, in every state. -/
theorem started_nodes_not_routable
    (orchestratorId nodeId : ByteString)
    (expectedPrefillNodes expectedDecodeNodes : Int32)
    (eventQueueSize : UInt64) {actions : List OrchestratorSystemAction}
    (registered :
      LabelledRuns.Meets step StartedNodesRegister
        (start orchestratorId nodeId expectedPrefillNodes expectedDecodeNodes
          eventQueueSize)
        actions) :
    LabelledRuns.Throughout step
      (fun system => system.RefusesRequests ∧ ¬ system.AcceptsRequests)
      (start orchestratorId nodeId expectedPrefillNodes expectedDecodeNodes
        eventQueueSize)
      actions :=
  LabelledRuns.throughout_of_meets
    (fun _ _ _ taken met unhealthy => Unhealthy.step unhealthy taken met)
    (fun _ unhealthy => ⟨unhealthy.refuses, unhealthy.refuses.not_accepts⟩)
    registered (unhealthy_start _ _ _ _ _)

namespace OrchestratorSystem

/-- The configuration of one of two nodes. -/
def sampleConfig (nodeId : ByteString) (role : String) : NodeConfig where
  nodeId := nodeId
  role := .ofText role
  numLayers := 1
  memory := {}
  prefillNodes := [[1]]
  decodeNodes := [[2]]

def sampleAnswers (qpNum : UInt32) : SetupAnswers where
  devices := some ⟨0, .ofText "GPU", 0, 1024, .ofText "mlx5_0", 1, 0, 100⟩
  deviceBound := true
  deviceOpened := true
  memory := some ⟨4096, 7, 8, 1024⟩
  cqsCreated := true
  creates := fun _ => some ⟨qpNum, 3, none, 5⟩

/-- What one of the two nodes registers. -/
def sampleStarted (nodeId : ByteString) (role : String) (qpNum : UInt32) :
    NodeInfo :=
  ((Node.start (sampleConfig nodeId role) (sampleAnswers qpNum) 4 []).map
    Prod.fst).getD .zero

def sampleArrived (nodeId : ByteString) (role : String) (qpNum : UInt32) :
    Message :=
  (Node.registration ⟨.cleared, 0⟩ (sampleStarted nodeId role
    qpNum)).withSentStatus.overTheWire

def prefillArrived : Message :=
  sampleArrived [1] "prefill" 17

def decodeArrived : Message :=
  sampleArrived [2] "decode" 18

/-- Both nodes register and become ready. -/
def sampleBringUp : List OrchestratorSystemAction :=
  [.accept 5, .accept 6] ++ sampleReceived 5 prefillArrived ++
    sampleSections 0 4 [] [] ++ sampleReceived 6 decodeArrived ++
    sampleSections 1 10 [] [prefillArrived.nodeInfo, decodeArrived.nodeInfo] ++
    sampleReceived 5 (.createRdmaReady ⟨.cleared, 0⟩ [1]) ++
    sampleSections 2 1 [] [] ++
    sampleReceived 6 (.createRdmaReady ⟨.cleared, 0⟩ [2]) ++
    sampleSections 3 2 [] []

/-- The only registrations are those of the two nodes. -/
def SamplesRegister (_ : OrchestratorSystem) : OrchestratorSystemAction → Prop
  | .receive _ message =>
      message.type = .rdmaProcessRegistration →
        message = prefillArrived ∨ message = decodeArrived
  | _ => True

instance (system : OrchestratorSystem) :
    ∀ action, Decidable (system.SamplesRegister action)
  | .receive _ _ => inferInstanceAs (Decidable (_ → _ ∨ _))
  | .accept _ => .isTrue trivial
  | .removeConnection _ => .isTrue trivial
  | .waitAndPop => .isTrue trivial
  | .advance _ _ => .isTrue trivial

theorem registersStarted_sampleArrived
    {nodeId : ByteString} {role : String} {qpNum : UInt32}
    (started :
      (Node.start (sampleConfig nodeId role) (sampleAnswers qpNum) 4 []).isSome =
        true)
    (fits : (sampleStarted nodeId role qpNum).Fits) :
    (sampleArrived nodeId role qpNum).RegistersStarted := by
  obtain ⟨⟨registered, peerQps⟩, result⟩ :=
    Option.isSome_iff_exists.mp started
  have same : sampleStarted nodeId role qpNum = registered := by
    rw [sampleStarted]
    rw [result]
    rfl
  refine
    ⟨_, _, _, _, registered, peerQps, ⟨.cleared, 0⟩, [], result, ?_, ?_⟩
  · rw [← same]
    exact fits
  · rw [← same]
    exact Node.deserialize_registration _ fits

theorem sampleBringUp_registers :
    LabelledRuns.Meets step StartedNodesRegister sampleStart
      sampleBringUp := by
  have samples :
      LabelledRuns.Meets step SamplesRegister sampleStart sampleBringUp := by
    decide +kernel
  apply samples.mono
  intro system action registers
  cases action with
  | receive fd message =>
      intro isRegistration
      rcases registers isRegistration with isPrefill | isDecode
      · rw [isPrefill]
        apply registersStarted_sampleArrived
        · decide +kernel
        · rw [NodeInfo.fits_iff]
          decide +kernel
      · rw [isDecode]
        apply registersStarted_sampleArrived
        · decide +kernel
        · rw [NodeInfo.fits_iff]
          decide +kernel
  | accept | removeConnection | waitAndPop | advance =>
      trivial

/-- Both nodes are ready and all slots are free, and still a client is told that
the nodes are at capacity. -/
theorem started_cluster_refuses :
    LabelledRuns.Meets step StartedNodesRegister sampleStart sampleBringUp ∧
      ∃ final,
        LabelledRuns.execute step sampleStart sampleBringUp = some final ∧
          final.HasCapacity ∧ ¬ final.AcceptsRequests := by
  refine ⟨sampleBringUp_registers, ?_⟩
  have outcome :
      (LabelledRuns.execute step sampleStart sampleBringUp).bind
          (fun final =>
            (final.worker.handleClientRequest 7
              (sampleRequest .clientRequest [10])
              (sampleInput [] []).process).map fun next =>
                (decide
                    (final.worker.state = .running ∧
                      ∃ node ∈ final.worker.nodeRegistry.getAllNodes,
                        node.role = .decode ∧
                          0 <
                            final.worker.requestRouter.getAvailableSlots
                              node.nodeId),
                  decide
                    (next.responses =
                      final.worker.responses ++
                        [(7,
                          capacityError (sampleInput [] []).process)]))) =
        some (true, true) := by
    decide +kernel
  obtain ⟨final, run, handled⟩ := Option.bind_eq_some_iff.mp outcome
  obtain ⟨next, isHandled, observed⟩ := Option.map_eq_some_iff.mp handled
  simp only [Prod.mk.injEq, decide_eq_true_eq] at observed
  refine ⟨final, run, observed.1, ?_⟩
  intro accepts
  exact (accepts _ _ _ next isHandled).2 observed.2

theorem started_nodes_not_routable_sampleBringUp :
    (∃ final,
      LabelledRuns.execute step sampleStart sampleBringUp = some final ∧
        final.worker.state = .running) ∧
      LabelledRuns.Throughout step
        (fun system => system.RefusesRequests ∧ ¬ system.AcceptsRequests)
        sampleStart sampleBringUp := by
  have outcome :
      (LabelledRuns.execute step sampleStart sampleBringUp).map
          (fun final => final.worker.state) =
        some .running := by
    decide +kernel
  obtain ⟨final, run, running⟩ := Option.map_eq_some_iff.mp outcome
  exact
    ⟨⟨final, run, running⟩,
      started_nodes_not_routable [0] [0] 1 1 16 sampleBringUp_registers⟩

end OrchestratorSystem

end RdmaKvCache
