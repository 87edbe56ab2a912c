import RdmaKvCache.Orchestrator.HandlerSections

/-!
# When the orchestrator starts to accept requests

The state becomes `RUNNING` when all nodes are ready, and the state is there to
say that client requests are accepted.  But `mark_node_ready` compares the
number of ready nodes with that of the nodes registered by then, which need not
be all that are expected, and `handle_client_request` does not look at the
state.

No request is assigned too early in the runs in which

* the last registered node to become ready is marked when as many nodes have
  registered as are expected;
* a client request for which nodes have been selected goes on only in the state
  `RUNNING`.
-/

namespace RdmaKvCache

namespace OrchestratorHistory

/-- The nodes whose registration in a role has been received. -/
def registered (history : OrchestratorHistory) (role : NodeRole) :
    List ByteString :=
  history.received.filterMap fun received =>
    if received.event.message.type = .rdmaProcessRegistration ∧
        received.event.message.nodeInfo.role = role then
      some received.event.message.nodeInfo.nodeId
    else none

/-- The nodes whose `RDMA_READY` has been received. -/
def ready (history : OrchestratorHistory) : List ByteString :=
  history.received.filterMap fun received =>
    if received.event.message.type = .rdmaReady then
      some received.event.message.sourceNodeId
    else none

theorem mem_registered
    {history : OrchestratorHistory} {received : ReceivedEvent}
    (member : received ∈ history.received)
    (isRegistration :
      received.event.message.type = .rdmaProcessRegistration) :
    received.event.message.nodeInfo.nodeId ∈
      history.registered received.event.message.nodeInfo.role := by
  apply List.mem_filterMap.mpr
  exact ⟨received, member, if_pos ⟨isRegistration, rfl⟩⟩

theorem registered_subset
    {history next : OrchestratorHistory}
    (received : history.received ⊆ next.received) (role : NodeRole) :
    history.registered role ⊆ next.registered role := by
  intro node member
  obtain ⟨message, earlier, sent⟩ := List.mem_filterMap.mp member
  exact List.mem_filterMap.mpr ⟨message, received earlier, sent⟩

theorem ready_subset
    {history next : OrchestratorHistory}
    (received : history.received ⊆ next.received) :
    history.ready ⊆ next.ready := by
  intro node member
  obtain ⟨message, earlier, sent⟩ := List.mem_filterMap.mp member
  exact List.mem_filterMap.mpr ⟨message, received earlier, sent⟩

theorem mem_ready
    {history : OrchestratorHistory} {received : ReceivedEvent}
    (member : received ∈ history.received)
    (isReady : received.event.message.type = .rdmaReady) :
    received.event.message.sourceNodeId ∈ history.ready := by
  apply List.mem_filterMap.mpr
  exact ⟨received, member, if_pos isReady⟩

end OrchestratorHistory

namespace OrchestratorSystem

/-- As many nodes as expected have registered in the role and sent
`RDMA_READY`. -/
def NodesReady
    (system : OrchestratorSystem) (role : NodeRole) (expected : Int32) :
    Prop :=
  ∃ nodes : List ByteString,
    nodes.Nodup ∧ nodes.length = expected.toInt.toNat ∧
      nodes ⊆ system.worker.rdmaExchangeTracker.registeredAs role ∧
      nodes ⊆ system.history.registered role ∧
      nodes ⊆ system.history.ready

def ClusterReady (system : OrchestratorSystem) : Prop :=
  system.NodesReady .prefill system.worker.expectedPrefillNodes ∧
    system.NodesReady .decode system.worker.expectedDecodeNodes

/-- The state is `RUNNING` only once the cluster is ready, and requests are
assigned only then. -/
structure RunsWhenReady (system : OrchestratorSystem) : Prop where
  running : system.worker.state = .running → system.ClusterReady
  assigned :
    ∀ sending ∈ system.history.sendings,
      sending.message.type = .assignRequest → sending.state = .running

end OrchestratorSystem

/-- The node is the last of those registered by now to become ready. -/
def RdmaExchangeTracker.LastToBeReady
    (tracker : RdmaExchangeTracker) (nodeId : ByteString) : Prop :=
  nodeId ∈ tracker.registeredNodes ∧ nodeId ∉ tracker.readyNodes ∧
    tracker.readyNodes.length + 1 = tracker.registeredNodes.length

instance (tracker : RdmaExchangeTracker) (nodeId : ByteString) :
    Decidable (tracker.LastToBeReady nodeId) :=
  inferInstanceAs (Decidable (_ ∧ _ ∧ _))

/-- The next section of a handler does not start the cluster or go on with a
request too early. -/
def HandlerTask.startsInTime
    (worker : WorkerOrchestrator) (message : Message) : HandlerTask → Bool
  | .ready .markingReady =>
      decide
        (worker.rdmaExchangeTracker.LastToBeReady message.sourceNodeId →
          worker.rdmaExchangeTracker.allNodesRegistered = true)
  | .clientRequest (.selecting (.returned (some _))) =>
      decide (worker.state = .running)
  | _ => true

namespace OrchestratorSystem

def StartsInTime (system : OrchestratorSystem) :
    OrchestratorSystemAction → Prop
  | .advance index _ =>
      (system.calls[index]?.all fun call =>
        call.task.startsInTime system.worker call.received.event.message) =
        true
  | _ => True

instance (system : OrchestratorSystem) :
    ∀ action, Decidable (system.StartsInTime action)
  | .accept _ => .isTrue trivial
  | .removeConnection _ => .isTrue trivial
  | .receive _ _ => .isTrue trivial
  | .waitAndPop => .isTrue trivial
  | .advance index _ =>
      inferInstanceAs
        (Decidable
          ((system.calls[index]?.all fun call =>
            call.task.startsInTime system.worker
              call.received.event.message) = true))

theorem StartsInTime.task
    {system : OrchestratorSystem} {index : Nat} {input : SectionInput}
    {call : HandlerCall} (inTime : system.StartsInTime (.advance index input))
    (found : system.calls[index]? = some call) :
    call.task.startsInTime system.worker call.received.event.message =
      true := by
  simpa only [StartsInTime, found, Option.all_some] using inTime

end OrchestratorSystem

/-! ## Program points at which the cluster must be ready -/

/-- Nodes have been selected for the request and it goes on. -/
def HandlerTask.isRouted : HandlerTask → Bool
  | .clientRequest (.tracking _) => true
  | .clientRequest (.lookingUpDecode _) => true
  | .clientRequest (.preparing _ _) => true
  | .clientRequest (.lookingUpPrefill _) => true
  | .clientRequest (.assigning _ _) => true
  | _ => false

/-- A request is assigned by a handler that has selected nodes. -/
theorem HandlerTask.isRouted_of_response
    {event : Event} {task : HandlerTask} {recipient : Recipient} {fd : Int32}
    (response : task.response event = some (recipient, fd, .assignRequest))
    (listed :
      ∀ broadcastMsg, task.broadcastMsg = some broadcastMsg →
        broadcastMsg.type = .broadcastMemberInfo) :
    task.isRouted = true := by
  cases task with
  | clientRequest task =>
      cases task with
      | assigning prefillFd requestInfo =>
          rfl
      | selecting | refusing | tracking | lookingUpDecode | preparing
      | lookingUpPrefill | incrementing | discarding =>
          cases response
  | registration task =>
      cases task with
      | sending node nodeFd nodes broadcastMsg =>
          have isBroadcast := listed broadcastMsg rfl
          simp only [HandlerTask.response, isBroadcast, Option.some.injEq,
            Prod.mk.injEq] at response
          cases response.2.2
      | addingNode | addingNodeFd | registering | counting | listing
      | broadcasting =>
          cases response
  | prefillComplete task =>
      cases task <;>
        cases response
  | failure errorMessage task =>
      cases task <;>
        cases response
  | ready | blocked | finished =>
      cases response

/-- A handler goes on with a request once nodes have been selected for it. -/
theorem HandlerTask.isRouted_advance
    {worker : WorkerOrchestrator} {event : Event} {input : SectionInput}
    {task reached : HandlerTask} {effect : SectionEffect}
    (advanced : task.advance worker event input = some (effect, reached))
    (routed : reached.isRouted = true) :
    task.isRouted = true ∨
      ∃ routing,
        task = .clientRequest (.selecting (.returned (some routing))) := by
  cases handlerSection_of_advance advanced with
  | selected routing =>
      exact Or.inr ⟨routing, rfl⟩
  | tracks | decodeFound | prepares | prefillFound =>
      exact Or.inl rfl
  | _ =>
      cases routed

/-- The state is set when the last registered node has become ready. -/
theorem HandlerTask.settingState_advance
    {worker : WorkerOrchestrator} {event : Event} {input : SectionInput}
    {task : HandlerTask} {effect : SectionEffect}
    (advanced :
      task.advance worker event input = some (effect, .ready .settingState)) :
    task = .ready .markingReady ∧
      ∃ rdmaExchangeTracker,
        effect = .setExchangeTracker rdmaExchangeTracker ∧
          worker.rdmaExchangeTracker.markNodeReady
              event.message.sourceNodeId =
            some (true, rdmaExchangeTracker) := by
  cases handlerSection_of_advance advanced with
  | marksLast marked =>
      exact ⟨rfl, _, rfl, marked⟩

theorem HandlerTask.first_ne_settingState (message : Message) :
    first message ≠ .ready .settingState := by
  rw [first]
  split <;>
    intro same <;>
    cases same

theorem HandlerTask.isRouted_first (message : Message) :
    (first message).isRouted = false := by
  rw [first]
  split <;> rfl

/-! ## The invariant of the runs that start in time -/

namespace OrchestratorSystem

theorem NodesReady.mono
    {system next : OrchestratorSystem} {role : NodeRole} {expected : Int32}
    (ready : system.NodesReady role expected)
    (registeredAs :
      system.worker.rdmaExchangeTracker.registeredAs role ⊆
        next.worker.rdmaExchangeTracker.registeredAs role)
    (received : system.history.received ⊆ next.history.received) :
    next.NodesReady role expected := by
  obtain ⟨nodes, nodup, size, among, registered, readied⟩ := ready
  exact
    ⟨nodes, nodup, size, List.Subset.trans among registeredAs,
      List.Subset.trans registered
        (OrchestratorHistory.registered_subset received role),
      List.Subset.trans readied (OrchestratorHistory.ready_subset received)⟩

/-- What the exchange tracker has recorded has been received. -/
structure ExchangeRecorded (system : OrchestratorSystem) : Prop where
  expectedPrefill :
    system.worker.rdmaExchangeTracker.expectedPrefillNodes =
      system.worker.expectedPrefillNodes
  expectedDecode :
    system.worker.rdmaExchangeTracker.expectedDecodeNodes =
      system.worker.expectedDecodeNodes
  wellFormed : system.worker.rdmaExchangeTracker.WellFormed
  registered :
    ∀ role,
      system.worker.rdmaExchangeTracker.registeredAs role ⊆
        system.history.registered role
  ready :
    system.worker.rdmaExchangeTracker.readyNodes ⊆ system.history.ready

/-- When the expected nodes have registered and the registered nodes are ready,
the cluster is. -/
theorem ExchangeRecorded.clusterReady
    {system : OrchestratorSystem} (recorded : system.ExchangeRecorded)
    (allRegistered :
      system.worker.rdmaExchangeTracker.allNodesRegistered = true)
    (allReady :
      system.worker.rdmaExchangeTracker.readyNodes.length =
        system.worker.rdmaExchangeTracker.registeredNodes.length) :
    system.ClusterReady := by
  have ready :=
    List.Subset.trans
      (recorded.wellFormed.registered_subset_ready allReady) recorded.ready
  have ofRole {role : NodeRole} {expected : Int32}
      (nodup :
        (system.worker.rdmaExchangeTracker.registeredAs role).Nodup)
      (among :
        system.worker.rdmaExchangeTracker.registeredAs role ⊆
          system.worker.rdmaExchangeTracker.registeredNodes)
      (equals :
        RdmaExchangeTracker.sizeEquals
            (system.worker.rdmaExchangeTracker.registeredAs role) expected =
          true) :
      system.NodesReady role expected := by
    have enough := RdmaExchangeTracker.le_length_of_sizeEquals equals
    have taken :
        ((system.worker.rdmaExchangeTracker.registeredAs role).take
            expected.toInt.toNat) ⊆
          system.worker.rdmaExchangeTracker.registeredAs role :=
      List.take_subset _ _
    exact
      ⟨_, nodup.sublist (List.take_sublist _ _), List.length_take_of_le enough,
        taken, List.Subset.trans taken (recorded.registered role),
        List.Subset.trans (List.Subset.trans taken among) ready⟩
  rw [RdmaExchangeTracker.allNodesRegistered] at allRegistered
  rw [Bool.and_eq_true, recorded.expectedPrefill, recorded.expectedDecode]
    at allRegistered
  exact
    ⟨ofRole recorded.wellFormed.prefill_nodup
        recorded.wellFormed.prefill_subset allRegistered.1,
      ofRole recorded.wellFormed.decode_nodup
        recorded.wellFormed.decode_subset allRegistered.2⟩

/-- What the exchange tracker and the history know only grows. -/
structure Grows (system next : OrchestratorSystem) : Prop where
  expectedPrefill :
    next.worker.expectedPrefillNodes = system.worker.expectedPrefillNodes
  expectedDecode :
    next.worker.expectedDecodeNodes = system.worker.expectedDecodeNodes
  registeredAs :
    ∀ role,
      system.worker.rdmaExchangeTracker.registeredAs role ⊆
        next.worker.rdmaExchangeTracker.registeredAs role
  received : system.history.received ⊆ next.history.received

theorem ClusterReady.mono
    {system next : OrchestratorSystem} (ready : system.ClusterReady)
    (grows : system.Grows next) :
    next.ClusterReady := by
  rw [ClusterReady]
  rw [grows.expectedPrefill, grows.expectedDecode]
  exact
    ⟨ready.1.mono (grows.registeredAs .prefill) grows.received,
      ready.2.mono (grows.registeredAs .decode) grows.received⟩

/-- What a step does to the exchange tracker. -/
inductive ExchangeStep (system : OrchestratorSystem) :
    RdmaExchangeTracker → Prop
  | same : ExchangeStep system system.worker.rdmaExchangeTracker
  | registered
      {received : ReceivedEvent} {allRegistered : Bool}
      {next : RdmaExchangeTracker}
      (member : received ∈ system.history.received)
      (isRegistration :
        received.event.message.type = .rdmaProcessRegistration)
      (registered :
        system.worker.rdmaExchangeTracker.registerNode
            received.event.message.nodeInfo.nodeId
            received.event.message.nodeInfo.role =
          some (allRegistered, next)) :
      ExchangeStep system next
  | marked
      {received : ReceivedEvent} {allReady : Bool}
      {next : RdmaExchangeTracker}
      (member : received ∈ system.history.received)
      (isReady : received.event.message.type = .rdmaReady)
      (marked :
        system.worker.rdmaExchangeTracker.markNodeReady
            received.event.message.sourceNodeId =
          some (allReady, next)) :
      ExchangeStep system next

theorem exchangeStep
    {system next : OrchestratorSystem} {action : OrchestratorSystemAction}
    (traceable : system.Traceable) (taken : system.step action = some next) :
    system.ExchangeStep next.worker.rdmaExchangeTracker := by
  cases action with
  | accept fd | removeConnection fd =>
      simp only [step] at taken
      split at taken <;>
        cases taken
      exact .same
  | receive fd message =>
      obtain ⟨connection, _, same⟩ := Option.map_eq_some_iff.mp taken
      rw [← same]
      exact .same
  | waitAndPop =>
      simp only [step] at taken
      split at taken <;>
        cases taken
      exact .same
  | advance index input =>
      obtain ⟨call, effect, task, found, advanced, same⟩ := step_advance taken
      have member : call ∈ system.calls := List.mem_of_getElem? found
      have received := traceable.handled call member
      have dispatched := traceable.dispatched call member
      have source := HandlerTask.comesFrom_advance advanced
      rw [same]
      cases effect with
      | setExchangeTracker rdmaExchangeTracker =>
          rcases source with
            ⟨isRegistering, _, _, registered⟩ | ⟨isMarking, _, marked, _⟩
          · rw [isRegistering] at dispatched
            exact .registered received (dispatched _ rfl) registered
          · rw [isMarking] at dispatched
            exact .marked received (dispatched _ rfl) marked
      | nothing | setRouter | setRequestTracker | trackRequest | addNode
      | addNodeFd | setRunning | enqueueResponse =>
          exact .same

theorem grows_step
    {system next : OrchestratorSystem} {action : OrchestratorSystemAction}
    (traceable : system.Traceable) (taken : system.step action = some next) :
    system.Grows next := by
  obtain ⟨received, expectedPrefill, expectedDecode⟩ := received_step taken
  refine ⟨expectedPrefill, expectedDecode, ?_, received⟩
  intro role
  have exchanged := exchangeStep traceable taken
  generalize next.worker.rdmaExchangeTracker = tracker at exchanged
  cases exchanged with
  | same =>
      exact List.Subset.refl _
  | registered member isRegistration registered =>
      rcases RdmaExchangeTracker.registeredAs_registerNode registered role
        with same | ⟨_, added⟩
      · rw [same]
        exact List.Subset.refl _
      · rw [added]
        exact List.subset_append_left _ _
  | marked member isReady marked =>
      rw [RdmaExchangeTracker.registeredAs_markNodeReady marked]
      exact List.Subset.refl _

theorem ExchangeRecorded.step
    {system next : OrchestratorSystem} {action : OrchestratorSystemAction}
    (recorded : system.ExchangeRecorded) (traceable : system.Traceable)
    (taken : system.step action = some next) :
    next.ExchangeRecorded := by
  obtain ⟨received, expectedPrefill, expectedDecode⟩ := received_step taken
  have earlierRegistered (role : NodeRole) :
      system.worker.rdmaExchangeTracker.registeredAs role ⊆
        next.history.registered role :=
    List.Subset.trans (recorded.registered role)
      (OrchestratorHistory.registered_subset received role)
  have earlierReady :
      system.worker.rdmaExchangeTracker.readyNodes ⊆ next.history.ready :=
    List.Subset.trans recorded.ready
      (OrchestratorHistory.ready_subset received)
  have exchanged := exchangeStep traceable taken
  generalize isTracker : next.worker.rdmaExchangeTracker = tracker
    at exchanged
  cases exchanged with
  | same =>
      constructor <;>
        rw [isTracker]
      · exact recorded.expectedPrefill.trans expectedPrefill.symm
      · exact recorded.expectedDecode.trans expectedDecode.symm
      · exact recorded.wellFormed
      · exact earlierRegistered
      · exact earlierReady
  | registered member isRegistration registered =>
      have wellFormed := recorded.wellFormed.registerNode registered
      obtain ⟨_, same⟩ := RdmaExchangeTracker.registerNode_eq_some registered
      constructor <;>
        rw [isTracker]
      · rw [same]
        exact recorded.expectedPrefill.trans expectedPrefill.symm
      · rw [same]
        exact recorded.expectedDecode.trans expectedDecode.symm
      · exact wellFormed
      · intro role node listed
        rcases
            RdmaExchangeTracker.mem_registeredAs_registerNode registered
              listed with
          earlier | ⟨isRole, isNode⟩
        · exact earlierRegistered role earlier
        · rw [isRole, isNode]
          exact
            OrchestratorHistory.mem_registered (received member)
              isRegistration
      · rw [same]
        exact earlierReady
  | marked member isReady marked =>
      obtain ⟨samePrefill, sameDecode⟩ :=
        RdmaExchangeTracker.expected_markNodeReady marked
      constructor <;>
        rw [isTracker]
      · rw [samePrefill]
        exact recorded.expectedPrefill.trans expectedPrefill.symm
      · rw [sameDecode]
        exact recorded.expectedDecode.trans expectedDecode.symm
      · exact recorded.wellFormed.markNodeReady marked
      · rw [RdmaExchangeTracker.registeredAs_markNodeReady marked]
        exact earlierRegistered
      · intro node listed
        rcases
            RdmaExchangeTracker.mem_readyNodes_markNodeReady marked listed with
          earlier | isNode
        · exact earlierReady earlier
        · rw [isNode]
          exact OrchestratorHistory.mem_ready (received member) isReady

/-- The invariant of the runs whose sections all start in time. -/
structure Timely (system : OrchestratorSystem) : Prop where
  traceable : system.Traceable
  recorded : system.ExchangeRecorded
  running : system.worker.state = .running → system.ClusterReady
  starting :
    ∀ call ∈ system.calls,
      call.task = .ready .settingState → system.ClusterReady
  routed :
    ∀ call ∈ system.calls,
      call.task.isRouted = true → system.worker.state = .running
  assigned :
    ∀ sending ∈ system.history.sendings,
      sending.message.type = .assignRequest → sending.state = .running

/-- A node that is marked ready in time makes the cluster ready. -/
theorem clusterReady_of_marked
    {system next : OrchestratorSystem}
    (recorded : next.ExchangeRecorded) {message : Message}
    (inTime :
      HandlerTask.startsInTime system.worker message (.ready .markingReady) =
        true)
    (marked :
      system.worker.rdmaExchangeTracker.markNodeReady message.sourceNodeId =
        some (true, next.worker.rdmaExchangeTracker)) :
    next.ClusterReady := by
  rcases RdmaExchangeTracker.markNodeReady_eq_some marked with
    ⟨notAll, _⟩ | ⟨registered, notReady, same, isLast⟩
  · cases notAll
  · have sizes := of_decide_eq_true isLast.symm
    have allRegistered := of_decide_eq_true inTime ⟨registered, notReady, sizes⟩
    apply recorded.clusterReady
    · rw [same]
      exact allRegistered
    · rw [same]
      simpa only [List.length_append, List.length_singleton] using sizes

theorem state_apply
    (system : OrchestratorSystem) (received : ReceivedEvent)
    (effect : SectionEffect) :
    (system.apply received effect).worker.state = system.worker.state ∨
      effect = .setRunning := by
  cases effect with
  | setRunning =>
      exact Or.inr rfl
  | nothing | setRouter | setRequestTracker | trackRequest | addNode
  | addNodeFd | setExchangeTracker | enqueueResponse =>
      exact Or.inl rfl

theorem Timely.advance
    {system next : OrchestratorSystem} {index : Nat} {input : SectionInput}
    (timely : system.Timely)
    (taken : system.step (.advance index input) = some next)
    (inTime : system.StartsInTime (.advance index input)) :
    next.Timely := by
  have traceable := timely.traceable.step taken
  have recorded := timely.recorded.step timely.traceable taken
  have grows := grows_step timely.traceable taken
  obtain ⟨call, effect, task, found, advanced, same⟩ := step_advance taken
  have member : call ∈ system.calls := List.mem_of_getElem? found
  have source := HandlerTask.comesFrom_advance advanced
  have startsInTime := inTime.task found
  have staysRunning :
      system.worker.state = .running → next.worker.state = .running := by
    intro running
    rw [same]
    rcases state_apply system call.received effect with kept | isSetting
    · exact kept.trans running
    · rw [isSetting]
      rfl
  refine ⟨traceable, recorded, ?_, ?_, ?_, ?_⟩
  · intro running
    rw [same] at running
    rcases state_apply system call.received effect with kept | isSetting
    · exact (timely.running (kept.symm.trans running)).mono grows
    · rw [isSetting] at source
      exact (timely.starting call member source.1).mono grows
  · intro other called isSetting
    rw [same] at called
    rcases List.mem_or_eq_of_mem_set called with earlier | last
    · exact (timely.starting other earlier isSetting).mono grows
    · rw [last] at isSetting
      rw [show task = .ready .settingState from isSetting] at advanced
      obtain ⟨isMarking, tracker, isEffect, marked⟩ :=
        HandlerTask.settingState_advance advanced
      rw [isMarking] at startsInTime
      apply clusterReady_of_marked recorded startsInTime
      rw [same, isEffect]
      exact marked
  · intro other called routed
    rw [same] at called
    rcases List.mem_or_eq_of_mem_set called with earlier | last
    · exact staysRunning (timely.routed other earlier routed)
    · rw [last] at routed
      apply staysRunning
      rcases HandlerTask.isRouted_advance advanced routed with
        already | ⟨routing, isReturned⟩
      · exact timely.routed call member already
      · rw [isReturned] at startsInTime
        exact of_decide_eq_true startsInTime
  · intro sending recordedSending isAssign
    rw [same] at recordedSending
    rcases mem_sendings_apply recordedSending with
      earlier | ⟨isEnqueue, state, _⟩
    · exact timely.assigned sending earlier isAssign
    · rw [isEnqueue] at source
      rw [state]
      apply timely.routed call member
      have isAssigning :
          call.task.response call.received.event =
            some (sending.recipient, sending.fd, .assignRequest) := by
        rw [← isAssign]
        exact source
      exact
        HandlerTask.isRouted_of_response isAssigning
          (timely.traceable.listed call member)

theorem Timely.step
    {system next : OrchestratorSystem} {action : OrchestratorSystemAction}
    (timely : system.Timely) (taken : system.step action = some next)
    (inTime : system.StartsInTime action) :
    next.Timely := by
  have traceable := timely.traceable.step taken
  have recorded := timely.recorded.step timely.traceable taken
  have grows := grows_step timely.traceable taken
  have ready (earlier : system.ClusterReady) : next.ClusterReady :=
    earlier.mono grows
  cases action with
  | accept fd | removeConnection fd =>
      simp only [OrchestratorSystem.step] at taken
      split at taken <;>
        cases taken
      exact
        ⟨traceable, recorded, fun running => ready (timely.running running),
          fun call called starting =>
            ready (timely.starting call called starting),
          timely.routed, timely.assigned⟩
  | receive fd message =>
      obtain ⟨connection, _, same⟩ := Option.map_eq_some_iff.mp taken
      subst same
      exact
        ⟨traceable, recorded, fun running => ready (timely.running running),
          fun call called starting =>
            ready (timely.starting call called starting),
          timely.routed, timely.assigned⟩
  | waitAndPop =>
      simp only [OrchestratorSystem.step] at taken
      split at taken
      · cases taken
      · rename_i received rest queue
        cases taken
        refine
          ⟨traceable, recorded, fun running => ready (timely.running running),
            ?_, ?_, timely.assigned⟩
        · intro call called starting
          rcases List.mem_append.mp called with earlier | last
          · exact ready (timely.starting call earlier starting)
          · rw [List.mem_singleton.mp last] at starting
            exact absurd starting (HandlerTask.first_ne_settingState _)
        · intro call called routed
          rcases List.mem_append.mp called with earlier | last
          · exact timely.routed call earlier routed
          · rw [List.mem_singleton.mp last, HandlerTask.isRouted_first]
              at routed
            cases routed
  | advance index input =>
      exact timely.advance taken inTime

theorem timely_start
    (orchestratorId nodeId : ByteString)
    (expectedPrefillNodes expectedDecodeNodes : Int32)
    (eventQueueSize : UInt64) :
    (start orchestratorId nodeId expectedPrefillNodes expectedDecodeNodes
      eventQueueSize).Timely where
  traceable := traceable_start _ _ _ _ _
  recorded :=
    { expectedPrefill := rfl
      expectedDecode := rfl
      wellFormed :=
        { ready_nodup := List.nodup_nil
          ready_subset := List.nil_subset _
          prefill_nodup := List.nodup_nil
          prefill_subset := List.nil_subset _
          decode_nodup := List.nodup_nil
          decode_subset := List.nil_subset _ }
      registered := by
        intro role
        cases role <;>
          exact List.nil_subset _
      ready := List.nil_subset _ }
  running := by
    intro running
    cases running
  starting := by
    intro call called
    cases called
  routed := by
    intro call called
    cases called
  assigned := by
    intro sending recorded
    cases recorded

end OrchestratorSystem

open OrchestratorSystem in
/-- In a run in which the last node is marked ready only when the expected nodes
have registered, and in which requests go on only in the state `RUNNING`, this
state is reached only once the cluster is ready and no request is assigned
before. -/
theorem runs_when_ready
    (orchestratorId nodeId : ByteString)
    (expectedPrefillNodes expectedDecodeNodes : Int32)
    (eventQueueSize : UInt64) {actions : List OrchestratorSystemAction}
    (inTime :
      LabelledRuns.Meets step StartsInTime
        (start orchestratorId nodeId expectedPrefillNodes expectedDecodeNodes
          eventQueueSize)
        actions) :
    LabelledRuns.Throughout step RunsWhenReady
      (start orchestratorId nodeId expectedPrefillNodes expectedDecodeNodes
        eventQueueSize)
      actions :=
  LabelledRuns.throughout_of_meets
    (fun _ _ _ taken met timely => Timely.step timely taken met)
    (fun _ timely => ⟨timely.running, timely.assigned⟩) inTime
    (timely_start _ _ _ _ _)

namespace OrchestratorSystem

/-- A node reports that it is ready only when it has been sent the list of the
members. -/
def AnswersBroadcast (system : OrchestratorSystem) :
    OrchestratorSystemAction → Prop
  | .receive _ message =>
      message.type = .rdmaReady →
        (system.history.sendings.any fun sending =>
          decide
            (sending.recipient = .node message.sourceNodeId ∧
              sending.message.type = .broadcastMemberInfo)) = true
  | _ => True

instance (system : OrchestratorSystem) :
    ∀ action, Decidable (system.AnswersBroadcast action)
  | .receive _ _ => inferInstanceAs (Decidable (_ → _))
  | .accept _ => .isTrue trivial
  | .removeConnection _ => .isTrue trivial
  | .waitAndPop => .isTrue trivial
  | .advance _ _ => .isTrue trivial

/-- The prefill node `1` is in the registry but not yet in the exchange tracker
when the decode node `2` completes its registration, gets the list and is
ready. -/
def racedRegistration : List OrchestratorSystemAction :=
  [.accept 5, .accept 6] ++
    sampleReceived 5 (sampleRegistration (.healthy [1] .prefill)) ++
    sampleSections 0 2 [] sampleNodes ++
    sampleReceived 6 (sampleRegistration (.healthy [2] .decode)) ++
    sampleSections 1 10 [] sampleNodes ++
    sampleReceived 6 (sampleReady [2]) ++ sampleSections 2 2 [] []

/-- A client asks for a request before any node is ready. -/
def hastyRequest : List OrchestratorSystemAction :=
  sampleRegistered ++
    sampleReceived 7 (sampleRequest .clientRequest [10]) ++ sampleSelected 2 12

/-- A client asks for a request when both nodes are ready. -/
def patientRequest : List OrchestratorSystemAction :=
  sampleRegistered ++ sampleReceived 5 (sampleReady [1]) ++
    sampleSections 2 1 [] [] ++ sampleReceived 6 (sampleReady [2]) ++
    sampleSections 3 2 [] [] ++
    sampleReceived 7 (sampleRequest .clientRequest [10]) ++ sampleSelected 4 12

/-- The state becomes `RUNNING` without the prefill node, and a request is
assigned while the state is another. -/
theorem starts_too_early :
    (∃ final,
      LabelledRuns.Meets step AnswersBroadcast sampleStart
          racedRegistration ∧
        LabelledRuns.execute step sampleStart racedRegistration =
          some final ∧
        final.worker.state = .running ∧
        final.history.ready = [[2]] ∧
        final.history.registered .decode = [[2]] ∧
        ¬ final.RunsWhenReady) ∧
      ∃ final sending,
        LabelledRuns.Meets step AnswersBroadcast sampleStart hastyRequest ∧
          LabelledRuns.execute step sampleStart hastyRequest = some final ∧
          sending ∈ final.history.sendings ∧
          sending.message.type = .assignRequest ∧
          sending.state = .waitingForNodes ∧
          ¬ final.RunsWhenReady := by
  constructor
  · have outcome :
        (LabelledRuns.execute step sampleStart racedRegistration).map
            (fun final =>
              (final.worker.state, final.worker.expectedPrefillNodes,
                [final.history.ready, final.history.registered .decode,
                  final.history.registered .prefill])) =
          some (.running, 1, [[[2]], [[2]], [[1]]]) := by
      decide +kernel
    obtain ⟨final, run, observed⟩ := Option.map_eq_some_iff.mp outcome
    simp only [Prod.mk.injEq, List.cons.injEq] at observed
    obtain ⟨state, expected, ready, decode, prefill, _⟩ := observed
    refine ⟨final, by decide +kernel, run, state, ready, decode, ?_⟩
    intro runsWhenReady
    obtain ⟨nodes, _, size, _, registered, readied⟩ :=
      (runsWhenReady.running state).1
    rw [expected] at size
    have positive : 0 < nodes.length :=
      Nat.lt_of_lt_of_eq Nat.zero_lt_one size.symm
    obtain ⟨node, member⟩ := List.exists_mem_of_length_pos positive
    have isPrefill := registered member
    have isDecode := readied member
    rw [prefill, List.mem_singleton] at isPrefill
    rw [ready, List.mem_singleton, isPrefill] at isDecode
    cases isDecode
  · have outcome :
        (LabelledRuns.execute step sampleStart hastyRequest).bind
            (fun final =>
              final.history.sendings.getLast?.map fun sending =>
                (sending.message.type, sending.state)) =
          some (.assignRequest, .waitingForNodes) := by
      decide +kernel
    obtain ⟨final, run, observed⟩ := Option.bind_eq_some_iff.mp outcome
    obtain ⟨sending, last, facts⟩ := Option.map_eq_some_iff.mp observed
    simp only [Prod.mk.injEq] at facts
    have member : sending ∈ final.history.sendings :=
      List.mem_of_getLast? last
    refine
      ⟨final, sending, by decide +kernel, run, member, facts.1, facts.2, ?_⟩
    intro runsWhenReady
    have running := runsWhenReady.assigned sending member facts.1
    rw [facts.2] at running
    cases running

theorem patient_request_is_assigned :
    (∃ final sending,
      LabelledRuns.execute step sampleStart patientRequest = some final ∧
        sending ∈ final.history.sendings ∧
        sending.message.type = .assignRequest) ∧
      LabelledRuns.Throughout step RunsWhenReady sampleStart
        patientRequest := by
  have outcome :
      (LabelledRuns.execute step sampleStart patientRequest).bind
          (fun final =>
            final.history.sendings.getLast?.map fun sending =>
              sending.message.type) =
        some .assignRequest := by
    decide +kernel
  obtain ⟨final, run, observed⟩ := Option.bind_eq_some_iff.mp outcome
  obtain ⟨sending, last, isAssign⟩ := Option.map_eq_some_iff.mp observed
  exact
    ⟨⟨final, sending, run, List.mem_of_getLast? last, isAssign⟩,
      runs_when_ready [0] [0] 1 1 16 (by decide +kernel)⟩

end OrchestratorSystem

end RdmaKvCache
