import RdmaKvCache.Orchestrator.HandlerSections

/-!
# Where responses go

The tracker and the registry keep descriptors, and a handler keeps the one it
has looked up until it sends.  Closing a connection updates none of them, so a
kept descriptor may come to belong to another connection.  Request ids are
chosen by the clients, and a repeated id overwrites the client of the first
request.

Every response reaches the connection it is meant for, or no one when that is
closed, in the runs in which

* no kept descriptor is given to a new connection;
* no request is tracked under an id that a request over another connection has;
* a node's descriptor is looked up only when the one of its latest registration
  has been recorded, and no registration over another connection arrives until
  the response is enqueued.
-/

namespace RdmaKvCache

/-- The response is put in the output buffer of the connection it is meant for
if that is open, and in no other. -/
def Sending.Delivered (sending : Sending) : Prop :=
  sending.intended ≠ [] ∧
    ∀ connection ∈ sending.intended,
      sending.reached =
        if connection ∈ sending.openConnections then some connection else none

/-! ## Kept descriptors -/

/-- The handler of the message uses the descriptor the message came over. -/
def Message.keepsFd (message : Message) : Bool :=
  decide
    (message.type = .clientRequest ∨ message.type = .rdmaProcessRegistration)

/-- The handler is going to use the descriptor its message came over. -/
def HandlerTask.usesOwnFd : HandlerTask → Bool
  | .clientRequest (.selecting _) => true
  | .clientRequest .refusing => true
  | .clientRequest (.tracking _) => true
  | .registration .addingNode => true
  | .registration .addingNodeFd => true
  | _ => false

/-- The node whose descriptor the next section looks up. -/
def HandlerTask.looksUpNode (event : Event) : HandlerTask → Option ByteString
  | .clientRequest (.lookingUpDecode requestInfo) =>
      some requestInfo.decodeNodeId
  | .clientRequest (.lookingUpPrefill requestInfo) =>
      some requestInfo.prefillNodeId
  | .registration (.broadcasting (node :: _) _) => some node.nodeId
  | .prefillComplete .lookingUpDecode =>
      some event.message.requestInfo.decodeNodeId
  | _ => none

/-- The request whose client the next section looks up. -/
def HandlerTask.looksUpClient (event : Event) :
    HandlerTask → Option ByteString
  | .failure _ .lookingUpClient => some event.message.requestInfo.requestId
  | _ => none

/-- The descriptors a handler keeps. -/
def HandlerCall.keptFds (call : HandlerCall) : List Int32 :=
  (if call.task.usesOwnFd then [call.received.event.clientFd] else []) ++
    ((call.task.response call.received.event).map fun response =>
      response.2.1).toList

/-- The handler has looked up the descriptor of the node and is going to send
it a message. -/
def HandlerCall.sendsTo (nodeId : ByteString) (call : HandlerCall) : Bool :=
  decide
    ((call.task.response call.received.event).map Prod.fst =
      some (.node nodeId))

namespace OrchestratorSystem

/-- The descriptors kept by the registry, the tracker, the queue and the
handlers. -/
def keptFds (system : OrchestratorSystem) : List Int32 :=
  system.worker.nodeRegistry.nodesFd.entries.map Sigma.snd ++
    system.worker.requestTracker.requests.entries.map
      (fun tracked => tracked.2.clientFd) ++
    (system.eventQueue.filter fun received =>
      received.event.message.keepsFd).map
        (fun received => received.event.clientFd) ++
    system.calls.flatMap HandlerCall.keptFds

/-- Every response is delivered. -/
def ResponsesDelivered (system : OrchestratorSystem) : Prop :=
  ∀ sending ∈ system.history.sendings, sending.Delivered

/-- The next section does not track a request under another client's id, nor
look up a node whose latest registration has not been recorded. -/
def routesCurrent (system : OrchestratorSystem) (call : HandlerCall) : Bool :=
  match call.task with
  | .clientRequest (.tracking _) =>
      system.history.tracked.all fun tracked =>
        decide
          (tracked.1 = call.received.event.message.requestInfo.requestId →
            tracked.2 = call.received.connection)
  | task =>
      (task.looksUpNode call.received.event).all fun nodeId =>
        decide
          (system.history.recorded.lookup nodeId = none ∨
            system.history.recorded.lookup nodeId =
              system.history.latestRegistration nodeId)

/-- The step does not make a kept descriptor stale. -/
def RoutesCurrent (system : OrchestratorSystem) :
    OrchestratorSystemAction → Prop
  | .accept fd => fd ∉ system.keptFds
  | .receive fd message =>
      message.type = .rdmaProcessRegistration →
        (system.calls.any (HandlerCall.sendsTo message.nodeInfo.nodeId)) =
            true →
          system.history.latestRegistration message.nodeInfo.nodeId =
            system.connections.lookup fd
  | .advance index _ =>
      (system.calls[index]?.all system.routesCurrent) = true
  | _ => True

instance (system : OrchestratorSystem) :
    ∀ action, Decidable (system.RoutesCurrent action)
  | .accept _ => inferInstanceAs (Decidable (_ ∉ _))
  | .removeConnection _ => .isTrue trivial
  | .receive _ _ => inferInstanceAs (Decidable (_ → _ → _))
  | .waitAndPop => .isTrue trivial
  | .advance index _ =>
      inferInstanceAs
        (Decidable ((system.calls[index]?.all system.routesCurrent) = true))

theorem RoutesCurrent.call
    {system : OrchestratorSystem} {index : Nat} {input : SectionInput}
    {call : HandlerCall} (current : system.RoutesCurrent (.advance index input))
    (found : system.calls[index]? = some call) :
    system.routesCurrent call = true := by
  simpa only [RoutesCurrent, found, Option.all_some] using current

theorem tracked_of_routesCurrent
    {system : OrchestratorSystem} {call : HandlerCall}
    {routing : RoutingResult}
    (current : system.routesCurrent call = true)
    (isTracking : call.task = .clientRequest (.tracking routing))
    {requestId : ByteString} {connection : Nat}
    (tracked : (requestId, connection) ∈ system.history.tracked)
    (same : requestId = call.received.event.message.requestInfo.requestId) :
    connection = call.received.connection := by
  simp only [routesCurrent, isTracking, List.all_eq_true] at current
  exact of_decide_eq_true (current _ tracked) same

theorem recorded_of_routesCurrent
    {system : OrchestratorSystem} {call : HandlerCall} {nodeId : ByteString}
    {connection : Nat} (current : system.routesCurrent call = true)
    (looksUp :
      call.task.looksUpNode call.received.event = some nodeId)
    (recorded : system.history.recorded.lookup nodeId = some connection) :
    system.history.latestRegistration nodeId = some connection := by
  rw [routesCurrent] at current
  split at current
  · rename_i isTracking
    rw [isTracking] at looksUp
    cases looksUp
  · simp only [looksUp, recorded, Option.all_some, reduceCtorEq, false_or,
      decide_eq_true_eq] at current
    exact current.symm

end OrchestratorSystem

/-! ## Where a handler takes a descriptor from -/

theorem HandlerTask.keepsFd_of_first
    {message : Message} (usesOwnFd : (first message).usesOwnFd = true) :
    message.keepsFd = true := by
  rw [first] at usesOwnFd
  apply decide_eq_true
  split at usesOwnFd
  · rename_i isType
    exact Or.inl isType
  · rename_i isType
    exact Or.inr isType
  all_goals cases usesOwnFd

theorem HandlerTask.response_first (event : Event) (message : Message) :
    (first message).response event = none := by
  rw [first]
  split <;> rfl

/-- A handler that uses its own descriptor has done so from the start. -/
theorem HandlerTask.usesOwnFd_advance
    {worker : WorkerOrchestrator} {event : Event} {input : SectionInput}
    {task reached : HandlerTask} {effect : SectionEffect}
    (advanced : task.advance worker event input = some (effect, reached))
    (usesOwnFd : reached.usesOwnFd = true) :
    task.usesOwnFd = true := by
  cases handlerSection_of_advance advanced with
  | selected | notSelected | selecting | addsNode =>
      rfl
  | _ =>
      cases usesOwnFd

/-- A descriptor to which a handler is going to send is its own, or has just
been looked up. -/
theorem HandlerTask.response_advance
    {worker : WorkerOrchestrator} {event : Event} {input : SectionInput}
    {task reached : HandlerTask} {effect : SectionEffect}
    {recipient : Recipient} {fd : Int32} {type : MessageType}
    (advanced : task.advance worker event input = some (effect, reached))
    (response : reached.response event = some (recipient, fd, type)) :
    effect = .nothing ∧
      ((recipient = .sender ∧ fd = event.clientFd ∧ task.usesOwnFd = true) ∨
        (∃ nodeId,
          recipient = .node nodeId ∧
            task.looksUpNode event = some nodeId ∧
            worker.nodeRegistry.getNodeFd nodeId = some fd) ∨
        ∃ requestId,
          recipient = .requester requestId ∧
            task.looksUpClient event = some requestId ∧
            worker.requestTracker.getClientFd requestId = some fd) := by
  cases handlerSection_of_advance advanced with
  | notSelected =>
      cases response
      exact ⟨rfl, Or.inl ⟨rfl, rfl, rfl⟩⟩
  | decodeFound found | prefillFound found | nodeFound found
  | decodeKnown found =>
      cases response
      exact ⟨rfl, Or.inr (Or.inl ⟨_, rfl, rfl, found⟩)⟩
  | clientFound found =>
      cases response
      exact ⟨rfl, Or.inr (Or.inr ⟨_, rfl, rfl, found⟩)⟩
  | _ =>
      cases response

/-! ## Descriptors and connections -/

namespace OrchestratorSystem

/-- The descriptor and the connection belong to each other or are both closed. -/
def Points (system : OrchestratorSystem) (fd : Int32) (connection : Nat) :
    Prop :=
  connection < system.accepted ∧
    ∀ openFd other, system.connections.lookup openFd = some other →
      (openFd = fd ↔ other = connection)

/-- No two open connections share a descriptor or a number. -/
structure DistinctConnections (system : OrchestratorSystem) : Prop where
  below :
    ∀ fd connection, system.connections.lookup fd = some connection →
      connection < system.accepted
  injective :
    ∀ fd other connection,
      system.connections.lookup fd = some connection →
        system.connections.lookup other = some connection → fd = other

theorem DistinctConnections.points
    {system : OrchestratorSystem} {fd : Int32} {connection : Nat}
    (distinct : system.DistinctConnections)
    (opened : system.connections.lookup fd = some connection) :
    system.Points fd connection := by
  refine ⟨distinct.below fd connection opened, ?_⟩
  intro openFd other found
  constructor
  · intro sameFd
    rw [sameFd, opened] at found
    exact (Option.some.inj found).symm
  · intro sameConnection
    rw [sameConnection] at found
    exact distinct.injective openFd fd connection found opened

/-- A response sent to the descriptor reaches the connection or no one. -/
theorem Points.reached
    {system : OrchestratorSystem} {fd : Int32} {connection : Nat}
    (points : system.Points fd connection) :
    system.connections.lookup fd =
      if connection ∈ system.connections.entries.map Sigma.snd then
        some connection
      else none := by
  split
  · rename_i opened
    obtain ⟨⟨other, number⟩, member, same⟩ := List.mem_map.mp opened
    have found : system.connections.lookup other = some number :=
      AList.mem_lookup_iff.mpr member
    have isFd := (points.2 other number found).mpr same
    rw [← isFd, found]
    exact congrArg some same
  · rename_i closed
    cases found : system.connections.lookup fd with
    | none =>
        rfl
    | some number =>
        have same := (points.2 fd number found).mp rfl
        refine absurd ?_ closed
        rw [← same]
        exact
          List.mem_map.mpr ⟨⟨fd, number⟩, AList.mem_lookup_iff.mp found, rfl⟩

theorem lookup_of_erase
    {system : OrchestratorSystem} {fd other : Int32} {connection : Nat}
    (found : (system.connections.erase fd).lookup other = some connection) :
    system.connections.lookup other = some connection := by
  by_cases same : other = fd
  · rw [same, AList.lookup_erase] at found
    cases found
  · rwa [AList.lookup_erase_ne same] at found

theorem connections_step
    {system next : OrchestratorSystem} {action : OrchestratorSystemAction}
    (taken : system.step action = some next) :
    (∃ fd,
      action = .accept fd ∧ system.connections.lookup fd = none ∧
        next.connections =
          system.connections.insert fd system.accepted ∧
        next.accepted = system.accepted + 1) ∨
      (∀ fd connection, next.connections.lookup fd = some connection →
        system.connections.lookup fd = some connection) ∧
        next.accepted = system.accepted := by
  cases action with
  | accept fd =>
      simp only [step] at taken
      split at taken <;>
        cases taken
      rename_i accepted
      exact Or.inl ⟨fd, rfl, accepted.2, rfl, rfl⟩
  | removeConnection fd =>
      simp only [step] at taken
      split at taken <;>
        cases taken
      exact Or.inr ⟨fun _ _ found => lookup_of_erase found, rfl⟩
  | receive fd message =>
      obtain ⟨connection, _, same⟩ := Option.map_eq_some_iff.mp taken
      rw [← same]
      exact Or.inr ⟨fun _ _ found => found, rfl⟩
  | waitAndPop =>
      simp only [step] at taken
      split at taken <;>
        cases taken
      exact Or.inr ⟨fun _ _ found => found, rfl⟩
  | advance index input =>
      obtain ⟨call, effect, task, _, _, same⟩ := step_advance taken
      rw [same]
      refine Or.inr ⟨?_, ?_⟩
      · intro fd connection found
        simpa only [connections_apply] using found
      · simp only [accepted_apply]

theorem DistinctConnections.step
    {system next : OrchestratorSystem} {action : OrchestratorSystemAction}
    (distinct : system.DistinctConnections)
    (taken : system.step action = some next) :
    next.DistinctConnections := by
  rcases connections_step taken with
    ⟨fd, _, closed, connections, accepted⟩ | ⟨kept, accepted⟩
  · have cases_lookup {other : Int32} {connection : Nat}
        (found : next.connections.lookup other = some connection) :
        other = fd ∧ connection = system.accepted ∨
          system.connections.lookup other = some connection := by
      rw [connections] at found
      by_cases same : other = fd
      · rw [same, AList.lookup_insert] at found
        exact Or.inl ⟨same, (Option.some.inj found).symm⟩
      · rw [AList.lookup_insert_ne same] at found
        exact Or.inr found
    constructor
    · intro other connection found
      rw [accepted]
      rcases cases_lookup found with ⟨_, same⟩ | earlier
      · omega
      · exact Nat.lt_succ_of_lt (distinct.below other connection earlier)
    · intro left right connection foundLeft foundRight
      rcases cases_lookup foundLeft with ⟨leftFd, leftNumber⟩ | earlierLeft <;>
        rcases cases_lookup foundRight with
          ⟨rightFd, rightNumber⟩ | earlierRight
      · exact leftFd.trans rightFd.symm
      · have below := distinct.below right connection earlierRight
        omega
      · have below := distinct.below left connection earlierLeft
        omega
      · exact
          distinct.injective left right connection earlierLeft earlierRight
  · constructor
    · intro other connection found
      rw [accepted]
      exact distinct.below other connection (kept other connection found)
    · intro left right connection foundLeft foundRight
      exact
        distinct.injective left right connection
          (kept left connection foundLeft) (kept right connection foundRight)

/-- A descriptor stays that of its connection unless it is given to another
one. -/
theorem Points.step
    {system next : OrchestratorSystem} {action : OrchestratorSystemAction}
    {fd : Int32} {connection : Nat} (points : system.Points fd connection)
    (taken : system.step action = some next)
    (notAccepted : action ≠ .accept fd) :
    next.Points fd connection := by
  rcases connections_step taken with
    ⟨new, isAccept, closed, connections, accepted⟩ | ⟨kept, accepted⟩
  · have different : new ≠ fd := by
      intro same
      exact notAccepted (isAccept.trans (congrArg _ same))
    have below := points.1
    refine ⟨by omega, ?_⟩
    intro openFd other found
    rw [connections] at found
    by_cases same : openFd = new
    · rw [same, AList.lookup_insert] at found
      have isNew := Option.some.inj found
      rw [same]
      constructor
      · intro isFd
        exact absurd isFd different
      · intro isConnection
        omega
    · rw [AList.lookup_insert_ne same] at found
      exact points.2 openFd other found
  · refine ⟨accepted ▸ points.1, ?_⟩
    intro openFd other found
    exact points.2 openFd other (kept openFd other found)

/-! ## The invariant of the runs that route currently -/

/-- A descriptor that is kept for a connection. -/
inductive Kept (system : OrchestratorSystem) : Int32 → Nat → Prop
  | queued
      {received : ReceivedEvent} (member : received ∈ system.eventQueue)
      (keepsFd : received.event.message.keepsFd = true) :
      Kept system received.event.clientFd received.connection
  | node
      {nodeId : ByteString} {fd : Int32} {connection : Nat}
      (found : system.worker.nodeRegistry.getNodeFd nodeId = some fd)
      (recorded :
        system.history.recorded.lookup nodeId = some connection) :
      Kept system fd connection
  | client
      {requestId : ByteString} {fd : Int32} {connection : Nat}
      (found :
        system.worker.requestTracker.getClientFd requestId = some fd)
      (tracked : (requestId, connection) ∈ system.history.tracked) :
      Kept system fd connection
  | own
      {call : HandlerCall} (member : call ∈ system.calls)
      (usesOwnFd : call.task.usesOwnFd = true) :
      Kept system call.received.event.clientFd call.received.connection
  | response
      {call : HandlerCall} {recipient : Recipient} {fd : Int32}
      {type : MessageType} {connection : Nat} (member : call ∈ system.calls)
      (response :
        call.task.response call.received.event = some (recipient, fd, type))
      (intended : connection ∈ system.intended call.received recipient) :
      Kept system fd connection

theorem Kept.mem_keptFds
    {system : OrchestratorSystem} {fd : Int32} {connection : Nat}
    (kept : system.Kept fd connection) :
    fd ∈ system.keptFds := by
  rw [keptFds]
  cases kept with
  | @queued received member keepsFd =>
      apply List.mem_append_left
      apply List.mem_append_right
      exact
        List.mem_map.mpr
          ⟨received, List.mem_filter.mpr ⟨member, keepsFd⟩, rfl⟩
  | @node nodeId _ _ found recorded =>
      apply List.mem_append_left
      apply List.mem_append_left
      apply List.mem_append_left
      exact
        List.mem_map.mpr ⟨⟨nodeId, fd⟩, AList.mem_lookup_iff.mp found, rfl⟩
  | @client requestId _ _ found tracked =>
      apply List.mem_append_left
      apply List.mem_append_left
      apply List.mem_append_right
      obtain ⟨request, stored, same⟩ := Option.map_eq_some_iff.mp found
      exact
        List.mem_map.mpr
          ⟨⟨requestId, request⟩, AList.mem_lookup_iff.mp stored, same⟩
  | @own call member usesOwnFd =>
      apply List.mem_append_right
      refine List.mem_flatMap.mpr ⟨call, member, ?_⟩
      apply List.mem_append_left
      rw [if_pos usesOwnFd]
      exact List.mem_singleton_self _
  | @response call recipient _ type _ member response intended =>
      apply List.mem_append_right
      refine List.mem_flatMap.mpr ⟨call, member, ?_⟩
      apply List.mem_append_right
      rw [response]
      exact List.mem_singleton_self _

/-- Kept descriptors belong to their connections, and every one of them is kept
for some connection. -/
structure Routed (system : OrchestratorSystem) : Prop where
  distinct : system.DistinctConnections
  points :
    ∀ fd connection, system.Kept fd connection →
      system.Points fd connection
  nodes :
    ∀ nodeId fd,
      system.worker.nodeRegistry.getNodeFd nodeId = some fd →
        ∃ connection,
          system.history.recorded.lookup nodeId = some connection
  clients :
    ∀ requestId fd,
      system.worker.requestTracker.getClientFd requestId = some fd →
        ∃ connection, (requestId, connection) ∈ system.history.tracked
  responses :
    ∀ call ∈ system.calls, ∀ recipient fd type,
      call.task.response call.received.event = some (recipient, fd, type) →
        system.intended call.received recipient ≠ []
  sendings : system.ResponsesDelivered

theorem latestRegistration_receive
    (system : OrchestratorSystem) (received : ReceivedEvent)
    (nodeId : ByteString) :
    (system.receive received).history.latestRegistration nodeId =
      if received.event.message.registers nodeId then
        some received.connection
      else system.history.latestRegistration nodeId := by
  unfold OrchestratorHistory.latestRegistration receive
  by_cases registers : received.event.message.registers nodeId = true
  · simp [registers]
  · simp [registers]

/-- A registration leaves the nodes alone that a handler sends to, or comes over
the connection they registered over before. -/
theorem intended_receive
    {system : OrchestratorSystem} {fd : Int32} {message : Message}
    {connection : Nat}
    (opened : system.connections.lookup fd = some connection)
    (current : system.RoutesCurrent (.receive fd message))
    {call : HandlerCall} (member : call ∈ system.calls)
    {recipient : Recipient} {kept : Int32} {type : MessageType}
    (response :
      call.task.response call.received.event = some (recipient, kept, type)) :
    (system.receive ⟨⟨fd, message⟩, connection⟩).intended call.received
        recipient =
      system.intended call.received recipient := by
  cases recipient with
  | sender | requester =>
      rfl
  | node nodeId =>
      simp only [intended, latestRegistration_receive]
      split
      · rename_i registers
        obtain ⟨isRegistration, sameNode⟩ := of_decide_eq_true registers
        subst sameNode
        have sends :
            system.calls.any
                (HandlerCall.sendsTo message.nodeInfo.nodeId) =
              true := by
          refine List.any_eq_true.mpr ⟨call, member, decide_eq_true ?_⟩
          rw [response]
          rfl
        rw [current isRegistration sends, opened]
      · rfl

theorem Kept.receive
    {system : OrchestratorSystem} {fd kept : Int32} {message : Message}
    {connection number : Nat}
    (holds :
      (system.receive ⟨⟨fd, message⟩, connection⟩).Kept kept number)
    (opened : system.connections.lookup fd = some connection)
    (current : system.RoutesCurrent (.receive fd message)) :
    system.Kept kept number ∨ kept = fd ∧ number = connection := by
  cases holds with
  | queued member keepsFd =>
      simp only [OrchestratorSystem.receive] at member
      split at member
      · rcases List.mem_append.mp member with earlier | last
        · exact Or.inl (.queued earlier keepsFd)
        · rw [List.mem_singleton.mp last]
          exact Or.inr ⟨rfl, rfl⟩
      · exact Or.inl (.queued member keepsFd)
  | node found recorded =>
      exact Or.inl (.node found recorded)
  | client found tracked =>
      exact Or.inl (.client found tracked)
  | own member usesOwnFd =>
      exact Or.inl (.own member usesOwnFd)
  | response member response intended =>
      rw [intended_receive opened current member response] at intended
      exact Or.inl (.response member response intended)

theorem Routed.receive
    {system : OrchestratorSystem} {fd : Int32} {message : Message}
    {connection : Nat} (routed : system.Routed)
    (opened : system.connections.lookup fd = some connection)
    (current : system.RoutesCurrent (.receive fd message)) :
    (system.receive ⟨⟨fd, message⟩, connection⟩).Routed where
  distinct := ⟨routed.distinct.below, routed.distinct.injective⟩
  points := by
    intro kept number holds
    rcases holds.receive opened current with earlier | ⟨sameFd, same⟩
    · exact routed.points kept number earlier
    · rw [sameFd, same]
      exact routed.distinct.points opened
  nodes := routed.nodes
  clients := routed.clients
  responses := by
    intro call member recipient kept type response
    rw [intended_receive opened current member response]
    exact routed.responses call member recipient kept type response
  sendings := routed.sendings

theorem Routed.waitAndPop
    {system next : OrchestratorSystem} (routed : system.Routed)
    (taken : system.step .waitAndPop = some next) :
    next.Routed := by
  have distinct := routed.distinct.step taken
  simp only [OrchestratorSystem.step] at taken
  split at taken
  · cases taken
  · rename_i received rest queue
    cases taken
    have first : received ∈ system.eventQueue := by
      rw [queue]
      exact List.mem_cons_self
    refine
      ⟨distinct, ?_, routed.nodes, routed.clients, ?_, routed.sendings⟩
    · intro fd connection kept
      cases kept with
      | queued member keepsFd =>
          apply routed.points
          apply Kept.queued ?_ keepsFd
          rw [queue]
          exact List.mem_cons_of_mem received member
      | node found recorded =>
          exact routed.points fd connection (.node found recorded)
      | client found tracked =>
          exact routed.points fd connection (.client found tracked)
      | own member usesOwnFd =>
          rcases List.mem_append.mp member with earlier | last
          · exact routed.points _ _ (.own earlier usesOwnFd)
          · rw [List.mem_singleton.mp last] at usesOwnFd ⊢
            exact
              routed.points _ _
                (.queued first (HandlerTask.keepsFd_of_first usesOwnFd))
      | response member response intended =>
          rcases List.mem_append.mp member with earlier | last
          · exact
              routed.points fd connection (.response earlier response intended)
          · rw [List.mem_singleton.mp last, HandlerTask.response_first]
              at response
            cases response
    · intro call member recipient fd type response
      rcases List.mem_append.mp member with earlier | last
      · exact routed.responses call earlier recipient fd type response
      · rw [List.mem_singleton.mp last, HandlerTask.response_first]
          at response
        cases response

/-! ## Sections -/

/-- A section changes whom the requests are tracked for, and nothing else that
tells where responses are meant to go. -/
theorem mem_intended_apply
    {system : OrchestratorSystem} {received other : ReceivedEvent}
    {effect : SectionEffect} {recipient : Recipient} {connection : Nat}
    (intended :
      connection ∈ (system.apply received effect).intended other recipient) :
    connection ∈ system.intended other recipient ∨
      ∃ requestInfo,
        effect = .trackRequest requestInfo ∧
          recipient = .requester requestInfo.requestId ∧
          connection = received.connection := by
  cases effect with
  | trackRequest requestInfo =>
      cases recipient with
      | sender | node =>
          exact Or.inl intended
      | requester requestId =>
          simp only [OrchestratorSystem.intended, apply, List.mem_map,
            List.mem_filter, List.mem_append, List.mem_singleton,
            decide_eq_true_eq] at intended ⊢
          obtain ⟨tracked, ⟨earlier | last, sameRequest⟩, same⟩ := intended
          · exact Or.inl ⟨tracked, ⟨earlier, sameRequest⟩, same⟩
          · subst last
            subst sameRequest
            exact Or.inr ⟨requestInfo, rfl, rfl, same.symm⟩
  | nothing | setRouter | setRequestTracker | addNode | addNodeFd
  | setExchangeTracker | setRunning | enqueueResponse =>
      cases recipient <;>
        exact Or.inl intended

theorem intended_subset_apply
    (system : OrchestratorSystem) (received other : ReceivedEvent)
    (effect : SectionEffect) (recipient : Recipient) :
    system.intended other recipient ⊆
      (system.apply received effect).intended other recipient := by
  intro connection intended
  cases effect with
  | trackRequest requestInfo =>
      cases recipient with
      | sender | node =>
          exact intended
      | requester requestId =>
          simp only [OrchestratorSystem.intended, apply, List.mem_map,
            List.mem_filter, List.mem_append] at intended ⊢
          obtain ⟨tracked, ⟨earlier, sameRequest⟩, same⟩ := intended
          exact ⟨tracked, ⟨Or.inl earlier, sameRequest⟩, same⟩
  | nothing | setRouter | setRequestTracker | addNode | addNodeFd
  | setExchangeTracker | setRunning | enqueueResponse =>
      cases recipient <;>
        exact intended

/-- A descriptor found in the registry was there before, or the section has
recorded its own. -/
theorem getNodeFd_apply
    {system : OrchestratorSystem} {received : ReceivedEvent}
    {effect : SectionEffect} {nodeId : ByteString} {fd : Int32}
    (found :
      (system.apply received effect).worker.nodeRegistry.getNodeFd nodeId =
        some fd) :
    (system.worker.nodeRegistry.getNodeFd nodeId = some fd ∧
        (system.apply received effect).history.recorded.lookup nodeId =
          system.history.recorded.lookup nodeId) ∨
      effect = .addNodeFd nodeId ∧ fd = received.event.clientFd ∧
        (system.apply received effect).history.recorded.lookup nodeId =
          some received.connection := by
  cases effect with
  | addNodeFd added =>
      simp only [apply, NodeRegistry.getNodeFd, NodeRegistry.addNodeFd]
        at found ⊢
      by_cases same : nodeId = added
      · subst same
        rw [AList.lookup_insert] at found
        exact
          Or.inr
            ⟨rfl, (Option.some.inj found).symm, AList.lookup_insert _⟩
      · rw [AList.lookup_insert_ne same] at found
        exact Or.inl ⟨found, AList.lookup_insert_ne same⟩
  | nothing | setRouter | setRequestTracker | trackRequest | addNode
  | setExchangeTracker | setRunning | enqueueResponse =>
      exact Or.inl ⟨found, rfl⟩

/-- A descriptor found in the tracker was there before, or the section has
recorded its own. -/
theorem getClientFd_apply
    {system : OrchestratorSystem} {received : ReceivedEvent}
    {effect : SectionEffect} {task reached : HandlerTask}
    {requestId : ByteString} {fd : Int32}
    (source :
      effect.ComesFrom system.worker received.event task reached)
    (found :
      (system.apply received effect).worker.requestTracker.getClientFd
          requestId =
        some fd) :
    system.worker.requestTracker.getClientFd requestId = some fd ∨
      ∃ requestInfo,
        effect = .trackRequest requestInfo ∧
          requestId = requestInfo.requestId ∧
          fd = received.event.clientFd := by
  cases effect with
  | trackRequest requestInfo =>
      simp only [apply, RequestTrackerOrchestrator.getClientFd_trackRequest]
        at found
      split at found
      · rename_i same
        exact
          Or.inr ⟨requestInfo, rfl, same, (Option.some.inj found).symm⟩
      · exact Or.inl found
  | setRequestTracker requestTracker =>
      obtain ⟨updated, status, now, same⟩ := source
      simp only [apply, same,
        RequestTrackerOrchestrator.getClientFd_updateStatus] at found
      exact Or.inl found
  | nothing | setRouter | addNode | addNodeFd | setExchangeTracker
  | setRunning | enqueueResponse =>
      exact Or.inl found

theorem mem_tracked_apply
    {system : OrchestratorSystem} {received : ReceivedEvent}
    {effect : SectionEffect} {requestId : ByteString} {connection : Nat}
    (tracked :
      (requestId, connection) ∈
        (system.apply received effect).history.tracked) :
    (requestId, connection) ∈ system.history.tracked ∨
      ∃ requestInfo,
        effect = .trackRequest requestInfo ∧
          requestId = requestInfo.requestId ∧
          connection = received.connection := by
  cases effect with
  | trackRequest requestInfo =>
      rcases List.mem_append.mp tracked with earlier | last
      · exact Or.inl earlier
      · cases List.mem_singleton.mp last
        exact Or.inr ⟨requestInfo, rfl, rfl, rfl⟩
  | nothing | setRouter | setRequestTracker | addNode | addNodeFd
  | setExchangeTracker | setRunning | enqueueResponse =>
      exact Or.inl tracked

theorem tracked_subset_apply
    (system : OrchestratorSystem) (received : ReceivedEvent)
    (effect : SectionEffect) :
    system.history.tracked ⊆
      (system.apply received effect).history.tracked := by
  cases effect with
  | trackRequest requestInfo =>
      exact List.subset_append_left _ _
  | nothing | setRouter | setRequestTracker | addNode | addNodeFd
  | setExchangeTracker | setRunning | enqueueResponse =>
      exact List.Subset.refl _

theorem mem_intended_requester
    (system : OrchestratorSystem) (received : ReceivedEvent)
    {requestId : ByteString} {connection : Nat} :
    connection ∈ system.intended received (.requester requestId) ↔
      (requestId, connection) ∈ system.history.tracked := by
  simp only [OrchestratorSystem.intended, List.mem_map, List.mem_filter,
    decide_eq_true_eq]
  constructor
  · intro intended
    obtain ⟨⟨tracked, number⟩, ⟨member, sameRequest⟩, same⟩ := intended
    rw [← sameRequest, ← same]
    exact member
  · intro member
    exact ⟨(requestId, connection), ⟨member, rfl⟩, rfl⟩

/-- The connection of a request that is being tracked is that of all requests
with its id. -/
theorem connection_of_tracked
    {system : OrchestratorSystem} {call : HandlerCall} {task : HandlerTask}
    {requestInfo : RequestInfo}
    (source :
      (SectionEffect.trackRequest requestInfo).ComesFrom system.worker
        call.received.event call.task task)
    (current : system.routesCurrent call = true) {connection : Nat}
    (tracked :
      (requestInfo.requestId, connection) ∈ system.history.tracked) :
    connection = call.received.connection := by
  obtain ⟨⟨routing, isTracking⟩, sameRequest, _⟩ := source
  exact tracked_of_routesCurrent current isTracking tracked sameRequest

/-- A descriptor that a section looks up for a recipient is kept for whom the
response is intended, and there is somebody. -/
theorem Routed.intended_of_response
    {system : OrchestratorSystem} {call : HandlerCall} {input : SectionInput}
    {effect : SectionEffect} {task : HandlerTask} {recipient : Recipient}
    {fd : Int32} {type : MessageType}
    (routed : system.Routed) (called : call ∈ system.calls)
    (current : system.routesCurrent call = true)
    (advanced :
      call.task.advance system.worker call.received.event input =
        some (effect, task))
    (response :
      task.response call.received.event = some (recipient, fd, type)) :
    system.intended call.received recipient ≠ [] ∧
      ∀ connection ∈ system.intended call.received recipient,
        system.Kept fd connection := by
  obtain ⟨_, ⟨isSender, sameFd, usesOwnFd⟩ | ⟨nodeId, isNode, looksUp, foundFd⟩ |
    ⟨requestId, isRequester, _, foundFd⟩⟩ :=
    HandlerTask.response_advance advanced response
  · rw [isSender, sameFd]
    refine ⟨List.cons_ne_nil _ _, ?_⟩
    intro connection intended
    rw [List.mem_singleton.mp intended]
    exact .own called usesOwnFd
  · rw [isNode]
    obtain ⟨recorded, isRecorded⟩ := routed.nodes nodeId fd foundFd
    have latest := recorded_of_routesCurrent current looksUp isRecorded
    refine ⟨List.ne_nil_of_mem (Option.mem_toList.mpr latest), ?_⟩
    intro connection intended
    have isLatest := Option.mem_toList.mp intended
    rw [Option.some.inj (isLatest.symm.trans latest)]
    exact .node foundFd isRecorded
  · rw [isRequester]
    obtain ⟨tracked, isTracked⟩ := routed.clients requestId fd foundFd
    have member :=
      (mem_intended_requester system call.received).mpr isTracked
    refine ⟨List.ne_nil_of_mem member, ?_⟩
    intro connection intended
    exact
      .client foundFd
        ((mem_intended_requester system call.received).mp intended)

/-- A section keeps no descriptor for a connection for which it was not kept
before. -/
theorem Kept.advance
    {system : OrchestratorSystem} {index : Nat} {input : SectionInput}
    {call : HandlerCall} {effect : SectionEffect} {task : HandlerTask}
    {fd : Int32} {connection : Nat}
    (kept :
      ({ system.apply call.received effect with
          calls := system.calls.set index { call with task := task } } :
        OrchestratorSystem).Kept fd connection)
    (routed : system.Routed) (found : system.calls[index]? = some call)
    (advanced :
      call.task.advance system.worker call.received.event input =
        some (effect, task))
    (current : system.routesCurrent call = true) :
    system.Kept fd connection := by
  have called : call ∈ system.calls := List.mem_of_getElem? found
  have source := HandlerTask.comesFrom_advance advanced
  cases kept with
  | queued member keepsFd =>
      simp only [eventQueue_apply] at member
      exact .queued member keepsFd
  | node foundFd recorded =>
      rcases getNodeFd_apply foundFd with
        ⟨earlier, same⟩ | ⟨isAdding, sameFd, same⟩
      · exact .node earlier (same.symm.trans recorded)
      · rw [isAdding] at source
        have sameConnection := Option.some.inj (same.symm.trans recorded)
        rw [sameFd, ← sameConnection]
        apply Kept.own called
        rw [source.1]
        rfl
  | client foundFd tracked =>
      rcases getClientFd_apply source foundFd with
        earlier | ⟨requestInfo, isTracking, sameRequest, sameFd⟩
      · rcases mem_tracked_apply tracked with
          before | ⟨requestInfo, isTracking, sameRequest, same⟩
        · exact .client earlier before
        · obtain ⟨first, firstTracked⟩ := routed.clients _ fd earlier
          rw [isTracking] at source
          rw [sameRequest] at earlier firstTracked
          rw [same, ← connection_of_tracked source current firstTracked]
          exact .client earlier firstTracked
      · rw [isTracking] at source
        have sameConnection : connection = call.received.connection := by
          rcases mem_tracked_apply tracked with before | ⟨_, _, _, same⟩
          · rw [sameRequest] at before
            exact connection_of_tracked source current before
          · exact same
        obtain ⟨⟨routing, isTask⟩, _⟩ := source
        rw [sameFd, sameConnection]
        apply Kept.own called
        rw [isTask]
        rfl
  | own member usesOwnFd =>
      rcases List.mem_or_eq_of_mem_set member with earlier | last
      · exact .own earlier usesOwnFd
      · rw [last] at usesOwnFd ⊢
        have before := HandlerTask.usesOwnFd_advance advanced usesOwnFd
        have ownFd := Kept.own called before
        exact ownFd
  | @response other recipient _ type _ member response intended =>
      rcases List.mem_or_eq_of_mem_set member with earlier | last
      · rcases mem_intended_apply intended with
          before | ⟨requestInfo, isTracking, isRequester, same⟩
        · exact .response earlier response before
        · have some := routed.responses other earlier recipient fd type response
          obtain ⟨first, firstIntended⟩ := List.exists_mem_of_ne_nil _ some
          rw [isTracking] at source
          have firstTracked := firstIntended
          rw [isRequester] at firstTracked
          have sameConnection :=
            connection_of_tracked source current
              ((mem_intended_requester system other.received).mp firstTracked)
          rw [same, ← sameConnection]
          exact .response earlier response firstIntended
      · rw [last] at response intended
        obtain ⟨isNothing, _⟩ :=
          HandlerTask.response_advance advanced response
        rw [isNothing] at intended
        exact
          (routed.intended_of_response called current advanced response).2
            connection intended

theorem Routed.advance
    {system next : OrchestratorSystem} {index : Nat} {input : SectionInput}
    (routed : system.Routed)
    (taken : system.step (.advance index input) = some next)
    (current : system.RoutesCurrent (.advance index input)) :
    next.Routed := by
  have distinct := routed.distinct.step taken
  obtain ⟨call, effect, task, found, advanced, same⟩ := step_advance taken
  have called : call ∈ system.calls := List.mem_of_getElem? found
  have source := HandlerTask.comesFrom_advance advanced
  have callCurrent := current.call found
  refine ⟨distinct, ?_, ?_, ?_, ?_, ?_⟩
  · intro fd connection kept
    have points : system.Points fd connection := by
      apply routed.points
      rw [same] at kept
      exact kept.advance routed found advanced callCurrent
    apply points.step taken
    intro isAccept
    cases isAccept
  · intro nodeId fd foundFd
    rw [same] at foundFd ⊢
    rcases getNodeFd_apply foundFd with ⟨earlier, kept⟩ | ⟨_, _, recorded⟩
    · obtain ⟨connection, recorded⟩ := routed.nodes nodeId fd earlier
      exact ⟨connection, kept.trans recorded⟩
    · exact ⟨call.received.connection, recorded⟩
  · intro requestId fd foundFd
    rw [same] at foundFd ⊢
    rcases getClientFd_apply source foundFd with
      earlier | ⟨requestInfo, isTracking, sameRequest, _⟩
    · obtain ⟨connection, tracked⟩ := routed.clients requestId fd earlier
      exact
        ⟨connection, tracked_subset_apply system call.received effect tracked⟩
    · refine ⟨call.received.connection, ?_⟩
      rw [isTracking, sameRequest]
      exact List.mem_append_right _ (List.mem_singleton_self _)
  · intro other member recipient fd type response
    rw [same] at member ⊢
    have grows :=
      intended_subset_apply system call.received other.received effect
        recipient
    have some (connection : Nat)
        (intended : connection ∈ system.intended other.received recipient) :
        (system.apply call.received effect).intended other.received
            recipient ≠
          [] :=
      List.ne_nil_of_mem (grows intended)
    rcases List.mem_or_eq_of_mem_set member with earlier | last
    · obtain ⟨connection, intended⟩ :=
        List.exists_mem_of_ne_nil _
          (routed.responses other earlier recipient fd type response)
      exact some connection intended
    · have received : other.received = call.received := by
        rw [last]
      rw [last] at response
      rw [received] at some ⊢
      obtain ⟨connection, intended⟩ :=
        List.exists_mem_of_ne_nil _
          (routed.intended_of_response called callCurrent advanced response).1
      exact some connection intended
  · intro sending recorded
    rw [same] at recorded
    rcases mem_sendings_apply recorded with
      earlier | ⟨isEnqueue, _, intended, openConnections, reached⟩
    · exact routed.sendings sending earlier
    · rw [isEnqueue] at source
      refine ⟨?_, ?_⟩
      · rw [intended]
        exact routed.responses call called _ _ _ source
      · intro connection isIntended
        rw [intended] at isIntended
        rw [reached, openConnections]
        apply Points.reached
        exact routed.points _ _ (.response called source isIntended)

theorem Routed.step
    {system next : OrchestratorSystem} {action : OrchestratorSystemAction}
    (routed : system.Routed) (taken : system.step action = some next)
    (current : system.RoutesCurrent action) :
    next.Routed := by
  have distinct := routed.distinct.step taken
  have points (fd : Int32) (connection : Nat)
      (kept : system.Kept fd connection) : next.Points fd connection := by
    apply (routed.points fd connection kept).step taken
    intro isAccept
    subst isAccept
    exact current kept.mem_keptFds
  cases action with
  | accept fd | removeConnection fd =>
      simp only [OrchestratorSystem.step] at taken
      split at taken <;>
        cases taken
      refine
        ⟨distinct, ?_, routed.nodes, routed.clients, routed.responses,
          routed.sendings⟩
      intro kept connection holds
      apply points
      cases holds with
      | queued member keepsFd =>
          exact .queued member keepsFd
      | node found recorded =>
          exact .node found recorded
      | client found tracked =>
          exact .client found tracked
      | own member usesOwnFd =>
          exact .own member usesOwnFd
      | response member response intended =>
          rename_i recipient _
          cases recipient <;>
            exact .response member response intended
  | receive fd message =>
      obtain ⟨connection, opened, same⟩ := Option.map_eq_some_iff.mp taken
      rw [← same]
      exact routed.receive opened current
  | waitAndPop =>
      exact routed.waitAndPop taken
  | advance index input =>
      exact routed.advance taken current

theorem routed_start
    (orchestratorId nodeId : ByteString)
    (expectedPrefillNodes expectedDecodeNodes : Int32)
    (eventQueueSize : UInt64) :
    (start orchestratorId nodeId expectedPrefillNodes expectedDecodeNodes
      eventQueueSize).Routed where
  distinct := by
    constructor
    · intro fd connection found
      cases found
    · intro fd other connection found
      cases found
  points := by
    intro fd connection kept
    cases kept with
    | queued member =>
        cases member
    | node found =>
        cases found
    | client found =>
        cases found
    | own member =>
        cases member
    | response member =>
        cases member
  nodes := by
    intro nodeId fd found
    cases found
  clients := by
    intro requestId fd found
    cases found
  responses := by
    intro call called
    cases called
  sendings := by
    intro sending recorded
    cases recorded

end OrchestratorSystem

open OrchestratorSystem in
/-- In a run in which no kept descriptor becomes stale, every response reaches
the connection it is meant for, or no one if that is closed. -/
theorem responses_delivered
    (orchestratorId nodeId : ByteString)
    (expectedPrefillNodes expectedDecodeNodes : Int32)
    (eventQueueSize : UInt64) {actions : List OrchestratorSystemAction}
    (current :
      LabelledRuns.Meets step RoutesCurrent
        (start orchestratorId nodeId expectedPrefillNodes expectedDecodeNodes
          eventQueueSize)
        actions) :
    LabelledRuns.Throughout step ResponsesDelivered
      (start orchestratorId nodeId expectedPrefillNodes expectedDecodeNodes
        eventQueueSize)
      actions :=
  LabelledRuns.throughout_of_meets
    (fun _ _ _ taken met routed => Routed.step routed taken met)
    (fun _ routed => routed.sendings) current (routed_start _ _ _ _ _)

namespace OrchestratorSystem

/-- Both nodes register, and the client over descriptor `7` asks for the request
`10`. -/
def routedRequest : List OrchestratorSystemAction :=
  [.accept 5, .accept 6, .accept 7] ++
    sampleReceived 5 (sampleRegistration (.healthy [1] .prefill)) ++
    sampleSections 0 4 [] sampleNodes ++
    sampleReceived 6 (sampleRegistration (.healthy [2] .decode)) ++
    sampleSections 1 10 [] sampleNodes ++
    sampleReceived 7 (sampleRequest .clientRequest [10]) ++
    sampleSelected 2 12

/-- The decode node reports that the request `10` has failed. -/
def routedFailure (index : Nat) : List OrchestratorSystemAction :=
  sampleReceived 6 (sampleRequest .requestFailed [10]) ++
    sampleSections index 7 [] []

/-- The client leaves before the answer, and its descriptor is given to another
one. -/
def reusedClientFd : List OrchestratorSystemAction :=
  routedRequest ++ [.removeConnection 7, .accept 7] ++ routedFailure 3

/-- Another client asks for a request with the same id. -/
def repeatedRequestId : List OrchestratorSystemAction :=
  routedRequest ++ [.accept 8] ++
    sampleReceived 8 (sampleRequest .clientRequest [10]) ++
    sampleSelected 3 12 ++ routedFailure 4

/-- The decode node leaves, and its descriptor is given to a client. -/
def reusedNodeFd : List OrchestratorSystemAction :=
  routedRequest ++ [.removeConnection 6, .accept 6] ++
    sampleReceived 7 (sampleRequest .clientRequest [11]) ++
    sampleSelected 3 12

/-- A client that has sent nothing leaves, and its descriptor is given to
another one. -/
def reusedIdleFd : List OrchestratorSystemAction :=
  routedRequest ++ [.accept 8, .removeConnection 8, .accept 8] ++
    sampleReceived 8 (sampleRequest .clientRequest [11]) ++
    sampleSelected 3 12 ++ routedFailure 4

/-- A response as the examples show it. -/
def sampleSending (sending : Sending) :
    MessageType × List Nat × Option Nat :=
  (sending.message.type, sending.intended, sending.reached)

theorem not_delivered_of_misrouted
    {actions : List OrchestratorSystemAction} {type : MessageType}
    {intended : List Nat} {reached : Nat}
    (outcome :
      (LabelledRuns.execute step sampleStart actions).map
          (fun final =>
            final.history.sendings.any fun sending =>
              decide
                (sampleSending sending = (type, intended, some reached) ∧
                  ∃ connection ∈ intended, connection ≠ reached)) =
        some true) :
    ∃ final sending,
      LabelledRuns.execute step sampleStart actions = some final ∧
        sending ∈ final.history.sendings ∧
        sampleSending sending = (type, intended, some reached) ∧
        ¬ final.ResponsesDelivered := by
  obtain ⟨final, run, observed⟩ := Option.map_eq_some_iff.mp outcome
  obtain ⟨sending, member, misrouted⟩ := List.any_eq_true.mp observed
  obtain ⟨shown, connection, isIntended, different⟩ :=
    of_decide_eq_true misrouted
  refine ⟨final, sending, run, member, shown, ?_⟩
  intro delivered
  simp only [sampleSending, Prod.mk.injEq] at shown
  rw [← shown.2.1] at isIntended
  have reached := (delivered sending member).2 connection isIntended
  rw [shown.2.2] at reached
  split at reached
  · exact different (Option.some.inj reached).symm
  · cases reached

/-- The answer of one client goes to another when its descriptor is used again
or its request id is repeated, and the request of a client goes to another one
when the descriptor of a node is used again. -/
theorem misrouted_responses :
    (∃ final sending,
      LabelledRuns.execute step sampleStart reusedClientFd = some final ∧
        sending ∈ final.history.sendings ∧
        sampleSending sending = (.requestFailed, [2], some 3) ∧
        ¬ final.ResponsesDelivered) ∧
      (∃ final sending,
        LabelledRuns.execute step sampleStart repeatedRequestId =
            some final ∧
          sending ∈ final.history.sendings ∧
          sampleSending sending = (.requestFailed, [2, 3], some 3) ∧
          ¬ final.ResponsesDelivered) ∧
      ∃ final sending,
        LabelledRuns.execute step sampleStart reusedNodeFd = some final ∧
          sending ∈ final.history.sendings ∧
          sampleSending sending = (.prepareDecodeSlot, [1], some 3) ∧
          ¬ final.ResponsesDelivered := by
  refine
    ⟨not_delivered_of_misrouted ?_, not_delivered_of_misrouted ?_,
      not_delivered_of_misrouted ?_⟩ <;>
    decide +kernel

theorem responses_delivered_reusedIdleFd :
    (∃ final,
      LabelledRuns.execute step sampleStart reusedIdleFd = some final ∧
        final.history.sendings.map sampleSending =
          [(.broadcastMemberInfo, [0], some 0),
            (.broadcastMemberInfo, [1], some 1),
            (.prepareDecodeSlot, [1], some 1),
            (.assignRequest, [0], some 0),
            (.prepareDecodeSlot, [1], some 1),
            (.assignRequest, [0], some 0),
            (.requestFailed, [2], some 2)]) ∧
      LabelledRuns.Throughout step ResponsesDelivered sampleStart
        reusedIdleFd := by
  have outcome :
      (LabelledRuns.execute step sampleStart reusedIdleFd).map
          (fun final => final.history.sendings.map sampleSending) =
        some
          [(.broadcastMemberInfo, [0], some 0),
            (.broadcastMemberInfo, [1], some 1),
            (.prepareDecodeSlot, [1], some 1),
            (.assignRequest, [0], some 0),
            (.prepareDecodeSlot, [1], some 1),
            (.assignRequest, [0], some 0),
            (.requestFailed, [2], some 2)] := by
    decide +kernel
  obtain ⟨final, run, observed⟩ := Option.map_eq_some_iff.mp outcome
  exact
    ⟨⟨final, run, observed⟩,
      responses_delivered [0] [0] 1 1 16 (by decide +kernel)⟩

end OrchestratorSystem

end RdmaKvCache
