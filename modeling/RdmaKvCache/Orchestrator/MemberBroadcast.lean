import Mathlib.Data.List.Forall2
import Mathlib.Data.List.Perm.Basic
import RdmaKvCache.Library.TaskLists
import RdmaKvCache.Orchestrator.HandlerSections

/-!
# The list of the members

The handler of a registration adds the node to the registry, records its
connection, registers it with the exchange tracker and only then counts the
nodes.  The handler that counts as many as are expected sends the list of all
nodes to all of them.

When the expected nodes register once each, they all get the complete list
exactly once, provided that the node that completes the registry is added while
no other handler has added its node and not counted yet.  Otherwise several
handlers may see the full number, and one may send the list before another has
recorded a connection.
-/

namespace RdmaKvCache

/-- The nodes of a cluster of the given size. -/
structure ExpectedNodes
    (nodes : List NodeInfo) (prefillNodes decodeNodes : Int32) : Prop where
  distinct : (nodes.map NodeInfo.nodeId).Nodup
  roles : ∀ node ∈ nodes, node.role = .prefill ∨ node.role = .decode
  prefill :
    (nodes.countP fun node => decide (node.role = .prefill)) =
      prefillNodes.toInt
  decode :
    (nodes.countP fun node => decide (node.role = .decode)) =
      decodeNodes.toInt

/-- The node an event registers. -/
def ReceivedEvent.registration (received : ReceivedEvent) : Option NodeInfo :=
  if received.event.message.type = .rdmaProcessRegistration then
    some received.event.message.nodeInfo
  else none

/-- The registrations that have been received. -/
def OrchestratorHistory.registrations (history : OrchestratorHistory) :
    List NodeInfo :=
  history.received.filterMap ReceivedEvent.registration

/-- The response is a list of members for the node. -/
def Sending.broadcasts (sending : Sending) : Bool :=
  decide (sending.message.type = .broadcastMemberInfo)

def Sending.goesTo (nodeId : ByteString) (sending : Sending) : Bool :=
  decide (sending.recipient = .node nodeId)

/-- A handler that has added its node and has not counted the nodes yet. -/
def HandlerTask.isRegistering : HandlerTask → Bool
  | .registration .addingNodeFd => true
  | .registration .registering => true
  | .registration .counting => true
  | _ => false

theorem HandlerTask.isRegistering_cases
    {task : HandlerTask} (registering : task.isRegistering = true) :
    task = .registration .addingNodeFd ∨
      task = .registration .registering ∨
        task = .registration .counting := by
  rw [isRegistering.eq_def] at registering
  split at registering
  · exact .inl rfl
  · exact .inr (.inl rfl)
  · exact .inr (.inr rfl)
  · cases registering

namespace OrchestratorSystem

/-- The lists of members that have been sent. -/
def broadcasts (system : OrchestratorSystem) : List Sending :=
  system.history.sendings.filter Sending.broadcasts

/-- The registrations whose handlers are done. -/
def handledRegistrations (system : OrchestratorSystem) : List NodeInfo :=
  (system.calls.filter fun call =>
    decide (call.task = .finished)).filterMap fun call =>
      call.received.registration

/-- The list of the members is sent when all expected nodes have registered, and
in the end every node has been sent the complete list over its connection,
once. -/
structure MembersListed
    (nodes : List NodeInfo) (prefillNodes decodeNodes : Int32)
    (system : OrchestratorSystem) : Prop where
  complete :
    system.broadcasts ≠ [] →
      (system.worker.nodeRegistry.getAllNodes.countP fun node =>
          decide (node.role = .prefill)) = prefillNodes.toInt ∧
        (system.worker.nodeRegistry.getAllNodes.countP fun node =>
          decide (node.role = .decode)) = decodeNodes.toInt
  once :
    system.handledRegistrations.Perm nodes →
      system.worker.nodeRegistry.getAllNodes.Perm nodes ∧
        ∀ node ∈ nodes, ∃ sending,
          system.broadcasts.filter (Sending.goesTo node.nodeId) = [sending] ∧
            system.worker.nodeRegistry.getNodeFd node.nodeId =
              some sending.fd ∧
            nodes ⊆ sending.message.membershipListInfo

/-- As many nodes have registered as are expected. -/
def IsComplete (worker : WorkerOrchestrator) (registry : NodeRegistry) :
    Prop :=
  Int32.ofNat registry.getTotalRegisteredNodes =
    worker.expectedPrefillNodes + worker.expectedDecodeNodes

instance (worker : WorkerOrchestrator) (registry : NodeRegistry) :
    Decidable (IsComplete worker registry) :=
  inferInstanceAs (Decidable (_ = _))

/-- The handler does not complete the registry while another one is about to
count. -/
def completesAlone (system : OrchestratorSystem) (call : HandlerCall) : Bool :=
  match call.task with
  | .registration .addingNode =>
      decide
          (IsComplete system.worker
            (system.worker.nodeRegistry.addNode
              call.received.event.message.nodeInfo) →
            (system.calls.countP fun other => other.task.isRegistering) = 0)
  | _ => true

def CompletesAlone (system : OrchestratorSystem) :
    OrchestratorSystemAction → Prop
  | .advance index _ =>
      (system.calls[index]?.all system.completesAlone) = true
  | _ => True

instance (system : OrchestratorSystem) :
    ∀ action, Decidable (system.CompletesAlone action)
  | .accept _ => .isTrue trivial
  | .removeConnection _ => .isTrue trivial
  | .receive _ _ => .isTrue trivial
  | .waitAndPop => .isTrue trivial
  | .advance index _ =>
      inferInstanceAs
        (Decidable ((system.calls[index]?.all system.completesAlone) = true))

end OrchestratorSystem

/-! ## Handlers of other messages -/

def HandlerTask.isListing : HandlerTask → Bool
  | .registration .listing => true
  | .registration (.broadcasting _ _) => true
  | .registration (.sending _ _ _ _) => true
  | _ => false

theorem HandlerTask.isListing_cases
    {task : HandlerTask} (listing : task.isListing = true) :
    task = .registration .listing ∨
      (∃ remaining broadcastMsg,
        task = .registration (.broadcasting remaining broadcastMsg)) ∨
        ∃ node nodeFd remaining broadcastMsg,
          task =
            .registration (.sending node nodeFd remaining broadcastMsg) := by
  rw [isListing.eq_def] at listing
  split at listing
  · exact .inl rfl
  · exact .inr (.inl ⟨_, _, rfl⟩)
  · exact .inr (.inr ⟨_, _, _, _, rfl⟩)
  · cases listing

def HandlerCall.isRegistering (call : HandlerCall) : Bool :=
  call.task.isRegistering

def HandlerCall.isListing (call : HandlerCall) : Bool :=
  call.task.isListing

/-- The node a handler is about to add. -/
def HandlerCall.pending (call : HandlerCall) : Option NodeInfo :=
  if call.task = .registration .addingNode then
    some call.received.event.message.nodeInfo
  else none

theorem HandlerTask.isRegistering_other
    {task : HandlerTask}
    (other : task.messageType ≠ some .rdmaProcessRegistration) :
    task.isRegistering = false ∧ task.isListing = false ∧
      task ≠ .registration .addingNode := by
  cases task with
  | registration task =>
      exact absurd rfl other
  | clientRequest | ready | prefillComplete | failure | blocked | finished =>
      refine ⟨rfl, rfl, ?_⟩
      intro same
      cases same

theorem HandlerTask.other_advance
    {worker : WorkerOrchestrator} {event : Event} {input : SectionInput}
    {task reached : HandlerTask} {effect : SectionEffect}
    (advanced : task.advance worker event input = some (effect, reached))
    (other : task.messageType ≠ some .rdmaProcessRegistration) :
    reached.messageType ≠ some .rdmaProcessRegistration := by
  rcases messageType_advance advanced with kept | none
  · rw [kept]
    exact other
  · rw [none]
    intro same
    cases same

theorem OrchestratorSystem.broadcasts_enqueueResponse
    (system : OrchestratorSystem) (received : ReceivedEvent)
    (recipient : Recipient) (fd : Int32) (response : Message) :
    (system.enqueueResponse received recipient fd response).broadcasts =
      system.broadcasts ++
        if response.type = .broadcastMemberInfo then
          [system.sending received recipient fd response]
        else [] := by
  have appended :=
    List.filter_append (p := Sending.broadcasts) system.history.sendings
      [system.sending received recipient fd response]
  refine appended.trans (congrArg (system.broadcasts ++ ·) ?_)
  split
  · rename_i isBroadcast
    exact List.filter_cons_of_pos (decide_eq_true isBroadcast)
  · rename_i notBroadcast
    apply List.filter_cons_of_neg
    rw [Bool.not_eq_true]
    exact decide_eq_false notBroadcast

/-- The handlers of other messages do not change the registry and send no list
of members. -/
theorem OrchestratorSystem.apply_other
    (system : OrchestratorSystem) {received : ReceivedEvent}
    {input : SectionInput} {task reached : HandlerTask}
    {effect : SectionEffect}
    (advanced :
      task.advance system.worker received.event input =
        some (effect, reached))
    (other : task.messageType ≠ some .rdmaProcessRegistration) :
    (system.apply received effect).worker.nodeRegistry =
        system.worker.nodeRegistry ∧
      (system.apply received effect).broadcasts = system.broadcasts := by
  have source := HandlerTask.comesFrom_advance advanced
  cases effect with
  | addNode | addNodeFd =>
      rw [source.1] at other
      exact absurd rfl other
  | enqueueResponse recipient fd response =>
      refine ⟨rfl, ?_⟩
      have notBroadcast : response.type ≠ .broadcastMemberInfo := by
        intro isBroadcast
        rw [SectionEffect.ComesFrom, isBroadcast] at source
        unfold HandlerTask.response at source
        split at source
        case h_4 =>
          exact absurd rfl other
        all_goals cases source
      have unchanged :=
        system.broadcasts_enqueueResponse received recipient fd response
      rw [if_neg notBroadcast, List.append_nil] at unchanged
      exact unchanged
  | nothing | setRouter | setRequestTracker | trackRequest
  | setExchangeTracker | setRunning =>
      exact ⟨rfl, rfl⟩

theorem HandlerTask.isRegistering_first (message : Message) :
    (first message).isRegistering = false ∧
      (first message).isListing = false := by
  unfold first
  split <;>
    exact ⟨rfl, rfl⟩

/-- A handler starts by adding the node it registers. -/
theorem HandlerCall.pending_first (received : ReceivedEvent) :
    pending ⟨received, .first received.event.message⟩ =
      received.registration := by
  unfold pending ReceivedEvent.registration
  by_cases isRegistration :
      received.event.message.type = .rdmaProcessRegistration
  · have isFirst :
        HandlerTask.first received.event.message =
          .registration .addingNode := by
      unfold HandlerTask.first
      rw [isRegistration]
    rw [if_pos isRegistration, if_pos isFirst]
  · rw [if_neg isRegistration]
    apply if_neg
    intro isFirst
    apply isRegistration
    apply HandlerTask.messageType_first
    rw [show HandlerTask.first _ = _ from isFirst]
    rfl

/-! ## Registered nodes -/

namespace NodeRegistry

/-- Every node is in the registry under its own name. -/
def Keyed (registry : NodeRegistry) : Prop :=
  ∀ entry ∈ registry.nodes.entries, entry.1 = entry.2.nodeId

theorem Keyed.keys_eq {registry : NodeRegistry} (keyed : registry.Keyed) :
    registry.nodes.keys = registry.getAllNodes.map NodeInfo.nodeId := by
  unfold getAllNodes AList.keys List.keys
  rw [List.map_map]
  exact List.map_congr_left keyed

/-- Adding a node under a new name. -/
theorem getAllNodes_addNode
    {registry : NodeRegistry} {node : NodeInfo} (keyed : registry.Keyed)
    (absent :
      node.nodeId ∉ registry.getAllNodes.map NodeInfo.nodeId) :
    (registry.addNode node).getAllNodes = node :: registry.getAllNodes ∧
      (registry.addNode node).Keyed := by
  rw [← keyed.keys_eq] at absent
  have entries :
      (registry.addNode node).nodes.entries =
        ⟨node.nodeId, node⟩ :: registry.nodes.entries :=
    AList.entries_insert_of_notMem absent
  constructor
  · unfold getAllNodes
    rw [entries]
    rfl
  · unfold Keyed
    rw [entries]
    intro entry member
    rcases List.mem_cons.mp member with first | earlier
    · rw [first]
    · exact keyed entry earlier

theorem getNodeFd_addNodeFd
    (registry : NodeRegistry) (nodeId tested : ByteString) (fd : Int32) :
    (registry.addNodeFd nodeId fd).getNodeFd tested =
      if tested = nodeId then some fd else registry.getNodeFd tested := by
  by_cases same : tested = nodeId
  · subst tested
    simp [getNodeFd, addNodeFd]
  · simp [getNodeFd, addNodeFd, same, AList.lookup_insert_ne same]

theorem getTotalRegisteredNodes_eq (registry : NodeRegistry) :
    registry.getTotalRegisteredNodes = registry.getAllNodes.length :=
  (List.length_map _).symm

end NodeRegistry

namespace ExpectedNodes

variable {nodes : List NodeInfo} {prefillNodes decodeNodes : Int32}

theorem length_eq
    (expected : ExpectedNodes nodes prefillNodes decodeNodes) :
    (nodes.length : Int) = prefillNodes.toInt + decodeNodes.toInt := by
  have others :
      (nodes.countP fun node => decide ¬ decide (node.role = .prefill) = true) =
        nodes.countP fun node => decide (node.role = .decode) := by
    apply List.countP_congr
    intro node member
    rcases expected.roles node member with isPrefill | isDecode
    · simp [isPrefill]
    · simp [isDecode]
  have split :=
    List.length_eq_countP_add_countP
      (fun node : NodeInfo => decide (node.role = .prefill)) (l := nodes)
  rw [others] at split
  rw [← expected.prefill, ← expected.decode]
  omega

/-- The numbers are compared as `int`, which is exact as long as no more nodes
than expected register. -/
theorem total_eq_iff
    (expected : ExpectedNodes nodes prefillNodes decodeNodes) {total : Nat}
    (atMost : total ≤ nodes.length) :
    Int32.ofNat total = prefillNodes + decodeNodes ↔ total = nodes.length := by
  have length := expected.length_eq
  have prefillBound := prefillNodes.toInt_lt
  have decodeBound := decodeNodes.toInt_lt
  rw [← Int32.toInt_inj, Int32.toInt_ofNat', Int32.toInt_add, ← length]
  constructor
  · intro same
    have wrapped :
        (total : Int).bmod (2 ^ 32) = (nodes.length : Int).bmod (2 ^ 32) :=
      same
    have congruent :
        (total : Int) % (2 ^ 32 : Nat) = nodes.length % (2 ^ 32 : Nat) := by
      rw [← Int.bmod_emod, wrapped, Int.bmod_emod]
    omega
  · intro same
    rw [same]

/-- No other of the nodes has the identifier of a node. -/
theorem absent_of_subperm
    (expected : ExpectedNodes nodes prefillNodes decodeNodes)
    {node : NodeInfo} {others : List NodeInfo}
    (among : (node :: others).Subperm nodes) :
    node.nodeId ∉ others.map NodeInfo.nodeId := by
  obtain ⟨kept, same, within⟩ := among
  have distinct :=
    (same.map NodeInfo.nodeId).nodup_iff.mp
      (expected.distinct.sublist (within.map _))
  exact (List.nodup_cons.mp distinct).1

end ExpectedNodes

/-- The node a handler registers. -/
def HandlerCall.registration (call : HandlerCall) : Option NodeInfo :=
  call.received.registration

/-! ## Every registration is added once -/

/-- The received registrations are in the queue, about to be added, or added;
and a connection is recorded for every added node, or about to be. -/
structure Collected
    (registry : NodeRegistry) (calls : List HandlerCall)
    (eventQueue : List ReceivedEvent) (registrations : List NodeInfo) :
    Prop where
  keyed : registry.Keyed
  received :
    (calls.filterMap HandlerCall.registration ++
      eventQueue.filterMap ReceivedEvent.registration).Subperm registrations
  added :
    (registry.getAllNodes ++ calls.filterMap HandlerCall.pending).Perm
      (calls.filterMap HandlerCall.registration)
  connected :
    ∀ node ∈ registry.getAllNodes,
      (registry.getNodeFd node.nodeId).isSome = true ∨
        ∃ call ∈ calls,
          call.task = .registration .addingNodeFd ∧
            call.received.event.message.nodeInfo.nodeId = node.nodeId

namespace Collected

variable {registry : NodeRegistry} {calls others : List HandlerCall}
variable {call : HandlerCall} {task : HandlerTask}
variable {eventQueue : List ReceivedEvent} {registrations : List NodeInfo}

theorem perm
    (collected : Collected registry calls eventQueue registrations)
    {reordered : List HandlerCall} (same : calls.Perm reordered) :
    Collected registry reordered eventQueue registrations where
  keyed := collected.keyed
  received :=
    ((same.filterMap _).symm.append_right _).subperm.trans
      collected.received
  added :=
    (((same.filterMap _).symm.append_left _).trans collected.added).trans
      (same.filterMap _)
  connected := by
    intro node member
    rcases collected.connected node member with known | ⟨call, called, facts⟩
    · exact Or.inl known
    · exact Or.inr ⟨call, same.mem_iff.mp called, facts⟩

/-- The nodes that are in the registry or about to be have registered. -/
theorem subperm
    (collected : Collected registry calls eventQueue registrations) :
    (registry.getAllNodes ++ calls.filterMap HandlerCall.pending).Subperm
      registrations :=
  collected.added.subperm.trans
    ((List.sublist_append_left _ _).subperm.trans collected.received)

/-- So has, beside those in the registry, the one that is about to be added. -/
theorem adding_subperm
    (collected :
      Collected registry (call :: others) eventQueue registrations)
    (isAdding : call.task = .registration .addingNode) :
    (call.received.event.message.nodeInfo :: registry.getAllNodes).Subperm
      registrations := by
  have pending :
      call.pending = some call.received.event.message.nodeInfo :=
    if_pos isAdding
  have subperm := collected.subperm
  rw [List.filterMap_cons_some pending] at subperm
  have within :=
    (List.sublist_append_left registry.getAllNodes
      (others.filterMap HandlerCall.pending)).cons_cons
        call.received.event.message.nodeInfo
  exact within.subperm.trans (List.perm_middle.symm.subperm.trans subperm)

/-- A section that does not change the registry. -/
theorem keep
    (collected :
      Collected registry (call :: others) eventQueue registrations)
    (notAddingNode : call.task ≠ .registration .addingNode)
    (notAddingNodeFd : call.task ≠ .registration .addingNodeFd)
    (notReached : task ≠ .registration .addingNode) :
    Collected registry ({ call with task := task } :: others) eventQueue
      registrations where
  keyed := collected.keyed
  received := collected.received
  added := by
    have before : call.pending = none := if_neg notAddingNode
    have after : HandlerCall.pending { call with task := task } = none :=
      if_neg notReached
    have added := collected.added
    rw [List.filterMap_cons_none before] at added
    rw [List.filterMap_cons_none after]
    exact added
  connected := by
    intro node member
    rcases collected.connected node member with
      known | ⟨other, called, isAdding, named⟩
    · exact Or.inl known
    · rcases List.mem_cons.mp called with first | later
      · rw [first] at isAdding
        exact absurd isAdding notAddingNodeFd
      · exact
          Or.inr ⟨other, List.mem_cons_of_mem _ later, isAdding, named⟩

/-- When no other handler is about to count, every node has a connection. -/
theorem getNodeFd_of_listing
    (collected :
      Collected registry (call :: others) eventQueue registrations)
    (listing : call.isListing = true)
    (noneRegistering : others.countP HandlerCall.isRegistering = 0)
    {node : NodeInfo} (member : node ∈ registry.getAllNodes) :
    ∃ nodeFd, registry.getNodeFd node.nodeId = some nodeFd := by
  rcases collected.connected node member with
    known | ⟨other, called, isAdding, _⟩
  · exact Option.isSome_iff_exists.mp known
  · exfalso
    have isRegistering : other.isRegistering = true := by
      unfold HandlerCall.isRegistering
      rw [isAdding]
      rfl
    rcases List.mem_cons.mp called with first | later
    · unfold HandlerCall.isListing at listing
      rw [← first, isAdding] at listing
      cases listing
    · have positive :=
        List.countP_pos_iff.mpr ⟨other, later, isRegistering⟩
      omega

theorem addNode
    (collected :
      Collected registry (call :: others) eventQueue registrations)
    (isAddingNode : call.task = .registration .addingNode)
    (absent :
      call.received.event.message.nodeInfo.nodeId ∉
        registry.getAllNodes.map NodeInfo.nodeId) :
    Collected (registry.addNode call.received.event.message.nodeInfo)
      ({ call with task := .registration .addingNodeFd } :: others)
      eventQueue registrations := by
  obtain ⟨nodes, keyed⟩ :=
    NodeRegistry.getAllNodes_addNode collected.keyed absent
  refine ⟨keyed, collected.received, ?_, ?_⟩
  · have before :
        call.pending = some call.received.event.message.nodeInfo :=
      if_pos isAddingNode
    have after :
        HandlerCall.pending
            { call with task := .registration .addingNodeFd } = none :=
      if_neg (fun same => by cases same)
    have added := collected.added
    rw [List.filterMap_cons_some before] at added
    rw [List.filterMap_cons_none after, nodes, List.cons_append]
    exact List.perm_middle.symm.trans added
  · intro node member
    rw [nodes] at member
    rcases List.mem_cons.mp member with first | earlier
    · exact
        Or.inr ⟨_, List.mem_cons_self, rfl, congrArg NodeInfo.nodeId first.symm⟩
    · rcases collected.connected node earlier with
        known | ⟨other, called, isAdding, named⟩
      · exact Or.inl known
      · rcases List.mem_cons.mp called with first | later
        · rw [first, isAddingNode] at isAdding
          cases isAdding
        · exact
            Or.inr ⟨other, List.mem_cons_of_mem _ later, isAdding, named⟩

theorem addNodeFd
    (collected :
      Collected registry (call :: others) eventQueue registrations)
    (isAddingNodeFd : call.task = .registration .addingNodeFd) :
    Collected
      (registry.addNodeFd call.received.event.message.nodeInfo.nodeId
        call.received.event.clientFd)
      ({ call with task := .registration .registering } :: others)
      eventQueue registrations := by
  refine ⟨collected.keyed, collected.received, ?_, ?_⟩
  · have before : call.pending = none := by
      apply if_neg
      rw [isAddingNodeFd]
      intro same
      cases same
    have after :
        HandlerCall.pending
            { call with task := .registration .registering } = none :=
      if_neg (fun same => by cases same)
    have added := collected.added
    rw [List.filterMap_cons_none before] at added
    rw [List.filterMap_cons_none after]
    exact added
  · intro node member
    rw [NodeRegistry.getNodeFd_addNodeFd]
    by_cases same :
        node.nodeId = call.received.event.message.nodeInfo.nodeId
    · rw [if_pos same]
      exact Or.inl rfl
    · rw [if_neg same]
      rcases collected.connected node member with
        known | ⟨other, called, isAdding, named⟩
      · exact Or.inl known
      · rcases List.mem_cons.mp called with first | later
        · rw [first] at named
          exact absurd named.symm same
        · exact
            Or.inr ⟨other, List.mem_cons_of_mem _ later, isAdding, named⟩

/-- A worker takes the next event. -/
theorem waitAndPop {received : ReceivedEvent}
    (collected :
      Collected registry calls (received :: eventQueue) registrations) :
    Collected registry
      (⟨received, .first received.event.message⟩ :: calls) eventQueue
      registrations where
  keyed := collected.keyed
  received := by
    have handled :
        HandlerCall.registration
            ⟨received, .first received.event.message⟩ =
          received.registration :=
      rfl
    have earlier := collected.received
    cases registers : received.registration with
    | none =>
        rw [List.filterMap_cons_none registers] at earlier
        rw [List.filterMap_cons_none (handled.trans registers)]
        exact earlier
    | some node =>
        rw [List.filterMap_cons_some registers] at earlier
        rw [List.filterMap_cons_some (handled.trans registers)]
        exact List.perm_middle.symm.subperm.trans earlier
  added := by
    have handled :
        HandlerCall.registration
            ⟨received, .first received.event.message⟩ =
          received.registration :=
      rfl
    have pending := HandlerCall.pending_first received
    cases registers : received.registration with
    | none =>
        rw [List.filterMap_cons_none (pending.trans registers),
          List.filterMap_cons_none (handled.trans registers)]
        exact collected.added
    | some node =>
        rw [List.filterMap_cons_some (pending.trans registers),
          List.filterMap_cons_some (handled.trans registers)]
        exact List.perm_middle.trans (collected.added.cons node)
  connected := by
    intro node member
    rcases collected.connected node member with
      known | ⟨call, called, facts⟩
    · exact Or.inl known
    · exact Or.inr ⟨call, List.mem_cons_of_mem _ called, facts⟩

end Collected

/-! ## The list is sent once -/

/-- The list has been sent to the given nodes, in this order. -/
def SentTo
    (registry : NodeRegistry) (broadcastMsg : Message) :
    List NodeInfo → List Sending → Prop :=
  List.Forall₂ fun node sending =>
    sending.recipient = .node node.nodeId ∧
      registry.getNodeFd node.nodeId = some sending.fd ∧
      sending.message = broadcastMsg

theorem SentTo.goesTo_none
    {registry : NodeRegistry} {broadcastMsg : Message}
    {members : List NodeInfo} {sendings : List Sending}
    (sent : SentTo registry broadcastMsg members sendings)
    {nodeId : ByteString} (absent : nodeId ∉ members.map NodeInfo.nodeId) :
    sendings.filter (Sending.goesTo nodeId) = [] := by
  induction sent with
  | nil =>
      rfl
  | @cons node sending members sendings facts sent inductionHypothesis =>
      rw [List.map_cons, List.mem_cons, not_or] at absent
      have elsewhere : ¬ sending.goesTo nodeId = true := by
        intro here
        have sameRecipient := of_decide_eq_true here
        rw [facts.1] at sameRecipient
        exact absent.1 (Recipient.node.inj sameRecipient).symm
      rw [List.filter_cons_of_neg elsewhere]
      exact inductionHypothesis absent.2

/-- Every member is sent the list once. -/
theorem SentTo.once
    {registry : NodeRegistry} {broadcastMsg : Message}
    {members : List NodeInfo} {sendings : List Sending}
    (sent : SentTo registry broadcastMsg members sendings)
    (distinct : (members.map NodeInfo.nodeId).Nodup)
    {node : NodeInfo} (member : node ∈ members) :
    ∃ sending,
      sendings.filter (Sending.goesTo node.nodeId) = [sending] ∧
        registry.getNodeFd node.nodeId = some sending.fd ∧
        sending.message = broadcastMsg := by
  induction sent with
  | nil =>
      cases member
  | @cons first sending members sendings facts sent inductionHypothesis =>
      rw [List.map_cons, List.nodup_cons] at distinct
      by_cases same : node.nodeId = first.nodeId
      · have here : sending.goesTo node.nodeId = true := by
          apply decide_eq_true
          rw [facts.1, same]
        have absentLater :
            node.nodeId ∉ members.map NodeInfo.nodeId := by
          rw [same]
          exact distinct.1
        have noneLater := SentTo.goesTo_none sent absentLater
        refine ⟨sending, ?_, ?_, facts.2.2⟩
        · rw [List.filter_cons_of_pos here, noneLater]
        · rw [same]
          exact facts.2.1
      · have elsewhere : ¬ sending.goesTo node.nodeId = true := by
          intro here
          have sameRecipient := of_decide_eq_true here
          rw [facts.1] at sameRecipient
          exact same (Recipient.node.inj sameRecipient).symm
        have later : node ∈ members := by
          rcases List.mem_cons.mp member with isFirst | later
          · exact absurd (congrArg NodeInfo.nodeId isFirst) same
          · exact later
        rw [List.filter_cons_of_neg elsewhere]
        exact inductionHypothesis distinct.2 later

/-- What the handler that sends the list has sent by now. -/
def Progress
    (registry : NodeRegistry) (broadcasts : List Sending) :
    HandlerTask → Prop
  | .registration .listing => broadcasts = []
  | .registration (.broadcasting nodes broadcastMsg) =>
      ∃ sent,
        (sent ++ nodes).Perm registry.getAllNodes ∧
          broadcastMsg.membershipListInfo = sent ++ nodes ∧
          SentTo registry broadcastMsg sent broadcasts
  | .registration (.sending node nodeFd nodes broadcastMsg) =>
      registry.getNodeFd node.nodeId = some nodeFd ∧
        ∃ sent,
          (sent ++ node :: nodes).Perm registry.getAllNodes ∧
            broadcastMsg.membershipListInfo = sent ++ node :: nodes ∧
            SentTo registry broadcastMsg sent broadcasts
  | _ => False

/-- How far the bring-up has come when `size` nodes are expected: some nodes are
missing, the last one has been added, its handler sends the list, or has sent
it, or waits for ever. -/
inductive Phase
    (size : Nat) (registry : NodeRegistry) (calls : List HandlerCall)
    (broadcasts : List Sending) : Prop
  | collecting
      (missing : registry.getAllNodes.length < size)
      (noneListing : calls.countP HandlerCall.isListing = 0)
      (nothingSent : broadcasts = [])
  | completing
      (all : registry.getAllNodes.length = size)
      (oneRegistering : calls.countP HandlerCall.isRegistering = 1)
      (noneListing : calls.countP HandlerCall.isListing = 0)
      (nothingSent : broadcasts = [])
  | listing
      (all : registry.getAllNodes.length = size)
      (noneRegistering : calls.countP HandlerCall.isRegistering = 0)
      (oneListing : calls.countP HandlerCall.isListing = 1)
      (progress :
        ∀ call ∈ calls, call.isListing = true →
          Progress registry broadcasts call.task)
  | listed
      (all : registry.getAllNodes.length = size)
      (noneRegistering : calls.countP HandlerCall.isRegistering = 0)
      (noneListing : calls.countP HandlerCall.isListing = 0)
      (sentToAll :
        ∃ members broadcastMsg,
          members.Perm registry.getAllNodes ∧
            broadcastMsg.membershipListInfo = members ∧
            SentTo registry broadcastMsg members broadcasts)
  | stuck
      (all : registry.getAllNodes.length = size)
      (noneRegistering : calls.countP HandlerCall.isRegistering = 0)
      (noneListing : calls.countP HandlerCall.isListing = 0)
      (nothingSent : broadcasts = [])
      (blocked :
        ∃ call ∈ calls,
          call.registration.isSome = true ∧ call.task = .blocked)

namespace Phase

variable {size : Nat} {registry : NodeRegistry}
variable {calls others : List HandlerCall} {broadcasts : List Sending}
variable {call : HandlerCall} {task : HandlerTask}

/-- The phase stays where the counts do, as long as no other call is listing and
none that is blocked is left out. -/
theorem of_sameCounts
    (phase : Phase size registry calls broadcasts)
    {reached : List HandlerCall}
    (registering :
      reached.countP HandlerCall.isRegistering =
        calls.countP HandlerCall.isRegistering)
    (listing :
      reached.countP HandlerCall.isListing =
        calls.countP HandlerCall.isListing)
    (wasListing : ∀ call ∈ reached, call.isListing = true → call ∈ calls)
    (staysBlocked : ∀ call ∈ calls, call.task = .blocked → call ∈ reached) :
    Phase size registry reached broadcasts := by
  cases phase with
  | collecting missing noneListing nothingSent =>
      exact .collecting missing (listing.trans noneListing) nothingSent
  | completing all oneRegistering noneListing nothingSent =>
      exact
        .completing all (registering.trans oneRegistering)
          (listing.trans noneListing) nothingSent
  | listing all noneRegistering oneListing progress =>
      refine
        .listing all (registering.trans noneRegistering)
          (listing.trans oneListing) ?_
      intro call called isListing
      exact progress call (wasListing call called isListing) isListing
  | listed all noneRegistering noneListing sentToAll =>
      exact
        .listed all (registering.trans noneRegistering)
          (listing.trans noneListing) sentToAll
  | stuck all noneRegistering noneListing nothingSent blocked =>
      obtain ⟨call, called, registers, isBlocked⟩ := blocked
      exact
        .stuck all (registering.trans noneRegistering)
          (listing.trans noneListing) nothingSent
          ⟨call, staysBlocked call called isBlocked, registers, isBlocked⟩

theorem perm
    (phase : Phase size registry calls broadcasts)
    {reordered : List HandlerCall} (same : calls.Perm reordered) :
    Phase size registry reordered broadcasts := by
  refine phase.of_sameCounts (same.symm.countP_eq _) (same.symm.countP_eq _) ?_ ?_
  · intro call called _
    exact same.mem_iff.mpr called
  · intro call called _
    exact same.mem_iff.mp called

theorem countP_cons_of_true
    {property : HandlerCall → Bool} (holds : property call = true) :
    (call :: others).countP property = others.countP property + 1 := by
  rw [List.countP_cons, if_pos holds]

theorem countP_cons_of_false
    {property : HandlerCall → Bool} (fails : property call = false) :
    (call :: others).countP property = others.countP property := by
  rw [List.countP_cons, fails]
  rfl

/-- A section that does not concern the list. -/
theorem keep
    (phase : Phase size registry (call :: others) broadcasts)
    (sameRegistering : task.isRegistering = call.task.isRegistering)
    (notListing : call.task.isListing = false)
    (reachedNotListing : task.isListing = false)
    (notBlocked : call.task ≠ .blocked) :
    Phase size registry ({ call with task := task } :: others)
      broadcasts := by
  have registering :
      ({ call with task := task } :: others).countP
          HandlerCall.isRegistering =
        (call :: others).countP HandlerCall.isRegistering := by
    rw [List.countP_cons, List.countP_cons]
    exact congrArg (fun holds : Bool => _ + if holds then 1 else 0)
      sameRegistering
  have listing :
      ({ call with task := task } :: others).countP HandlerCall.isListing =
        (call :: others).countP HandlerCall.isListing := by
    have before : call.isListing = false := notListing
    have after :
        HandlerCall.isListing { call with task := task } = false :=
      reachedNotListing
    rw [countP_cons_of_false before, countP_cons_of_false after]
  refine phase.of_sameCounts registering listing ?_ ?_
  · intro other called isListing
    rcases List.mem_cons.mp called with first | later
    · rw [first] at isListing
      rw [show task.isListing = true from isListing] at reachedNotListing
      cases reachedNotListing
    · exact List.mem_cons_of_mem _ later
  · intro other called isBlocked
    rcases List.mem_cons.mp called with first | later
    · rw [first] at isBlocked
      exact absurd isBlocked notBlocked
    · exact List.mem_cons_of_mem _ later

/-- A worker takes the next event. -/
theorem waitAndPop
    (phase : Phase size registry calls broadcasts)
    (received : ReceivedEvent) :
    Phase size registry
      (⟨received, .first received.event.message⟩ :: calls) broadcasts := by
  obtain ⟨notRegistering, notListing⟩ :=
    HandlerTask.isRegistering_first received.event.message
  refine
    phase.of_sameCounts (countP_cons_of_false notRegistering)
      (countP_cons_of_false notListing) ?_ ?_
  · intro call called isListing
    rcases List.mem_cons.mp called with first | earlier
    · rw [first] at isListing
      exact absurd (notListing.symm.trans isListing) Bool.false_ne_true
    · exact earlier
  · intro call called _
    exact List.mem_cons_of_mem _ called

/-- While a handler is about to count, no list has been sent. -/
theorem of_registering
    (phase : Phase size registry (call :: others) broadcasts)
    (registering : call.isRegistering = true) :
    (registry.getAllNodes.length < size ∨
        registry.getAllNodes.length = size ∧
          others.countP HandlerCall.isRegistering = 0) ∧
      others.countP HandlerCall.isListing = 0 ∧ broadcasts = [] := by
  have counted :
      (call :: others).countP HandlerCall.isRegistering =
        others.countP HandlerCall.isRegistering + 1 :=
    countP_cons_of_true registering
  have fewer :
      others.countP HandlerCall.isListing ≤
        (call :: others).countP HandlerCall.isListing :=
    (List.sublist_cons_self call others).countP_le
  cases phase with
  | collecting missing noneListing nothingSent =>
      exact ⟨Or.inl missing, by omega, nothingSent⟩
  | completing all oneRegistering noneListing nothingSent =>
      exact ⟨Or.inr ⟨all, by omega⟩, by omega, nothingSent⟩
  | listing all noneRegistering | listed all noneRegistering
  | stuck all noneRegistering =>
      omega

/-- The handler that sends the list is the only one. -/
theorem of_listing
    (phase : Phase size registry (call :: others) broadcasts)
    (listing : call.isListing = true) :
    registry.getAllNodes.length = size ∧
      others.countP HandlerCall.isRegistering = 0 ∧
      others.countP HandlerCall.isListing = 0 ∧
      Progress registry broadcasts call.task := by
  have counted :
      (call :: others).countP HandlerCall.isListing =
        others.countP HandlerCall.isListing + 1 :=
    countP_cons_of_true listing
  have fewer :
      others.countP HandlerCall.isRegistering ≤
        (call :: others).countP HandlerCall.isRegistering :=
    (List.sublist_cons_self call others).countP_le
  cases phase with
  | listing all noneRegistering oneListing progress =>
      exact
        ⟨all, by omega, by omega,
          progress call List.mem_cons_self listing⟩
  | collecting missing noneListing | completing all one noneListing
  | listed all none noneListing | stuck all none noneListing =>
      omega

/-- The registry before a handler lists the nodes. -/
theorem of_early
    (early :
      (registry.getAllNodes.length < size ∨
          registry.getAllNodes.length = size ∧
            others.countP HandlerCall.isRegistering = 0) ∧
        others.countP HandlerCall.isListing = 0 ∧ broadcasts = [])
    (registering : task.isRegistering = true)
    (notListing : task.isListing = false) :
    Phase size registry ({ call with task := task } :: others)
      broadcasts := by
  obtain ⟨progress, noneListing, nothingSent⟩ := early
  have isRegistering :
      HandlerCall.isRegistering { call with task := task } = true :=
    registering
  have isNotListing :
      HandlerCall.isListing { call with task := task } = false :=
    notListing
  have listing :
      ({ call with task := task } :: others).countP HandlerCall.isListing =
        0 := by
    rw [countP_cons_of_false isNotListing, noneListing]
  rcases progress with missing | ⟨all, noneRegistering⟩
  · exact .collecting missing listing nothingSent
  · refine .completing all ?_ listing nothingSent
    rw [countP_cons_of_true isRegistering, noneRegistering]

theorem addNode
    (phase : Phase size registry (call :: others) broadcasts)
    (isAddingNode : call.task = .registration .addingNode) {node : NodeInfo}
    (added :
      (registry.addNode node).getAllNodes = node :: registry.getAllNodes)
    (atMost : (registry.addNode node).getAllNodes.length ≤ size)
    (alone :
      (registry.addNode node).getAllNodes.length = size →
        (call :: others).countP HandlerCall.isRegistering = 0) :
    Phase size (registry.addNode node)
      ({ call with task := .registration .addingNodeFd } :: others)
      broadcasts := by
  have length := congrArg List.length added
  rw [List.length_cons] at length
  have notRegistering : call.isRegistering = false := by
    unfold HandlerCall.isRegistering
    rw [isAddingNode]
    rfl
  have notListing : call.isListing = false := by
    unfold HandlerCall.isListing
    rw [isAddingNode]
    rfl
  cases phase with
  | collecting missing noneListing nothingSent =>
      rw [countP_cons_of_false notListing] at noneListing
      rw [countP_cons_of_false notRegistering] at alone
      refine of_early ⟨?_, noneListing, nothingSent⟩ rfl rfl
      rcases Nat.lt_or_eq_of_le atMost with missing | all
      · exact Or.inl missing
      · exact Or.inr ⟨all, alone all⟩
  | completing all | listing all | listed all | stuck all =>
      omega

/-- The handler leaves the program points before the list. -/
theorem finishRegistering
    (phase : Phase size registry (call :: others) broadcasts)
    (registering : call.isRegistering = true)
    (reachedNotRegistering : task.isRegistering = false)
    (reachedNotListing : task.isListing = false)
    (blocked :
      registry.getAllNodes.length = size →
        call.registration.isSome = true ∧ task = .blocked) :
    Phase size registry ({ call with task := task } :: others)
      broadcasts := by
  obtain ⟨progress, noneListing, nothingSent⟩ :=
    phase.of_registering registering
  have notRegistering :
      HandlerCall.isRegistering { call with task := task } = false :=
    reachedNotRegistering
  have notListing :
      HandlerCall.isListing { call with task := task } = false :=
    reachedNotListing
  have listing :
      ({ call with task := task } :: others).countP HandlerCall.isListing =
        0 := by
    rw [countP_cons_of_false notListing, noneListing]
  rcases progress with missing | ⟨all, noneRegistering⟩
  · exact .collecting missing listing nothingSent
  · obtain ⟨registers, isBlocked⟩ := blocked all
    refine
      .stuck all ?_ listing nothingSent
        ⟨_, List.mem_cons_self, registers, isBlocked⟩
    rw [countP_cons_of_false notRegistering, noneRegistering]

/-- The handler is the one that sends the list. -/
theorem of_progress {sent : List Sending}
    (all : registry.getAllNodes.length = size)
    (noneRegistering : others.countP HandlerCall.isRegistering = 0)
    (noneListing : others.countP HandlerCall.isListing = 0)
    (notRegistering : task.isRegistering = false)
    (listing : task.isListing = true)
    (progress : Progress registry sent task) :
    Phase size registry ({ call with task := task } :: others) sent := by
  have isNotRegistering :
      HandlerCall.isRegistering { call with task := task } = false :=
    notRegistering
  have isListing :
      HandlerCall.isListing { call with task := task } = true :=
    listing
  refine .listing all ?_ ?_ ?_
  · rw [countP_cons_of_false isNotRegistering, noneRegistering]
  · rw [countP_cons_of_true isListing, noneListing]
  · intro other called otherListing
    rcases List.mem_cons.mp called with first | later
    · rw [first]
      exact progress
    · have positive :=
        List.countP_pos_iff.mpr ⟨other, later, otherListing⟩
      omega

/-- The handler has sent the list to everybody. -/
theorem of_sent {broadcastMsg : Message} {members : List NodeInfo}
    (all : registry.getAllNodes.length = size)
    (noneRegistering : others.countP HandlerCall.isRegistering = 0)
    (noneListing : others.countP HandlerCall.isListing = 0)
    (complete : members.Perm registry.getAllNodes)
    (listed : broadcastMsg.membershipListInfo = members)
    (sent : SentTo registry broadcastMsg members broadcasts) :
    Phase size registry ({ call with task := .finished } :: others)
      broadcasts := by
  have notRegistering :
      HandlerCall.isRegistering { call with task := .finished } = false :=
    rfl
  have notListing :
      HandlerCall.isListing { call with task := .finished } = false :=
    rfl
  refine .listed all ?_ ?_ ⟨members, broadcastMsg, complete, listed, sent⟩
  · rw [countP_cons_of_false notRegistering, noneRegistering]
  · rw [countP_cons_of_false notListing, noneListing]

/-- When no handler of a registration is left, the list has been sent to all. -/
theorem sentToAll
    (phase : Phase size registry calls broadcasts)
    (all : registry.getAllNodes.length = size)
    (noneLeft :
      ∀ call ∈ calls,
        call.task.messageType ≠ some .rdmaProcessRegistration)
    (finished :
      ∀ call ∈ calls, call.registration.isSome = true →
        call.task = .finished) :
    ∃ members broadcastMsg,
      members.Perm registry.getAllNodes ∧
        broadcastMsg.membershipListInfo = members ∧
        SentTo registry broadcastMsg members broadcasts := by
  cases phase with
  | collecting missing noneListing nothingSent =>
      exact absurd all (Nat.ne_of_lt missing)
  | completing all oneRegistering noneListing nothingSent =>
      have positive : 0 < calls.countP HandlerCall.isRegistering := by
        omega
      obtain ⟨call, called, registering⟩ := List.countP_pos_iff.mp positive
      have other := HandlerTask.isRegistering_other (noneLeft call called)
      exact absurd (other.1.symm.trans registering) Bool.false_ne_true
  | listing all noneRegistering oneListing progress =>
      have positive : 0 < calls.countP HandlerCall.isListing := by
        omega
      obtain ⟨call, called, listing⟩ := List.countP_pos_iff.mp positive
      have other := HandlerTask.isRegistering_other (noneLeft call called)
      exact absurd (other.2.1.symm.trans listing) Bool.false_ne_true
  | stuck all noneRegistering noneListing nothingSent blocked =>
      obtain ⟨call, called, registers, isBlocked⟩ := blocked
      rw [finished call called registers] at isBlocked
      cases isBlocked
  | listed all noneRegistering noneListing sentToAll =>
      exact sentToAll

/-- Once a list has been sent all nodes are registered. -/
theorem all_of_sent
    (phase : Phase size registry calls broadcasts)
    (someSent : broadcasts ≠ []) :
    registry.getAllNodes.length = size := by
  cases phase with
  | collecting missing noneListing nothingSent =>
      exact absurd nothingSent someSent
  | completing all | listing all | listed all | stuck all =>
      exact all

end Phase

/-! ## Runs -/

namespace OrchestratorSystem

/-- The invariant of a bring-up in which the registry is completed while no
other handler is about to count. -/
structure BringUp
    (nodes : List NodeInfo) (prefillNodes decodeNodes : Int32)
    (system : OrchestratorSystem) : Prop where
  expectedPrefill : system.worker.expectedPrefillNodes = prefillNodes
  expectedDecode : system.worker.expectedDecodeNodes = decodeNodes
  collected :
    Collected system.worker.nodeRegistry system.calls system.eventQueue
      system.history.registrations
  phase :
    Phase nodes.length system.worker.nodeRegistry system.calls
      system.broadcasts

section Advance

variable {nodes : List NodeInfo} {prefillNodes decodeNodes : Int32}
variable {system : OrchestratorSystem} {call : HandlerCall}
variable {others : List HandlerCall} {input : SectionInput}
variable {effect : SectionEffect} {reached : HandlerTask}

/-- What a section of a handler must keep, with the handler in front. -/
def KeepsBringUp
    (nodes : List NodeInfo) (system : OrchestratorSystem) (call : HandlerCall)
    (others : List HandlerCall) (effect : SectionEffect)
    (reached : HandlerTask) : Prop :=
  Collected (system.apply call.received effect).worker.nodeRegistry
      ({ call with task := reached } :: others) system.eventQueue
      system.history.registrations ∧
    Phase nodes.length
      (system.apply call.received effect).worker.nodeRegistry
      ({ call with task := reached } :: others)
      (system.apply call.received effect).broadcasts

theorem keepsBringUp_other
    (collected :
      Collected system.worker.nodeRegistry (call :: others)
        system.eventQueue system.history.registrations)
    (phase :
      Phase nodes.length system.worker.nodeRegistry (call :: others)
        system.broadcasts)
    (advanced :
      call.task.advance system.worker call.received.event input =
        some (effect, reached))
    (other : call.task.messageType ≠ some .rdmaProcessRegistration) :
    KeepsBringUp nodes system call others effect reached := by
  obtain ⟨sameRegistry, sameBroadcasts⟩ := system.apply_other advanced other
  obtain ⟨notRegistering, notListing, notAdding⟩ :=
    HandlerTask.isRegistering_other other
  obtain ⟨reachedNotRegistering, reachedNotListing, reachedNotAdding⟩ :=
    HandlerTask.isRegistering_other (HandlerTask.other_advance advanced other)
  unfold KeepsBringUp
  rw [sameRegistry, sameBroadcasts]
  constructor
  · apply collected.keep notAdding _ reachedNotAdding
    intro isAddingNodeFd
    rw [isAddingNodeFd] at notRegistering
    cases notRegistering
  · apply
      phase.keep (reachedNotRegistering.trans notRegistering.symm) notListing
        reachedNotListing
    intro isBlocked
    rw [isBlocked] at advanced
    cases advanced

/-- Handlers other than those that add a node and its connection leave the
registry as it is. -/
theorem collected_registration
    (collected :
      Collected system.worker.nodeRegistry (call :: others)
        system.eventQueue system.history.registrations)
    (absent :
      call.task = .registration .addingNode →
        call.received.event.message.nodeInfo.nodeId ∉
          system.worker.nodeRegistry.getAllNodes.map NodeInfo.nodeId)
    {task : RegistrationTask} (isTask : call.task = .registration task)
    (advanced :
      task.advance system.worker call.received.event input =
        some (effect, reached)) :
    Collected (system.apply call.received effect).worker.nodeRegistry
      ({ call with task := reached } :: others) system.eventQueue
      system.history.registrations := by
  have keep
      (notAddingNode : task ≠ .addingNode)
      (notAddingNodeFd : task ≠ .addingNodeFd)
      (notReached : reached ≠ .registration .addingNode) :
      Collected system.worker.nodeRegistry
        ({ call with task := reached } :: others) system.eventQueue
        system.history.registrations := by
    apply collected.keep _ _ notReached
    · rw [isTask]
      intro same
      exact notAddingNode (HandlerTask.registration.inj same)
    · rw [isTask]
      intro same
      exact notAddingNodeFd (HandlerTask.registration.inj same)
  have taken := handlerSection_registration advanced
  cases taken with
  | addsNode =>
      exact collected.addNode isTask (absent isTask)
  | addsNodeFd =>
      exact collected.addNodeFd isTask
  | _ =>
      apply keep <;>
        intro same <;>
        cases same

/-- A section of a handler that is about to count the nodes. -/
theorem phase_registering
    (phase :
      Phase nodes.length system.worker.nodeRegistry (call :: others)
        system.broadcasts)
    (registers : call.registration.isSome = true)
    (isComplete :
      IsComplete system.worker system.worker.nodeRegistry ↔
        system.worker.nodeRegistry.getAllNodes.length = nodes.length)
    (registering : call.isRegistering = true)
    (advanced :
      call.task.advance system.worker call.received.event input =
        some (effect, reached)) :
    Phase nodes.length
      (system.apply call.received effect).worker.nodeRegistry
      ({ call with task := reached } :: others)
      (system.apply call.received effect).broadcasts := by
  have early := phase.of_registering registering
  rcases HandlerTask.isRegistering_cases registering with
    isTask | isTask | isTask
  · rw [isTask] at advanced
    cases advanced
    exact Phase.of_early early rfl rfl
  · rw [isTask] at advanced
    simp only [HandlerTask.advance, RegistrationTask.advance] at advanced
    split at advanced
    · cases advanced
      exact
        phase.finishRegistering registering rfl rfl
          (fun _ => ⟨registers, rfl⟩)
    · cases advanced
      exact Phase.of_early early rfl rfl
  · rw [isTask] at advanced
    obtain ⟨progress, noneListing, nothingSent⟩ := early
    simp only [HandlerTask.advance, RegistrationTask.advance] at advanced
    split at advanced
    · rename_i complete
      have all := isComplete.mp complete
      cases advanced
      rcases progress with missing | ⟨_, noneRegistering⟩
      · omega
      · exact
          Phase.of_progress all noneRegistering noneListing rfl rfl
            nothingSent
    · rename_i incomplete
      cases advanced
      apply phase.finishRegistering registering rfl rfl
      intro all
      exact absurd (isComplete.mpr all) incomplete

/-- A section of the handler that sends the list. -/
theorem phase_listing
    (collected :
      Collected system.worker.nodeRegistry (call :: others)
        system.eventQueue system.history.registrations)
    (phase :
      Phase nodes.length system.worker.nodeRegistry (call :: others)
        system.broadcasts)
    (listed :
      ∀ broadcastMsg, call.task.broadcastMsg = some broadcastMsg →
        broadcastMsg.type = .broadcastMemberInfo)
    (listing : call.isListing = true)
    (advanced :
      call.task.advance system.worker call.received.event input =
        some (effect, reached)) :
    Phase nodes.length
      (system.apply call.received effect).worker.nodeRegistry
      ({ call with task := reached } :: others)
      (system.apply call.received effect).broadcasts := by
  obtain ⟨all, noneRegistering, noneListing, progress⟩ :=
    phase.of_listing listing
  rcases HandlerTask.isListing_cases listing with
    isTask | ⟨remaining, broadcastMsg, isTask⟩ |
      ⟨node, nodeFd, remaining, broadcastMsg, isTask⟩
  · rw [isTask] at advanced progress
    simp only [HandlerTask.advance, RegistrationTask.advance] at advanced
    have nothingSent : system.broadcasts = [] := progress
    split at advanced
    · rename_i traversed
      cases advanced
      apply Phase.of_progress all noneRegistering noneListing rfl rfl
      refine ⟨[], traversed, rfl, ?_⟩
      show SentTo _ _ [] system.broadcasts
      rw [nothingSent]
      exact List.Forall₂.nil
    · cases advanced
  · rw [isTask] at advanced progress
    obtain ⟨sent, complete, members, sentTo⟩ := progress
    cases remaining with
    | nil =>
        cases advanced
        rw [List.append_nil] at complete members
        exact
          Phase.of_sent all noneRegistering noneListing complete members
            sentTo
    | cons node remaining =>
        have member : node ∈ system.worker.nodeRegistry.getAllNodes :=
          complete.mem_iff.mp (List.mem_append_right _ List.mem_cons_self)
        obtain ⟨nodeFd, known⟩ :=
          collected.getNodeFd_of_listing listing noneRegistering member
        simp only [HandlerTask.advance, RegistrationTask.advance, known]
          at advanced
        cases advanced
        apply Phase.of_progress all noneRegistering noneListing rfl rfl
        exact ⟨known, sent, complete, members, sentTo⟩
  · rw [isTask] at advanced progress listed
    obtain ⟨known, sent, complete, members, sentTo⟩ := progress
    cases advanced
    have broadcasts :=
      system.broadcasts_enqueueResponse call.received (.node node.nodeId)
        nodeFd broadcastMsg
    rw [if_pos (listed broadcastMsg rfl)] at broadcasts
    apply Phase.of_progress all noneRegistering noneListing rfl rfl
    refine ⟨sent ++ [node], ?_, ?_, ?_⟩
    · rw [List.append_assoc]
      exact complete
    · rw [List.append_assoc]
      exact members
    · show SentTo _ _ _ (system.enqueueResponse _ _ _ _).broadcasts
      rw [broadcasts]
      apply List.rel_append sentTo
      exact List.Forall₂.cons ⟨rfl, known, rfl⟩ List.Forall₂.nil

/-- A section of the handler of a registration. -/
theorem keepsBringUp_registration
    (expected : ExpectedNodes nodes prefillNodes decodeNodes)
    (expectedPrefill : system.worker.expectedPrefillNodes = prefillNodes)
    (expectedDecode : system.worker.expectedDecodeNodes = decodeNodes)
    (once : system.history.registrations.Subperm nodes)
    (collected :
      Collected system.worker.nodeRegistry (call :: others)
        system.eventQueue system.history.registrations)
    (phase :
      Phase nodes.length system.worker.nodeRegistry (call :: others)
        system.broadcasts)
    (registers : call.registration.isSome = true)
    (listed :
      ∀ broadcastMsg, call.task.broadcastMsg = some broadcastMsg →
        broadcastMsg.type = .broadcastMemberInfo)
    (alone :
      call.task = .registration .addingNode →
        IsComplete system.worker
            (system.worker.nodeRegistry.addNode
              call.received.event.message.nodeInfo) →
          (call :: others).countP HandlerCall.isRegistering = 0)
    {task : RegistrationTask} (isTask : call.task = .registration task)
    (advanced :
      call.task.advance system.worker call.received.event input =
        some (effect, reached)) :
    KeepsBringUp nodes system call others effect reached := by
  have taskAdvanced :
      task.advance system.worker call.received.event input =
        some (effect, reached) := by
    rw [isTask] at advanced
    exact advanced
  have isComplete {registry : NodeRegistry}
      (atMost : registry.getAllNodes.length ≤ nodes.length) :
      IsComplete system.worker registry ↔
        registry.getAllNodes.length = nodes.length := by
    unfold IsComplete
    rw [expectedPrefill, expectedDecode,
      NodeRegistry.getTotalRegisteredNodes_eq]
    exact expected.total_eq_iff atMost
  have atMost :
      system.worker.nodeRegistry.getAllNodes.length ≤ nodes.length :=
    ((List.sublist_append_left _ _).subperm.trans
      (collected.subperm.trans once)).length_le
  have adding (isAdding : call.task = .registration .addingNode) :
      (call.received.event.message.nodeInfo ::
        system.worker.nodeRegistry.getAllNodes).Subperm nodes :=
    (collected.adding_subperm isAdding).trans once
  have absent (isAdding : call.task = .registration .addingNode) :
      call.received.event.message.nodeInfo.nodeId ∉
        system.worker.nodeRegistry.getAllNodes.map NodeInfo.nodeId :=
    expected.absent_of_subperm (adding isAdding)
  refine
    ⟨collected_registration collected absent isTask taskAdvanced, ?_⟩
  cases task with
  | addingNode =>
      cases taskAdvanced
      obtain ⟨added, _⟩ :=
        NodeRegistry.getAllNodes_addNode collected.keyed (absent isTask)
      have addedAtMost :
          (system.worker.nodeRegistry.addNode
              call.received.event.message.nodeInfo).getAllNodes.length ≤
            nodes.length := by
        rw [added]
        exact (adding isTask).length_le
      apply phase.addNode isTask added addedAtMost
      intro all
      exact alone isTask ((isComplete addedAtMost).mpr all)
  | addingNodeFd | registering | counting =>
      apply
        phase_registering phase registers (isComplete atMost) _ advanced
      unfold HandlerCall.isRegistering
      rw [isTask]
      rfl
  | listing | broadcasting | sending =>
      apply phase_listing collected phase listed _ advanced
      unfold HandlerCall.isListing
      rw [isTask]
      rfl

end Advance

theorem BringUp.advance
    {nodes : List NodeInfo} {prefillNodes decodeNodes : Int32}
    {system next : OrchestratorSystem} {index : Nat} {input : SectionInput}
    (expected : ExpectedNodes nodes prefillNodes decodeNodes)
    (traceable : system.Traceable)
    (once : system.history.registrations.Subperm nodes)
    (bringUp : system.BringUp nodes prefillNodes decodeNodes)
    (taken : system.step (.advance index input) = some next)
    (completesAlone : system.CompletesAlone (.advance index input)) :
    next.BringUp nodes prefillNodes decodeNodes := by
  obtain ⟨call, effect, task, found, advanced, same⟩ := step_advance taken
  obtain ⟨others, before, after⟩ := TaskLists.exists_others found
  have member : call ∈ system.calls := List.mem_of_getElem? found
  have collected := bringUp.collected.perm before
  have phase := bringUp.phase.perm before
  have kept : KeepsBringUp nodes system call others effect task := by
    by_cases registers :
        call.task.messageType = some .rdmaProcessRegistration
    · obtain ⟨registration, isRegistration⟩ :=
        HandlerTask.registration_of_messageType registers
      have isSome : call.registration.isSome = true := by
        have isType := traceable.dispatched call member _ registers
        unfold HandlerCall.registration ReceivedEvent.registration
        rw [if_pos isType]
        rfl
      apply
        keepsBringUp_registration expected bringUp.expectedPrefill
          bringUp.expectedDecode once collected phase isSome
          (traceable.listed call member) _ isRegistration advanced
      intro isAdding complete
      have alone : system.completesAlone call = true := by
        simpa only [CompletesAlone, found, Option.all_some]
          using completesAlone
      unfold OrchestratorSystem.completesAlone at alone
      rw [isAdding] at alone
      have none := of_decide_eq_true alone complete
      rw [before.countP_eq] at none
      exact none
    · exact keepsBringUp_other collected phase advanced registers
  rw [same]
  refine ⟨?_, ?_, ?_, ?_⟩
  · have expectedPrefill := bringUp.expectedPrefill
    cases effect <;>
      exact expectedPrefill
  · have expectedDecode := bringUp.expectedDecode
    cases effect <;>
      exact expectedDecode
  · have registrations :
        (system.apply call.received effect).history.registrations =
          system.history.registrations := by
      unfold OrchestratorHistory.registrations
      rw [received_apply]
    rw [registrations, eventQueue_apply]
    exact kept.1.perm (after _).symm
  · exact kept.2.perm (after _).symm

theorem BringUp.step
    {nodes : List NodeInfo} {prefillNodes decodeNodes : Int32}
    {system next : OrchestratorSystem} {action : OrchestratorSystemAction}
    (expected : ExpectedNodes nodes prefillNodes decodeNodes)
    (traceable : system.Traceable)
    (once : system.history.registrations.Subperm nodes)
    (bringUp : system.BringUp nodes prefillNodes decodeNodes)
    (taken : system.step action = some next)
    (completesAlone : system.CompletesAlone action) :
    next.BringUp nodes prefillNodes decodeNodes := by
  obtain ⟨expectedPrefill, expectedDecode, collected, phase⟩ := bringUp
  cases action with
  | accept fd | removeConnection fd =>
      simp only [OrchestratorSystem.step] at taken
      split at taken <;>
        cases taken
      exact ⟨expectedPrefill, expectedDecode, collected, phase⟩
  | receive fd message =>
      obtain ⟨connection, _, same⟩ := Option.map_eq_some_iff.mp taken
      rw [← same]
      refine ⟨expectedPrefill, expectedDecode, ?_, phase⟩
      refine ⟨collected.keyed, ?_, collected.added, collected.connected⟩
      have received := collected.received
      have registrations :
          (system.receive ⟨⟨fd, message⟩, connection⟩).history.registrations =
            system.history.registrations ++
              [(⟨⟨fd, message⟩, connection⟩ : ReceivedEvent)].filterMap
                ReceivedEvent.registration :=
        List.filterMap_append
      rw [registrations]
      simp only [receive]
      split
      · rw [List.filterMap_append, ← List.append_assoc]
        exact (List.subperm_append_right _).mpr received
      · exact received.trans (List.sublist_append_left _ _).subperm
  | waitAndPop =>
      simp only [OrchestratorSystem.step] at taken
      split at taken
      · cases taken
      · rename_i received rest queue
        cases taken
        have appended :
            (system.calls ++
                [(⟨received, .first received.event.message⟩ :
                  HandlerCall)]).Perm
              (⟨received, .first received.event.message⟩ :: system.calls) :=
          List.perm_append_singleton _ _
        refine ⟨expectedPrefill, expectedDecode, ?_, ?_⟩
        · rw [queue] at collected
          exact collected.waitAndPop.perm appended.symm
        · exact (phase.waitAndPop received).perm appended.symm
  | advance index input =>
      exact
        BringUp.advance expected traceable once
          ⟨expectedPrefill, expectedDecode, collected, phase⟩ taken
          completesAlone

/-- When all registrations have been handled, no handler of one is left. -/
theorem BringUp.finished_of_handled
    {nodes : List NodeInfo} {prefillNodes decodeNodes : Int32}
    {system : OrchestratorSystem}
    (bringUp : system.BringUp nodes prefillNodes decodeNodes)
    (once : system.history.registrations.Subperm nodes)
    (handled : system.handledRegistrations.Perm nodes) :
    (system.calls.filterMap HandlerCall.registration).Perm nodes ∧
      ∀ call ∈ system.calls, call.registration.isSome = true →
        call.task = .finished := by
  have received :
      (system.calls.filterMap HandlerCall.registration).Subperm nodes :=
    (List.sublist_append_left _ _).subperm.trans
      (bringUp.collected.received.trans once)
  have among :
      system.handledRegistrations.Sublist
        (system.calls.filterMap HandlerCall.registration) :=
    List.filter_sublist.filterMap _
  have sameLength :
      system.handledRegistrations.length =
        (system.calls.filterMap HandlerCall.registration).length := by
    have atMost := received.length_le
    have atLeast := among.length_le
    have all := handled.length_eq
    omega
  have same := among.eq_of_length sameLength
  rw [← same]
  refine ⟨handled, ?_⟩
  intro call called registers
  by_contra unfinished
  obtain ⟨node, isNode⟩ := Option.isSome_iff_exists.mp registers
  obtain ⟨before, after, split⟩ := List.append_of_mem called
  unfold handledRegistrations at sameLength
  rw [split, List.filter_append,
    List.filter_cons_of_neg (by simpa using unfinished),
    List.filterMap_append, List.filterMap_append,
    List.filterMap_cons_some isNode, List.length_append,
    List.length_append, List.length_cons] at sameLength
  have beforeAtMost :
      ((before.filter fun call =>
          decide (call.task = .finished)).filterMap
            HandlerCall.registration).length ≤
        (before.filterMap HandlerCall.registration).length :=
    (List.filter_sublist.filterMap _).length_le
  have afterAtMost :
      ((after.filter fun call =>
          decide (call.task = .finished)).filterMap
            HandlerCall.registration).length ≤
        (after.filterMap HandlerCall.registration).length :=
    (List.filter_sublist.filterMap _).length_le
  have handledEq :
      (HandlerCall.registration) =
        fun call : HandlerCall => call.received.registration :=
    rfl
  rw [handledEq] at sameLength beforeAtMost afterAtMost
  omega

theorem Traceable.noneLeft
    {system : OrchestratorSystem} (traceable : system.Traceable)
    (finished :
      ∀ call ∈ system.calls, call.registration.isSome = true →
        call.task = .finished) :
    ∀ call ∈ system.calls,
      call.task.messageType ≠ some .rdmaProcessRegistration := by
  intro call called registers
  have isType := traceable.dispatched call called _ registers
  have isSome : call.registration.isSome = true := by
    unfold HandlerCall.registration ReceivedEvent.registration
    rw [if_pos isType]
    rfl
  rw [finished call called isSome] at registers
  cases registers

theorem BringUp.membersListed
    {nodes : List NodeInfo} {prefillNodes decodeNodes : Int32}
    {system : OrchestratorSystem}
    (expected : ExpectedNodes nodes prefillNodes decodeNodes)
    (traceable : system.Traceable)
    (bringUp : system.BringUp nodes prefillNodes decodeNodes)
    (once : system.history.registrations.Subperm nodes) :
    system.MembersListed nodes prefillNodes decodeNodes := by
  have registered :
      system.worker.nodeRegistry.getAllNodes.Subperm nodes :=
    (List.sublist_append_left _ _).subperm.trans
      (bringUp.collected.subperm.trans once)
  refine ⟨?_, ?_⟩
  · intro someSent
    have all := bringUp.phase.all_of_sent someSent
    have same := registered.perm_of_length_le (Nat.le_of_eq all.symm)
    rw [same.countP_eq, same.countP_eq]
    exact ⟨expected.prefill, expected.decode⟩
  · intro handled
    obtain ⟨allHandled, finished⟩ := bringUp.finished_of_handled once handled
    have noneLeft := traceable.noneLeft finished
    have nonePending :
        system.calls.filterMap HandlerCall.pending = [] := by
      rw [List.filterMap_eq_nil_iff]
      intro call called
      apply if_neg
      intro isAdding
      apply noneLeft call called
      rw [isAdding]
      rfl
    have added := bringUp.collected.added
    rw [nonePending, List.append_nil] at added
    have same := added.trans allHandled
    refine ⟨same, ?_⟩
    intro node member
    obtain ⟨members, broadcastMsg, complete, listed, sent⟩ :=
      bringUp.phase.sentToAll same.length_eq noneLeft finished
    have distinct :
        (members.map NodeInfo.nodeId).Nodup :=
      ((complete.trans same).map _).nodup_iff.mpr expected.distinct
    have isMember : node ∈ members :=
      (complete.trans same).mem_iff.mpr member
    obtain ⟨sending, only, known, isList⟩ :=
      SentTo.once sent distinct isMember
    refine ⟨sending, only, known, ?_⟩
    rw [isList, listed]
    exact (complete.trans same).symm.subset

/-- The invariant holds as long as only expected nodes register, once each. -/
structure RegisteredInTime
    (nodes : List NodeInfo) (prefillNodes decodeNodes : Int32)
    (system : OrchestratorSystem) : Prop where
  traceable : system.Traceable
  bringUp :
    system.history.registrations.Subperm nodes →
      system.BringUp nodes prefillNodes decodeNodes

theorem registrations_step
    {system next : OrchestratorSystem} {action : OrchestratorSystemAction}
    (taken : system.step action = some next) :
    system.history.registrations.Sublist next.history.registrations := by
  cases action with
  | accept fd | removeConnection fd =>
      simp only [step] at taken
      split at taken <;>
        cases taken
      exact List.Sublist.refl _
  | receive fd message =>
      obtain ⟨connection, _, same⟩ := Option.map_eq_some_iff.mp taken
      rw [← same]
      exact (List.sublist_append_left _ _).filterMap _
  | waitAndPop =>
      simp only [step] at taken
      split at taken <;>
        cases taken
      exact List.Sublist.refl _
  | advance index input =>
      obtain ⟨call, effect, task, _, _, same⟩ := step_advance taken
      rw [same]
      cases effect <;>
        exact List.Sublist.refl _

theorem RegisteredInTime.step
    {nodes : List NodeInfo} {prefillNodes decodeNodes : Int32}
    {system next : OrchestratorSystem} {action : OrchestratorSystemAction}
    (expected : ExpectedNodes nodes prefillNodes decodeNodes)
    (inTime : system.RegisteredInTime nodes prefillNodes decodeNodes)
    (taken : system.step action = some next)
    (completesAlone : system.CompletesAlone action) :
    next.RegisteredInTime nodes prefillNodes decodeNodes where
  traceable := inTime.traceable.step taken
  bringUp := by
    intro once
    have earlier := (registrations_step taken).subperm.trans once
    exact
      BringUp.step expected inTime.traceable earlier (inTime.bringUp earlier)
        taken completesAlone

theorem registeredInTime_start
    (nodes : List NodeInfo) (prefillNodes decodeNodes : Int32)
    (orchestratorId nodeId : ByteString) (eventQueueSize : UInt64) :
    (start orchestratorId nodeId prefillNodes decodeNodes
      eventQueueSize).RegisteredInTime nodes prefillNodes decodeNodes := by
  refine ⟨traceable_start _ _ _ _ _, ?_⟩
  intro once
  refine ⟨rfl, rfl, ⟨?_, ?_, List.Perm.refl _, ?_⟩, ?_⟩
  · intro entry member
    cases member
  · exact List.nil_subperm
  · intro node member
    cases member
  · cases nodes with
    | nil =>
        exact
          .listed rfl rfl rfl
            ⟨[], .cleared, List.Perm.refl _, rfl, List.Forall₂.nil⟩
    | cons node nodes =>
        exact .collecting (Nat.succ_pos _) rfl rfl

end OrchestratorSystem

open OrchestratorSystem in
/-- In a run in which the expected nodes register at most once each and the
registry is completed while no other handler is about to count, the list of the
members is sent only when all nodes have registered, and once all registrations
have been handled every node has been sent the complete list once. -/
theorem members_listed_once
    {nodes : List NodeInfo} {prefillNodes decodeNodes : Int32}
    (expected : ExpectedNodes nodes prefillNodes decodeNodes)
    (orchestratorId nodeId : ByteString) (eventQueueSize : UInt64)
    {actions : List OrchestratorSystemAction}
    (completesAlone :
      LabelledRuns.Meets step CompletesAlone
        (start orchestratorId nodeId prefillNodes decodeNodes eventQueueSize)
        actions) :
    LabelledRuns.Throughout step
      (fun system =>
        system.history.registrations.Subperm nodes →
          system.MembersListed nodes prefillNodes decodeNodes)
      (start orchestratorId nodeId prefillNodes decodeNodes eventQueueSize)
      actions :=
  LabelledRuns.throughout_of_meets
    (fun _ _ _ taken met inTime =>
      RegisteredInTime.step expected inTime taken met)
    (fun _ inTime once =>
      (inTime.bringUp once).membersListed expected inTime.traceable once)
    completesAlone
    (registeredInTime_start nodes prefillNodes decodeNodes orchestratorId nodeId
      eventQueueSize)

namespace OrchestratorSystem

theorem sampleNodes_expected : ExpectedNodes sampleNodes 1 1 where
  distinct := by
    decide
  roles := by
    decide
  prefill := by
    decide
  decode := by
    decide

/-- The workers of both registrations have added their nodes before either
counts. -/
def bothCount : List OrchestratorSystemAction :=
  [.accept 5, .accept 6] ++
    sampleReceived 5 (sampleRegistration (.healthy [1] .prefill)) ++
    sampleReceived 6 (sampleRegistration (.healthy [2] .decode)) ++
    sampleSections 0 3 [] sampleNodes ++ sampleSections 1 10 [] sampleNodes ++
    sampleSections 0 7 [] sampleNodes

/-- The worker of the first registration counts before the second node is
added, and is done only afterwards. -/
def oneCountsFirst : List OrchestratorSystemAction :=
  [.accept 5, .accept 6] ++
    sampleReceived 5 (sampleRegistration (.healthy [1] .prefill)) ++
    sampleReceived 6 (sampleRegistration (.healthy [2] .decode)) ++
    sampleSections 0 4 [] sampleNodes ++ sampleSections 1 10 [] sampleNodes

/-- Every node gets the list twice. -/
theorem both_count_lists_twice :
    ExpectedNodes sampleNodes 1 1 ∧
      ∃ final,
        LabelledRuns.execute step sampleStart bothCount = some final ∧
          final.history.registrations = sampleNodes ∧
          final.handledRegistrations = sampleNodes ∧
          (final.broadcasts.map fun sending =>
              (sending.fd, sending.reached)) =
            [(5, some 0), (6, some 1), (5, some 0), (6, some 1)] ∧
          ¬ final.MembersListed sampleNodes 1 1 := by
  have outcome :
      (LabelledRuns.execute step sampleStart bothCount).map
          (fun final =>
            ([final.history.registrations, final.handledRegistrations],
              final.broadcasts.map fun sending =>
                (sending.fd, sending.reached),
              (final.broadcasts.filter (Sending.goesTo [1])).length)) =
        some
          ([sampleNodes, sampleNodes],
            [(5, some 0), (6, some 1), (5, some 0), (6, some 1)], 2) := by
    decide +kernel
  obtain ⟨final, run, observed⟩ := Option.map_eq_some_iff.mp outcome
  simp only [Prod.mk.injEq, List.cons.injEq] at observed
  obtain ⟨⟨registrations, handled, _⟩, sent, twice⟩ := observed
  refine
    ⟨sampleNodes_expected, final, run, registrations, handled, sent, ?_⟩
  intro membersListed
  have allHandled : final.handledRegistrations.Perm sampleNodes := by
    rw [handled]
  obtain ⟨sending, only, _⟩ :=
    (membersListed.once allHandled).2 (.healthy [1] .prefill)
      List.mem_cons_self
  have once := congrArg List.length only
  rw [show (NodeInfo.healthy [1] .prefill).nodeId = [1] from rfl, twice]
    at once
  cases once

theorem members_listed_once_oneCountsFirst :
    (∃ final,
      LabelledRuns.execute step sampleStart oneCountsFirst = some final ∧
        final.history.registrations = sampleNodes ∧
        final.handledRegistrations = sampleNodes) ∧
      LabelledRuns.Throughout step
        (fun system =>
          system.history.registrations.Subperm sampleNodes →
            system.MembersListed sampleNodes 1 1)
        sampleStart oneCountsFirst := by
  have outcome :
      (LabelledRuns.execute step sampleStart oneCountsFirst).map
          (fun final =>
            [final.history.registrations, final.handledRegistrations]) =
        some [sampleNodes, sampleNodes] := by
    decide +kernel
  obtain ⟨final, run, observed⟩ := Option.map_eq_some_iff.mp outcome
  simp only [List.cons.injEq] at observed
  exact
    ⟨⟨final, run, observed.1, observed.2.1⟩,
      members_listed_once sampleNodes_expected [0] [0] 16 (by decide +kernel)⟩

end OrchestratorSystem

end RdmaKvCache
