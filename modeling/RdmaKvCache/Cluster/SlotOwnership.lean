import RdmaKvCache.Node.SlotClaims
import RdmaKvCache.Orchestrator.RouterRuns
import RdmaKvCache.Orchestrator.SlotHolders
import RdmaKvCache.Orchestrator.Worker

/-!
# Who a slot belongs to

The slots of a decode node are kept twice: the router of the orchestrator lends
them to requests, and the tracker of the node refuses a slot that a request it
knows has.  The refusal is an exception that nobody catches.

Here the handlers of `CLIENT_REQUEST` messages run section by section on any
number of workers, a slot may be given back for any request at any time, and
the messages to the node are delivered in the order in which they are sent.
Loads and the registry change in any way.

A slot is owned once as long as it is not given back while a handler, a message
under way or the node still has a claim to it.
-/

namespace RdmaKvCache

open RequestTrackerLayer

/-! ## An orchestrator and a decode node -/

/-- Where a worker is in `handle_client_request`. -/
inductive ClientTask where
  | selecting (state : SelectState)
  | routed (routing : RoutingResult)
  | preparing (routing : RoutingResult)
  | prepared (routing : RoutingResult)
  | discarding
  | finished
  deriving DecidableEq

structure ClientCall where
  requested : RequestInfo
  task : ClientTask

/-- What a handler takes from outside. -/
structure ClientInput where
  select : SelectInput := {}
  process : ProcessInput

structure SlotCluster where
  orchestratorId : ByteString
  decodeNodeId : ByteString
  router : RequestRouter
  registry : NodeRegistry
  calls : List ClientCall := []
  link : List Message := []
  node : DecodeNode

inductive ClusterAction where
  | clientRequest (requested : RequestInfo)
  | advance (index : Nat) (input : ClientInput)
  | freeSlot (requestId : ByteString)
  | incrementNodeLoad (nodeId : ByteString)
  | decrementNodeLoad (nodeId : ByteString)
  | updateRegistry (registry : NodeRegistry)
  | receivePrepare (serverFd : Int32)
  | node (action : NodeAction)

namespace SlotCluster

/-- A new orchestrator and a node that has just been started. -/
def start
    (orchestratorId decodeNodeId : ByteString) (policy : RoutingPolicy)
    (registry : NodeRegistry) (node : DecodeNode) : SlotCluster where
  orchestratorId := orchestratorId
  decodeNodeId := decodeNodeId
  router := { policy := policy }
  registry := registry
  node := node

/-- The next section of `handle_client_request`; a slot that has been taken is
given back when one of the nodes has no connection. -/
def advanceCall (cluster : SlotCluster) (call : ClientCall)
    (input : ClientInput) : Option (SlotCluster × ClientTask) :=
  match call.task with
  | .selecting (.returned none) => some (cluster, .finished)
  | .selecting (.returned (some routing)) => some (cluster, .routed routing)
  | .selecting state =>
      (state.advance cluster.router cluster.registry call.requested.requestId
        input.select).map fun (router, reached) =>
          ({ cluster with router := router }, .selecting reached)
  | .routed routing =>
      match cluster.registry.getNodeFd routing.decodeNode.nodeId with
      | none => some (cluster, .discarding)
      | some _ => some (cluster, .preparing routing)
  | .preparing routing =>
      let message :=
        Message.createPrepareDecodeSlot
          (input.process.origin .prepareDecodeSlot) cluster.orchestratorId
          (WorkerOrchestrator.assignedRequest call.requested routing
            input.process)
      if routing.decodeNode.nodeId = cluster.decodeNodeId then
        some
          ({ cluster with link := cluster.link ++ [message] },
            .prepared routing)
      else
        some (cluster, .prepared routing)
  | .prepared routing =>
      match cluster.registry.getNodeFd routing.prefillNode.nodeId with
      | none => some (cluster, .discarding)
      | some _ => some (cluster, .finished)
  | .discarding =>
      some
        ({ cluster with
            router := cluster.router.freeSlot call.requested.requestId },
          .finished)
  | .finished => none

def step (cluster : SlotCluster) : ClusterAction → Option SlotCluster
  | .clientRequest requested =>
      some
        { cluster with
          calls := cluster.calls ++ [⟨requested, .selecting .entered⟩] }
  | .advance index input =>
      cluster.calls[index]?.bind fun call =>
        (cluster.advanceCall call input).map fun (next, task) =>
          { next with calls := next.calls.set index { call with task := task } }
  | .freeSlot requestId =>
      some { cluster with router := cluster.router.freeSlot requestId }
  | .incrementNodeLoad nodeId =>
      some { cluster with router := cluster.router.incrementNodeLoad nodeId }
  | .decrementNodeLoad nodeId =>
      some { cluster with router := cluster.router.decrementNodeLoad nodeId }
  | .updateRegistry registry => some { cluster with registry := registry }
  | .receivePrepare serverFd =>
      match cluster.link with
      | [] => none
      | message :: rest =>
          (cluster.node.step (.receive ⟨⟨serverFd, message⟩, 0⟩)).map fun node =>
            { cluster with link := rest, node := node }
  | .node action =>
      if action.bringsPrepare then none else
        (cluster.node.step action).map fun node => { cluster with node := node }

end SlotCluster

/-! ## Claims -/

def RoutingResult.slotOn
    (decodeNodeId : ByteString) (routing : RoutingResult) : Option Int32 :=
  if routing.decodeNode.nodeId = decodeNodeId then some routing.slotId
  else none

/-- The slot of the node that a selection has taken. -/
def SelectState.heldSlot (decodeNodeId : ByteString) :
    SelectState → Option Int32
  | .slotAllocated _ decodeNode slotId =>
      if decodeNode.nodeId = decodeNodeId then some slotId else none
  | .returned (some routing) => routing.slotOn decodeNodeId
  | _ => none

/-- The slot of the node that a handler has taken and has not yet sent. -/
def ClientTask.heldSlot (decodeNodeId : ByteString) :
    ClientTask → Option Int32
  | .selecting state => state.heldSlot decodeNodeId
  | .routed routing => routing.slotOn decodeNodeId
  | .preparing routing => routing.slotOn decodeNodeId
  | _ => none

def ClientCall.holds
    (decodeNodeId : ByteString) (slot : Int32) (call : ClientCall) : Bool :=
  decide (call.task.heldSlot decodeNodeId = some slot)

/-- The section that takes a slot is the one the history records. -/
theorem SelectState.heldSlot_of_events
    {call : Nat} {nodeId requestId : ByteString} {slotId : Int32}
    {reached : SelectState}
    (events :
      reached.events call requestId =
        [.allocated call nodeId requestId slotId])
    (decodeNodeId : ByteString) :
    reached.heldSlot decodeNodeId =
      if nodeId = decodeNodeId then some slotId else none := by
  cases reached with
  | slotAllocated prefillNode decodeNode taken =>
      cases events
      rfl
  | entered | prefillListed | prefillSelected | decodeListed | slotsFiltered
  | decodeSelected | returned =>
      cases events

/-- The other sections take none. -/
theorem SelectState.heldSlot_of_silent
    {router next : RequestRouter} {registry : NodeRegistry}
    {requestId : ByteString} {input : SelectInput}
    {state reached : SelectState} {call : Nat}
    (advanced :
      state.advance router registry requestId input = some (next, reached))
    (silent : reached.events call requestId = [])
    {decodeNodeId : ByteString} {slot : Int32}
    (holds : reached.heldSlot decodeNodeId = some slot) :
    state.heldSlot decodeNodeId = some slot := by
  cases section_of_advance advanced with
  | noPrefill | prefillListed | prefillRefused | prefillSelected | noDecode
  | decodeListed | noSlots | slotsFiltered | decodeRefused | decodeSelected
  | notAllocated =>
      cases holds
  | slotAllocated =>
      cases silent
  | returned =>
      exact holds

namespace SlotCluster

/-- The number of claims to a slot apart from the router's. -/
def occupied (cluster : SlotCluster) (slot : Int32) : Nat :=
  cluster.calls.countP (ClientCall.holds cluster.decodeNodeId slot) +
    cluster.link.countP (Message.prepares slot) +
    cluster.node.claims slot

/-- The slots of the node that the router has not lent. -/
def freeSlots (cluster : SlotCluster) : List Int32 :=
  (cluster.router.allocatorOf cluster.decodeNodeId).freeSlots

/-- The number of claims to a slot. -/
def claims (cluster : SlotCluster) (slot : Int32) : Nat :=
  cluster.freeSlots.count slot + cluster.occupied slot

/-- Nobody has a claim to the slot that giving back for the request returns to
the router. -/
def GivesBackUnused (cluster : SlotCluster) (requestId : ByteString) : Prop :=
  cluster.router.decodeNodeOf requestId = some cluster.decodeNodeId →
    ∀ slot ∈ cluster.router.slotOf cluster.decodeNodeId requestId,
      cluster.occupied slot = 0

/-- A slot is only given back when nobody has a claim to it. -/
def FreesInTime (cluster : SlotCluster) : ClusterAction → Prop
  | .freeSlot requestId => cluster.GivesBackUnused requestId
  | .advance index _ =>
      ∀ call ∈ cluster.calls[index]?, call.task = .discarding →
        cluster.GivesBackUnused call.requested.requestId
  | _ => True

instance (cluster : SlotCluster) (requestId : ByteString) :
    Decidable (cluster.GivesBackUnused requestId) :=
  have : Decidable
      (∀ slot ∈ cluster.router.slotOf cluster.decodeNodeId requestId,
        cluster.occupied slot = 0) :=
    Option.decidableForallMem _
  inferInstanceAs (Decidable (_ = _ → _))

instance (cluster : SlotCluster) :
    ∀ action, Decidable (cluster.FreesInTime action)
  | .freeSlot requestId =>
      inferInstanceAs (Decidable (cluster.GivesBackUnused requestId))
  | .advance index _ =>
      inferInstanceAs
        (Decidable
          (∀ call ∈ cluster.calls[index]?, call.task = .discarding →
            cluster.GivesBackUnused call.requested.requestId))
  | .clientRequest _ => .isTrue trivial
  | .incrementNodeLoad _ => .isTrue trivial
  | .decrementNodeLoad _ => .isTrue trivial
  | .updateRegistry _ => .isTrue trivial
  | .receivePrepare _ => .isTrue trivial
  | .node _ => .isTrue trivial

/-! ## The invariant of all interleavings -/

/-- Every slot has at most one claim, and only slots of the pool have any. -/
structure Owned
    (slotConfig : RequestRouterSlotConfig) (layout : MemoryLayout)
    (numLayers : UInt32) (cluster : SlotCluster) : Prop where
  pools :
    ∃ pools : ByteString → SlotPool slotConfig.maxSlotsPerNode,
      cluster.router.Represents pools
  once : ∀ slot, cluster.claims slot ≤ 1
  inRange :
    ∀ slot, 0 < cluster.claims slot →
      slot ∈ SlotRange slotConfig.maxSlotsPerNode
  layout_eq : cluster.node.tracker.layout = layout
  numLayers_eq : cluster.node.numLayers = numLayers

namespace Owned

variable {slotConfig : RequestRouterSlotConfig} {layout : MemoryLayout}
variable {numLayers : UInt32} {cluster next : SlotCluster}

theorem of_fewer
    (owned : cluster.Owned slotConfig layout numLayers)
    (pools :
      ∃ pools : ByteString → SlotPool slotConfig.maxSlotsPerNode,
        next.router.Represents pools)
    (fewer : ∀ slot, next.claims slot ≤ cluster.claims slot)
    (limits : cluster.node.SameLimits next.node) :
    next.Owned slotConfig layout numLayers where
  pools := pools
  once := by
    intro slot
    exact (fewer slot).trans (owned.once slot)
  inRange := by
    intro slot claimed
    exact owned.inRange slot (claimed.trans_le (fewer slot))
  layout_eq := limits.layout_eq.trans owned.layout_eq
  numLayers_eq := limits.numLayers_eq.trans owned.numLayers_eq

/-- Only the free slots of the node matter of the router. -/
theorem of_sameFree
    (owned : cluster.Owned slotConfig layout numLayers)
    {router : RequestRouter}
    (pools :
      ∃ pools : ByteString → SlotPool slotConfig.maxSlotsPerNode,
        router.Represents pools)
    (same :
      (router.allocatorOf cluster.decodeNodeId).freeSlots =
        cluster.freeSlots) :
    ({ cluster with router := router } :
      SlotCluster).Owned slotConfig layout numLayers := by
  refine owned.of_fewer pools ?_ ⟨rfl, rfl⟩
  intro slot
  rw [claims]
  rw [freeSlots, same]
  exact Nat.le_refl _

/-- The router may take back a slot that nobody has a claim to. -/
theorem of_freed
    (owned : cluster.Owned slotConfig layout numLayers)
    {router : RequestRouter} {slotId : Int32}
    (pools :
      ∃ pools : ByteString → SlotPool slotConfig.maxSlotsPerNode,
        router.Represents pools)
    (freed :
      (router.allocatorOf cluster.decodeNodeId).freeSlots =
        cluster.freeSlots ++ [slotId])
    (unclaimed : cluster.claims slotId = 0)
    (inPool : slotId ∈ SlotRange slotConfig.maxSlotsPerNode) :
    ({ cluster with router := router } :
      SlotCluster).Owned slotConfig layout numLayers := by
  have total (slot : Int32) :
      claims { cluster with router := router } slot =
        cluster.claims slot + [slotId].count slot := by
    rw [claims]
    rw [freeSlots, freed, List.count_append, Nat.add_right_comm]
    rfl
  have others {slot : Int32} (different : slotId ≠ slot) :
      [slotId].count slot = 0 := by
    rw [List.count_eq_zero, List.mem_singleton]
    exact different.symm
  refine ⟨pools, ?_, ?_, owned.layout_eq, owned.numLayers_eq⟩
  · intro slot
    rw [total]
    by_cases same : slotId = slot
    · rw [← same, unclaimed, List.count_singleton_self]
    · rw [others same]
      exact owned.once slot
  · intro slot claimed
    by_cases same : slotId = slot
    · rw [← same]
      exact inPool
    · rw [total, others same] at claimed
      exact owned.inRange slot claimed

/-- What the router gives back goes to nobody but the router. -/
theorem freeSlot
    (owned : cluster.Owned slotConfig layout numLayers)
    {requestId : ByteString} (unused : cluster.GivesBackUnused requestId) :
    ({ cluster with router := cluster.router.freeSlot requestId } :
      SlotCluster).Owned slotConfig layout numLayers := by
  obtain ⟨pools, represents⟩ := owned.pools
  have free :
      cluster.freeSlots = (pools cluster.decodeNodeId).free :=
    (represents.allocators cluster.decodeNodeId).free
  rcases represents.freeSlot requestId with
    ⟨nodeId, slotId, held, mapped, represented⟩ | represented
  · have after := (represented.allocators cluster.decodeNodeId).free
    by_cases here : nodeId = cluster.decodeNodeId
    · subst here
      rw [Function.update_self] at after
      have notFree : cluster.freeSlots.count slotId = 0 := by
        rw [free, List.count_eq_zero]
        exact (pools cluster.decodeNodeId).held_not_free held
      have unoccupied : cluster.occupied slotId = 0 := by
        refine unused mapped slotId ?_
        have holds :=
          (represents.allocators cluster.decodeNodeId).held requestId
        exact holds.trans held
      apply owned.of_freed ⟨_, represented⟩
      · rw [free]
        exact after
      · rw [claims, notFree, unoccupied]
      · exact (pools cluster.decodeNodeId).held_subset held
    · rw [Function.update_of_ne (Ne.symm here), ← free] at after
      exact owned.of_sameFree ⟨_, represented⟩ after
  · have after := (represented.allocators cluster.decodeNodeId).free
    rw [← free] at after
    exact owned.of_sameFree ⟨_, represented⟩ after

/-- A section of a selection moves a slot from the router to the call. -/
theorem select
    (owned : cluster.Owned slotConfig layout numLayers) {index : Nat}
    {call : ClientCall} {state reached : SelectState} {input : SelectInput}
    {router : RequestRouter}
    (found : cluster.calls[index]? = some call)
    (isSelecting : call.task = .selecting state)
    (advanced :
      state.advance cluster.router cluster.registry call.requested.requestId
        input = some (router, reached)) :
    ({ cluster with
        router := router
        calls :=
          cluster.calls.set index { call with task := .selecting reached } } :
      SlotCluster).Owned slotConfig layout numLayers := by
  obtain ⟨pools, represents⟩ := owned.pools
  have free :
      cluster.freeSlots = (pools cluster.decodeNodeId).free :=
    (represents.allocators cluster.decodeNodeId).free
  have moved (slot : Int32) :=
    TaskLists.countP_set_add found { call with task := .selecting reached }
      (ClientCall.holds cluster.decodeNodeId slot)
  have before (slot : Int32) :
      call.holds cluster.decodeNodeId slot =
        decide (state.heldSlot cluster.decodeNodeId = some slot) := by
    rw [ClientCall.holds, isSelecting]
    rfl
  rcases SelectState.advance_pools index represents advanced with
    ⟨silent, represented⟩ |
      ⟨nodeId, slotId, rest, front, events, represented⟩
  · refine owned.of_fewer ⟨pools, represented⟩ ?_ ⟨rfl, rfl⟩
    intro slot
    have same : (router.allocatorOf cluster.decodeNodeId).freeSlots =
        cluster.freeSlots :=
      (represented.allocators cluster.decodeNodeId).free.trans free.symm
    have fewer :
        (ClientCall.holds cluster.decodeNodeId slot
            { call with task := .selecting reached }).toNat ≤
          (call.holds cluster.decodeNodeId slot).toNat := by
      apply Bool.toNat_le_toNat
      rw [before]
      intro holds
      exact
        decide_eq_true
          (SelectState.heldSlot_of_silent advanced silent
            (of_decide_eq_true holds))
    have change := moved slot
    simp only [claims, occupied, freeSlots, same]
    omega
  · have after (slot : Int32) :
        ClientCall.holds cluster.decodeNodeId slot
            { call with task := .selecting reached } =
          decide
            ((if nodeId = cluster.decodeNodeId then some slotId else none) =
              some slot) := by
      rw [ClientCall.holds, ← SelectState.heldSlot_of_events events]
      rfl
    refine owned.of_fewer ⟨_, represented⟩ ?_ ⟨rfl, rfl⟩
    intro slot
    have change := moved slot
    have freeAfter := (represented.allocators cluster.decodeNodeId).free
    rw [after] at change
    by_cases here : nodeId = cluster.decodeNodeId
    · subst here
      rw [Function.update_self] at freeAfter
      have isRest :
          (router.allocatorOf cluster.decodeNodeId).freeSlots = rest :=
        freeAfter
      have counted :
          cluster.freeSlots.count slot =
            rest.count slot + (decide (slotId = slot)).toNat := by
        rw [free, front, List.count_cons]
        by_cases same : slotId = slot
        · simp [same]
        · simp [same]
      simp only [if_true, Option.some.injEq] at change
      simp only [claims, occupied] at counted ⊢
      simp only [freeSlots, isRest] at counted ⊢
      omega
    · rw [Function.update_of_ne (Ne.symm here), ← free] at freeAfter
      rw [if_neg here] at change
      simp only [reduceCtorEq, decide_false, Bool.toNat_false] at change
      simp only [claims, occupied]
      simp only [freeSlots, freeAfter]
      omega

/-- A handler goes on with its slot or gives it up. -/
theorem setTask
    (owned : cluster.Owned slotConfig layout numLayers) {index : Nat}
    {call : ClientCall} (found : cluster.calls[index]? = some call)
    {task : ClientTask} (link : List Message)
    (fewer :
      ∀ slot,
        (ClientCall.holds cluster.decodeNodeId slot
            { call with task := task }).toNat +
            link.countP (Message.prepares slot) ≤
          (call.holds cluster.decodeNodeId slot).toNat +
            cluster.link.countP (Message.prepares slot)) :
    ({ cluster with
        link := link
        calls := cluster.calls.set index { call with task := task } } :
      SlotCluster).Owned slotConfig layout numLayers := by
  refine owned.of_fewer owned.pools ?_ ⟨rfl, rfl⟩
  intro slot
  have change :=
    TaskLists.countP_set_add found { call with task := task }
      (ClientCall.holds cluster.decodeNodeId slot)
  have atMost := fewer slot
  simp only [claims, occupied, freeSlots]
  omega

/-- A handler that keeps its slot, or gives it up, sends nothing. -/
theorem keepTask
    (owned : cluster.Owned slotConfig layout numLayers) {index : Nat}
    {call : ClientCall} (found : cluster.calls[index]? = some call)
    {task : ClientTask}
    (kept :
      task.heldSlot cluster.decodeNodeId = none ∨
        task.heldSlot cluster.decodeNodeId =
          call.task.heldSlot cluster.decodeNodeId) :
    ({ cluster with
        calls := cluster.calls.set index { call with task := task } } :
      SlotCluster).Owned slotConfig layout numLayers := by
  refine owned.setTask found cluster.link ?_
  intro slot
  refine Nat.add_le_add_right (Bool.toNat_le_toNat ?_) _
  intro holds
  simp only [ClientCall.holds, decide_eq_true_eq] at holds ⊢
  rcases kept with nothing | same
  · rw [nothing] at holds
    cases holds
  · rw [← same]
    exact holds

/-- The slot that a handler sends to the node is now claimed by the message. -/
theorem sendPrepare
    (owned : cluster.Owned slotConfig layout numLayers) {index : Nat}
    {call : ClientCall} (found : cluster.calls[index]? = some call)
    {routing : RoutingResult} (isPreparing : call.task = .preparing routing)
    (here : routing.decodeNode.nodeId = cluster.decodeNodeId)
    (origin : Message.Origin) (input : ProcessInput) :
    ({ cluster with
        link :=
          cluster.link ++
            [.createPrepareDecodeSlot origin cluster.orchestratorId
              (WorkerOrchestrator.assignedRequest call.requested routing
                input)]
        calls :=
          cluster.calls.set index { call with task := .prepared routing } } :
      SlotCluster).Owned slotConfig layout numLayers := by
  refine owned.setTask found _ ?_
  intro slot
  have before :
      call.holds cluster.decodeNodeId slot =
        decide (some routing.slotId = some slot) := by
    rw [ClientCall.holds, isPreparing, ClientTask.heldSlot,
      RoutingResult.slotOn, if_pos here]
  have sent :
      Message.prepares slot
          (.createPrepareDecodeSlot origin cluster.orchestratorId
            (WorkerOrchestrator.assignedRequest call.requested routing
              input)) =
        decide (some routing.slotId = some slot) :=
    rfl
  have after :
      ClientCall.holds cluster.decodeNodeId slot
          { call with task := .prepared routing } = false :=
    rfl
  rw [List.countP_append, List.countP_singleton, sent, before, after]
  cases decide (some routing.slotId = some slot) <;>
    simp only [Bool.toNat_true, Bool.toNat_false, if_true,
      Bool.false_eq_true, if_false] <;>
    omega

theorem advance
    (owned : cluster.Owned slotConfig layout numLayers) {index : Nat}
    {input : ClientInput}
    (taken : cluster.step (.advance index input) = some next)
    (inTime : cluster.FreesInTime (.advance index input)) :
    next.Owned slotConfig layout numLayers := by
  simp only [step, Option.bind_eq_some_iff, Option.map_eq_some_iff] at taken
  obtain ⟨call, found, ⟨middle, reached⟩, advanced, rfl⟩ := taken
  rw [advanceCall] at advanced
  split at advanced
  · cases advanced
    exact owned.keepTask found (Or.inl rfl)
  · rename_i routing isReturned
    cases advanced
    refine owned.keepTask found (Or.inr ?_)
    rw [isReturned]
    rfl
  · rename_i state _ _ isSelecting
    obtain ⟨⟨router, selected⟩, selects, same⟩ :=
      Option.map_eq_some_iff.mp advanced
    cases same
    exact owned.select found isSelecting selects
  · rename_i routing isRouted
    split at advanced <;>
      cases advanced
    · exact owned.keepTask found (Or.inl rfl)
    · refine owned.keepTask found (Or.inr ?_)
      rw [isRouted]
      rfl
  · rename_i routing isPreparing
    simp only at advanced
    split at advanced <;>
      cases advanced
    · rename_i here
      exact owned.sendPrepare found isPreparing here _ _
    · exact owned.keepTask found (Or.inl rfl)
  · split at advanced <;>
      cases advanced <;>
      exact owned.keepTask found (Or.inl rfl)
  · rename_i isDiscarding
    cases advanced
    have freed := owned.freeSlot (inTime call found isDiscarding)
    exact freed.keepTask found (Or.inl rfl)
  · cases advanced

theorem node
    (owned : cluster.Owned slotConfig layout numLayers)
    {node : DecodeNode} (link : List Message)
    (fewer :
      ∀ slot,
        link.countP (Message.prepares slot) + node.claims slot ≤
          cluster.link.countP (Message.prepares slot) +
            cluster.node.claims slot)
    (limits : cluster.node.SameLimits node) :
    ({ cluster with link := link, node := node } : SlotCluster).Owned
      slotConfig layout numLayers := by
  refine owned.of_fewer owned.pools ?_ limits
  intro slot
  have atMost := fewer slot
  simp only [claims, occupied, freeSlots]
  omega

theorem loads
    (owned : cluster.Owned slotConfig layout numLayers)
    {router : RequestRouter}
    (sameConfig : router.slotConfig = cluster.router.slotConfig)
    (sameAllocators :
      ∀ nodeId, router.allocatorOf nodeId = cluster.router.allocatorOf nodeId) :
    ({ cluster with router := router } : SlotCluster).Owned slotConfig layout
      numLayers := by
  obtain ⟨pools, represents⟩ := owned.pools
  refine
    owned.of_fewer
      ⟨pools, represents.of_same_allocators sameConfig sameAllocators⟩ ?_
      ⟨rfl, rfl⟩
  intro slot
  rw [claims]
  rw [freeSlots, sameAllocators]
  exact Nat.le_refl _

theorem step
    (owned : cluster.Owned slotConfig layout numLayers)
    {action : ClusterAction} (taken : cluster.step action = some next)
    (inTime : cluster.FreesInTime action) :
    next.Owned slotConfig layout numLayers := by
  cases action with
  | clientRequest requested =>
      cases taken
      refine owned.of_fewer owned.pools ?_ ⟨rfl, rfl⟩
      intro slot
      simp only [claims, occupied, freeSlots, List.countP_append,
        List.countP_singleton]
      exact Nat.le_refl _
  | advance index input =>
      exact owned.advance taken inTime
  | freeSlot requestId =>
      cases taken
      exact owned.freeSlot inTime
  | incrementNodeLoad nodeId =>
      cases taken
      exact owned.loads rfl (fun _ => rfl)
  | decrementNodeLoad nodeId =>
      cases taken
      exact
        owned.loads
          (RequestRouter.decrementNodeLoad_slotConfig cluster.router nodeId)
          (RequestRouter.allocatorOf_decrementNodeLoad cluster.router nodeId)
  | updateRegistry registry =>
      cases taken
      exact owned.of_fewer owned.pools (fun _ => Nat.le_refl _) ⟨rfl, rfl⟩
  | receivePrepare serverFd =>
      simp only [SlotCluster.step] at taken
      split at taken
      · cases taken
      · rename_i message rest queued
        obtain ⟨node, received, rfl⟩ := Option.map_eq_some_iff.mp taken
        obtain ⟨_, rfl⟩ := DecodeNode.step_receive received
        refine owned.node rest ?_ (DecodeNode.sameLimits_push _ _)
        intro slot
        have atMost :=
          DecodeNode.claims_push cluster.node ⟨⟨serverFd, message⟩, 0⟩ slot
        rw [queued, List.countP_cons]
        simp only [NodeEvent.prepares] at atMost
        cases prepares : message.prepares slot <;>
          simp only [prepares, Bool.toNat_true, Bool.toNat_false, if_true,
            Bool.false_eq_true, if_false] at atMost ⊢ <;>
          omega
  | node action =>
      simp only [SlotCluster.step] at taken
      split at taken
      · cases taken
      · rename_i inside
        obtain ⟨node, stepped, rfl⟩ := Option.map_eq_some_iff.mp taken
        refine
          owned.node cluster.link ?_ (DecodeNode.sameLimits_step stepped)
        intro slot
        exact
          Nat.add_le_add_left
            (DecodeNode.claims_step stepped (by simpa using inside) slot) _

end Owned

/-- Every worker of the node that handles a message to prepare a slot finds the
slot below the limit and unused. -/
def PreparesWithoutException (cluster : SlotCluster) : Prop :=
  ∀ info assignment, .prepareSlot info assignment ∈ cluster.node.tasks →
    cluster.node.Adds info

theorem Owned.preparesWithoutException
    {layout : MemoryLayout} {numLayers : UInt32} {cluster : SlotCluster}
    {slotConfig : RequestRouterSlotConfig}
    (owned : cluster.Owned slotConfig layout numLayers)
    (enoughSlots :
      slotConfig.maxSlotsPerNode ≤ layout.maxConcurrentRequests)
    (layers : 0 ≤ numLayers.toInt32) :
    cluster.PreparesWithoutException := by
  intro info assignment handled
  have once := owned.once info.slotId
  have prepares :
      0 < cluster.node.tasks.countP (WorkerTask.prepares info.slotId) :=
    List.countP_pos_iff.mpr
      ⟨.prepareSlot info assignment, handled, decide_eq_true rfl⟩
  have ofNode :
      cluster.node.claims info.slotId ≤ cluster.claims info.slotId := by
    rw [claims, occupied]
    omega
  have claimed : 0 < cluster.claims info.slotId := by
    rw [DecodeNode.claims] at ofNode
    omega
  obtain ⟨nonneg, below⟩ := owned.inRange info.slotId claimed
  refine
    DecodeNode.adds_of_claims handled (ofNode.trans once) ⟨nonneg, ?_⟩ ?_
  · rw [owned.layout_eq]
    exact Int32.lt_of_lt_of_le below enoughSlots
  · rw [owned.numLayers_eq]
    exact layers

/-- At the start the router has all slots and nobody else has any. -/
theorem owned_start
    (orchestratorId decodeNodeId nodeOrchestratorId : ByteString)
    (policy : RoutingPolicy) (registry : NodeRegistry) (numLayers : UInt32)
    (capacity : UInt64) (engine : RDMAEngine) (layout : MemoryLayout) :
    (start orchestratorId decodeNodeId policy registry
      (.start nodeOrchestratorId numLayers capacity engine layout)).Owned {}
      layout numLayers := by
  have all (slot : Int32) :
      claims
          (start orchestratorId decodeNodeId policy registry
            (.start nodeOrchestratorId numLayers capacity engine layout))
          slot =
        (fullPool 8).free.count slot :=
    rfl
  refine ⟨⟨_, RequestRouter.Represents.of_fresh rfl⟩, ?_, ?_, rfl, rfl⟩
  · intro slot
    rw [all]
    exact List.nodup_iff_count_le_one.mp (fullPool 8).free_nodup slot
  · intro slot claimed
    rw [all] at claimed
    exact (fullPool 8).free_subset (List.count_pos_iff.mp claimed)

end SlotCluster

open SlotCluster in
/-- In a run in which no slot is given back while somebody else has a claim to
it, the node prepares every slot it is told to without an exception, provided
that it has as many slots as the router lends. -/
theorem slots_prepared_without_exception
    (orchestratorId decodeNodeId nodeOrchestratorId : ByteString)
    (policy : RoutingPolicy) (registry : NodeRegistry) (numLayers : UInt32)
    (capacity : UInt64) (engine : RDMAEngine) (layout : MemoryLayout)
    {actions : List ClusterAction}
    (enoughSlots :
      ({} : RequestRouterSlotConfig).maxSlotsPerNode ≤
        layout.maxConcurrentRequests)
    (layers : 0 ≤ numLayers.toInt32)
    (inTime :
      LabelledRuns.Meets step FreesInTime
        (start orchestratorId decodeNodeId policy registry
          (.start nodeOrchestratorId numLayers capacity engine layout))
        actions) :
    LabelledRuns.Throughout step PreparesWithoutException
      (start orchestratorId decodeNodeId policy registry
        (.start nodeOrchestratorId numLayers capacity engine layout))
      actions :=
  LabelledRuns.throughout_of_meets
    (fun _ _ _ taken met owned => Owned.step owned taken met)
    (fun _ owned => owned.preparesWithoutException enoughSlots layers) inTime
    (owned_start _ _ _ _ _ _ _ _ _)

namespace SlotCluster

/-- A prefill node and a decode node that have not connected yet. -/
def sampleRegistry : NodeRegistry :=
  (({} : NodeRegistry).addNode (.healthy [1] .prefill)).addNode
    (.healthy [2] .decode)

def connectedRegistry : NodeRegistry :=
  (sampleRegistry.addNodeFd [1] 7).addNodeFd [2] 8

def sampleStart : SlotCluster :=
  start [0] [2] .leastLoaded connectedRegistry (.start [0] 1 16 .onePeer {})

/-- A section of the handler `index` that lists the given nodes. -/
def sampleSection (index : Nat) (listing : List NodeInfo) : ClusterAction :=
  .advance index
    { select := { listing := listing }
      process :=
        { requestMemory := Message.cleared.requestInfo
          origin := fun _ => ⟨.cleared, 0⟩ } }

/-- The handler `index` runs until it has selected a decode node, and `sections`
more sections. -/
def sampleRequest (requestId : ByteString) (index sections : Nat) :
    List ClusterAction :=
  .clientRequest { Message.cleared.requestInfo with requestId := requestId } ::
    [sampleSection index [.healthy [1] .prefill], sampleSection index [],
      sampleSection index [.healthy [2] .decode]] ++
      List.replicate sections (sampleSection index [])

/-- The node receives the next message and a worker takes it. -/
def sampleReceived : List ClusterAction :=
  [.receivePrepare 5, .node .waitAndPop]

/-- The first request fails, seven others follow and the next one gets the slot
of the first. -/
def slotRecycled : List ClusterAction :=
  sampleRequest [10] 0 8 ++ sampleReceived ++ [.node (.work 0 {}),
    .freeSlot [10]] ++
    (List.range 8).flatMap fun index =>
      sampleRequest [UInt8.ofNat (11 + index)] (index + 1) 8 ++ sampleReceived

/-- The first request gives its slot back before the node has heard of it. -/
def slotDiscarded : List ClusterAction :=
  .updateRegistry sampleRegistry :: sampleRequest [10] 0 7 ++
    .updateRegistry connectedRegistry :: sampleRequest [11] 1 8 ++
      sampleReceived ++ [.node (.work 0 {})]

theorem recycled_slot_is_in_use :
    ∃ final info assignment,
      LabelledRuns.execute step sampleStart slotRecycled = some final ∧
        .prepareSlot info assignment ∈ final.node.tasks ∧
        info.requestId = [18] ∧ info.slotId = 0 ∧
        final.node.tracker.slotOf [10] = some 0 ∧
        ¬final.PreparesWithoutException := by
  have outcome :
      (LabelledRuns.execute step sampleStart slotRecycled).map
          (fun final =>
            (final.node.tracker.slotOf [10],
              (final.node.tasks.getLast?.bind WorkerTask.preparing).map
                fun info =>
                  (info.requestId, info.slotId,
                    (final.node.tracker.addRequest info.requestId
                      info.prefillNodeId info.slotId
                      final.node.numLayers.toInt32).isOk))) =
        some (some 0, some ([18], 0, false)) := by
    decide +kernel
  obtain ⟨final, run, observed⟩ := Option.map_eq_some_iff.mp outcome
  simp only [Prod.mk.injEq, Option.map_eq_some_iff, Option.bind_eq_some_iff]
    at observed
  obtain ⟨holder, info, ⟨task, last, preparing⟩, named, slot, refused⟩ :=
    observed
  have isTask : ∃ assignment, task = .prepareSlot info assignment := by
    cases task <;> cases preparing
    exact ⟨_, rfl⟩
  obtain ⟨assignment, rfl⟩ := isTask
  have handled : .prepareSlot info assignment ∈ final.node.tasks :=
    List.mem_of_getLast? last
  refine ⟨final, info, assignment, run, handled, named, slot, holder, ?_⟩
  intro without
  obtain ⟨added, adds⟩ := without info assignment handled
  rw [adds] at refused
  cases refused

theorem discarded_slot_is_prepared :
    (∃ final,
      LabelledRuns.execute step sampleStart slotDiscarded = some final ∧
        final.node.tracker.slotOf [11] = some 1) ∧
      LabelledRuns.Throughout step PreparesWithoutException sampleStart
        slotDiscarded := by
  have outcome :
      (LabelledRuns.execute step sampleStart slotDiscarded).map
          (fun final => final.node.tracker.slotOf [11]) =
        some (some 1) := by
    decide +kernel
  obtain ⟨final, run, slot⟩ := Option.map_eq_some_iff.mp outcome
  exact
    ⟨⟨final, run, slot⟩,
      slots_prepared_without_exception _ _ _ _ _ _ _ _ _ (by decide)
        (by decide) (by decide +kernel)⟩

end SlotCluster

end RdmaKvCache
