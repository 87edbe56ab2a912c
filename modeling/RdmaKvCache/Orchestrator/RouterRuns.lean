import RdmaKvCache.Library.LabelledRuns
import RdmaKvCache.Orchestrator.RouterPools

/-!
# Interleaved selections

A `select_nodes_and_allocate_slot` call is a sequence of critical sections:

* it lists the healthy prefill nodes and chooses one;
* it lists the healthy decode nodes, keeps those with a free slot and chooses
  one;
* it allocates a slot of the chosen node, which may fail by then;
* it records the node for the request and returns.

Calls on any number of threads advance one section at a time.  Between two
sections other calls, `free_slot` calls, load updates and changes of the
registry take place in any order, and request ids may repeat.  The history
records allocations and `free_slot` calls, the newest first.
-/

namespace RdmaKvCache

/-- The last critical section a running call has left. -/
inductive SelectState where
  | entered
  | prefillListed (prefillNodes : List NodeInfo)
  | prefillSelected (prefillNode : NodeInfo)
  | decodeListed (prefillNode : NodeInfo) (decodeNodes : List NodeInfo)
  | slotsFiltered (prefillNode : NodeInfo) (nodesWithSlots : List NodeInfo)
  | decodeSelected (prefillNode decodeNode : NodeInfo)
  | slotAllocated (prefillNode decodeNode : NodeInfo) (slotId : Int32)
  | returned (result : Option RoutingResult)
  deriving DecidableEq

/-- What the next section may take from outside: the order in which the
registry's map is traversed and what the random generator yields. -/
structure SelectInput where
  listing : List NodeInfo := []
  draw : Nat := 0

namespace SelectState

def listed
    (router : RequestRouter) (registry : NodeRegistry) (role : NodeRole)
    (listing : List NodeInfo) (continued : SelectState) :
    Option (RequestRouter × SelectState) :=
  if listing.Perm (registry.getHealthyNodes role) then
    some (router, if listing.isEmpty then .returned none else continued)
  else
    none

/-- The next critical section of a call for `requestId`. -/
def advance
    (router : RequestRouter) (registry : NodeRegistry) (requestId : ByteString)
    (input : SelectInput) : SelectState → Option (RequestRouter × SelectState)
  | .entered =>
      listed router registry .prefill input.listing
        (.prefillListed input.listing)
  | .prefillListed prefillNodes =>
      match router.selectPrefillNode prefillNodes input.draw with
      | (none, next) => some (next, .returned none)
      | (some prefillNode, next) => some (next, .prefillSelected prefillNode)
  | .prefillSelected prefillNode =>
      listed router registry .decode input.listing
        (.decodeListed prefillNode input.listing)
  | .decodeListed prefillNode decodeNodes =>
      match router.nodesWithSlots decodeNodes with
      | ([], next) => some (next, .returned none)
      | (node :: rest, next) =>
          some (next, .slotsFiltered prefillNode (node :: rest))
  | .slotsFiltered prefillNode nodesWithSlots =>
      match router.selectDecodeNode nodesWithSlots input.draw with
      | (none, next) => some (next, .returned none)
      | (some decodeNode, next) =>
          some (next, .decodeSelected prefillNode decodeNode)
  | .decodeSelected prefillNode decodeNode =>
      match router.allocateSlotForNode decodeNode.nodeId requestId with
      | (none, next) => some (next, .returned none)
      | (some slotId, next) =>
          some (next, .slotAllocated prefillNode decodeNode slotId)
  | .slotAllocated prefillNode decodeNode slotId =>
      some
        (router.trackDecodeNode requestId decodeNode.nodeId,
          .returned
            (some
              { prefillNode := prefillNode
                decodeNode := decodeNode
                slotId := slotId
                slotBaseOffset := router.slotConfig.slotBaseOffset slotId }))
  | .returned _ => none

end SelectState

section Sections

variable (router : RequestRouter) (registry : NodeRegistry)
variable (requestId : ByteString) (input : SelectInput)

/-- The ways through the sections of a call: the state before, what becomes of the
router and the state that is reached. -/
inductive SelectSection : SelectState → RequestRouter → SelectState → Prop
  | noPrefill (nobody : registry.getHealthyNodes .prefill = []) :
      SelectSection .entered router (.returned none)
  | prefillListed (nodes : List NodeInfo) :
      SelectSection .entered router (.prefillListed nodes)
  | prefillRefused
      (prefillNodes : List NodeInfo) {next : RequestRouter}
      (chosen :
        router.selectPrefillNode prefillNodes input.draw = (none, next)) :
      SelectSection (.prefillListed prefillNodes) next (.returned none)
  | prefillSelected
      (prefillNodes : List NodeInfo) {prefillNode : NodeInfo}
      {next : RequestRouter}
      (chosen :
        router.selectPrefillNode prefillNodes input.draw =
          (some prefillNode, next)) :
      SelectSection (.prefillListed prefillNodes) next
        (.prefillSelected prefillNode)
  | noDecode
      (prefillNode : NodeInfo)
      (nobody : registry.getHealthyNodes .decode = []) :
      SelectSection (.prefillSelected prefillNode) router (.returned none)
  | decodeListed (prefillNode : NodeInfo) (nodes : List NodeInfo) :
      SelectSection (.prefillSelected prefillNode) router
        (.decodeListed prefillNode nodes)
  | noSlots
      (prefillNode : NodeInfo) (decodeNodes : List NodeInfo)
      {next : RequestRouter}
      (filtered : router.nodesWithSlots decodeNodes = ([], next)) :
      SelectSection (.decodeListed prefillNode decodeNodes) next
        (.returned none)
  | slotsFiltered
      (prefillNode : NodeInfo) (decodeNodes : List NodeInfo) {node : NodeInfo}
      {rest : List NodeInfo} {next : RequestRouter}
      (filtered : router.nodesWithSlots decodeNodes = (node :: rest, next)) :
      SelectSection (.decodeListed prefillNode decodeNodes) next
        (.slotsFiltered prefillNode (node :: rest))
  | decodeRefused
      (prefillNode : NodeInfo) (nodesWithSlots : List NodeInfo)
      {next : RequestRouter}
      (chosen :
        router.selectDecodeNode nodesWithSlots input.draw = (none, next)) :
      SelectSection (.slotsFiltered prefillNode nodesWithSlots) next
        (.returned none)
  | decodeSelected
      (prefillNode : NodeInfo) (nodesWithSlots : List NodeInfo)
      {decodeNode : NodeInfo} {next : RequestRouter}
      (chosen :
        router.selectDecodeNode nodesWithSlots input.draw =
          (some decodeNode, next)) :
      SelectSection (.slotsFiltered prefillNode nodesWithSlots) next
        (.decodeSelected prefillNode decodeNode)
  | notAllocated
      (prefillNode decodeNode : NodeInfo) {next : RequestRouter}
      (failed :
        router.allocateSlotForNode decodeNode.nodeId requestId =
          (none, next)) :
      SelectSection (.decodeSelected prefillNode decodeNode) next
        (.returned none)
  | slotAllocated
      (prefillNode decodeNode : NodeInfo) {slotId : Int32}
      {next : RequestRouter}
      (succeeded :
        router.allocateSlotForNode decodeNode.nodeId requestId =
          (some slotId, next)) :
      SelectSection (.decodeSelected prefillNode decodeNode) next
        (.slotAllocated prefillNode decodeNode slotId)
  | returned (prefillNode decodeNode : NodeInfo) (slotId : Int32) :
      SelectSection (.slotAllocated prefillNode decodeNode slotId)
        (router.trackDecodeNode requestId decodeNode.nodeId)
        (.returned
          (some
            { prefillNode := prefillNode
              decodeNode := decodeNode
              slotId := slotId
              slotBaseOffset := router.slotConfig.slotBaseOffset slotId }))

variable {router registry requestId input}
variable {next : RequestRouter} {state reached : SelectState}

/-- Listing the nodes of a role goes on, unless there are none. -/
theorem SelectState.listed_eq_some
    {role : NodeRole} {continued : SelectState}
    (taken :
      listed router registry role input.listing continued =
        some (next, reached)) :
    next = router ∧
      (registry.getHealthyNodes role = [] ∧ reached = .returned none ∨
        reached = continued) := by
  rw [listed] at taken
  split at taken
  · rename_i order
    obtain ⟨sameRouter, reaches⟩ := Prod.mk.inj (Option.some.inj taken)
    refine ⟨sameRouter.symm, ?_⟩
    split at reaches
    · rename_i isEmpty
      rw [List.isEmpty_iff.mp isEmpty] at order
      exact Or.inl ⟨List.nil_perm.mp order, reaches.symm⟩
    · exact Or.inr reaches.symm
  · cases taken

theorem SelectState.section_of_advance
    (advanced :
      state.advance router registry requestId input = some (next, reached)) :
    SelectSection router registry requestId input state next reached := by
  cases state with
  | entered =>
      obtain ⟨same, ⟨nobody, refused⟩ | goesOn⟩ := listed_eq_some advanced
      · rw [same, refused]
        exact .noPrefill nobody
      · rw [same, goesOn]
        exact .prefillListed input.listing
  | prefillListed prefillNodes =>
      simp only [advance] at advanced
      split at advanced
      · rename_i chosen
        cases advanced
        exact .prefillRefused prefillNodes chosen
      · rename_i chosen
        cases advanced
        exact .prefillSelected prefillNodes chosen
  | prefillSelected prefillNode =>
      obtain ⟨same, ⟨nobody, refused⟩ | goesOn⟩ := listed_eq_some advanced
      · rw [same, refused]
        exact .noDecode prefillNode nobody
      · rw [same, goesOn]
        exact .decodeListed prefillNode input.listing
  | decodeListed prefillNode decodeNodes =>
      simp only [advance] at advanced
      split at advanced
      · rename_i filtered
        cases advanced
        exact .noSlots prefillNode decodeNodes filtered
      · rename_i filtered
        cases advanced
        exact .slotsFiltered prefillNode decodeNodes filtered
  | slotsFiltered prefillNode nodesWithSlots =>
      simp only [advance] at advanced
      split at advanced
      · rename_i chosen
        cases advanced
        exact .decodeRefused prefillNode nodesWithSlots chosen
      · rename_i chosen
        cases advanced
        exact .decodeSelected prefillNode nodesWithSlots chosen
  | decodeSelected prefillNode decodeNode =>
      simp only [advance] at advanced
      split at advanced
      · rename_i failed
        cases advanced
        exact .notAllocated prefillNode decodeNode failed
      · rename_i succeeded
        cases advanced
        exact .slotAllocated prefillNode decodeNode succeeded
  | slotAllocated prefillNode decodeNode slotId =>
      cases advanced
      exact .returned prefillNode decodeNode slotId
  | returned result =>
      cases advanced

end Sections

structure SelectCall where
  requestId : ByteString
  state : SelectState
  deriving DecidableEq

inductive RouterEvent where
  | allocated
      (call : Nat) (nodeId requestId : ByteString) (slotId : Int32)
  | freeSlot (requestId : ByteString)
  deriving DecidableEq

/-- A section ends in `slotAllocated` exactly when it has allocated a slot. -/
def SelectState.events (call : Nat) (requestId : ByteString) :
    SelectState → List RouterEvent
  | .slotAllocated _ decodeNode slotId =>
      [.allocated call decodeNode.nodeId requestId slotId]
  | _ => []

structure RouterSystem where
  router : RequestRouter
  registry : NodeRegistry
  calls : List SelectCall := []
  history : List RouterEvent := []

inductive RouterAction where
  | select (requestId : ByteString)
  | advance (call : Nat) (input : SelectInput)
  | freeSlot (requestId : ByteString)
  | incrementNodeLoad (nodeId : ByteString)
  | decrementNodeLoad (nodeId : ByteString)
  | updateRegistry (registry : NodeRegistry)

namespace RouterSystem

/-- A new router, before any call. -/
def start
    (policy : RoutingPolicy) (slotConfig : RequestRouterSlotConfig)
    (registry : NodeRegistry) : RouterSystem where
  router := { policy := policy, slotConfig := slotConfig }
  registry := registry

def step (system : RouterSystem) : RouterAction → Option RouterSystem
  | .select requestId =>
      some
        { system with calls := system.calls ++ [⟨requestId, .entered⟩] }
  | .advance index input =>
      system.calls[index]?.bind fun call =>
        (call.state.advance system.router system.registry call.requestId
          input).map fun (router, state) =>
            { system with
              router := router
              calls := system.calls.set index { call with state := state }
              history := state.events index call.requestId ++ system.history }
  | .freeSlot requestId =>
      some
        { system with
          router := system.router.freeSlot requestId
          history := .freeSlot requestId :: system.history }
  | .incrementNodeLoad nodeId =>
      some { system with router := system.router.incrementNodeLoad nodeId }
  | .decrementNodeLoad nodeId =>
      some { system with router := system.router.decrementNodeLoad nodeId }
  | .updateRegistry registry => some { system with registry := registry }

end RouterSystem

/-! ## What one section does to the pools -/

/-- A section of a call allocates a slot, which lends the front slot of the
chosen node's pool, or leaves the pools alone. -/
theorem SelectState.advance_pools
    {slotConfig : RequestRouterSlotConfig} {router next : RequestRouter}
    {pools : ByteString → SlotPool slotConfig.maxSlotsPerNode}
    {registry : NodeRegistry}
    {requestId : ByteString} {input : SelectInput}
    {state reached : SelectState} (call : Nat)
    (represents : router.Represents pools)
    (advanced :
      state.advance router registry requestId input = some (next, reached)) :
    (reached.events call requestId = [] ∧ next.Represents pools) ∨
      ∃ nodeId slotId rest,
        ∃ front : (pools nodeId).free = slotId :: rest,
          reached.events call requestId =
              [.allocated call nodeId requestId slotId] ∧
            next.Represents
              (Function.update pools nodeId
                ((pools nodeId).lend requestId slotId rest front)) := by
  cases section_of_advance advanced with
  | noPrefill | prefillListed | noDecode | decodeListed =>
      exact Or.inl ⟨rfl, represents⟩
  | prefillRefused prefillNodes chosen
  | prefillSelected prefillNodes chosen =>
      have selected := represents.selectPrefillNode prefillNodes input.draw
      rw [chosen] at selected
      exact Or.inl ⟨rfl, selected⟩
  | noSlots prefillNode decodeNodes equality
  | slotsFiltered prefillNode decodeNodes equality =>
      have filtered := represents.nodesWithSlots decodeNodes
      rw [equality] at filtered
      exact Or.inl ⟨rfl, filtered⟩
  | decodeRefused prefillNode nodesWithSlots chosen
  | decodeSelected prefillNode nodesWithSlots chosen =>
      have selected := represents.selectDecodeNode nodesWithSlots input.draw
      rw [chosen] at selected
      exact Or.inl ⟨rfl, selected⟩
  | notAllocated prefillNode decodeNode failed =>
      rw [(RequestRouter.allocateSlotForNode_none failed).2]
      exact Or.inl ⟨rfl, represents.initializeNodeSlots decodeNode.nodeId⟩
  | @slotAllocated prefillNode decodeNode slotId _ succeeded =>
      obtain ⟨rest, front, represented⟩ :=
        represents.allocateSlotForNode succeeded
      exact Or.inr ⟨decodeNode.nodeId, slotId, rest, front, rfl, represented⟩
  | returned =>
      exact
        Or.inl ⟨rfl, represents.of_same_allocators rfl (fun _ => rfl)⟩

/-! ## What the history says about the pools -/

/-- The slot was allocated to the request and no `free_slot` call for the
request has come after. -/
def AllocatedSince
    (history : List RouterEvent) (nodeId requestId : ByteString)
    (slotId : Int32) : Prop :=
  ∃ newer call older,
    history = newer ++ .allocated call nodeId requestId slotId :: older ∧
      .freeSlot requestId ∉ newer

/-- Between two allocations of one slot the first request is freed. -/
def FreedBetween (history : List RouterEvent) : Prop :=
  ∀ (newer middle older : List RouterEvent) {firstCall secondCall : Nat}
    {nodeId first second : ByteString} {slotId : Int32},
    history =
        newer ++ .allocated secondCall nodeId second slotId ::
          (middle ++ .allocated firstCall nodeId first slotId :: older) →
      .freeSlot first ∈ middle

theorem AllocatedSince.of_cons
    {event : RouterEvent} {history : List RouterEvent}
    {nodeId requestId : ByteString} {slotId : Int32}
    (since : AllocatedSince (event :: history) nodeId requestId slotId) :
    (∃ call, event = .allocated call nodeId requestId slotId) ∨
      event ≠ .freeSlot requestId ∧
        AllocatedSince history nodeId requestId slotId := by
  obtain ⟨newer, call, older, split, notFreed⟩ := since
  cases newer with
  | nil =>
      exact Or.inl ⟨call, (List.cons.inj split).1⟩
  | cons head rest =>
      obtain ⟨rfl, remaining⟩ := List.cons.inj split
      rw [List.mem_cons, not_or] at notFreed
      exact
        Or.inr ⟨Ne.symm notFreed.1, rest, call, older, remaining, notFreed.2⟩

/-- The pools a history leaves behind: every slot allocated and not freed since
is lent to its request. -/
structure Recorded
    {maxSlots : Int32} (history : List RouterEvent)
    (pools : ByteString → SlotPool maxSlots) : Prop where
  lent :
    ∀ {nodeId requestId slotId},
      AllocatedSince history nodeId requestId slotId →
        (pools nodeId).Lent requestId slotId
  freedBetween : FreedBetween history
  inRange :
    ∀ {call nodeId requestId slotId},
      .allocated call nodeId requestId slotId ∈ history →
        slotId ∈ SlotRange maxSlots

namespace Recorded

variable {maxSlots : Int32} {history : List RouterEvent}
variable {pools : ByteString → SlotPool maxSlots}

theorem empty (pools : ByteString → SlotPool maxSlots) :
    Recorded [] pools where
  lent := by
    rintro nodeId requestId slotId ⟨newer, call, older, split, _⟩
    simp at split
  freedBetween := by
    intro newer middle older _ _ nodeId first second slotId split
    simp at split
  inRange := by
    intro call nodeId requestId slotId member
    cases member

theorem allocated
    (recorded : Recorded history pools)
    {call : Nat} {nodeId requestId : ByteString} {slotId : Int32}
    {rest : List Int32} (front : (pools nodeId).free = slotId :: rest) :
    Recorded (.allocated call nodeId requestId slotId :: history)
      (Function.update pools nodeId
        ((pools nodeId).lend requestId slotId rest front)) where
  lent := by
    intro testedNode tested other since
    rcases since.of_cons with ⟨_, same⟩ | ⟨_, earlier⟩
    · cases same
      rw [Function.update_self]
      exact (pools nodeId).lent_lend requestId slotId rest front
    · by_cases sameNode : testedNode = nodeId
      · subst testedNode
        rw [Function.update_self]
        exact (recorded.lent earlier).lend front
      · rw [Function.update_of_ne sameNode]
        exact recorded.lent earlier
  freedBetween := by
    intro newer middle older _ _ testedNode first second other split
    cases newer with
    | nil =>
        obtain ⟨same, remaining⟩ := List.cons.inj split
        cases same
        by_contra notFreed
        have lent : (pools nodeId).Lent first slotId :=
          recorded.lent ⟨middle, _, older, remaining, notFreed⟩
        exact lent.1 (by simp [front])
    | cons head newerRest =>
        exact
          recorded.freedBetween newerRest middle older (List.cons.inj split).2
  inRange := by
    intro tested testedNode testedRequest other member
    rcases List.mem_cons.mp member with same | earlier
    · cases same
      exact (pools nodeId).free_subset (by simp [front])
    · exact recorded.inRange earlier

theorem freeSlot
    (recorded : Recorded history pools) {requestId : ByteString}
    {next : ByteString → SlotPool maxSlots}
    (change :
      (∃ nodeId slotId,
        ∃ owned : (pools nodeId).held requestId = some slotId,
          next =
            Function.update pools nodeId
              ((pools nodeId).giveBack requestId slotId owned)) ∨
        next = pools) :
    Recorded (.freeSlot requestId :: history) next where
  lent := by
    intro testedNode tested other since
    rcases since.of_cons with ⟨_, same⟩ | ⟨notSame, earlier⟩
    · cases same
    · rcases change with ⟨nodeId, slotId, owned, rfl⟩ | rfl
      · by_cases sameNode : testedNode = nodeId
        · subst testedNode
          rw [Function.update_self]
          refine (recorded.lent earlier).giveBack owned ?_
          intro same
          subst same
          exact notSame rfl
        · rw [Function.update_of_ne sameNode]
          exact recorded.lent earlier
      · exact recorded.lent earlier
  freedBetween := by
    intro newer middle older _ _ testedNode first second other split
    cases newer with
    | nil =>
        cases (List.cons.inj split).1
    | cons head newerRest =>
        exact
          recorded.freedBetween newerRest middle older (List.cons.inj split).2
  inRange := by
    intro tested testedNode testedRequest other member
    rcases List.mem_cons.mp member with same | earlier
    · cases same
    · exact recorded.inRange earlier

end Recorded

/-! ## The invariant of all interleavings -/

/-- A call that has allocated its slot says so in the history, and the result it
returns carries the slot's base offset. -/
def SelectCall.Recorded
    (slotConfig : RequestRouterSlotConfig) (history : List RouterEvent)
    (index : Nat) (call : SelectCall) : Prop :=
  match call.state with
  | .slotAllocated _ decodeNode slotId =>
      .allocated index decodeNode.nodeId call.requestId slotId ∈ history
  | .returned (some result) =>
      .allocated index result.decodeNode.nodeId call.requestId result.slotId ∈
          history ∧
        result.slotBaseOffset = slotConfig.slotBaseOffset result.slotId
  | _ => True

structure RouterSystem.Invariant
    (slotConfig : RequestRouterSlotConfig) (system : RouterSystem) :
    Prop where
  pools :
    ∃ pools : ByteString → SlotPool slotConfig.maxSlotsPerNode,
      system.router.Represents pools ∧ Recorded system.history pools
  calls :
    ∀ {index : Nat} {call : SelectCall}, system.calls[index]? = some call →
      call.Recorded slotConfig system.history index

theorem SelectCall.Recorded.of_newer
    {slotConfig : RequestRouterSlotConfig} {history : List RouterEvent}
    {index : Nat} {call : SelectCall}
    (recorded : call.Recorded slotConfig history index)
    (newer : List RouterEvent) :
    call.Recorded slotConfig (newer ++ history) index := by
  unfold SelectCall.Recorded at recorded ⊢
  split
  · rename_i prefillNode decodeNode slotId reached
    rw [reached] at recorded
    exact List.mem_append_right newer recorded
  · rename_i result reached
    rw [reached] at recorded
    exact ⟨List.mem_append_right newer recorded.1, recorded.2⟩
  · trivial

/-- Only the allocating section and the recording one say anything new. -/
theorem SelectState.advance_recorded
    {slotConfig : RequestRouterSlotConfig} {router next : RequestRouter}
    {registry : NodeRegistry} {requestId : ByteString} {input : SelectInput}
    {state reached : SelectState} {history : List RouterEvent} {call : Nat}
    (sameConfig : router.slotConfig = slotConfig)
    (recorded :
      SelectCall.Recorded slotConfig history call ⟨requestId, state⟩)
    (advanced :
      state.advance router registry requestId input = some (next, reached)) :
    SelectCall.Recorded slotConfig
      (reached.events call requestId ++ history) call
      ⟨requestId, reached⟩ := by
  cases section_of_advance advanced with
  | noPrefill | prefillListed | prefillRefused | prefillSelected | noDecode
  | decodeListed | noSlots | slotsFiltered | decodeRefused | decodeSelected
  | notAllocated =>
      trivial
  | slotAllocated =>
      simp [SelectCall.Recorded, events]
  | returned =>
      exact ⟨recorded, by rw [sameConfig]⟩

namespace RouterSystem

variable {slotConfig : RequestRouterSlotConfig}
variable {system next : RouterSystem}

theorem Invariant.start
    (policy : RoutingPolicy) (slotConfig : RequestRouterSlotConfig)
    (registry : NodeRegistry) :
    (start policy slotConfig registry).Invariant slotConfig where
  pools :=
    ⟨fun _ => fullPool slotConfig.maxSlotsPerNode,
      RequestRouter.Represents.of_fresh rfl, Recorded.empty _⟩
  calls := by
    intro index call found
    simp [RouterSystem.start] at found

/-- A change of the router that leaves the allocators alone. -/
theorem Invariant.of_same_allocators
    (holds : system.Invariant slotConfig)
    (sameConfig : next.router.slotConfig = system.router.slotConfig)
    (same :
      ∀ nodeId,
        next.router.allocatorOf nodeId = system.router.allocatorOf nodeId)
    (sameHistory : next.history = system.history)
    (calls :
      ∀ {index : Nat} {call : SelectCall}, next.calls[index]? = some call →
        call.Recorded slotConfig system.history index) :
    next.Invariant slotConfig := by
  obtain ⟨pools, represents, recorded⟩ := holds.pools
  refine ⟨⟨pools, represents.of_same_allocators sameConfig same, ?_⟩, ?_⟩
  · rw [sameHistory]
    exact recorded
  · rw [sameHistory]
    exact calls

theorem Invariant.advance
    (holds : system.Invariant slotConfig)
    {index : Nat} {input : SelectInput}
    (taken : system.step (.advance index input) = some next) :
    next.Invariant slotConfig := by
  obtain ⟨pools, represents, recorded⟩ := holds.pools
  simp only [step, Option.bind_eq_some_iff, Option.map_eq_some_iff] at taken
  obtain ⟨call, found, ⟨router, reached⟩, advanced, rfl⟩ := taken
  constructor
  · rcases SelectState.advance_pools index represents advanced with
      ⟨silent, represented⟩ |
        ⟨nodeId, slotId, rest, front, allocated, represented⟩
    · exact ⟨pools, represented, by simpa [silent] using recorded⟩
    · exact ⟨_, represented, by simpa [allocated] using recorded.allocated front⟩
  · intro tested other otherFound
    by_cases same : index = tested
    · subst tested
      rw [List.getElem?_set_self (List.getElem?_eq_some_iff.mp found).1]
        at otherFound
      cases otherFound
      exact
        SelectState.advance_recorded represents.slotConfig_eq
          (holds.calls found) advanced
    · rw [List.getElem?_set_ne same] at otherFound
      exact (holds.calls otherFound).of_newer _

theorem Invariant.freeSlot
    (holds : system.Invariant slotConfig) (requestId : ByteString)
    (taken : system.step (.freeSlot requestId) = some next) :
    next.Invariant slotConfig := by
  obtain ⟨pools, represents, recorded⟩ := holds.pools
  cases taken
  constructor
  · rcases represents.freeSlot requestId with
      ⟨nodeId, slotId, owned, _, represented⟩ | represented
    · exact
        ⟨_, represented,
          recorded.freeSlot (Or.inl ⟨nodeId, slotId, owned, rfl⟩)⟩
    · exact ⟨_, represented, recorded.freeSlot (Or.inr rfl)⟩
  · intro index call found
    exact (holds.calls found).of_newer [.freeSlot requestId]

theorem Invariant.step
    (holds : system.Invariant slotConfig) {action : RouterAction}
    (taken : system.step action = some next) :
    next.Invariant slotConfig := by
  cases action with
  | select requestId =>
      cases taken
      refine holds.of_same_allocators rfl (fun _ => rfl) rfl ?_
      intro index call found
      by_cases earlier : index < system.calls.length
      · rw [List.getElem?_append_left earlier] at found
        exact holds.calls found
      · rw [List.getElem?_append_right (Nat.le_of_not_lt earlier)] at found
        rw [List.mem_singleton.mp (List.mem_of_getElem? found)]
        trivial
  | advance index input =>
      exact holds.advance taken
  | freeSlot requestId =>
      exact holds.freeSlot requestId taken
  | incrementNodeLoad nodeId =>
      cases taken
      exact holds.of_same_allocators rfl (fun _ => rfl) rfl holds.calls
  | decrementNodeLoad nodeId =>
      cases taken
      refine holds.of_same_allocators ?_ ?_ rfl holds.calls
      · exact RequestRouter.decrementNodeLoad_slotConfig system.router nodeId
      · exact RequestRouter.allocatorOf_decrementNodeLoad system.router nodeId
  | updateRegistry registry =>
      cases taken
      exact holds.of_same_allocators rfl (fun _ => rfl) rfl holds.calls

/-- The invariant holds after every interleaving. -/
theorem invariant_of_run
    {policy : RoutingPolicy} {registry : NodeRegistry}
    {actions : List RouterAction} {final : RouterSystem}
    (run :
      LabelledRuns.execute RouterSystem.step
        (start policy slotConfig registry) actions = some final) :
    final.Invariant slotConfig :=
  LabelledRuns.invariant_of_execute
    (fun _ _ _ taken holds => Invariant.step holds taken)
    run (Invariant.start policy slotConfig registry)

end RouterSystem

/-! ## Exclusive slots -/

/-- The free slots and the slots of the requests are pairwise distinct slot
numbers of the node. -/
structure NodeSlotAllocator.Exclusive (allocator : NodeSlotAllocator) :
    Prop where
  free_nodup : allocator.freeSlots.Nodup
  values_distinct :
    ∀ {first second : ByteString} {slotId : Int32},
      allocator.requestToSlot.lookup first = some slotId →
        allocator.requestToSlot.lookup second = some slotId → first = second
  free_unused :
    ∀ {requestId : ByteString} {slotId : Int32},
      allocator.requestToSlot.lookup requestId = some slotId →
        slotId ∉ allocator.freeSlots
  free_inRange :
    ∀ slotId ∈ allocator.freeSlots,
      0 ≤ slotId ∧ slotId < allocator.maxSlots
  values_inRange :
    ∀ {requestId : ByteString} {slotId : Int32},
      allocator.requestToSlot.lookup requestId = some slotId →
        0 ≤ slotId ∧ slotId < allocator.maxSlots

theorem NodeSlotAllocator.Represents.exclusive
    {maxSlots : Int32} {allocator : NodeSlotAllocator}
    {pool : SlotPool maxSlots} (represents : allocator.Represents pool) :
    allocator.Exclusive where
  free_nodup := by
    rw [represents.free]
    exact pool.free_nodup
  values_distinct := by
    intro first second slotId firstHeld secondHeld
    rw [represents.held] at firstHeld secondHeld
    exact pool.held_injective firstHeld secondHeld
  free_unused := by
    intro requestId slotId held
    rw [represents.held] at held
    rw [represents.free]
    exact pool.held_not_free held
  free_inRange := by
    intro slotId member
    rw [represents.free] at member
    rw [represents.maxSlots_eq]
    exact pool.free_subset member
  values_inRange := by
    intro requestId slotId held
    rw [represents.held] at held
    rw [represents.maxSlots_eq]
    exact pool.held_subset held

/-- No slot is ever held by two requests. -/
theorem slots_exclusive_in_every_run
    {policy : RoutingPolicy} {slotConfig : RequestRouterSlotConfig}
    {registry : NodeRegistry} {actions : List RouterAction}
    {final : RouterSystem}
    (run :
      LabelledRuns.execute RouterSystem.step
        (.start policy slotConfig registry) actions = some final) :
    (∀ nodeId, (final.router.allocatorOf nodeId).Exclusive) ∧
      FreedBetween final.history ∧
      (slotConfig.maxSlotsPerNode.toInt.toNat *
            slotConfig.requestSizeBytes.toNat < 2 ^ 64 →
        ∀ (newer middle older : List RouterEvent) {firstCall secondCall : Nat}
          {nodeId first second : ByteString} {firstSlot secondSlot : Int32},
          final.history =
              newer ++ .allocated secondCall nodeId second secondSlot ::
                (middle ++
                  .allocated firstCall nodeId first firstSlot :: older) →
            .freeSlot first ∉ middle →
              Disjoint (slotConfig.slotBytes firstSlot)
                (slotConfig.slotBytes secondSlot)) ∧
      ∀ {index : Nat} {call : SelectCall}, final.calls[index]? = some call →
        call.Recorded slotConfig final.history index := by
  have holds := RouterSystem.invariant_of_run run
  obtain ⟨pools, represents, recorded⟩ := holds.pools
  refine ⟨?_, recorded.freedBetween, ?_, holds.calls⟩
  · intro nodeId
    exact (represents.allocators nodeId).exclusive
  · intro fits newer middle older firstCall secondCall nodeId first second
      firstSlot secondSlot split notFreed
    have firstMember :
        .allocated firstCall nodeId first firstSlot ∈ final.history := by
      simp [split]
    have secondMember :
        .allocated secondCall nodeId second secondSlot ∈ final.history := by
      simp [split]
    refine
      RequestRouterSlotConfig.slotBytes_disjoint
        (recorded.inRange firstMember) (recorded.inRange secondMember) fits ?_
    intro same
    subst same
    exact notFreed (recorded.freedBetween newer middle older split)

/-- A call that is the only one to run. -/
def selectAlone
    (call : Nat) (requestId : ByteString) (prefillNode decodeNode : NodeInfo) :
    List RouterAction :=
  [.select requestId, .advance call { listing := [prefillNode] },
    .advance call {}, .advance call { listing := [decodeNode] },
    .advance call {}, .advance call {}, .advance call {}, .advance call {}]

/-- With two slots, a third request is served once the first is freed. -/
theorem slots_exclusive_in_a_run_of_three_calls :
    let prefillNode := NodeInfo.healthy [1] .prefill
    let decodeNode := NodeInfo.healthy [2] .decode
    let slotConfig : RequestRouterSlotConfig :=
      { maxSlotsPerNode := 2, numLayers := 1, layerSizeMb := 1 }
    ∃ final,
      LabelledRuns.execute RouterSystem.step
          (.start .leastLoaded slotConfig
            (({} : NodeRegistry).addNode prefillNode |>.addNode decodeNode))
          (selectAlone 0 [10] prefillNode decodeNode ++
            selectAlone 1 [11] prefillNode decodeNode ++
            .freeSlot [10] :: selectAlone 2 [12] prefillNode decodeNode) =
        some final ∧
      (final.router.allocatorOf [2]).Exclusive ∧
      final.history =
        [.allocated 2 [2] [12] 0, .freeSlot [10], .allocated 1 [2] [11] 1,
          .allocated 0 [2] [10] 0] ∧
      RouterEvent.freeSlot [10] ∈
        [RouterEvent.freeSlot [10], .allocated 1 [2] [11] 1] ∧
      Disjoint (slotConfig.slotBytes 1) (slotConfig.slotBytes 0) := by
  intro prefillNode decodeNode slotConfig
  have history :
      (LabelledRuns.execute RouterSystem.step
          (.start .leastLoaded slotConfig
            (({} : NodeRegistry).addNode prefillNode |>.addNode decodeNode))
          (selectAlone 0 [10] prefillNode decodeNode ++
            selectAlone 1 [11] prefillNode decodeNode ++
            .freeSlot [10] :: selectAlone 2 [12] prefillNode decodeNode)).map
          RouterSystem.history =
        some
          [.allocated 2 [2] [12] 0, .freeSlot [10], .allocated 1 [2] [11] 1,
            .allocated 0 [2] [10] 0] := by
    decide +kernel
  obtain ⟨final, run, history⟩ := Option.map_eq_some_iff.mp history
  obtain ⟨exclusive, freedBetween, disjoint, _⟩ :=
    slots_exclusive_in_every_run run
  have fits :
      slotConfig.maxSlotsPerNode.toInt.toNat *
        slotConfig.requestSizeBytes.toNat < 2 ^ 64 := by
    decide
  exact
    ⟨final, run, exclusive [2], history,
      freedBetween [] _ _ history,
      disjoint fits [] [.freeSlot [10]] _ history (by decide)⟩

end RdmaKvCache
