import RdmaKvCache.Orchestrator.NodeChoices
import RdmaKvCache.Orchestrator.RouterRuns

/-!
# Requests turned away for lack of capacity

The healthy nodes a call lists, the slots it sees and the slot it takes are read in
different critical sections.  A moment without capacity is a state of the router
and the registry in which no prefill node is healthy or every healthy decode node
has lent all of its slots.  A call should be refused only if there has been such a
moment between its start and its return.
-/

namespace RdmaKvCache

/-- No prefill node is healthy, or no healthy decode node has a free slot. -/
def RequestRouter.NoCapacity
    (router : RequestRouter) (registry : NodeRegistry) : Prop :=
  registry.getHealthyNodes .prefill = [] ∨
    ∀ node ∈ registry.getHealthyNodes .decode,
      (router.allocatorOf node.nodeId).hasFreeSlot = false

instance (router : RequestRouter) (registry : NodeRegistry) :
    Decidable (router.NoCapacity registry) :=
  inferInstanceAs (Decidable (_ = [] ∨ _))

namespace SelectState

/-- The next section finds a node to go on with, unless it is one that lists the
healthy nodes and there are none. -/
def Proceeds (router : RequestRouter) : SelectState → Prop
  | .prefillListed prefillNodes => router.CanChoose prefillNodes
  | .decodeListed _ decodeNodes =>
      ∃ node ∈ decodeNodes, (router.allocatorOf node.nodeId).hasFreeSlot = true
  | .slotsFiltered _ nodesWithSlots => router.CanChoose nodesWithSlots
  | .decodeSelected _ decodeNode =>
      (router.allocatorOf decodeNode.nodeId).hasFreeSlot = true
  | _ => True

instance (router : RequestRouter) :
    ∀ state : SelectState, Decidable (state.Proceeds router)
  | .prefillListed prefillNodes =>
      inferInstanceAs (Decidable (router.CanChoose prefillNodes))
  | .decodeListed _ decodeNodes =>
      inferInstanceAs
        (Decidable
          (∃ node ∈ decodeNodes,
            (router.allocatorOf node.nodeId).hasFreeSlot = true))
  | .slotsFiltered _ nodesWithSlots =>
      inferInstanceAs (Decidable (router.CanChoose nodesWithSlots))
  | .decodeSelected _ decodeNode =>
      inferInstanceAs
        (Decidable ((router.allocatorOf decodeNode.nodeId).hasFreeSlot = true))
  | .entered | .prefillSelected _ | .slotAllocated _ _ _ | .returned _ =>
      .isTrue trivial

/-! ## When a section refuses the request -/

section Refusing

variable {router next : RequestRouter} {registry : NodeRegistry}
variable {requestId : ByteString} {input : SelectInput}
variable {state reached : SelectState}

theorem allocate_none_iff (router : RequestRouter) (nodeId requestId : ByteString) :
    (router.allocateSlotForNode nodeId requestId).1 = none ↔
      (router.allocatorOf nodeId).hasFreeSlot = false := by
  rcases allocated : router.allocateSlotForNode nodeId requestId with
    ⟨slotId, final⟩
  cases slotId with
  | none =>
      have noneFree := (RequestRouter.allocateSlotForNode_none allocated).1
      simp [NodeSlotAllocator.hasFreeSlot, noneFree]
  | some slotId =>
      obtain ⟨allocator, taken, _⟩ :=
        RequestRouter.allocateSlotForNode_some allocated
      unfold NodeSlotAllocator.allocate at taken
      split at taken
      · cases taken
      · rename_i front
        simp [NodeSlotAllocator.hasFreeSlot, front]

/-- A section that does not proceed refuses the request. -/
theorem advance_of_not_proceeds
    (stuck : ¬ state.Proceeds router)
    (advanced :
      state.advance router registry requestId input = some (next, reached)) :
    reached = .returned none := by
  cases section_of_advance advanced with
  | noPrefill | prefillRefused | noDecode | noSlots | decodeRefused
  | notAllocated =>
      rfl
  | prefillListed | decodeListed | returned =>
      exact absurd trivial stuck
  | prefillSelected prefillNodes chosen =>
      have none :=
        (RequestRouter.selectPrefillNode_eq_none router prefillNodes
          input.draw).mpr stuck
      rw [chosen] at none
      cases none
  | @slotsFiltered prefillNode decodeNodes node rest _ filtered =>
      have member : node ∈ (router.nodesWithSlots decodeNodes).1 := by
        rw [filtered]
        exact List.mem_cons_self
      exact absurd ⟨node, RequestRouter.mem_nodesWithSlots.mp member⟩ stuck
  | decodeSelected prefillNode nodesWithSlots chosen =>
      have none :=
        (RequestRouter.selectDecodeNode_eq_none router nodesWithSlots
          input.draw).mpr stuck
      rw [chosen] at none
      cases none
  | slotAllocated prefillNode decodeNode succeeded =>
      have none :=
        (allocate_none_iff router decodeNode.nodeId requestId).mpr
          (Bool.eq_false_of_not_eq_true stuck)
      rw [succeeded] at none
      cases none

/-- A section that refuses the request takes no slot, and it did not proceed or
there was no capacity. -/
theorem refused_cases
    (advanced :
      state.advance router registry requestId input =
        some (next, .returned none)) :
    (∀ nodeId, next.allocatorOf nodeId = router.allocatorOf nodeId) ∧
      (state.Proceeds router → router.NoCapacity registry) := by
  cases section_of_advance advanced with
  | noPrefill nobody =>
      exact ⟨fun _ => rfl, fun _ => Or.inl nobody⟩
  | noDecode prefillNode nobody =>
      refine ⟨fun _ => rfl, fun _ => Or.inr ?_⟩
      rw [nobody]
      exact List.forall_mem_nil _
  | prefillRefused prefillNodes chosen =>
      have same := router.allocatorOf_selectPrefillNode prefillNodes input.draw
      have none :=
        RequestRouter.selectPrefillNode_eq_none router prefillNodes input.draw
      rw [chosen] at same none
      exact ⟨same, fun proceeds => absurd proceeds (none.mp rfl)⟩
  | noSlots prefillNode decodeNodes filtered =>
      have same := router.allocatorOf_nodesWithSlots decodeNodes
      rw [filtered] at same
      refine ⟨same, ?_⟩
      rintro ⟨node, isFree⟩
      have member := RequestRouter.mem_nodesWithSlots.mpr isFree
      rw [filtered] at member
      cases member
  | decodeRefused prefillNode nodesWithSlots chosen =>
      have same := router.allocatorOf_selectDecodeNode nodesWithSlots input.draw
      have none :=
        RequestRouter.selectDecodeNode_eq_none router nodesWithSlots input.draw
      rw [chosen] at same none
      exact ⟨same, fun proceeds => absurd proceeds (none.mp rfl)⟩
  | notAllocated prefillNode decodeNode failed =>
      have none := allocate_none_iff router decodeNode.nodeId requestId
      rw [failed] at none
      rw [(RequestRouter.allocateSlotForNode_none failed).2]
      refine
        ⟨router.allocatorOf_initializeNodeSlots decodeNode.nodeId, ?_⟩
      intro isFree
      exact absurd (none.mp rfl) (ne_of_eq_of_ne isFree (by decide))

end Refusing

end SelectState

/-! ## Calls and the moments they have seen -/

def SelectState.isReturned : SelectState → Bool
  | .returned _ => true
  | _ => false

def RouterSystem.Running (system : RouterSystem) (index : Nat) : Prop :=
  ∃ call ∈ system.calls[index]?, call.state.isReturned = false

instance (system : RouterSystem) (index : Nat) :
    Decidable (system.Running index) :=
  inferInstanceAs
    (Decidable (∃ call ∈ system.calls[index]?, call.state.isReturned = false))

section Steps

variable {system next : RouterSystem} {action : RouterAction} {index : Nat}

/-- A step that advances a call takes one section of it. -/
structure SelectCall.Advanced
    (system next : RouterSystem) (input : SelectInput) (before after : SelectCall) :
    Prop where
  section_eq :
    before.state.advance system.router system.registry before.requestId input =
      some (next.router, after.state)
  registry_eq : next.registry = system.registry

theorem RouterSystem.advanced_of_step
    {input : SelectInput}
    (taken : system.step (.advance index input) = some next) :
    ∃ before after,
      before ∈ system.calls[index]? ∧ after ∈ next.calls[index]? ∧
        SelectCall.Advanced system next input before after := by
  simp only [step, Option.bind_eq_some_iff, Option.map_eq_some_iff] at taken
  obtain ⟨before, found, ⟨router, reached⟩, advanced, rfl⟩ := taken
  refine ⟨before, { before with state := reached }, found, ?_, advanced, rfl⟩
  rw [List.getElem?_set_self (List.getElem?_eq_some_iff.mp found).1]
  exact rfl

theorem SelectCall.Advanced.running
    {input : SelectInput} {before after : SelectCall}
    (advanced : Advanced system next input before after)
    (found : before ∈ system.calls[index]?) :
    system.Running index := by
  refine ⟨before, found, ?_⟩
  have taken := advanced.section_eq
  cases state : before.state with
  | returned result =>
      rw [state] at taken
      cases taken
  | entered | prefillListed prefillNodes | prefillSelected prefillNode
  | decodeListed prefillNode decodeNodes
  | slotsFiltered prefillNode nodesWithSlots
  | decodeSelected prefillNode decodeNode
  | slotAllocated prefillNode decodeNode slotId =>
      rfl

/-- A call is as it was before the step, or new, or advanced by it. -/
theorem RouterSystem.call_of_step
    (taken : system.step action = some next)
    {call : SelectCall} (found : call ∈ next.calls[index]?) :
    call ∈ system.calls[index]? ∨ call.state = .entered ∨
      ∃ input before,
        action = .advance index input ∧ before ∈ system.calls[index]? ∧
          SelectCall.Advanced system next input before call := by
  cases action with
  | select requestId =>
      cases taken
      by_cases earlier : index < system.calls.length
      · rw [List.getElem?_append_left earlier] at found
        exact Or.inl found
      · rw [List.getElem?_append_right (Nat.le_of_not_lt earlier)] at found
        rw [List.mem_singleton.mp (List.mem_of_getElem? found)]
        exact Or.inr (Or.inl rfl)
  | advance advancing input =>
      by_cases same : advancing = index
      · subst advancing
        obtain ⟨before, after, foundBefore, foundAfter, advanced⟩ :=
          advanced_of_step taken
        have isAfter : call = after :=
          Option.mem_unique found foundAfter
        rw [isAfter]
        exact Or.inr (Or.inr ⟨input, before, rfl, foundBefore, advanced⟩)
      · simp only [step, Option.bind_eq_some_iff, Option.map_eq_some_iff]
          at taken
        obtain ⟨before, _, ⟨router, reached⟩, _, rfl⟩ := taken
        rw [List.getElem?_set_ne same] at found
        exact Or.inl found
  | freeSlot requestId | incrementNodeLoad nodeId | decrementNodeLoad nodeId
  | updateRegistry registry =>
      cases taken
      exact Or.inl found

end Steps

/-- The calls for which there has been a moment without capacity since they
started, up to their return. -/
structure CapacityRun where
  system : RouterSystem
  exhausted : Nat → Bool := fun _ => false

namespace CapacityRun

/-- The state after an action is a moment of the calls that run before it or
after it. -/
def step (run : CapacityRun) (action : RouterAction) : Option CapacityRun :=
  (run.system.step action).map fun next =>
    { system := next
      exhausted := fun index =>
        run.exhausted index ||
          decide (next.router.NoCapacity next.registry) &&
            decide (run.system.Running index ∨ next.Running index) }

def start
    (policy : RoutingPolicy) (slotConfig : RequestRouterSlotConfig)
    (registry : NodeRegistry) : CapacityRun where
  system := RouterSystem.start policy slotConfig registry

/-- Every call that has been refused has seen a moment without capacity. -/
def RefusalsJustified (run : CapacityRun) : Prop :=
  ∀ index, ∀ call ∈ run.system.calls[index]?,
    call.state = .returned none → run.exhausted index = true

/-- A section in which a call does not proceed is not taken, unless the call has
seen a moment without capacity. -/
def ProceedsOrExhausted (run : CapacityRun) : RouterAction → Prop
  | .advance index _ =>
      ∀ call ∈ run.system.calls[index]?,
        call.state.Proceeds run.system.router ∨ run.exhausted index = true
  | _ => True

instance (run : CapacityRun) : ∀ action, Decidable (run.ProceedsOrExhausted action)
  | .advance index _ =>
      inferInstanceAs
        (Decidable
          (∀ call ∈ run.system.calls[index]?,
            call.state.Proceeds run.system.router ∨ run.exhausted index = true))
  | .select _ | .freeSlot _ | .incrementNodeLoad _ | .decrementNodeLoad _
  | .updateRegistry _ => .isTrue trivial

/-- A moment without capacity is recorded for the calls that run. -/
structure Invariant (run : CapacityRun) : Prop where
  recorded :
    ∀ index, run.system.Running index →
      run.system.router.NoCapacity run.system.registry →
        run.exhausted index = true
  justified : run.RefusalsJustified

variable {run next : CapacityRun} {action : RouterAction} {index : Nat}

theorem invariant_start
    (policy : RoutingPolicy) (slotConfig : RequestRouterSlotConfig)
    (registry : NodeRegistry) :
    (start policy slotConfig registry).Invariant where
  recorded := by
    rintro index ⟨call, found, _⟩
    cases found
  justified := by
    intro index call found
    cases found

theorem system_step (taken : run.step action = some next) :
    run.system.step action = some next.system := by
  obtain ⟨system, stepped, rfl⟩ := Option.map_eq_some_iff.mp taken
  exact stepped

theorem exhausted_iff (taken : run.step action = some next) :
    next.exhausted index = true ↔
      run.exhausted index = true ∨
        next.system.router.NoCapacity next.system.registry ∧
          (run.system.Running index ∨ next.system.Running index) := by
  obtain ⟨system, _, rfl⟩ := Option.map_eq_some_iff.mp taken
  simp

/-- In a section that refuses the request there is as much capacity as before. -/
theorem noCapacity_of_refused
    {system next : RouterSystem} {input : SelectInput}
    {before after : SelectCall}
    (advanced : SelectCall.Advanced system next input before after)
    (refused : after.state = .returned none) :
    (next.router.NoCapacity next.registry ↔
        system.router.NoCapacity system.registry) ∧
      (before.state.Proceeds system.router →
        system.router.NoCapacity system.registry) := by
  have taken := advanced.section_eq
  rw [refused] at taken
  obtain ⟨sameAllocators, noCapacity⟩ := SelectState.refused_cases taken
  refine ⟨?_, noCapacity⟩
  rw [advanced.registry_eq]
  unfold RequestRouter.NoCapacity
  simp only [sameAllocators]

/-- What one step preserves. -/
theorem Invariant.step
    (taken : run.step action = some next)
    (proceeds : run.ProceedsOrExhausted action) (holds : run.Invariant) :
    next.Invariant where
  recorded := by
    intro index running noCapacity
    exact (exhausted_iff taken).mpr (Or.inr ⟨noCapacity, Or.inr running⟩)
  justified := by
    intro index call found refused
    apply (exhausted_iff taken).mpr
    rcases RouterSystem.call_of_step (system_step taken) found with
      earlier | isNew | ⟨input, before, rfl, foundBefore, advanced⟩
    · exact Or.inl (holds.justified index call earlier refused)
    · rw [isNew] at refused
      cases refused
    · obtain ⟨sameCapacity, noCapacity⟩ :=
        noCapacity_of_refused advanced refused
      rcases proceeds before foundBefore with goesOn | exhausted
      · refine Or.inr ⟨sameCapacity.mpr (noCapacity goesOn), Or.inl ?_⟩
        exact advanced.running foundBefore
      · exact Or.inl exhausted

/-- A call that does not proceed is refused. -/
theorem Invariant.proceeds_of_justified
    (taken : run.step action = some next)
    (holds : run.Invariant) (justified : next.RefusalsJustified) :
    run.ProceedsOrExhausted action := by
  cases action with
  | select requestId | freeSlot requestId | incrementNodeLoad nodeId
  | decrementNodeLoad nodeId | updateRegistry registry =>
      trivial
  | advance index input =>
      intro call found
      by_cases goesOn : call.state.Proceeds run.system.router
      · exact Or.inl goesOn
      · obtain ⟨before, after, foundBefore, foundAfter, advanced⟩ :=
          RouterSystem.advanced_of_step (system_step taken)
        have isBefore : before = call := Option.mem_unique foundBefore found
        rw [← isBefore] at goesOn
        have refused : after.state = .returned none :=
          SelectState.advance_of_not_proceeds goesOn advanced.section_eq
        rcases (exhausted_iff taken).mp
            (justified index after foundAfter refused) with
          earlier | ⟨noCapacity, _⟩
        · exact Or.inr earlier
        · refine Or.inr (holds.recorded index ?_ ?_)
          · exact advanced.running foundBefore
          · exact (noCapacity_of_refused advanced refused).1.mp noCapacity

/-- Every refusal in a run is justified by a moment without capacity exactly if no
call without such a moment has come to a section in which it does not proceed. -/
theorem refusals_justified_iff
    {policy : RoutingPolicy} {slotConfig : RequestRouterSlotConfig}
    {registry : NodeRegistry} {actions : List RouterAction} {final : CapacityRun}
    (executed :
      LabelledRuns.execute step (start policy slotConfig registry) actions =
        some final) :
    LabelledRuns.Throughout step RefusalsJustified
        (start policy slotConfig registry) actions ↔
      LabelledRuns.Meets step ProceedsOrExhausted
        (start policy slotConfig registry) actions :=
  LabelledRuns.throughout_iff_meets
    (fun _ _ _ taken proceeds holds => Invariant.step taken proceeds holds)
    (fun _ holds => holds.justified)
    (fun _ _ _ taken holds justified =>
      holds.proceeds_of_justified taken justified)
    executed (invariant_start policy slotConfig registry)

/-! ## Two decode nodes with one slot each -/

def samplePrefill : NodeInfo :=
  NodeInfo.healthy [1] .prefill

def sampleDecode (name : UInt8) : NodeInfo :=
  NodeInfo.healthy [name] .decode

def sampleStart : CapacityRun :=
  start .leastLoaded { maxSlotsPerNode := 1 }
    ((({} : NodeRegistry).addNode samplePrefill).addNode (sampleDecode 2)
      |>.addNode (sampleDecode 3))

/-- The sections of a call up to the choice of the decode node. -/
def choosing (call : Nat) : List RouterAction :=
  [.advance call { listing := [samplePrefill] }, .advance call {},
    .advance call { listing := [sampleDecode 2, sampleDecode 3] },
    .advance call {}, .advance call {}]

/-- Two calls take both slots before a third one looks for a free slot. -/
def bothServed : List RouterAction :=
  .select [10] :: choosing 0 ++ .advance 0 {} :: .select [11] :: choosing 1 ++
    [.advance 1 {}, .select [12], .advance 2 { listing := [samplePrefill] },
      .advance 2 {},
      .advance 2 { listing := [sampleDecode 2, sampleDecode 3] },
      .advance 2 {}]

/-- Two calls choose the same node before either takes its slot. -/
def sameChoice : List RouterAction :=
  .select [10] :: .select [11] :: choosing 0 ++ choosing 1 ++
    [.advance 0 {}, .advance 1 {}]

theorem refusals_justified_iff_bothServed :
    ∃ final,
      LabelledRuns.execute step sampleStart bothServed = some final ∧
        final.system.calls[2]?.map SelectCall.state =
          some (.returned none) ∧
        LabelledRuns.Throughout step RefusalsJustified sampleStart
          bothServed := by
  have outcome :
      (LabelledRuns.execute step sampleStart bothServed).map
          (fun final => final.system.calls[2]?.map SelectCall.state) =
        some (some (.returned none)) := by
    decide +kernel
  obtain ⟨final, run, refused⟩ := Option.map_eq_some_iff.mp outcome
  refine ⟨final, run, refused, ?_⟩
  apply (refusals_justified_iff run).mpr
  change LabelledRuns.Meets step ProceedsOrExhausted sampleStart bothServed
  decide +kernel

/-- The second call is refused with a slot free on the other node all along. -/
theorem same_choice_refused :
    ∃ final,
      LabelledRuns.execute step sampleStart sameChoice = some final ∧
        final.system.calls[1]?.map SelectCall.state =
          some (.returned none) ∧
        (final.system.router.allocatorOf [3]).freeSlots = [0] ∧
        final.exhausted 1 = false ∧ ¬ final.RefusalsJustified := by
  have outcome :
      (LabelledRuns.execute step sampleStart sameChoice).map
          (fun final =>
            (final.system.calls[1]?.map SelectCall.state,
              (final.system.router.allocatorOf [3]).freeSlots,
              final.exhausted 1)) =
        some (some (.returned none), [0], false) := by
    decide +kernel
  obtain ⟨final, run, observed⟩ := Option.map_eq_some_iff.mp outcome
  simp only [Prod.mk.injEq] at observed
  obtain ⟨refused, isFree, notExhausted⟩ := observed
  refine ⟨final, run, refused, isFree, notExhausted, ?_⟩
  intro justified
  obtain ⟨call, found, state⟩ := Option.map_eq_some_iff.mp refused
  have exhausted := justified 1 call found state
  rw [notExhausted] at exhausted
  cases exhausted

end CapacityRun

end RdmaKvCache
