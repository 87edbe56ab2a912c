import RdmaKvCache.Library.Turns
import RdmaKvCache.Orchestrator.RouterRuns

/-!
# Round robin among prefill nodes

All calls share one index, which a choice reads and increments in one step.  While
the same prefill nodes are listed, they are chosen in turn by whatever calls are
interleaved, until the index starts again from zero.
-/

namespace RdmaKvCache

open LabelledRuns Turns

namespace RouterSystem

/-- The prefill node that an action chooses. -/
def chosenBy (system next : RouterSystem) : RouterAction → List NodeInfo
  | .advance index _ =>
      match (system.calls[index]?).map SelectCall.state,
        (next.calls[index]?).map SelectCall.state with
      | some (.prefillListed _), some (.prefillSelected prefillNode) =>
          [prefillNode]
      | _, _ => []
  | .select _ | .freeSlot _ | .incrementNodeLoad _ | .decrementNodeLoad _
  | .updateRegistry _ => []

/-- The prefill nodes in the order in which the actions choose them. -/
def chosenPrefill : RouterSystem → List RouterAction → List NodeInfo
  | _, [] => []
  | system, action :: rest =>
      match system.step action with
      | some next => system.chosenBy next action ++ chosenPrefill next rest
      | none => []

/-- A call that is about to choose a prefill node has listed these. -/
def ListsThese (nodes : List NodeInfo) : Option SelectState → Prop
  | some (.prefillListed listed) => listed = nodes
  | _ => True

instance (nodes : List NodeInfo) (state : Option SelectState) :
    Decidable (ListsThese nodes state) :=
  match state with
  | none => .isTrue trivial
  | some (.prefillListed listed) => inferInstanceAs (Decidable (listed = nodes))
  | some .entered | some (.prefillSelected _) | some (.decodeListed _ _)
  | some (.slotsFiltered _ _) | some (.decodeSelected _ _)
  | some (.slotAllocated _ _ _) | some (.returned _) => .isTrue trivial

def Lists (nodes : List NodeInfo) (system : RouterSystem) :
    RouterAction → Prop
  | .advance index _ =>
      ListsThese nodes ((system.calls[index]?).map SelectCall.state)
  | .select _ | .freeSlot _ | .incrementNodeLoad _ | .decrementNodeLoad _
  | .updateRegistry _ => True

instance (nodes : List NodeInfo) (system : RouterSystem)
    (action : RouterAction) : Decidable (system.Lists nodes action) :=
  match action with
  | .advance _ _ => inferInstanceAs (Decidable (ListsThese nodes _))
  | .select _ | .freeSlot _ | .incrementNodeLoad _ | .decrementNodeLoad _
  | .updateRegistry _ => .isTrue trivial

end RouterSystem

namespace RequestRouter

/-- Neither the policy nor the index changes. -/
def SameTurn (router next : RequestRouter) : Prop :=
  next.policy = router.policy ∧ next.prefillRrIndex = router.prefillRrIndex

theorem SameTurn.trans
    {router middle next : RequestRouter} (first : router.SameTurn middle)
    (second : middle.SameTurn next) :
    router.SameTurn next :=
  ⟨second.1.trans first.1, second.2.trans first.2⟩

theorem sameTurn_initializeNodeSlots
    (router : RequestRouter) (nodeId : ByteString) :
    router.SameTurn (router.initializeNodeSlots nodeId) := by
  unfold initializeNodeSlots
  split <;> exact ⟨rfl, rfl⟩

theorem sameTurn_nodesWithSlots
    (router : RequestRouter) (nodes : List NodeInfo) :
    router.SameTurn (router.nodesWithSlots nodes).2 := by
  induction nodes generalizing router with
  | nil =>
      exact ⟨rfl, rfl⟩
  | cons node rest inductionHypothesis =>
      have setup := router.sameTurn_initializeNodeSlots node.nodeId
      have others := inductionHypothesis (router.initializeNodeSlots node.nodeId)
      simp only [nodesWithSlots]
      split <;> exact setup.trans others

theorem sameTurn_selectDecodeNode
    (router : RequestRouter) (nodes : List NodeInfo) (draw : Nat) :
    router.SameTurn (router.selectDecodeNode nodes draw).2 := by
  unfold selectDecodeNode
  split <;> exact ⟨rfl, rfl⟩

theorem sameTurn_allocateSlotForNode
    (router : RequestRouter) (nodeId requestId : ByteString) :
    router.SameTurn (router.allocateSlotForNode nodeId requestId).2 := by
  have setup := router.sameTurn_initializeNodeSlots nodeId
  unfold allocateSlotForNode
  simp only
  split
  · exact setup
  · exact setup.trans ⟨rfl, rfl⟩

theorem sameTurn_freeSlot (router : RequestRouter) (requestId : ByteString) :
    router.SameTurn (router.freeSlot requestId) := by
  unfold freeSlot
  split
  · exact ⟨rfl, rfl⟩
  · unfold freeSlotForNode
    split
    · exact ⟨rfl, rfl⟩
    · split <;> exact ⟨rfl, rfl⟩

theorem sameTurn_decrementNodeLoad
    (router : RequestRouter) (nodeId : ByteString) :
    router.SameTurn (router.decrementNodeLoad nodeId) := by
  unfold decrementNodeLoad
  split
  · exact ⟨rfl, rfl⟩
  · split <;> exact ⟨rfl, rfl⟩

/-- A choice takes the node whose turn it is. -/
theorem selectPrefillNode_roundRobin
    {router next : RequestRouter} {nodes : List NodeInfo} {draw : Nat}
    {chosen : Option NodeInfo} (roundRobin : router.policy = .roundRobin)
    (selected : router.selectPrefillNode nodes draw = (chosen, next)) :
    chosen = nodes[router.prefillRrIndex.toNat % nodes.length]? ∧
      next.policy = .roundRobin ∧
      next.prefillRrIndex = router.prefillRrIndex + 1 := by
  rw [selectPrefillNode, roundRobin] at selected
  cases selected
  exact ⟨rfl, rfl, rfl⟩

end RequestRouter

namespace SelectState

variable {router next : RequestRouter} {registry : NodeRegistry}
variable {requestId : ByteString} {input : SelectInput}
variable {state reached : SelectState}

/-- Only the section after the listing of prefill nodes changes the index. -/
theorem advance_turn
    (advanced :
      state.advance router registry requestId input = some (next, reached))
    (roundRobin : router.policy = .roundRobin) :
    router.SameTurn next ∧
        (∀ prefillNodes, state ≠ .prefillListed prefillNodes) ∨
      ∃ prefillNodes,
        state = .prefillListed prefillNodes ∧
          next.policy = .roundRobin ∧
          next.prefillRrIndex = router.prefillRrIndex + 1 ∧
          (reached = .returned none ∧
              prefillNodes[router.prefillRrIndex.toNat %
                prefillNodes.length]? = none ∨
            ∃ prefillNode,
              reached = .prefillSelected prefillNode ∧
                prefillNodes[router.prefillRrIndex.toNat %
                  prefillNodes.length]? = some prefillNode) := by
  cases section_of_advance advanced with
  | noPrefill | prefillListed | noDecode | decodeListed | returned =>
      exact Or.inl ⟨⟨rfl, rfl⟩, by simp⟩
  | prefillRefused prefillNodes chosen =>
      obtain ⟨isChosen, samePolicy, turn⟩ :=
        RequestRouter.selectPrefillNode_roundRobin roundRobin chosen
      exact
        Or.inr
          ⟨prefillNodes, rfl, samePolicy, turn, Or.inl ⟨rfl, isChosen.symm⟩⟩
  | prefillSelected prefillNodes chosen =>
      obtain ⟨isChosen, samePolicy, turn⟩ :=
        RequestRouter.selectPrefillNode_roundRobin roundRobin chosen
      exact
        Or.inr
          ⟨prefillNodes, rfl, samePolicy, turn,
            Or.inr ⟨_, rfl, isChosen.symm⟩⟩
  | noSlots prefillNode decodeNodes filtered
  | slotsFiltered prefillNode decodeNodes filtered =>
      have same := router.sameTurn_nodesWithSlots decodeNodes
      rw [filtered] at same
      exact Or.inl ⟨same, by simp⟩
  | decodeRefused prefillNode nodesWithSlots chosen
  | decodeSelected prefillNode nodesWithSlots chosen =>
      have same := router.sameTurn_selectDecodeNode nodesWithSlots input.draw
      rw [chosen] at same
      exact Or.inl ⟨same, by simp⟩
  | notAllocated prefillNode decodeNode allocated
  | slotAllocated prefillNode decodeNode allocated =>
      have same :=
        router.sameTurn_allocateSlotForNode decodeNode.nodeId requestId
      rw [allocated] at same
      exact Or.inl ⟨same, by simp⟩

end SelectState

namespace RouterSystem

variable {nodes : List NodeInfo} {system next final : RouterSystem}

/-- The index is the number of turns taken, which start again after `2 ^ 64`. -/
structure InTurn (system : RouterSystem) (taken : Nat) : Prop where
  policy : system.router.policy = .roundRobin
  index : system.router.prefillRrIndex.toNat = taken % 2 ^ 64

theorem InTurn.of_sameTurn
    {taken : Nat} (inTurn : system.InTurn taken)
    (same : system.router.SameTurn next.router) :
    next.InTurn taken :=
  ⟨same.1.trans inTurn.policy, by rw [same.2, inTurn.index]⟩

/-- An action chooses nothing or the node whose turn it is. -/
theorem InTurn.step
    {taken : Nat} (inTurn : system.InTurn taken) (someNodes : nodes ≠ [])
    {action : RouterAction} (stepped : system.step action = some next)
    (lists : system.Lists nodes action) :
    (system.chosenBy next action = [] ∧ next.InTurn taken) ∨
      ∃ node,
        nodes[taken % 2 ^ 64 % nodes.length]? = some node ∧
          system.chosenBy next action = [node] ∧ next.InTurn (taken + 1) := by
  cases action with
  | select requestId =>
      cases stepped
      exact Or.inl ⟨rfl, inTurn.of_sameTurn ⟨rfl, rfl⟩⟩
  | advance index input =>
      simp only [RouterSystem.step, Option.bind_eq_some_iff,
        Option.map_eq_some_iff] at stepped
      obtain ⟨call, found, ⟨router, reached⟩, advanced, rfl⟩ := stepped
      have inCalls : index < system.calls.length :=
        (List.getElem?_eq_some_iff.mp found).1
      rcases SelectState.advance_turn advanced inTurn.policy with
        ⟨same, notListed⟩ |
          ⟨listed, isListed, samePolicy, turn, outcome⟩
      · refine Or.inl ⟨?_, inTurn.of_sameTurn same⟩
        simp only [chosenBy, found, Option.map_some]
        split
        · rename_i prefillNodes _ isState _
          exact absurd (Option.some.inj isState) (notListed prefillNodes)
        · rfl
      · simp only [Lists, found, Option.map_some, isListed, ListsThese] at lists
        subst lists
        rw [inTurn.index] at outcome
        have positive : 0 < listed.length := List.length_pos_iff.mpr someNodes
        rcases outcome with ⟨_, nobody⟩ | ⟨node, isReached, isNode⟩
        · rw [List.getElem?_eq_none_iff] at nobody
          exact absurd (Nat.mod_lt _ positive) (Nat.not_lt.mpr nobody)
        · refine Or.inr ⟨node, isNode, ?_, samePolicy, ?_⟩
          · simp only [chosenBy, found, Option.map_some, isListed,
              List.getElem?_set_self inCalls, isReached]
          · simp only [turn, UInt64.toNat_add, inTurn.index]
            change (taken % 2 ^ 64 + 1) % 2 ^ 64 = (taken + 1) % 2 ^ 64
            omega
  | freeSlot requestId =>
      cases stepped
      exact
        Or.inl
          ⟨rfl, inTurn.of_sameTurn (system.router.sameTurn_freeSlot requestId)⟩
  | incrementNodeLoad nodeId =>
      cases stepped
      exact Or.inl ⟨rfl, inTurn.of_sameTurn ⟨rfl, rfl⟩⟩
  | decrementNodeLoad nodeId =>
      cases stepped
      exact
        Or.inl
          ⟨rfl,
            inTurn.of_sameTurn
              (system.router.sameTurn_decrementNodeLoad nodeId)⟩
  | updateRegistry registry =>
      cases stepped
      exact Or.inl ⟨rfl, inTurn.of_sameTurn ⟨rfl, rfl⟩⟩

theorem turns_append_chosenPrefill
    {taken : Nat} (inTurn : system.InTurn taken) (someNodes : nodes ≠ [])
    {actions : List RouterAction}
    (run : execute RouterSystem.step system actions = some final)
    (lists : Meets RouterSystem.step (Lists nodes) system actions)
    (bounded :
      taken + (system.chosenPrefill actions).length ≤ 2 ^ 64) :
    turns nodes taken ++ system.chosenPrefill actions =
      turns nodes (taken + (system.chosenPrefill actions).length) := by
  induction actions generalizing system taken with
  | nil =>
      exact List.append_nil _
  | cons action rest inductionHypothesis =>
      obtain ⟨next, stepped, remaining⟩ := execute_cons_eq_some run
      have listsRest := lists.2 next stepped
      simp only [chosenPrefill, stepped] at bounded ⊢
      rcases inTurn.step someNodes stepped lists.1 with
        ⟨nothing, stillInTurn⟩ | ⟨node, isNode, chosen, nextInTurn⟩
      · rw [nothing, List.nil_append] at bounded ⊢
        exact inductionHypothesis stillInTurn remaining listsRest bounded
      · rw [chosen] at bounded ⊢
        simp only [List.length_append, List.length_singleton] at bounded ⊢
        have noWrap : taken % 2 ^ 64 = taken := Nat.mod_eq_of_lt (by omega)
        rw [noWrap] at isNode
        have oneMore : turns nodes (taken + 1) = turns nodes taken ++ [node] := by
          rw [turns_succ, isNode]
          rfl
        have others :=
          inductionHypothesis nextInTurn remaining listsRest (by omega)
        rw [oneMore, List.append_assoc, Nat.add_assoc] at others
        exact others

/-- While the same prefill nodes are listed and the index has not started again,
they are chosen in turn by all calls together, and none is chosen more than once
more often than another. -/
theorem prefill_nodes_take_turns
    {slotConfig : RequestRouterSlotConfig} {registry : NodeRegistry}
    {actions : List RouterAction} (someNodes : nodes ≠ [])
    (run :
      execute RouterSystem.step (start .roundRobin slotConfig registry)
          actions =
        some final)
    (lists :
      Meets RouterSystem.step (Lists nodes)
        (start .roundRobin slotConfig registry) actions)
    (bounded :
      ((start .roundRobin slotConfig registry).chosenPrefill actions).length ≤
        2 ^ 64) :
    let chosen := (start .roundRobin slotConfig registry).chosenPrefill actions
    chosen = turns nodes chosen.length ∧
      (nodes.Nodup →
        ∀ first ∈ nodes, ∀ second ∈ nodes,
          chosen.count first ≤ chosen.count second + 1) := by
  have inTurn : (start .roundRobin slotConfig registry).InTurn 0 := ⟨rfl, rfl⟩
  have inOrder :=
    turns_append_chosenPrefill inTurn someNodes run lists (by omega)
  rw [turns_zero, List.nil_append, Nat.zero_add] at inOrder
  refine ⟨inOrder, ?_⟩
  intro nodup first isFirst second isSecond
  rw [inOrder]
  exact count_turns_le nodup isFirst isSecond _

/-! ## Three calls and two prefill nodes -/

def sampleTurns : RouterSystem :=
  start .roundRobin {}
    ((({} : NodeRegistry).addNode (NodeInfo.healthy [1] .prefill)).addNode
      (NodeInfo.healthy [2] .prefill))

/-- The second call chooses before the first one. -/
def sampleTurnsActions : List RouterAction :=
  let listed : SelectInput :=
    { listing :=
        [NodeInfo.healthy [2] .prefill, NodeInfo.healthy [1] .prefill] }
  [.select [10], .advance 0 listed, .select [11], .advance 1 listed,
    .advance 1 {}, .advance 0 {}, .select [12], .advance 2 listed,
    .advance 2 {}]

theorem prefill_nodes_take_turns_sampleTurns :
    sampleTurns.chosenPrefill sampleTurnsActions =
      [NodeInfo.healthy [2] .prefill, NodeInfo.healthy [1] .prefill,
        NodeInfo.healthy [2] .prefill] := by
  have isSome :
      (execute RouterSystem.step sampleTurns sampleTurnsActions).isSome =
        true := by
    decide +kernel
  obtain ⟨final, run⟩ := Option.isSome_iff_exists.mp isSome
  have number : (sampleTurns.chosenPrefill sampleTurnsActions).length = 3 := by
    decide +kernel
  have inOrder :=
    (prefill_nodes_take_turns (List.cons_ne_nil _ _) run
      (by decide +kernel :
        Meets RouterSystem.step
          (Lists
            [NodeInfo.healthy [2] .prefill, NodeInfo.healthy [1] .prefill])
          sampleTurns sampleTurnsActions)
      (number.trans_le (by decide))).1
  exact inOrder.trans ((congrArg (turns _) number).trans (by decide +kernel))

end RouterSystem

end RdmaKvCache
