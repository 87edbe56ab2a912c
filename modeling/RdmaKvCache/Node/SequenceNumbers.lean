import RdmaKvCache.Library.LabelledRuns
import RdmaKvCache.Node.TrackerCalls

/-!
# Which request a sequence number stands for

The sequence number of a slot is its number cut off to sixteen bits.  It should
stand for the tracked request that has the slot.  Adding a request overwrites
what the number stood for, and leaves the number of an earlier slot of the same
request behind, so this is so exactly when no request is added with the number of
another one, or again with another number.
-/

namespace RdmaKvCache

namespace RequestTrackerLayer

/-- The conversion of a slot to a sequence number. -/
def seqOf (slot : Int32) : UInt16 :=
  UInt16.ofInt slot.toInt

/-- The request is tracked and its slot has the number. -/
def Owns
    (tracker : RequestTrackerLayer) (requestId : ByteString)
    (seqNum : UInt16) : Prop :=
  ∃ slot, tracker.slotOf requestId = some slot ∧ seqOf slot = seqNum

/-- Sequence numbers stand for their owners, who do not share them, and for the
empty id otherwise. -/
structure Numbered (tracker : RequestTrackerLayer) : Prop where
  resolves :
    ∀ seqNum requestId,
      tracker.resolveSeqNum seqNum = requestId ↔
        tracker.Owns requestId seqNum ∨
          requestId = [] ∧ ∀ other, ¬ tracker.Owns other seqNum
  distinct :
    ∀ seqNum first second,
      tracker.Owns first seqNum → tracker.Owns second seqNum →
        first = second
  queries :
    ∀ requestId slot,
      tracker.slotOf requestId = some slot →
        tracker.getSlotId requestId = slot ∧
          tracker.getSeqNum requestId = seqOf slot

/-- The step of a run of calls. -/
def callStep (tracker : RequestTrackerLayer) (made : TrackerCall) :
    Option RequestTrackerLayer :=
  some (tracker.call made)

/-- The checks of `add_request`, and of the vector of layers. -/
structure Admits
    (tracker : RequestTrackerLayer) (assignedSlot numLayers : Int32) :
    Prop where
  nonneg : 0 ≤ assignedSlot
  below : assignedSlot < tracker.layout.maxConcurrentRequests
  free : tracker.slotHolder assignedSlot = none
  layers : 0 ≤ numLayers

/-- A request that is added has a number no other request has, and had no other
number before. -/
def KeepsNumbers (tracker : RequestTrackerLayer) : TrackerCall → Prop
  | .addRequest requestId _ assignedSlot numLayers =>
      tracker.Admits assignedSlot numLayers →
        (∀ other, other ≠ requestId →
          ¬ tracker.Owns other (seqOf assignedSlot)) ∧
          (requestId = [] ∨
            ∀ seqNum, tracker.Owns requestId seqNum →
              seqNum = seqOf assignedSlot)
  | _ => True

/-! ## What the calls do to the numbers -/

section Numbers

variable {tracker next : RequestTrackerLayer}

theorem addRequest_isOk_iff
    (requestId prefillNodeId : ByteString) {assignedSlot numLayers : Int32} :
    (∃ seqNum added,
        tracker.addRequest requestId prefillNodeId assignedSlot numLayers =
          .ok (seqNum, added)) ↔
      tracker.Admits assignedSlot numLayers := by
  constructor
  · rintro ⟨seqNum, added, isAdded⟩
    obtain ⟨_, inRange, free, layers, _⟩ := addRequest_eq_ok isAdded
    exact ⟨inRange.1, inRange.2, free, layers⟩
  · intro admits
    have valid :
        ¬ (assignedSlot < 0 ∨
          tracker.layout.maxConcurrentRequests ≤ assignedSlot) := by
      rw [not_or, Int32.not_lt, Int32.not_le]
      exact ⟨admits.nonneg, admits.below⟩
    have notNegative : ¬ numLayers < 0 := Int32.not_lt.mpr admits.layers
    rw [addRequest, if_neg valid, admits.free]
    simp only [if_neg notNegative]
    exact ⟨_, _, rfl⟩

theorem admits_of_ok
    {requestId prefillNodeId : ByteString} {assignedSlot numLayers : Int32}
    {seqNum : UInt16}
    (added :
      tracker.addRequest requestId prefillNodeId assignedSlot numLayers =
        .ok (seqNum, next)) :
    tracker.Admits assignedSlot numLayers :=
  (addRequest_isOk_iff requestId prefillNodeId).mp ⟨seqNum, next, added⟩

theorem not_admits_of_error
    {requestId prefillNodeId : ByteString} {assignedSlot numLayers : Int32}
    {exception : AddRequestError}
    (refused :
      tracker.addRequest requestId prefillNodeId assignedSlot numLayers =
        .error exception) :
    ¬ tracker.Admits assignedSlot numLayers := by
  intro admits
  obtain ⟨seqNum, added, isAdded⟩ :=
    (addRequest_isOk_iff requestId prefillNodeId).mpr admits
  rw [refused] at isAdded
  cases isAdded

theorem getSlotId_of_slotOf
    {requestId : ByteString} {slot : Int32}
    (holds : tracker.slotOf requestId = some slot) :
    tracker.getSlotId requestId = slot := by
  obtain ⟨info, found, isSlot⟩ := Option.map_eq_some_iff.mp holds
  simp only [getSlotId, found]
  exact isSlot

/-- What resolves to an owner resolves to it, and nothing else does. -/
theorem Numbered.resolve_of_owns
    (numbered : tracker.Numbered) {requestId : ByteString} {seqNum : UInt16}
    (owns : tracker.Owns requestId seqNum) :
    tracker.resolveSeqNum seqNum = requestId :=
  (numbered.resolves seqNum requestId).mpr (Or.inl owns)

theorem Numbered.resolve_of_not_owned
    (numbered : tracker.Numbered) {seqNum : UInt16}
    (notOwned : ∀ other, ¬ tracker.Owns other seqNum) :
    tracker.resolveSeqNum seqNum = [] :=
  (numbered.resolves seqNum []).mpr (Or.inr ⟨rfl, notOwned⟩)

/-- It is enough to resolve each number to its owner, or to the empty id. -/
theorem Numbered.of_resolve
    (owned :
      ∀ seqNum requestId, tracker.Owns requestId seqNum →
        tracker.resolveSeqNum seqNum = requestId)
    (notOwned :
      ∀ seqNum, (∀ other, ¬ tracker.Owns other seqNum) →
        tracker.resolveSeqNum seqNum = [])
    (seqNums :
      ∀ requestId slot, tracker.slotOf requestId = some slot →
        tracker.getSeqNum requestId = seqOf slot) :
    tracker.Numbered where
  resolves := by
    intro seqNum requestId
    constructor
    · intro resolved
      by_cases some : ∃ other, tracker.Owns other seqNum
      · obtain ⟨owner, owns⟩ := some
        have isOwner := owned seqNum owner owns
        rw [resolved] at isOwner
        rw [isOwner]
        exact Or.inl owns
      · have none := not_exists.mp some
        rw [notOwned seqNum none] at resolved
        exact Or.inr ⟨resolved.symm, none⟩
    · rintro (owns | ⟨isEmpty, none⟩)
      · exact owned seqNum requestId owns
      · rw [isEmpty]
        exact notOwned seqNum none
  distinct := by
    intro seqNum first second firstOwns secondOwns
    rw [← owned seqNum first firstOwns, owned seqNum second secondOwns]
  queries := by
    intro requestId slot holds
    exact ⟨getSlotId_of_slotOf holds, seqNums requestId slot holds⟩

theorem numbered_new (layout : MemoryLayout) : (new layout).Numbered := by
  apply Numbered.of_resolve
  · rintro seqNum requestId ⟨slot, holds, _⟩
    cases holds
  · intro seqNum _
    rfl
  · intro requestId slot holds
    cases holds

theorem Owns.congr
    (sameSlots : ∀ tested, next.slotOf tested = tracker.slotOf tested)
    {requestId : ByteString} {seqNum : UInt16} :
    next.Owns requestId seqNum ↔ tracker.Owns requestId seqNum := by
  rw [Owns, Owns, sameSlots]

/-- Neither a new state nor a received layer matters. -/
theorem Numbered.of_same
    (numbered : tracker.Numbered)
    (sameSlots : ∀ tested, next.slotOf tested = tracker.slotOf tested)
    (same : tracker.SameNumbers next) : next.Numbered := by
  have sameResolve (seqNum : UInt16) :
      next.resolveSeqNum seqNum = tracker.resolveSeqNum seqNum := by
    rw [resolveSeqNum, same.seqToRequest_eq, resolveSeqNum]
  apply Numbered.of_resolve
  · intro seqNum requestId owns
    rw [sameResolve]
    exact numbered.resolve_of_owns ((Owns.congr sameSlots).mp owns)
  · intro seqNum none
    rw [sameResolve]
    apply numbered.resolve_of_not_owned
    intro other owns
    exact none other ((Owns.congr sameSlots).mpr owns)
  · intro requestId slot holds
    rw [sameSlots] at holds
    rw [getSeqNum, same.requestToSeq_eq]
    exact (numbered.queries requestId slot holds).2

end Numbers

/-! ## Adding -/

section Adding

variable {tracker next : RequestTrackerLayer}
variable {requestId prefillNodeId : ByteString}
variable {assignedSlot numLayers : Int32} {seqNum : UInt16}

/-- The added request owns the number of its slot, all others what they had. -/
theorem owns_addRequest_iff
    (added :
      tracker.addRequest requestId prefillNodeId assignedSlot numLayers =
        .ok (seqNum, next))
    {tested : ByteString} {testedSeq : UInt16} :
    next.Owns tested testedSeq ↔
      tested = requestId ∧ seqOf assignedSlot = testedSeq ∨
        tested ≠ requestId ∧ tracker.Owns tested testedSeq := by
  rw [Owns, slotOf_addRequest added]
  by_cases same : tested = requestId
  · simp [same]
  · simp [same, Owns]

theorem resolveSeqNum_addRequest
    (added :
      tracker.addRequest requestId prefillNodeId assignedSlot numLayers =
        .ok (seqNum, next))
    (tested : UInt16) :
    next.resolveSeqNum tested =
      if tested = seqOf assignedSlot then requestId
      else tracker.resolveSeqNum tested := by
  obtain ⟨isSeq, _, _, _, isNext⟩ := addRequest_eq_ok added
  have isSeqOf : seqNum = seqOf assignedSlot := isSeq
  rw [isNext, isSeqOf]
  by_cases same : tested = seqOf assignedSlot
  · subst same
    simp [resolveSeqNum]
  · simp [resolveSeqNum, same]

theorem getSeqNum_addRequest
    (added :
      tracker.addRequest requestId prefillNodeId assignedSlot numLayers =
        .ok (seqNum, next))
    (tested : ByteString) :
    next.getSeqNum tested =
      if tested = requestId then seqOf assignedSlot
      else tracker.getSeqNum tested := by
  obtain ⟨isSeq, _, _, _, isNext⟩ := addRequest_eq_ok added
  have isSeqOf : seqNum = seqOf assignedSlot := isSeq
  rw [isNext, isSeqOf]
  by_cases same : tested = requestId
  · subst same
    simp [getSeqNum]
  · simp [getSeqNum, same]

/-- If the numbers are kept, the number of the slot is nobody else's, and the
request has not moved away from another one. -/
theorem Numbered.keepsNumbers_of_addRequest
    (numbered : tracker.Numbered)
    (added :
      tracker.addRequest requestId prefillNodeId assignedSlot numLayers =
        .ok (seqNum, next))
    (nextNumbered : next.Numbered) :
    tracker.KeepsNumbers
      (.addRequest requestId prefillNodeId assignedSlot numLayers) := by
  intro _
  have nowOwns : next.Owns requestId (seqOf assignedSlot) :=
    (owns_addRequest_iff added).mpr (Or.inl ⟨rfl, rfl⟩)
  constructor
  · intro other different owns
    have stillOwns : next.Owns other (seqOf assignedSlot) :=
      (owns_addRequest_iff added).mpr (Or.inr ⟨different, owns⟩)
    exact different (nextNumbered.distinct _ other requestId stillOwns nowOwns)
  · by_cases isEmpty : requestId = []
    · exact Or.inl isEmpty
    · refine Or.inr ?_
      intro earlier owns
      by_contra different
      have left : next.resolveSeqNum earlier = requestId := by
        rw [resolveSeqNum_addRequest added, if_neg different]
        exact numbered.resolve_of_owns owns
      rcases (nextNumbered.resolves earlier requestId).mp left with
        nextOwns | ⟨empty, _⟩
      · rcases (owns_addRequest_iff added).mp nextOwns with
          ⟨_, isNew⟩ | ⟨notRequest, _⟩
        · exact different isNew.symm
        · exact notRequest rfl
      · exact isEmpty empty

theorem Numbered.addRequest
    (numbered : tracker.Numbered)
    (added :
      tracker.addRequest requestId prefillNodeId assignedSlot numLayers =
        .ok (seqNum, next))
    (keeps :
      tracker.KeepsNumbers
        (.addRequest requestId prefillNodeId assignedSlot numLayers)) :
    next.Numbered := by
  obtain ⟨notShared, notMoved⟩ :=
    keeps (admits_of_ok added)
  apply Numbered.of_resolve
  · intro testedSeq tested owns
    rw [resolveSeqNum_addRequest added]
    rcases (owns_addRequest_iff added).mp owns with
      ⟨isRequest, isNew⟩ | ⟨notRequest, owned⟩
    · rw [if_pos isNew.symm, isRequest]
    · have otherSeq : testedSeq ≠ seqOf assignedSlot := by
        intro same
        rw [same] at owned
        exact notShared tested notRequest owned
      rw [if_neg otherSeq]
      exact numbered.resolve_of_owns owned
  · intro testedSeq none
    have otherSeq : testedSeq ≠ seqOf assignedSlot := by
      intro same
      apply none requestId
      exact (owns_addRequest_iff added).mpr (Or.inl ⟨rfl, same.symm⟩)
    rw [resolveSeqNum_addRequest added, if_neg otherSeq]
    by_cases owned : tracker.Owns requestId testedSeq
    · rcases notMoved with isEmpty | unmoved
      · rw [← isEmpty]
        exact numbered.resolve_of_owns owned
      · exact absurd (unmoved testedSeq owned) otherSeq
    · apply numbered.resolve_of_not_owned
      intro other owns
      have different : other ≠ requestId := by
        intro same
        rw [same] at owns
        exact owned owns
      exact
        none other ((owns_addRequest_iff added).mpr (Or.inr ⟨different, owns⟩))
  · intro tested slot holds
    rw [slotOf_addRequest added] at holds
    rw [getSeqNum_addRequest added]
    by_cases same : tested = requestId
    · rw [if_pos same] at holds ⊢
      cases holds
      rfl
    · rw [if_neg same] at holds ⊢
      exact (numbered.queries tested slot holds).2

theorem Numbered.addRequest_iff
    (numbered : tracker.Numbered)
    (added :
      tracker.addRequest requestId prefillNodeId assignedSlot numLayers =
        .ok (seqNum, next)) :
    next.Numbered ↔
      tracker.KeepsNumbers
        (.addRequest requestId prefillNodeId assignedSlot numLayers) :=
  ⟨numbered.keepsNumbers_of_addRequest added, numbered.addRequest added⟩

end Adding

/-! ## Removing -/

/-- Each record has the number of its slot. -/
def HasSlotNumbers (tracker : RequestTrackerLayer) : Prop :=
  tracker.EachRecord fun _ info => info.seqNum = seqOf info.slotId

theorem HasSlotNumbers.call
    {tracker : RequestTrackerLayer} (each : tracker.HasSlotNumbers)
    (made : TrackerCall) : (tracker.call made).HasSlotNumbers := by
  apply EachRecord.call each
  · intro requestId prefillNodeId assignedSlot numLayers _ _ _
    rfl
  · intro requestId info newState isSeq
    exact isSeq
  · intro requestId info layerId received receives isSeq
    obtain ⟨sameSlot, sameSeq, _⟩ := receiveLayer_same receives
    rw [sameSlot, sameSeq]
    exact isSeq

theorem Numbered.removed
    {tracker : RequestTrackerLayer} {requestId : ByteString}
    {info : RequestInfo}
    (numbered : tracker.Numbered) (each : tracker.HasSlotNumbers)
    (found : tracker.requests.lookup requestId = some info) :
    (tracker.removeRequest requestId).Numbered := by
  have isSeq := each requestId info found
  have removedOwns : tracker.Owns requestId info.seqNum :=
    ⟨info.slotId, slotOf_of_found found, isSeq.symm⟩
  have owns_iff (tested : ByteString) (seqNum : UInt16) :
      (tracker.removeRequest requestId).Owns tested seqNum ↔
        tested ≠ requestId ∧ tracker.Owns tested seqNum := by
    rw [Owns, slotOf_removeRequest]
    by_cases same : tested = requestId
    · simp [same]
    · simp [same, Owns]
  have resolve_eq (seqNum : UInt16) :
      (tracker.removeRequest requestId).resolveSeqNum seqNum =
        if seqNum = info.seqNum then [] else tracker.resolveSeqNum seqNum := by
    simp only [removeRequest, found, resolveSeqNum]
    by_cases same : seqNum = info.seqNum
    · subst same
      simp
    · simp [same]
  apply Numbered.of_resolve
  · intro seqNum tested owns
    obtain ⟨different, owned⟩ := (owns_iff tested seqNum).mp owns
    have otherSeq : seqNum ≠ info.seqNum := by
      intro same
      rw [same] at owned
      exact different (numbered.distinct _ tested requestId owned removedOwns)
    rw [resolve_eq, if_neg otherSeq]
    exact numbered.resolve_of_owns owned
  · intro seqNum none
    rw [resolve_eq]
    by_cases same : seqNum = info.seqNum
    · rw [if_pos same]
    · rw [if_neg same]
      apply numbered.resolve_of_not_owned
      intro other owns
      have different : other ≠ requestId := by
        intro same
        subst same
        obtain ⟨slot, holds, isSlotSeq⟩ := owns
        rw [slotOf_of_found found] at holds
        cases holds
        exact same (isSlotSeq.symm.trans isSeq.symm)
      exact none other ((owns_iff other seqNum).mpr ⟨different, owns⟩)
  · intro tested slot holds
    rw [slotOf_removeRequest] at holds
    split at holds
    · cases holds
    · rename_i different
      have kept := (numbered.queries tested slot holds).2
      simp only [removeRequest, found, getSeqNum,
        AList.lookup_erase_ne different]
      exact kept

/-! ## Runs of calls -/

/-- A call keeps the numbers exactly if it is as it should be. -/
theorem Numbered.call_iff
    {tracker : RequestTrackerLayer} (numbered : tracker.Numbered)
    (each : tracker.HasSlotNumbers) (made : TrackerCall) :
    (tracker.call made).Numbered ↔ tracker.KeepsNumbers made := by
  have effect := call_effect tracker made
  cases made with
  | addRequest requestId prefillNodeId assignedSlot numLayers =>
      cases result :
          tracker.addRequest requestId prefillNodeId assignedSlot
            numLayers with
      | error exception =>
          have same :
              tracker.call
                  (.addRequest requestId prefillNodeId assignedSlot
                    numLayers) = tracker := by
            simp only [call, result]
          rw [same]
          apply iff_of_true numbered
          intro admits
          exact absurd admits (not_admits_of_error result)
      | ok pair =>
          obtain ⟨seqNum, added⟩ := pair
          have same :
              tracker.call
                  (.addRequest requestId prefillNodeId assignedSlot
                    numLayers) = added := by
            simp only [call, result]
          rw [same]
          exact numbered.addRequest_iff result
  | updateState requestId newState =>
      refine iff_of_true ?_ trivial
      apply numbered.of_same
      · exact slotOf_updateState tracker requestId newState
      · cases effect with
        | nothing _ same =>
            rw [same]
            exact ⟨rfl, rfl, rfl⟩
        | stateUpdated _ _ _ _ _ same =>
            exact same
  | markLayerReceived requestId layerId =>
      refine iff_of_true ?_ trivial
      apply numbered.of_same
      · exact slotOf_markLayerReceived tracker requestId layerId
      · cases effect with
        | nothing _ same =>
            rw [same]
            exact ⟨rfl, rfl, rfl⟩
        | layerReceived _ _ _ _ _ _ _ same =>
            exact same
  | removeRequest requestId =>
      refine iff_of_true ?_ trivial
      cases found : tracker.requests.lookup requestId with
      | none =>
          have same : tracker.call (.removeRequest requestId) = tracker := by
            simp only [call, removeRequest, found]
          rw [same]
          exact numbered
      | some info =>
          exact numbered.removed each found

theorem execute_callStep
    (tracker : RequestTrackerLayer) (list : List TrackerCall) :
    LabelledRuns.execute callStep tracker list = some (tracker.calls list) := by
  induction list generalizing tracker with
  | nil =>
      rfl
  | cons made rest inductionHypothesis =>
      rw [LabelledRuns.execute, callStep, Option.bind_some,
        inductionHypothesis]
      rfl

/-- The sequence numbers stand for their owners throughout a run of calls exactly
if every request is added as it should be. -/
theorem sequence_numbers_resolve_iff
    (layout : MemoryLayout) (list : List TrackerCall) :
    LabelledRuns.Throughout callStep Numbered (new layout) list ↔
      LabelledRuns.Meets callStep KeepsNumbers (new layout) list := by
  have start : (new layout).Numbered ∧ (new layout).HasSlotNumbers := by
    refine ⟨numbered_new layout, ?_⟩
    intro requestId info found
    cases found
  have preserved
      (tracker : RequestTrackerLayer) (made : TrackerCall)
      (next : RequestTrackerLayer) (taken : callStep tracker made = some next)
      (keeps : tracker.KeepsNumbers made)
      (holds : tracker.Numbered ∧ tracker.HasSlotNumbers) :
      next.Numbered ∧ next.HasSlotNumbers := by
    cases taken
    exact ⟨(holds.1.call_iff holds.2 made).mpr keeps, holds.2.call made⟩
  have complete
      (tracker : RequestTrackerLayer) (made : TrackerCall)
      (next : RequestTrackerLayer) (taken : callStep tracker made = some next)
      (holds : tracker.Numbered ∧ tracker.HasSlotNumbers)
      (nextNumbered : next.Numbered) : tracker.KeepsNumbers made := by
    cases taken
    exact (holds.1.call_iff holds.2 made).mp nextNumbered
  exact
    LabelledRuns.throughout_iff_meets preserved (fun _ holds => holds.1) complete
      (execute_callStep (new layout) list) start

/-- A request that is added again, with another slot, leaves the number of its
first slot behind. -/
theorem overwritten_slot_still_resolves :
    ((new {}).calls
          [.addRequest [10] [2] 0 2, .addRequest [10] [2] 1 2]).resolveSeqNum
        0 = [10] ∧
      ((new {}).calls
          [.addRequest [10] [2] 0 2, .addRequest [10] [2] 1 2]).slotOf
        [10] = some 1 ∧
      ¬ LabelledRuns.Throughout callStep Numbered (new {})
        [.addRequest [10] [2] 0 2, .addRequest [10] [2] 1 2] := by
  have resolved :
      ((new {}).calls
          [.addRequest [10] [2] 0 2, .addRequest [10] [2] 1 2]).resolveSeqNum
        0 = [10] := by
    decide +kernel
  have isSecond :
      ((new {}).calls
          [.addRequest [10] [2] 0 2, .addRequest [10] [2] 1 2]).slotOf
        [10] = some 1 := by
    decide +kernel
  refine ⟨resolved, isSecond, ?_⟩
  intro throughout
  have numbered := ((throughout.2 _ rfl).2 _ rfl).start
  rcases (numbered.resolves 0 [10]).mp resolved with owns | ⟨isEmpty, _⟩
  · obtain ⟨slot, holds, isSeq⟩ := owns
    have same := holds.symm.trans isSecond
    cases same
    revert isSeq
    decide
  · cases isEmpty

end RequestTrackerLayer

end RdmaKvCache
