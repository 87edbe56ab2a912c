import RdmaKvCache.Node.TrackedRequests

/-!
# Sequences of tracker calls

Any sequence of `add_request`, `update_state`, `mark_layer_received` and
`remove_request` calls, each of which holds the mutex of the tracker.  A call
that throws changes nothing.  A call changes the record of the request it is
about and no other.
-/

namespace RdmaKvCache

namespace RequestTrackerLayer

inductive TrackerCall where
  | addRequest
      (requestId prefillNodeId : ByteString) (assignedSlot numLayers : Int32)
  | updateState (requestId : ByteString) (newState : State)
  | markLayerReceived (requestId : ByteString) (layerId : Int32)
  | removeRequest (requestId : ByteString)
  deriving DecidableEq

/-- The request the call is about. -/
def TrackerCall.requestId : TrackerCall → ByteString
  | .addRequest requestId _ _ _ => requestId
  | .updateState requestId _ => requestId
  | .markLayerReceived requestId _ => requestId
  | .removeRequest requestId => requestId

/-- The tracker after a call. -/
def call (tracker : RequestTrackerLayer) : TrackerCall → RequestTrackerLayer
  | .addRequest requestId prefillNodeId assignedSlot numLayers =>
      match
        tracker.addRequest requestId prefillNodeId assignedSlot numLayers
      with
      | .error _ => tracker
      | .ok (_, added) => added
  | .updateState requestId newState =>
      (tracker.updateState requestId newState).2
  | .markLayerReceived requestId layerId =>
      (tracker.markLayerReceived requestId layerId).2
  | .removeRequest requestId => tracker.removeRequest requestId

def calls (tracker : RequestTrackerLayer) (list : List TrackerCall) :
    RequestTrackerLayer :=
  list.foldl call tracker

/-- The tracker the constructor makes. -/
def new (layout : MemoryLayout) : RequestTrackerLayer where
  layout := layout

/-! ## What a call does -/

/-- The parts of a tracker that only adding and removing requests change. -/
structure SameNumbers (tracker next : RequestTrackerLayer) : Prop where
  layout_eq : next.layout = tracker.layout
  requestToSeq_eq : next.requestToSeq = tracker.requestToSeq
  seqToRequest_eq : next.seqToRequest = tracker.seqToRequest

inductive CallEffect (tracker next : RequestTrackerLayer) :
    TrackerCall → Prop where
  | nothing (call : TrackerCall) (same : next = tracker) :
      CallEffect tracker next call
  | added (requestId prefillNodeId : ByteString)
      (assignedSlot numLayers : Int32) (seqNum : UInt16)
      (added :
        tracker.addRequest requestId prefillNodeId assignedSlot numLayers =
          .ok (seqNum, next)) :
      CallEffect tracker next
        (.addRequest requestId prefillNodeId assignedSlot numLayers)
  | stateUpdated (requestId : ByteString) (newState : State)
      (info : RequestInfo)
      (found : tracker.requests.lookup requestId = some info)
      (replaced :
        next.requests =
          tracker.requests.insert requestId { info with state := newState })
      (same : tracker.SameNumbers next) :
      CallEffect tracker next (.updateState requestId newState)
  | layerReceived (requestId : ByteString) (layerId : Int32)
      (info received : RequestInfo)
      (found : tracker.requests.lookup requestId = some info)
      (receives : info.receiveLayer layerId = some received)
      (replaced :
        next.requests = tracker.requests.insert requestId received)
      (same : tracker.SameNumbers next) :
      CallEffect tracker next (.markLayerReceived requestId layerId)
  | removed (requestId : ByteString) (info : RequestInfo)
      (found : tracker.requests.lookup requestId = some info)
      (isNext :
        next =
          { tracker with
            requests := tracker.requests.erase requestId
            requestToSeq := tracker.requestToSeq.erase requestId
            seqToRequest := tracker.seqToRequest.erase info.seqNum }) :
      CallEffect tracker next (.removeRequest requestId)

theorem call_effect (tracker : RequestTrackerLayer) (made : TrackerCall) :
    CallEffect tracker (tracker.call made) made := by
  cases made with
  | addRequest requestId prefillNodeId assignedSlot numLayers =>
      simp only [call]
      split
      · exact .nothing _ rfl
      · rename_i seqNum added result
        exact .added requestId prefillNodeId assignedSlot numLayers seqNum result
  | updateState requestId newState =>
      simp only [call, updateState]
      split
      · exact .nothing _ rfl
      · rename_i info found
        exact
          .stateUpdated requestId newState info found rfl ⟨rfl, rfl, rfl⟩
  | markLayerReceived requestId layerId =>
      simp only [call, markLayerReceived]
      split
      · exact .nothing _ rfl
      · rename_i info found
        split
        · exact .nothing _ rfl
        · rename_i received receives
          exact
            .layerReceived requestId layerId info received found receives rfl
              ⟨rfl, rfl, rfl⟩
  | removeRequest requestId =>
      simp only [call, removeRequest]
      split
      · exact .nothing _ rfl
      · rename_i info found
        exact .removed requestId info found rfl

section Effects

variable {tracker next : RequestTrackerLayer} {made : TrackerCall}

theorem CallEffect.layout_eq (effect : CallEffect tracker next made) :
    next.layout = tracker.layout := by
  cases effect with
  | nothing _ same =>
      rw [same]
  | added _ _ _ _ _ added =>
      obtain ⟨_, _, _, _, isNext⟩ := addRequest_eq_ok added
      rw [isNext]
  | stateUpdated _ _ _ _ _ same =>
      exact same.layout_eq
  | layerReceived _ _ _ _ _ _ _ same =>
      exact same.layout_eq
  | removed _ _ _ isNext =>
      rw [isNext]

/-- The records of all other requests stay as they are. -/
theorem CallEffect.lookup_of_ne
    (effect : CallEffect tracker next made) {tested : ByteString}
    (other : tested ≠ made.requestId) :
    next.requests.lookup tested = tracker.requests.lookup tested := by
  cases effect with
  | nothing _ same =>
      rw [same]
  | added _ _ _ _ _ added =>
      obtain ⟨_, _, _, _, isNext⟩ := addRequest_eq_ok added
      rw [isNext]
      exact AList.lookup_insert_ne other
  | stateUpdated _ _ _ _ replaced _ =>
      rw [replaced]
      exact AList.lookup_insert_ne other
  | layerReceived _ _ _ _ _ _ replaced _ =>
      rw [replaced]
      exact AList.lookup_insert_ne other
  | removed _ _ _ isNext =>
      rw [isNext]
      exact AList.lookup_erase_ne other

end Effects

theorem call_layout (tracker : RequestTrackerLayer) (made : TrackerCall) :
    (tracker.call made).layout = tracker.layout :=
  (call_effect tracker made).layout_eq

/-- The slot of a request changes when it is added or removed. -/
theorem slotOf_call
    {tracker : RequestTrackerLayer} {made : TrackerCall} {tested : ByteString}
    {slot : Int32} (holds : (tracker.call made).slotOf tested = some slot) :
    tracker.slotOf tested = some slot ∨
      tracker.slotHolder slot = none ∧
        (0 ≤ slot ∧ slot < tracker.layout.maxConcurrentRequests) ∧
        tested = made.requestId := by
  cases made with
  | addRequest requestId prefillNodeId assignedSlot numLayers =>
      simp only [call] at holds
      split at holds
      · exact Or.inl holds
      · rename_i seqNum added result
        obtain ⟨_, inRange, free, _, _⟩ := addRequest_eq_ok result
        rw [slotOf_addRequest result] at holds
        split at holds
        · rename_i isRequest
          cases holds
          exact Or.inr ⟨free, inRange, isRequest⟩
        · exact Or.inl holds
  | updateState requestId newState =>
      rw [call, slotOf_updateState] at holds
      exact Or.inl holds
  | markLayerReceived requestId layerId =>
      rw [call, slotOf_markLayerReceived] at holds
      exact Or.inl holds
  | removeRequest requestId =>
      rw [call, slotOf_removeRequest] at holds
      split at holds
      · cases holds
      · exact Or.inl holds

/-! ## Properties of all records -/

def EachRecord
    (tracker : RequestTrackerLayer)
    (property : ByteString → RequestInfo → Prop) : Prop :=
  ∀ requestId info, tracker.requests.lookup requestId = some info →
    property requestId info

/-- What holds of a new record, and survives a new state and a received layer,
holds of every record after any call. -/
theorem EachRecord.call
    {tracker : RequestTrackerLayer}
    {property : ByteString → RequestInfo → Prop} {made : TrackerCall}
    (each : tracker.EachRecord property)
    (ofNew :
      ∀ requestId prefillNodeId assignedSlot numLayers,
        made = .addRequest requestId prefillNodeId assignedSlot numLayers →
          0 ≤ assignedSlot →
            assignedSlot < tracker.layout.maxConcurrentRequests →
              property requestId
                (newRequest tracker.layout requestId prefillNodeId
                  assignedSlot numLayers))
    (ofState :
      ∀ requestId info newState,
        property requestId info →
          property requestId { info with state := newState })
    (ofLayer :
      ∀ requestId info layerId received,
        info.receiveLayer layerId = some received →
          property requestId info → property requestId received) :
    (tracker.call made).EachRecord property := by
  intro tested info found
  have effect := call_effect tracker made
  by_cases other : tested = made.requestId
  · subst other
    cases effect with
    | nothing _ same =>
        rw [same] at found
        exact each _ info found
    | added requestId prefillNodeId assignedSlot numLayers seqNum added =>
        obtain ⟨_, inRange, _, _, isNext⟩ := addRequest_eq_ok added
        rw [isNext, TrackerCall.requestId, AList.lookup_insert] at found
        cases found
        exact
          ofNew requestId prefillNodeId assignedSlot numLayers rfl inRange.1
            inRange.2
    | stateUpdated requestId newState earlier known replaced _ =>
        rw [replaced, TrackerCall.requestId, AList.lookup_insert] at found
        cases found
        exact
          ofState requestId earlier newState (each requestId earlier known)
    | layerReceived requestId layerId earlier received known receives replaced
        _ =>
        rw [replaced, TrackerCall.requestId, AList.lookup_insert] at found
        cases found
        exact
          ofLayer requestId earlier layerId info receives
            (each requestId earlier known)
    | removed requestId earlier known isNext =>
        rw [isNext, TrackerCall.requestId, AList.lookup_erase] at found
        cases found
  · rw [effect.lookup_of_ne other] at found
    exact each tested info found

end RequestTrackerLayer

end RdmaKvCache
