import RdmaKvCache.Common.Types

/-!
# The request tracker of the orchestrator

`RequestTrackerOrchestrator` remembers each request, its status and the
connection of the client that asked for it.  A status is overwritten whatever
it was before; the time of the first change of each kind is kept.
-/

namespace RdmaKvCache

structure TrackedRequest where
  info : RequestInfo
  status : RequestStatus
  clientFd : Int32
  response : ByteString
  error : ByteString
  deriving DecidableEq

/-- The time stamp a status sets, unless it is set already. -/
def RequestInfo.stamp
    (info : RequestInfo) (status : RequestStatus) (now : UInt64) :
    RequestInfo :=
  let first (stamped : UInt64) := if stamped = 0 then now else stamped
  match status with
  | .prefilling =>
      { info with
        timestampPrefillStart := first info.timestampPrefillStart }
  | .transferring =>
      { info with timestampPrefillDone := first info.timestampPrefillDone }
  | .decoding =>
      { info with timestampDecodeStart := first info.timestampDecodeStart }
  | .completed | .failed | .error =>
      { info with timestampDecodeDone := first info.timestampDecodeDone }
  | .pending | .unlisted _ => info

/-- `COMPLETED`, `FAILED` or `ERROR`. -/
def RequestStatus.isEnded : RequestStatus → Bool
  | .completed | .failed | .error => true
  | .pending | .prefilling | .transferring | .decoding | .unlisted _ => false

/-- The time a request ended, or the time of its creation if none is set. -/
def TrackedRequest.requestEndTime (tracked : TrackedRequest) : UInt64 :=
  if tracked.info.timestampDecodeDone = 0 then
    tracked.info.timestampCreated
  else
    tracked.info.timestampDecodeDone

structure RequestTrackerOrchestrator where
  requests : UnorderedMap ByteString TrackedRequest := ∅

namespace RequestTrackerOrchestrator

def trackRequest
    (tracker : RequestTrackerOrchestrator) (request : RequestInfo)
    (clientFd : Int32) : RequestTrackerOrchestrator :=
  { tracker with
    requests :=
      tracker.requests.insert request.requestId
        { info := request
          status := .pending
          clientFd := clientFd
          response := []
          error := [] } }

def updateStatus
    (tracker : RequestTrackerOrchestrator) (requestId : ByteString)
    (status : RequestStatus) (now : UInt64) : RequestTrackerOrchestrator :=
  match tracker.requests.lookup requestId with
  | none => tracker
  | some tracked =>
      { tracker with
        requests :=
          tracker.requests.insert requestId
            { tracked with
              status := status
              info := tracked.info.stamp status now } }

def getStatus
    (tracker : RequestTrackerOrchestrator) (requestId : ByteString) :
    Option RequestStatus :=
  (tracker.requests.lookup requestId).map TrackedRequest.status

def getClientFd
    (tracker : RequestTrackerOrchestrator) (requestId : ByteString) :
    Option Int32 :=
  (tracker.requests.lookup requestId).map TrackedRequest.clientFd

/-- Change the record of a tracked request. -/
def modify
    (tracker : RequestTrackerOrchestrator) (requestId : ByteString)
    (change : TrackedRequest → TrackedRequest) : RequestTrackerOrchestrator :=
  match tracker.requests.lookup requestId with
  | none => tracker
  | some tracked =>
      { tracker with
        requests := tracker.requests.insert requestId (change tracked) }

def markPrefillComplete
    (tracker : RequestTrackerOrchestrator) (requestId : ByteString)
    (now : UInt64) : RequestTrackerOrchestrator :=
  tracker.modify requestId fun tracked =>
    { tracked with
      info := { tracked.info with timestampPrefillDone := now }
      status := .transferring }

def markDecodeComplete
    (tracker : RequestTrackerOrchestrator) (requestId response : ByteString)
    (now : UInt64) : RequestTrackerOrchestrator :=
  tracker.modify requestId fun tracked =>
    { tracked with
      info := { tracked.info with timestampDecodeDone := now }
      status := .completed
      response := response }

def markFailed
    (tracker : RequestTrackerOrchestrator) (requestId error : ByteString) :
    RequestTrackerOrchestrator :=
  tracker.modify requestId fun tracked =>
    { tracked with
      status := .failed
      error := error }

def removeRequest
    (tracker : RequestTrackerOrchestrator) (requestId : ByteString) :
    RequestTrackerOrchestrator :=
  { tracker with requests := tracker.requests.erase requestId }

/-! ## Old requests -/

/-- The conversion of an `int` to `uint64_t`. -/
def unsignedLimit (limitMs : Int32) : UInt64 :=
  limitMs.toInt64.toUInt64

def getTimedOutRequests
    (tracker : RequestTrackerOrchestrator) (timeoutMs : Int32)
    (now : UInt64) : List ByteString :=
  (tracker.requests.entries.filter fun ⟨_, tracked⟩ =>
    !tracked.status.isEnded &&
      unsignedLimit timeoutMs < now - tracked.info.timestampCreated).map
    Sigma.fst

/-- The requests that are kept and the number of those that are removed. -/
def cleanupOldRequests
    (tracker : RequestTrackerOrchestrator) (maxAgeMs : Int32)
    (now : UInt64) : RequestTrackerOrchestrator × UInt64 :=
  let kept :=
    tracker.requests.entries.filter fun ⟨_, tracked⟩ =>
      !(tracked.status.isEnded &&
        unsignedLimit maxAgeMs < now - tracked.requestEndTime)
  ({ tracker with
      requests :=
        ⟨kept, tracker.requests.nodupKeys.sublist List.filter_sublist⟩ },
    UInt64.ofNat (tracker.requests.entries.length - kept.length))

/-! ## What the tracker says of each request -/

theorem lookup_modify
    (tracker : RequestTrackerOrchestrator) (requestId tested : ByteString)
    (change : TrackedRequest → TrackedRequest) :
    (tracker.modify requestId change).requests.lookup tested =
      if tested = requestId then
        (tracker.requests.lookup requestId).map change
      else tracker.requests.lookup tested := by
  rw [modify]
  cases found : tracker.requests.lookup requestId with
  | none =>
      by_cases same : tested = requestId
      · subst tested
        simp [found]
      · simp [same]
  | some tracked =>
      by_cases same : tested = requestId
      · subst tested
        simp
      · simp [same, AList.lookup_insert_ne same]

theorem updateStatus_eq_modify
    (tracker : RequestTrackerOrchestrator) (requestId : ByteString)
    (status : RequestStatus) (now : UInt64) :
    tracker.updateStatus requestId status now =
      tracker.modify requestId fun tracked =>
        { tracked with
          status := status
          info := tracked.info.stamp status now } :=
  rfl

theorem getClientFd_trackRequest
    (tracker : RequestTrackerOrchestrator) (request : RequestInfo)
    (clientFd : Int32) (tested : ByteString) :
    (tracker.trackRequest request clientFd).getClientFd tested =
      if tested = request.requestId then some clientFd
      else tracker.getClientFd tested := by
  by_cases same : tested = request.requestId
  · subst tested
    simp [getClientFd, trackRequest]
  · simp [getClientFd, trackRequest, same, AList.lookup_insert_ne same]

theorem getStatus_trackRequest
    (tracker : RequestTrackerOrchestrator) (request : RequestInfo)
    (clientFd : Int32) (tested : ByteString) :
    (tracker.trackRequest request clientFd).getStatus tested =
      if tested = request.requestId then some .pending
      else tracker.getStatus tested := by
  by_cases same : tested = request.requestId
  · subst tested
    simp [getStatus, trackRequest]
  · simp [getStatus, trackRequest, same, AList.lookup_insert_ne same]

/-- A status update changes nothing but the status of a tracked request and its
time stamps. -/
@[simp]
theorem getClientFd_updateStatus
    (tracker : RequestTrackerOrchestrator) (requestId tested : ByteString)
    (status : RequestStatus) (now : UInt64) :
    (tracker.updateStatus requestId status now).getClientFd tested =
      tracker.getClientFd tested := by
  rw [updateStatus_eq_modify, getClientFd, getClientFd, lookup_modify]
  split
  · subst tested
    rw [Option.map_map]
    rfl
  · rfl

theorem getStatus_updateStatus
    (tracker : RequestTrackerOrchestrator) (requestId tested : ByteString)
    (status : RequestStatus) (now : UInt64) :
    (tracker.updateStatus requestId status now).getStatus tested =
      if tested = requestId then
        (tracker.getStatus requestId).map fun _ => status
      else tracker.getStatus tested := by
  rw [updateStatus_eq_modify, getStatus, getStatus, getStatus, lookup_modify]
  split
  · rw [Option.map_map, Option.map_map]
    rfl
  · rfl

theorem mem_getTimedOutRequests
    {tracker : RequestTrackerOrchestrator} {timeoutMs : Int32} {now : UInt64}
    {requestId : ByteString} :
    requestId ∈ tracker.getTimedOutRequests timeoutMs now ↔
      ∃ tracked,
        tracker.requests.lookup requestId = some tracked ∧
          tracked.status.isEnded = false ∧
          unsignedLimit timeoutMs < now - tracked.info.timestampCreated := by
  simp [getTimedOutRequests, ← Option.mem_def, AList.mem_lookup_iff]

theorem lookup_cleanupOldRequests
    (tracker : RequestTrackerOrchestrator) (maxAgeMs : Int32) (now : UInt64)
    (requestId : ByteString) :
    (tracker.cleanupOldRequests maxAgeMs now).1.requests.lookup requestId =
      (tracker.requests.lookup requestId).filter fun tracked =>
        !(tracked.status.isEnded &&
          unsignedLimit maxAgeMs < now - tracked.requestEndTime) := by
  apply Option.ext
  intro tracked
  rw [← Option.mem_def, AList.mem_lookup_iff, cleanupOldRequests,
    Option.filter_eq_some_iff, ← Option.mem_def, AList.mem_lookup_iff]
  exact List.mem_filter

/-- The requests with a status are those with a client. -/
theorem getStatus_isSome
    (tracker : RequestTrackerOrchestrator) (requestId : ByteString) :
    (tracker.getStatus requestId).isSome =
      (tracker.getClientFd requestId).isSome := by
  simp [getStatus, getClientFd]

end RequestTrackerOrchestrator

end RdmaKvCache
