import RdmaKvCache.Orchestrator.Worker

/-!
# Requests that are too old

`handle_client_request` stores the count of the clock as the time a request is
created, which is in nanoseconds.  The tracker reads the clock in milliseconds, when
the status changes and when it looks for old requests, and subtracts one from the
other.  The time a request ends is kept in a field that starts out with what the
memory held.

A `Life` records what really happened to a request.  What the tracker stores of the
request is a function of it.
-/

namespace RdmaKvCache

open RequestTrackerOrchestrator

/-! ## The clock -/

/-- A reading of `system_clock`, in nanoseconds. -/
abbrev Instant :=
  Int64

/-- `time_since_epoch().count()` as `uint64_t`. -/
def Instant.count (t : Instant) : UInt64 :=
  t.toUInt64

/-- The count of the `duration_cast` to milliseconds, as `uint64_t`. -/
def Instant.milliseconds (t : Instant) : UInt64 :=
  (t / 1000000).toUInt64

theorem Instant.toNat_count {t : Instant} (sinceEpoch : 0 ≤ t.toInt) :
    t.count.toNat = t.toInt.toNat := by
  have nonnegative : 0 ≤ t := Int64.le_iff_toInt_le.mpr sinceEpoch
  rw [Instant.count, Int64.toNat_toUInt64_of_le nonnegative,
    Int64.toNatClampNeg]

/-- Before the epoch the milliseconds count back from `2 ^ 64`, once one of them is
full. -/
theorem Instant.toNat_milliseconds (t : Instant) :
    (t.milliseconds.toNat : Int) =
      if 0 ≤ t.toInt then t.toInt / 1000000
      else if -1000000 < t.toInt then 0
      else 2 ^ 64 - -t.toInt / 1000000 := by
  have lower := t.le_toInt
  have upper := t.toInt_lt
  have quotient : (t / 1000000).toInt = t.toInt.tdiv 1000000 :=
    Int64.toInt_div_of_ne_right t 1000000 (by decide)
  have value :
      t.toInt.tdiv 1000000 =
        if 0 ≤ t.toInt then t.toInt / 1000000
        else -(-t.toInt / 1000000) := by
    split
    · rename_i nonnegative
      exact Int.tdiv_eq_ediv_of_nonneg nonnegative
    · rename_i negative
      rw [← Int.neg_neg t.toInt, Int.neg_tdiv, Int.neg_neg,
        Int.tdiv_eq_ediv_of_nonneg (by omega)]
  have signed :
      (t / 1000000).toInt = (t.milliseconds.toNat : Int).bmod (2 ^ 64) :=
    BitVec.toInt_eq_toNat_bmod (t / 1000000).toBitVec
  have bound := t.milliseconds.toNat_lt
  rw [quotient, value, Int.bmod_def] at signed
  split at signed <;>
    split at signed <;>
    split <;>
    omega

/-! ## Lives of requests -/

/-- The calls that set the status of a request. -/
inductive StatusCall where
  | updateStatus (status : RequestStatus)
  | markPrefillComplete
  | markDecodeComplete (response : ByteString)
  | markFailed (error : ByteString)

namespace StatusCall

def perform
    (call : StatusCall) (tracker : RequestTrackerOrchestrator)
    (requestId : ByteString) (now : UInt64) : RequestTrackerOrchestrator :=
  match call with
  | .updateStatus status => tracker.updateStatus requestId status now
  | .markPrefillComplete => tracker.markPrefillComplete requestId now
  | .markDecodeComplete response =>
      tracker.markDecodeComplete requestId response now
  | .markFailed error => tracker.markFailed requestId error

def status : StatusCall → RequestStatus
  | .updateStatus status => status
  | .markPrefillComplete => .transferring
  | .markDecodeComplete _ => .completed
  | .markFailed _ => .failed

/-- What the call makes of the stored end of the request. -/
def endStamp (call : StatusCall) (stored now : UInt64) : UInt64 :=
  match call with
  | .updateStatus status =>
      if status.isEnded && stored == 0 then now else stored
  | .markDecodeComplete _ => now
  | .markPrefillComplete | .markFailed _ => stored

end StatusCall

/-- When the request was created, what the memory held in place of the time of its
end, and the calls since, the latest first. -/
structure Life where
  created : Instant
  leftover : UInt64
  calls : List (Instant × StatusCall) := []

namespace Life

def statusAfter : List (Instant × StatusCall) → RequestStatus
  | [] => .pending
  | (_, call) :: _ => call.status

def status (life : Life) : RequestStatus :=
  statusAfter life.calls

def endStampAfter (leftover : UInt64) : List (Instant × StatusCall) → UInt64
  | [] => leftover
  | (now, call) :: earlier =>
      call.endStamp (endStampAfter leftover earlier) now.milliseconds

/-- The stored end of the request. -/
def endStamp (life : Life) : UInt64 :=
  endStampAfter life.leftover life.calls

def endedAfter (created : Instant) : List (Instant × StatusCall) → Instant
  | [] => created
  | (now, call) :: earlier =>
      if call.status.isEnded && !(statusAfter earlier).isEnded then now
      else endedAfter created earlier

/-- The instant of the last change from an active status to an ended one. -/
def ended (life : Life) : Instant :=
  endedAfter life.created life.calls

/-- The time from which the age of an ended request is counted. -/
def endTime (life : Life) : UInt64 :=
  if life.endStamp = 0 then life.created.count else life.endStamp

def after (life : Life) (now : Instant) (call : StatusCall) : Life :=
  { life with calls := (now, call) :: life.calls }

/-- The tracker stores of the request what its life says. -/
structure StoredAs (life : Life) (tracked : TrackedRequest) : Prop where
  status : tracked.status = life.status
  created : tracked.info.timestampCreated = life.created.count
  ended : tracked.info.timestampDecodeDone = life.endStamp

end Life

/-! ## Histories -/

/-- The tracker with the lives of the requests that it has been given. -/
structure ObservedTracker where
  tracker : RequestTrackerOrchestrator := {}
  lives : ByteString → Option Life := fun _ => none

inductive TrackerAction where
  | clientRequest
      (requested : RequestInfo) (routing : RoutingResult)
      (input : ProcessInput) (clientFd : Int32)
  | statusCall (requestId : ByteString) (call : StatusCall)
  | removeRequest (requestId : ByteString)
  | cleanup (maxAgeMs : Int32)

namespace ObservedTracker

def perform
    (observed : ObservedTracker) (now : Instant) :
    TrackerAction → ObservedTracker
  | .clientRequest requested routing input clientFd =>
      let stamped := { input with timestampCreated := now.count }
      { tracker :=
          observed.tracker.trackRequest
            (WorkerOrchestrator.assignedRequest requested routing stamped)
            clientFd
        lives :=
          Function.update observed.lives requested.requestId
            (some
              { created := now
                leftover := input.requestMemory.timestampDecodeDone }) }
  | .statusCall requestId call =>
      { tracker := call.perform observed.tracker requestId now.milliseconds
        lives :=
          Function.update observed.lives requestId
            ((observed.lives requestId).map fun life => life.after now call) }
  | .removeRequest requestId =>
      { observed with tracker := observed.tracker.removeRequest requestId }
  | .cleanup maxAgeMs =>
      { observed with
        tracker :=
          (observed.tracker.cleanupOldRequests maxAgeMs now.milliseconds).1 }

/-- What a history of calls leaves, each at an instant. -/
def run (history : List (Instant × TrackerAction)) : ObservedTracker :=
  history.foldl (fun observed (now, action) => observed.perform now action) {}

/-- The request is tracked, and this is its life. -/
def Tracks
    (observed : ObservedTracker) (requestId : ByteString) (life : Life) :
    Prop :=
  (observed.tracker.requests.lookup requestId).isSome ∧
    observed.lives requestId = some life

/-- Everything that is tracked is stored as its life says. -/
def Faithful (observed : ObservedTracker) : Prop :=
  ∀ requestId tracked,
    observed.tracker.requests.lookup requestId = some tracked →
      ∃ life, observed.lives requestId = some life ∧ life.StoredAs tracked

end ObservedTracker

/-! ## What the tracker stores -/

/-- The change of the record of a request by the call. -/
def StatusCall.record
    (call : StatusCall) (now : UInt64) (tracked : TrackedRequest) :
    TrackedRequest :=
  match call with
  | .updateStatus status =>
      { tracked with
        status := status
        info := tracked.info.stamp status now }
  | .markPrefillComplete =>
      { tracked with
        info := { tracked.info with timestampPrefillDone := now }
        status := .transferring }
  | .markDecodeComplete response =>
      { tracked with
        info := { tracked.info with timestampDecodeDone := now }
        status := .completed
        response := response }
  | .markFailed error =>
      { tracked with
        status := .failed
        error := error }

theorem StatusCall.perform_eq
    (call : StatusCall) (tracker : RequestTrackerOrchestrator)
    (requestId : ByteString) (now : UInt64) :
    call.perform tracker requestId now =
      tracker.modify requestId (call.record now) := by
  cases call with
  | updateStatus status =>
      exact updateStatus_eq_modify tracker requestId status now
  | markPrefillComplete =>
      rfl
  | markDecodeComplete response =>
      rfl
  | markFailed error =>
      rfl

theorem RequestInfo.stamp_created
    (info : RequestInfo) (status : RequestStatus) (now : UInt64) :
    (info.stamp status now).timestampCreated = info.timestampCreated := by
  cases status <;> rfl

theorem RequestInfo.stamp_decodeDone
    (info : RequestInfo) (status : RequestStatus) (now : UInt64) :
    (info.stamp status now).timestampDecodeDone =
      if status.isEnded && info.timestampDecodeDone == 0 then now
      else info.timestampDecodeDone := by
  cases status with
  | completed | failed | error =>
      simp [RequestInfo.stamp, RequestStatus.isEnded]
  | pending | prefilling | transferring | decoding | unlisted _ =>
      rfl

theorem Life.StoredAs.after
    {life : Life} {tracked : TrackedRequest} (stored : life.StoredAs tracked)
    (now : Instant) (call : StatusCall) :
    (life.after now call).StoredAs (call.record now.milliseconds tracked) := by
  have ended := stored.ended
  cases call with
  | updateStatus status =>
      refine ⟨rfl, ?_, ?_⟩
      · exact (RequestInfo.stamp_created _ _ _).trans stored.created
      · refine (RequestInfo.stamp_decodeDone _ _ _).trans ?_
        rw [ended]
        rfl
  | markPrefillComplete =>
      exact ⟨rfl, stored.created, ended⟩
  | markDecodeComplete response =>
      exact ⟨rfl, stored.created, rfl⟩
  | markFailed error =>
      exact ⟨rfl, stored.created, ended⟩

namespace ObservedTracker

theorem Faithful.perform
    {observed : ObservedTracker} (faithful : observed.Faithful)
    (now : Instant) (action : TrackerAction) :
    (observed.perform now action).Faithful := by
  intro tested tracked found
  cases action with
  | clientRequest requested routing input clientFd =>
      let stamped := { input with timestampCreated := now.count }
      let request :=
        WorkerOrchestrator.assignedRequest requested routing stamped
      by_cases same : tested = requested.requestId
      · subst tested
        have inserted : some tracked = some ⟨request, .pending, clientFd, [], []⟩ :=
          found.symm.trans (AList.lookup_insert observed.tracker.requests)
        cases inserted
        exact ⟨_, Function.update_self _ _ _, ⟨rfl, rfl, rfl⟩⟩
      · have before :
            observed.tracker.requests.lookup tested = some tracked :=
          (AList.lookup_insert_ne same).symm.trans found
        obtain ⟨life, isLife, stored⟩ := faithful tested tracked before
        exact ⟨life, (Function.update_of_ne same _ _).trans isLife, stored⟩
  | statusCall requestId call =>
      simp only [ObservedTracker.perform, StatusCall.perform_eq, lookup_modify]
        at found ⊢
      by_cases same : tested = requestId
      · subst tested
        simp only [if_true, Option.map_eq_some_iff] at found
        obtain ⟨before, foundBefore, rfl⟩ := found
        obtain ⟨life, isLife, stored⟩ := faithful requestId before foundBefore
        refine ⟨life.after now call, ?_, stored.after now call⟩
        simp [isLife]
      · rw [if_neg same] at found
        obtain ⟨life, isLife, stored⟩ := faithful tested tracked found
        refine ⟨life, ?_, stored⟩
        simp [Function.update_of_ne same, isLife]
  | removeRequest requestId =>
      by_cases same : tested = requestId
      · subst tested
        simp [ObservedTracker.perform, removeRequest] at found
      · apply faithful tested tracked
        simpa [ObservedTracker.perform, removeRequest,
          AList.lookup_erase_ne same] using found
  | cleanup maxAgeMs =>
      simp only [ObservedTracker.perform, lookup_cleanupOldRequests,
        Option.filter_eq_some_iff] at found
      exact faithful tested tracked found.1

theorem faithful_run (history : List (Instant × TrackerAction)) :
    (run history).Faithful := by
  have preserved :
      ∀ observed : ObservedTracker, observed.Faithful →
        (history.foldl
          (fun observed (now, action) => observed.perform now action)
          observed).Faithful := by
    induction history with
    | nil =>
        intro observed faithful
        exact faithful
    | cons first rest inductionHypothesis =>
        intro observed faithful
        exact inductionHypothesis _ (faithful.perform first.1 first.2)
  apply preserved
  intro requestId tracked found
  cases found

end ObservedTracker

/-! ## Old requests -/

/-- At this instant both functions find exactly the requests that are too old, and
no subtraction wraps. -/
structure ExpiryExact
    (observed : ObservedTracker) (now : Instant) (timeoutMs maxAgeMs : Int32) :
    Prop where
  timedOut :
    ∀ requestId,
      requestId ∈
          observed.tracker.getTimedOutRequests timeoutMs now.milliseconds ↔
        ∃ life, observed.Tracks requestId life ∧
          life.status.isEnded = false ∧
          life.created.toInt + timeoutMs.toInt * 1000000 < now.toInt
  removed :
    ∀ requestId life, observed.Tracks requestId life →
      ((observed.tracker.cleanupOldRequests maxAgeMs
            now.milliseconds).1.requests.lookup requestId = none ↔
        life.status.isEnded = true ∧
          life.ended.toInt + maxAgeMs.toInt * 1000000 < now.toInt)
  noWrap :
    ∀ requestId tracked,
      observed.tracker.requests.lookup requestId = some tracked →
        if tracked.status.isEnded then
          tracked.requestEndTime ≤ now.milliseconds
        else
          tracked.info.timestampCreated ≤ now.milliseconds

/-- The first instant at which more than the limit has passed since another one. -/
def Instant.deadline (since : Instant) (limitMs : Int32) : Int :=
  since.toInt + limitMs.toInt * 1000000 + 1

/-- The time lies in the interval between two others, in either order. -/
def Between (first second now : Int) : Prop :=
  min first second ≤ now ∧ now < max first second

/-- Read as milliseconds, the stored time is not past the clock, and the clock is not
between the instant from which on the request is too old and the one from which on the
stored time makes it so.  Before the epoch the clock counts back from `2 ^ 64`. -/
def StampInTime
    (stored : UInt64) (since : Instant) (limitMs : Int32) (now : Instant) :
    Prop :=
  if -1000000 < now.toInt then
    stored.toNat * 1000000 ≤ max now.toInt 0 ∧
      ¬Between (since.deadline limitMs)
        ((stored.toNat + limitMs.toInt + 1) * 1000000) now.toInt
  else
    (stored.toNat - 2 ^ 64 - 1) * 1000000 < now.toInt ∧
      ¬Between (since.deadline limitMs)
        ((stored.toNat + limitMs.toInt - 2 ^ 64) * 1000000 + 1) now.toInt

/-- For an active request the stored time counts nanoseconds, and for an ended one it
may be what the memory held. -/
def Life.InTime
    (life : Life) (now : Instant) (timeoutMs maxAgeMs : Int32) : Prop :=
  if life.status.isEnded then
    StampInTime life.endTime life.ended maxAgeMs now
  else
    StampInTime life.created.count life.created timeoutMs now

instance decidableBetween (first second now : Int) :
    Decidable (Between first second now) :=
  inferInstanceAs (Decidable (_ ∧ _))

instance decidableStampInTime
    (stored : UInt64) (since : Instant) (limitMs : Int32) (now : Instant) :
    Decidable (StampInTime stored since limitMs now) :=
  inferInstanceAs
    (Decidable
      (if -1000000 < now.toInt then
        stored.toNat * 1000000 ≤ max now.toInt 0 ∧
          ¬Between (since.deadline limitMs)
            ((stored.toNat + limitMs.toInt + 1) * 1000000) now.toInt
      else
        (stored.toNat - 2 ^ 64 - 1) * 1000000 < now.toInt ∧
          ¬Between (since.deadline limitMs)
            ((stored.toNat + limitMs.toInt - 2 ^ 64) * 1000000 + 1)
            now.toInt))

instance Life.decidableInTime
    (life : Life) (now : Instant) (timeoutMs maxAgeMs : Int32) :
    Decidable (life.InTime now timeoutMs maxAgeMs) :=
  inferInstanceAs
    (Decidable
      (if life.status.isEnded then
        StampInTime life.endTime life.ended maxAgeMs now
      else
        StampInTime life.created.count life.created timeoutMs now))

theorem unsignedLimit_lt_sub_iff
    {limitMs : Int32} {stored now : UInt64} (nonnegative : 0 ≤ limitMs)
    (ordered : stored ≤ now) :
    unsignedLimit limitMs < now - stored ↔
      stored.toNat + limitMs.toInt.toNat < now.toNat := by
  have limit : (unsignedLimit limitMs).toNat = limitMs.toInt.toNat :=
    toUInt64_toNat nonnegative
  rw [UInt64.lt_iff_toNat_lt, UInt64.toNat_sub_of_le _ _ ordered, limit]
  have bound := UInt64.le_iff_toNat_le.mp ordered
  omega

/-- The code's comparison is right, without wrapping, exactly if the stored time is
in time. -/
theorem stampInTime_iff
    {stored : UInt64} {since now : Instant} {limitMs : Int32}
    (nonnegative : 0 ≤ limitMs) :
    (stored ≤ now.milliseconds ∧
        (unsignedLimit limitMs < now.milliseconds - stored ↔
          since.toInt + limitMs.toInt * 1000000 < now.toInt)) ↔
      StampInTime stored since limitMs now := by
  have clock := now.toNat_milliseconds
  have limit := Int32.le_iff_toInt_le.mp nonnegative
  rw [Int32.toInt_zero] at limit
  have compared :
      (stored ≤ now.milliseconds ∧
          (unsignedLimit limitMs < now.milliseconds - stored ↔
            since.toInt + limitMs.toInt * 1000000 < now.toInt)) ↔
        stored.toNat ≤ now.milliseconds.toNat ∧
          (stored.toNat + limitMs.toInt.toNat < now.milliseconds.toNat ↔
            since.toInt + limitMs.toInt * 1000000 < now.toInt) := by
    rw [UInt64.le_iff_toNat_le]
    apply and_congr_right
    intro ordered
    rw [unsignedLimit_lt_sub_iff nonnegative
      (UInt64.le_iff_toNat_le.mpr ordered)]
  rw [compared]
  unfold StampInTime Between Instant.deadline
  -- The clock reads full milliseconds, so the stored time does from the next one on.
  split at clock
  · rw [if_pos (by omega)]
    omega
  · split at clock
    · rw [if_pos (by assumption)]
      omega
    · rw [if_neg (by assumption)]
      omega

/-- From the third hour after the epoch on, a creation time in nanoseconds is past
every reading of the clock in milliseconds. -/
theorem not_stampInTime_of_created
    {created : Instant} (late : 2 ^ 63 ≤ created.toInt * 1000000)
    (limitMs : Int32) (now : Instant) (nonnegative : 0 ≤ limitMs) :
    ¬StampInTime created.count created limitMs now := by
  have bound := now.toInt_lt
  have earliest := now.le_toInt
  have latest := created.toInt_lt
  have count := Instant.toNat_count (t := created) (by omega)
  have limit := Int32.le_iff_toInt_le.mp nonnegative
  have limitBound := limitMs.toInt_lt
  rw [Int32.toInt_zero] at limit
  unfold StampInTime Between Instant.deadline
  split <;>
    omega

theorem Life.StoredAs.requestEndTime
    {life : Life} {tracked : TrackedRequest}
    (stored : life.StoredAs tracked) :
    tracked.requestEndTime = life.endTime := by
  rw [TrackedRequest.requestEndTime, Life.endTime, stored.ended,
    stored.created]

section Stored

variable {tracker : RequestTrackerOrchestrator} {requestId : ByteString}
variable {life : Life} {tracked : TrackedRequest}

theorem mem_timedOut_of_stored
    (found : tracker.requests.lookup requestId = some tracked)
    (stored : life.StoredAs tracked) (timeoutMs : Int32) (now : UInt64) :
    requestId ∈ tracker.getTimedOutRequests timeoutMs now ↔
      life.status.isEnded = false ∧
        unsignedLimit timeoutMs < now - life.created.count := by
  rw [mem_getTimedOutRequests, ← stored.status, ← stored.created]
  constructor
  · intro member
    obtain ⟨other, foundOther, old⟩ := member
    cases found.symm.trans foundOther
    exact old
  · intro old
    exact ⟨tracked, found, old⟩

theorem cleanup_eq_none_of_stored
    (found : tracker.requests.lookup requestId = some tracked)
    (stored : life.StoredAs tracked) (maxAgeMs : Int32) (now : UInt64) :
    (tracker.cleanupOldRequests maxAgeMs now).1.requests.lookup requestId =
        none ↔
      life.status.isEnded = true ∧
        unsignedLimit maxAgeMs < now - life.endTime := by
  rw [lookup_cleanupOldRequests, found, ← stored.status,
    ← stored.requestEndTime]
  simp

end Stored

theorem ObservedTracker.Faithful.storedAs
    {observed : ObservedTracker} (faithful : observed.Faithful)
    {requestId : ByteString} {life : Life}
    (tracks : observed.Tracks requestId life) :
    ∃ tracked,
      observed.tracker.requests.lookup requestId = some tracked ∧
        life.StoredAs tracked := by
  obtain ⟨tracked, found⟩ := Option.isSome_iff_exists.mp tracks.1
  obtain ⟨other, isOther, stored⟩ := faithful requestId tracked found
  cases tracks.2.symm.trans isOther
  exact ⟨tracked, found, stored⟩

/-! ## One request -/

/-- The tracker finds the request exactly if it is too old, and nothing wraps. -/
structure Life.FoundExactly
    (life : Life) (observed : ObservedTracker) (requestId : ByteString)
    (now : Instant) (timeoutMs maxAgeMs : Int32) : Prop where
  timedOut :
    requestId ∈
        observed.tracker.getTimedOutRequests timeoutMs now.milliseconds ↔
      life.status.isEnded = false ∧
        life.created.toInt + timeoutMs.toInt * 1000000 < now.toInt
  removed :
    (observed.tracker.cleanupOldRequests maxAgeMs
          now.milliseconds).1.requests.lookup requestId = none ↔
      life.status.isEnded = true ∧
        life.ended.toInt + maxAgeMs.toInt * 1000000 < now.toInt
  noWrap :
    if life.status.isEnded then life.endTime ≤ now.milliseconds
    else life.created.count ≤ now.milliseconds

section FoundExactly

variable {observed : ObservedTracker} {requestId : ByteString} {life : Life}
variable {tracked : TrackedRequest} {now : Instant}
variable {timeoutMs maxAgeMs : Int32}

theorem foundExactly_iff
    (found : observed.tracker.requests.lookup requestId = some tracked)
    (stored : life.StoredAs tracked) (timeoutNonnegative : 0 ≤ timeoutMs)
    (maxAgeNonnegative : 0 ≤ maxAgeMs) :
    life.FoundExactly observed requestId now timeoutMs maxAgeMs ↔
      life.InTime now timeoutMs maxAgeMs := by
  have timedOut :=
    mem_timedOut_of_stored found stored timeoutMs now.milliseconds
  have removed :=
    cleanup_eq_none_of_stored found stored maxAgeMs now.milliseconds
  rw [Life.InTime]
  cases status : life.status.isEnded with
  | true =>
      rw [status] at timedOut removed
      rw [if_pos rfl, ← stampInTime_iff maxAgeNonnegative]
      constructor
      · intro exact
        have ordered := exact.noWrap
        have isRemoved := exact.removed
        rw [status, if_pos rfl] at ordered
        rw [removed, status] at isRemoved
        simp only [true_and] at isRemoved
        exact ⟨ordered, isRemoved⟩
      · intro inTime
        refine ⟨?_, ?_, ?_⟩
        · rw [timedOut, status]
          simp
        · rw [removed, status, inTime.2]
        · rw [status, if_pos rfl]
          exact inTime.1
  | false =>
      rw [status] at timedOut removed
      rw [if_neg Bool.false_ne_true, ← stampInTime_iff timeoutNonnegative]
      constructor
      · intro exact
        have ordered := exact.noWrap
        have isTimedOut := exact.timedOut
        rw [status, if_neg Bool.false_ne_true] at ordered
        rw [timedOut, status] at isTimedOut
        simp only [true_and] at isTimedOut
        exact ⟨ordered, isTimedOut⟩
      · intro inTime
        refine ⟨?_, ?_, ?_⟩
        · rw [timedOut, status, inTime.2]
        · rw [removed, status]
          simp
        · rw [status, if_neg Bool.false_ne_true]
          exact inTime.1

/-- All is exact if each tracked request is found exactly if it is too old. -/
theorem ObservedTracker.Faithful.expiryExact_iff_each
    (faithful : observed.Faithful) :
    ExpiryExact observed now timeoutMs maxAgeMs ↔
      ∀ requestId life, observed.Tracks requestId life →
        life.FoundExactly observed requestId now timeoutMs maxAgeMs := by
  have tracks_of_found {requestId : ByteString} {tracked : TrackedRequest}
      (found : observed.tracker.requests.lookup requestId = some tracked) :
      ∃ life, observed.Tracks requestId life ∧ life.StoredAs tracked := by
    obtain ⟨life, isLife, stored⟩ := faithful requestId tracked found
    exact
      ⟨life, ⟨Option.isSome_iff_exists.mpr ⟨tracked, found⟩, isLife⟩, stored⟩
  constructor
  · intro exact requestId life tracks
    obtain ⟨tracked, found, stored⟩ := faithful.storedAs tracks
    refine ⟨?_, exact.removed requestId life tracks, ?_⟩
    · rw [exact.timedOut requestId]
      constructor
      · intro old
        obtain ⟨other, tracksOther, old⟩ := old
        cases tracks.2.symm.trans tracksOther.2
        exact old
      · intro old
        exact ⟨life, tracks, old⟩
    · have noWrap := exact.noWrap requestId tracked found
      rw [stored.status, stored.requestEndTime, stored.created] at noWrap
      exact noWrap
  · intro each
    refine ⟨?_, ?_, ?_⟩
    · intro requestId
      constructor
      · intro member
        obtain ⟨tracked, found, -⟩ := mem_getTimedOutRequests.mp member
        obtain ⟨life, tracks, -⟩ := tracks_of_found found
        exact
          ⟨life, tracks, (each requestId life tracks).timedOut.mp member⟩
      · intro old
        obtain ⟨life, tracks, old⟩ := old
        exact (each requestId life tracks).timedOut.mpr old
    · intro requestId life tracks
      exact (each requestId life tracks).removed
    · intro requestId tracked found
      obtain ⟨life, tracks, stored⟩ := tracks_of_found found
      rw [stored.status, stored.requestEndTime, stored.created]
      exact (each requestId life tracks).noWrap

end FoundExactly

/-- After any history the requests found are exactly those that are too old, and no
subtraction wraps, exactly if the stored times of all tracked requests are in time.
That of an active request never is from the third hour after the epoch on. -/
theorem expiryExact_iff
    (history : List (Instant × TrackerAction)) (now : Instant)
    {timeoutMs maxAgeMs : Int32} (timeoutNonnegative : 0 ≤ timeoutMs)
    (maxAgeNonnegative : 0 ≤ maxAgeMs) :
    (ExpiryExact (ObservedTracker.run history) now timeoutMs maxAgeMs ↔
        ∀ requestId life,
          (ObservedTracker.run history).Tracks requestId life →
            life.InTime now timeoutMs maxAgeMs) ∧
      ∀ requestId life,
        (ObservedTracker.run history).Tracks requestId life →
          life.status.isEnded = false →
            2 ^ 63 ≤ life.created.toInt * 1000000 →
              ¬ExpiryExact (ObservedTracker.run history) now timeoutMs
                maxAgeMs := by
  have faithful := ObservedTracker.faithful_run history
  have inTime_iff :
      ExpiryExact (ObservedTracker.run history) now timeoutMs maxAgeMs ↔
        ∀ requestId life,
          (ObservedTracker.run history).Tracks requestId life →
            life.InTime now timeoutMs maxAgeMs := by
    rw [faithful.expiryExact_iff_each]
    constructor
    · intro each requestId life tracks
      obtain ⟨tracked, found, stored⟩ := faithful.storedAs tracks
      exact
        (foundExactly_iff found stored timeoutNonnegative
          maxAgeNonnegative).mp (each requestId life tracks)
    · intro inTime requestId life tracks
      obtain ⟨tracked, found, stored⟩ := faithful.storedAs tracks
      exact
        (foundExactly_iff found stored timeoutNonnegative
          maxAgeNonnegative).mpr (inTime requestId life tracks)
  refine ⟨inTime_iff, ?_⟩
  intro requestId life tracks active late exact
  have inTime := inTime_iff.mp exact requestId life tracks
  rw [Life.InTime, active] at inTime
  exact not_stampInTime_of_created late timeoutMs now timeoutNonnegative inTime

/-! ## Two histories -/

def sampleRouting : RoutingResult where
  prefillNode := .healthy [1] .prefill
  decodeNode := .healthy [2] .decode
  slotId := 0
  slotBaseOffset := 0

def sampleClientRequest : TrackerAction :=
  .clientRequest { Message.cleared.requestInfo with requestId := [7] }
    sampleRouting
    { requestMemory := Message.cleared.requestInfo
      origin := fun _ => ⟨.cleared, 0⟩ }
    5

/-- The request is created with the epoch and fails a millisecond later. -/
def earlyHistory : List (Instant × TrackerAction) :=
  [(0, sampleClientRequest),
    (1000000, .statusCall [7] (.updateStatus .failed))]

theorem expiryExact_earlyHistory :
    ExpiryExact (ObservedTracker.run earlyHistory) 3000000 1 1 := by
  apply (expiryExact_iff earlyHistory 3000000 (by decide) (by decide)).1.mpr
  intro requestId life tracks
  by_cases same : requestId = [7]
  · subst same
    have isLife :
        (ObservedTracker.run earlyHistory).lives [7] =
          some ⟨0, 0, [(1000000, .updateStatus .failed)]⟩ :=
      rfl
    cases isLife.symm.trans tracks.2
    decide
  · have unknown : (ObservedTracker.run earlyHistory).lives requestId = none :=
      (Function.update_of_ne same _ _).trans (Function.update_of_ne same _ _)
    cases unknown.symm.trans tracks.2

/-- The request is created in November 2023. -/
def presentHistory : List (Instant × TrackerAction) :=
  [(1700000000000000000, sampleClientRequest)]

/-- A nanosecond later the request has been active for more than a second. -/
theorem presentHistory_timed_out :
    (ObservedTracker.run presentHistory).tracker.getTimedOutRequests 1000
        (Instant.milliseconds 1700000000000000001) = [[7]] ∧
      ¬ ExpiryExact (ObservedTracker.run presentHistory) 1700000000000000001
          1000 1000 := by
  have listed :
      (ObservedTracker.run presentHistory).tracker.getTimedOutRequests 1000
          (Instant.milliseconds 1700000000000000001) = [[7]] := by
    decide
  refine ⟨listed, ?_⟩
  intro exact
  have member := List.mem_singleton_self ([7] : ByteString)
  rw [← listed] at member
  obtain ⟨life, tracks, -, old⟩ := (exact.timedOut [7]).mp member
  have isLife :
      (ObservedTracker.run presentHistory).lives [7] =
        some ⟨1700000000000000000, 0, []⟩ :=
    rfl
  cases isLife.symm.trans tracks.2
  exact absurd old (by decide)

end RdmaKvCache
