import RdmaKvCache.Common.Types
import RdmaKvCache.Rdma.ImmediateData

/-!
# The writes of a request

`save_kv_layer` posts two writes for each layer of a request, the keys and then
the values, both with the slot as sequence number and the layer id.  The layers
are saved in ascending order.  What matters here of a write is whose it is and
what its completion tells the decode node.  As the same request may be assigned
again, a write also has the number of the assignment it is posted for, which no
completion carries.
-/

namespace RdmaKvCache

open ByteOrders RequestTrackerLayer

inductive KvPart where
  | key
  | value
  deriving DecidableEq

/-- One of the two writes for a layer of a request. -/
structure KvWrite where
  requestId : ByteString
  assignment : Nat
  prefillNodeId : ByteString
  slotId : Int32
  layerId : Nat
  part : KvPart
  deriving DecidableEq

namespace KvWrite

/-- The prefill node that posts the write, and the assignment it does so for. -/
def source (write : KvWrite) : ByteString × Nat :=
  (write.prefillNodeId, write.assignment)

def immData (write : KvWrite) : UInt32 :=
  UInt32.ofNat (encodeImmData write.slotId.toInt write.layerId)

/-- The receive completion of the write, whichever way it was posted. -/
def completion (write : KvWrite) (qpNum byteLen : UInt32) : RecvCompletion where
  success := true
  immBytes := bigEndian 4 write.immData.toNat
  qpNum := qpNum
  byteLen := byteLen

/-- The sequence number and the layer id a host takes from the completion. -/
def read (write : KvWrite) (hostOrder : ByteOrder) : UInt16 × UInt16 :=
  decodeLayerId ((write.completion 0 0).immData hostOrder)

theorem read_completion
    (write : KvWrite) (hostOrder : ByteOrder) (qpNum byteLen : UInt32) :
    decodeLayerId ((write.completion qpNum byteLen).immData hostOrder) =
      write.read hostOrder :=
  rfl

end KvWrite

/-- The writes of a request that is assigned, in the order in which they are
posted. -/
def kvWrites (info : RequestInfo) (assignment numLayers : Nat) :
    List KvWrite :=
  (List.range numLayers).flatMap fun layerId =>
    [{ requestId := info.requestId
       assignment := assignment
       prefillNodeId := info.prefillNodeId
       slotId := info.slotId
       layerId := layerId
       part := .key },
      { requestId := info.requestId
        assignment := assignment
        prefillNodeId := info.prefillNodeId
        slotId := info.slotId
        layerId := layerId
        part := .value }]

theorem mem_kvWrites
    {info : RequestInfo} {assignment numLayers : Nat} {write : KvWrite} :
    write ∈ kvWrites info assignment numLayers ↔
      write.requestId = info.requestId ∧
        write.source = (info.prefillNodeId, assignment) ∧
        write.slotId = info.slotId ∧ write.layerId < numLayers := by
  obtain ⟨requestId, number, prefillNodeId, slotId, layerId, part⟩ := write
  rw [kvWrites]
  simp only [List.mem_flatMap, List.mem_range, List.mem_cons,
    KvWrite.mk.injEq, KvWrite.source, Prod.mk.injEq, List.not_mem_nil,
    or_false]
  constructor
  · rintro ⟨layer, bound,
      ⟨rfl, rfl, rfl, rfl, rfl, _⟩ | ⟨rfl, rfl, rfl, rfl, rfl, _⟩⟩ <;>
      exact ⟨rfl, ⟨rfl, rfl⟩, rfl, bound⟩
  · rintro ⟨rfl, ⟨rfl, rfl⟩, rfl, bound⟩
    cases part with
    | key =>
        exact ⟨layerId, bound, Or.inl ⟨rfl, rfl, rfl, rfl, rfl, rfl⟩⟩
    | value =>
        exact ⟨layerId, bound, Or.inr ⟨rfl, rfl, rfl, rfl, rfl, rfl⟩⟩

/-- Both are writes of one assignment and the first is posted before the
second. -/
def KvWrite.Precedes (earlier later : KvWrite) : Prop :=
  earlier.requestId = later.requestId ∧
    earlier.source = later.source ∧
    earlier.slotId = later.slotId ∧
    (earlier.layerId < later.layerId ∨
      earlier.layerId = later.layerId ∧
        earlier.part = .key ∧ later.part = .value)

theorem KvWrite.Precedes.irrefl (write : KvWrite) :
    ¬write.Precedes write := by
  rintro ⟨_, _, _, below | ⟨_, isKey, isValue⟩⟩
  · omega
  · rw [isKey] at isValue
    cases isValue

theorem kvWrites_pairwise
    (info : RequestInfo) (assignment numLayers : Nat) :
    (kvWrites info assignment numLayers).Pairwise fun first second =>
      ¬second.Precedes first := by
  rw [kvWrites]
  rw [List.pairwise_flatMap]
  refine ⟨fun layerId _ => by simp [KvWrite.Precedes], ?_⟩
  refine List.Pairwise.imp ?_ List.pairwise_lt_range
  intro lower upper below first isLower second isUpper precedes
  have lowerLayer : first.layerId = lower := by
    rcases List.mem_pair.mp isLower with rfl | rfl <;> rfl
  have upperLayer : second.layerId = upper := by
    rcases List.mem_pair.mp isUpper with rfl | rfl <;> rfl
  have order := precedes.2.2.2
  omega

/-- What precedes the next write of a request has been posted. -/
theorem mem_take_of_precedes
    {info : RequestInfo} {assignment numLayers posted : Nat}
    {earlier next : KvWrite}
    (following : (kvWrites info assignment numLayers)[posted]? = some next)
    (precedes : earlier.Precedes next) :
    earlier ∈ (kvWrites info assignment numLayers).take posted := by
  obtain ⟨bound, isNext⟩ := List.getElem?_eq_some_iff.mp following
  have nextOf := mem_kvWrites.mp (List.mem_of_getElem? following)
  have member : earlier ∈ kvWrites info assignment numLayers := by
    obtain ⟨sameRequest, sameSource, sameSlot, order⟩ := precedes
    rw [mem_kvWrites, sameRequest, sameSource, sameSlot]
    exact ⟨nextOf.1, nextOf.2.1, nextOf.2.2.1, by omega⟩
  rw [← List.take_append_drop posted (kvWrites info assignment numLayers)]
    at member
  rcases List.mem_append.mp member with isPosted | remaining
  · exact isPosted
  · exfalso
    have pairwise :=
      (kvWrites_pairwise info assignment numLayers).sublist
        (List.drop_sublist posted _)
    rw [List.drop_eq_getElem_cons bound, isNext] at remaining pairwise
    rcases List.mem_cons.mp remaining with same | after
    · rw [same] at precedes
      exact KvWrite.Precedes.irrefl next precedes
    · exact List.rel_of_pairwise_cons pairwise after precedes

end RdmaKvCache
