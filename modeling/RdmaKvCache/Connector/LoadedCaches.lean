import RdmaKvCache.Connector.PagedCaches
import RdmaKvCache.Connector.StagingViews
import RdmaKvCache.Library.PlacedWrites

/-!
# What a load stores in the caches

`start_load_kv` injects each view of the staging buffer into the cache of its layer,
request by request and layer by layer.  If the slots of a layer are distinct, the
rows of every view are found afterwards in the slots of its request.
-/

namespace RdmaKvCache

open PlacedWrites RowTables RDMAConnector

/-- A float16 element, as its two bytes in memory. -/
abbrev Half := UInt8 × UInt8

def Half.bytes (half : Half) : List UInt8 :=
  [half.1, half.2]

def Half.read (memory : Nat → UInt8) (address : Nat) : Half :=
  (memory address, memory (address + 1))

/-- Consecutive rows of float16 elements. -/
def readRows (memory : Nat → UInt8) (address numTokens hiddenDim : Nat) :
    List (List Half) :=
  readRanges (fun index => Half.read memory (address + 2 * index)) 0 numTokens
    hiddenDim

/-- The keys and then the values of the tokens. -/
def viewRows (memory : Nat → UInt8) (address numTokens hiddenDim : Nat) :
    KvRows Half hiddenDim where
  keys := readRows memory address numTokens hiddenDim
  values :=
    readRows memory (address + 2 * (numTokens * hiddenDim)) numTokens hiddenDim
  keysWidth := by
    intro row member
    obtain ⟨index, _, rfl⟩ := List.mem_map.mp member
    exact length_readRange _ _ _
  valuesWidth := by
    intro row member
    obtain ⟨index, _, rfl⟩ := List.mem_map.mp member
    exact length_readRange _ _ _

/-- The caches of the layers by their names. -/
abbrev LayerCaches := List Char → Option (PagedLayer Half)

/-- What a decode node has besides its connector: the memory, where the staging
buffer is, and how its attention layers are laid out. -/
structure DecodeMemory where
  memory : Nat → UInt8
  stagingAddr : Nat
  backend : AttentionBackend
  blockSize : Nat

namespace DecodeMemory

/-- The rows of a view for a cache with that many elements in a row. -/
def rows (node : DecodeMemory) (view : StagingView) (hiddenDim : Nat) :
    KvRows Half hiddenDim :=
  viewRows node.memory (node.stagingAddr + 2 * view.start) view.numTokens
    hiddenDim

def injectLoaded
    (node : DecodeMemory) (caches : LayerCaches) (loaded : LoadedLayer) :
    Except ConnectorError LayerCaches :=
  match caches loaded.layerName with
  | none => .error .injectionFailed
  | some cache =>
      if loaded.view.hiddenDim = cache.hiddenDim then do
        let injected ←
          cache.injectKv node.backend node.blockSize
            (node.rows loaded.view cache.hiddenDim)
            loaded.request.slotMapping
        .ok (Function.update caches loaded.layerName (some injected))
      else
        .error .injectionFailed

/-- The views of a completed load, in the order in which they are injected. -/
def injectAll
    (node : DecodeMemory) (caches : LayerCaches) :
    List LoadedLayer → Except ConnectorError LayerCaches
  | [] => .ok caches
  | loaded :: rest => do
      let next ← node.injectLoaded caches loaded
      node.injectAll next rest

end DecodeMemory

namespace LayerCaches

def numSlots (caches : LayerCaches) (layerName : List Char) : Nat :=
  ((caches layerName).map PagedLayer.numSlots).getD 0

/-- The places of the slots of a view in the cache of its layer. -/
def places (caches : LayerCaches) (loaded : LoadedLayer) : List Nat :=
  loaded.request.slotMapping.map
    (wrapIndex (caches.numSlots loaded.layerName))

/-- No slot of a layer is loaded twice. -/
structure Distinct (caches : LayerCaches) (loads : List LoadedLayer) : Prop where
  nodup : ∀ loaded ∈ loads, (caches.places loaded).Nodup
  apart :
    loads.Pairwise fun first second =>
      first.layerName = second.layerName →
        ∀ place ∈ caches.places first, place ∉ caches.places second

end LayerCaches

namespace DecodeMemory

variable {node : DecodeMemory} {caches next final : LayerCaches}
variable {loaded : LoadedLayer} {loads : List LoadedLayer}

/-- A view of one row for each slot is stored in its layer. -/
theorem injectLoaded_ok
    (standard : node.backend = .standard)
    (completed : node.injectLoaded caches loaded = .ok next)
    (sameNumber : loaded.view.numTokens = loaded.request.slotMapping.length) :
    ∃ cache,
      caches loaded.layerName = some cache ∧
        cache.validSlots loaded.request.slotMapping = true ∧
        loaded.view.hiddenDim = cache.hiddenDim ∧
        next =
          Function.update caches loaded.layerName
            (some
              (cache.store (caches.places loaded)
                (node.rows loaded.view cache.hiddenDim))) := by
  rw [injectLoaded] at completed
  cases found : caches loaded.layerName with
  | none =>
      rw [found] at completed
      cases completed
  | some cache =>
      rw [found] at completed
      simp only at completed
      split at completed
      · rename_i sameWidth
        obtain ⟨injected, injection, returned⟩ := bind_ok completed
        cases returned
        have keysNumber :
            (node.rows loaded.view cache.hiddenDim).keys.length =
              loaded.request.slotMapping.length :=
          (length_readRanges _ _ _ _).trans sameNumber
        have valuesNumber :
            (node.rows loaded.view cache.hiddenDim).values.length =
              loaded.request.slotMapping.length :=
          (length_readRanges _ _ _ _).trans sameNumber
        have samePlaces :
            cache.places loaded.request.slotMapping = caches.places loaded := by
          rw [LayerCaches.places, LayerCaches.numSlots, found]
          rfl
        rw [standard] at injection
        by_cases hasSlots : cache.numSlots = 0
        · simp only [PagedLayer.injectKv, hasSlots, if_true] at injection
          cases injection
        · by_cases valid :
              cache.validSlots loaded.request.slotMapping = true
          · rw [PagedLayer.injectKv_standard _ hasSlots valid keysNumber
              valuesNumber, samePlaces] at injection
            cases injection
            exact ⟨cache, rfl, valid, sameWidth, rfl⟩
          · have invalid :
                cache.validSlots loaded.request.slotMapping = false :=
              Bool.eq_false_iff.mpr valid
            simp only [PagedLayer.injectKv, hasSlots, if_false, invalid,
              Bool.not_false, if_true] at injection
            cases injection
      · cases completed

theorem numSlots_injectLoaded
    (standard : node.backend = .standard)
    (completed : node.injectLoaded caches loaded = .ok next)
    (sameNumber : loaded.view.numTokens = loaded.request.slotMapping.length) :
    next.numSlots = caches.numSlots := by
  obtain ⟨cache, found, _, _, rfl⟩ :=
    injectLoaded_ok standard completed sameNumber
  funext layerName
  by_cases same : layerName = loaded.layerName
  · rw [same]
    simp only [LayerCaches.numSlots, Function.update_self, found,
      Option.map_some, Option.getD_some]
    rfl
  · simp only [LayerCaches.numSlots, Function.update_of_ne same]

theorem places_eq_of_numSlots
    (same : next.numSlots = caches.numSlots) (loaded : LoadedLayer) :
    next.places loaded = caches.places loaded := by
  rw [LayerCaches.places, same]
  rfl

/-- What no view is stored in stays. -/
theorem injectAll_elsewhere
    (standard : node.backend = .standard)
    (completed : node.injectAll caches loads = .ok final)
    (sameNumber :
      ∀ loaded ∈ loads,
        loaded.view.numTokens = loaded.request.slotMapping.length)
    {layerName : List Char} {cache : PagedLayer Half}
    (found : caches layerName = some cache) :
    ∃ after,
      final layerName = some after ∧
        ∀ place,
          (∀ loaded ∈ loads, loaded.layerName = layerName →
              place ∉ caches.places loaded) →
            after.keys[place]? = cache.keys[place]? ∧
              after.values[place]? = cache.values[place]? := by
  induction loads generalizing caches cache with
  | nil =>
      cases completed
      exact ⟨cache, found, fun _ _ => ⟨rfl, rfl⟩⟩
  | cons loaded rest inductionHypothesis =>
      rw [injectAll] at completed
      obtain ⟨next, injected, remaining⟩ := bind_ok completed
      obtain ⟨sameHere, sameRest⟩ := List.forall_mem_cons.mp sameNumber
      have sameSlots := numSlots_injectLoaded standard injected sameHere
      obtain ⟨loadedCache, isCache, _, _, isNext⟩ :=
        injectLoaded_ok standard injected sameHere
      by_cases sameName : loaded.layerName = layerName
      · rw [sameName] at isCache isNext
        cases isCache.symm.trans found
        have nextFound :
            next layerName =
              some
                (cache.store (caches.places loaded)
                  (node.rows loaded.view cache.hiddenDim)) := by
          rw [isNext, Function.update_self]
        obtain ⟨after, isAfter, unchanged⟩ :=
          inductionHypothesis remaining sameRest nextFound
        refine ⟨after, isAfter, ?_⟩
        intro place elsewhere
        obtain ⟨notHere, notLater⟩ := List.forall_mem_cons.mp elsewhere
        obtain ⟨sameKey, sameValue⟩ :=
          unchanged place fun later member isName => by
            rw [places_eq_of_numSlots sameSlots]
            exact notLater later member isName
        obtain ⟨storedKey, storedValue⟩ :=
          PagedLayer.store_elsewhere (notHere sameName)
        exact ⟨sameKey.trans storedKey, sameValue.trans storedValue⟩
      · have nextFound : next layerName = some cache := by
          rw [isNext, Function.update_of_ne (Ne.symm sameName)]
          exact found
        obtain ⟨after, isAfter, unchanged⟩ :=
          inductionHypothesis remaining sameRest nextFound
        refine ⟨after, isAfter, ?_⟩
        intro place elsewhere
        apply unchanged
        intro later member isName
        rw [places_eq_of_numSlots sameSlots]
        exact elsewhere later (List.mem_cons_of_mem _ member) isName

/-- The rows of every view are found in the slots of its request. -/
theorem injectAll_restores
    (standard : node.backend = .standard)
    (completed : node.injectAll caches loads = .ok final)
    (sameNumber :
      ∀ loaded ∈ loads,
        loaded.view.numTokens = loaded.request.slotMapping.length)
    (distinct : caches.Distinct loads) (member : loaded ∈ loads) :
    ∃ after,
      final loaded.layerName = some after ∧
        after.Restores (caches.places loaded)
          (node.rows loaded.view loaded.view.hiddenDim).keys
          (node.rows loaded.view loaded.view.hiddenDim).values := by
  induction loads generalizing caches with
  | nil =>
      cases member
  | cons first rest inductionHypothesis =>
      rw [injectAll] at completed
      obtain ⟨next, injected, remaining⟩ := bind_ok completed
      obtain ⟨sameHere, sameRest⟩ := List.forall_mem_cons.mp sameNumber
      have sameSlots := numSlots_injectLoaded standard injected sameHere
      obtain ⟨nodupFirst, nodupRest⟩ := List.forall_mem_cons.mp distinct.nodup
      obtain ⟨apartFirst, apartRest⟩ := List.pairwise_cons.mp distinct.apart
      rcases List.mem_cons.mp member with rfl | later
      · obtain ⟨cache, isCache, valid, sameWidth, isNext⟩ :=
          injectLoaded_ok standard injected sameHere
        have samePlaces :
            cache.places loaded.request.slotMapping = caches.places loaded := by
          rw [LayerCaches.places, LayerCaches.numSlots, isCache]
          rfl
        have within := PagedLayer.places_lt valid
        rw [samePlaces] at within
        have number :
            (caches.places loaded).length = loaded.view.numTokens := by
          rw [LayerCaches.places, List.length_map, sameHere]
        obtain ⟨storedKeys, storedValues⟩ :=
          PagedLayer.gather_store (node.rows loaded.view cache.hiddenDim)
            nodupFirst within
            ((length_readRanges _ _ _ _).trans number.symm)
            ((length_readRanges _ _ _ _).trans number.symm)
        have nextFound :
            next loaded.layerName =
              some
                (cache.store (caches.places loaded)
                  (node.rows loaded.view cache.hiddenDim)) := by
          rw [isNext, Function.update_self]
        obtain ⟨after, isAfter, unchanged⟩ :=
          injectAll_elsewhere standard remaining sameRest nextFound
        have stays (place : Nat) (isPlace : place ∈ caches.places loaded) :=
          unchanged place fun other otherMember isName => by
            rw [places_eq_of_numSlots sameSlots]
            exact apartFirst other otherMember isName.symm place isPlace
        refine ⟨after, isAfter, ?_, ?_⟩
        · rw [gather_congr fun place isPlace => (stays place isPlace).1,
            storedKeys, sameWidth]
        · rw [gather_congr fun place isPlace => (stays place isPlace).2,
            storedValues, sameWidth]
      · have distinctRest : next.Distinct rest := by
          constructor
          · intro other otherMember
            rw [places_eq_of_numSlots sameSlots]
            exact nodupRest other otherMember
          · simp only [places_eq_of_numSlots sameSlots]
            exact apartRest
        rw [← places_eq_of_numSlots sameSlots]
        exact inductionHypothesis remaining sameRest distinctRest later

end DecodeMemory

end RdmaKvCache
