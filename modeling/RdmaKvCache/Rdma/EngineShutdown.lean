import RdmaKvCache.Rdma.EngineResources

/-!
# What is left when the engine shuts down

As long as `initialize` is called on an engine that holds nothing and the bindings
have deregistered their memory before `shutdown`, the engine holds exactly what is
there, and no driver refuses to release anything.  `shutdown` then leaves nothing if
the engine is initialized.  After an `initialize` that fails it releases nothing, and
what was made stays.
-/

namespace RdmaKvCache

open LabelledRuns ResourceLedgers

namespace EngineResources

/-! ## What the engine holds -/

def queuePairs (peerQps : List (ByteString × Option Nat)) :
    List (Handle ResourceKind) :=
  peerQps.flatMap fun peer => pointer .queuePair peer.2

/-- What the context points to, in the order in which it is released. -/
def inContext (config : EngineConfig) (context : RdmaContext) :
    List (Handle ResourceKind) :=
  pointer .completionQueue context.sendCq ++
    (pointer .completionQueue context.recvCq ++
      (pointer .memoryRegion context.mr ++
        (pointer .protectionDomain context.pd ++
          (pointer .deviceContext context.ctx ++
            ((if config.gpuDirect then pointer .buffer context.dPtr else []) ++
              pointer .buffer context.hPtr)))))

def inBindings (engine : EngineResources) : List (Handle ResourceKind) :=
  engine.regions.map fun number => ⟨.memoryRegion, number⟩

def held (config : EngineConfig) (engine : EngineResources) :
    List (Handle ResourceKind) :=
  queuePairs engine.peerQps ++
    (inContext config engine.rdmaCtx ++ engine.inBindings)

/-- What is there is what the engine and its bindings hold, and nothing was released
in a wrong order. -/
structure Tracked (config : EngineConfig) (engine : EngineResources) : Prop where
  layered : engine.ledger.Layered ResourceKind.MayUse
  handles : engine.ledger.handles.Perm (engine.held config)
  refused : engine.ledger.refused = []
  oneBuffer :
    config.gpuDirect = false → engine.rdmaCtx.dPtr = engine.rdmaCtx.hPtr
  initialized : engine.initialized = true → engine.rdmaCtx.pd.isSome = true

variable {config : EngineConfig} {engine next : EngineResources}

theorem mayUse_irrefl (kind : ResourceKind) : ¬ kind.MayUse kind := by
  cases kind <;>
    exact Bool.false_ne_true

theorem tracked_start : Tracked config {} where
  layered := Ledger.layered_empty
  handles := by
    have nothing : held config {} = [] := by
      simp [held, queuePairs, inContext, inBindings, regions, pointer]
    rw [nothing]
    exact List.Perm.refl _
  refused := rfl
  oneBuffer := fun _ => rfl
  initialized := fun isInitialized => (Bool.false_ne_true isInitialized).elim

/-! ## Releasing a list of objects -/

theorem destroy_eq
    (kind : ResourceKind) (stored : Option Nat) (ledger : Ledger ResourceKind) :
    destroy kind stored ledger = ledger.releaseAll (pointer kind stored) := by
  cases stored <;>
    rfl

theorem releaseAll_append
    (ledger : Ledger ResourceKind) (first second : List (Handle ResourceKind)) :
    (ledger.releaseAll first).releaseAll second =
      ledger.releaseAll (first ++ second) :=
  List.foldl_append.symm

theorem foldl_destroy
    (peerQps : List (ByteString × Option Nat)) (ledger : Ledger ResourceKind) :
    peerQps.foldl (fun ledger peer => destroy .queuePair peer.2 ledger) ledger =
      ledger.releaseAll (queuePairs peerQps) := by
  induction peerQps generalizing ledger with
  | nil =>
      rfl
  | cons peer rest inductionHypothesis =>
      rw [List.foldl_cons, inductionHypothesis, destroy_eq, releaseAll_append]
      rfl

theorem destroyRdmaContext_snd
    (context : RdmaContext) (ledger : Ledger ResourceKind) :
    (destroyRdmaContext config context ledger).2 =
      ledger.releaseAll (inContext config context) := by
  unfold destroyRdmaContext inContext
  simp only [destroy_eq, releaseAll_append]
  cases config.gpuDirect with
  | true =>
      simp
  | false =>
      cases context.hPtr with
      | none =>
          simp [pointer]
      | some number =>
          have last :
              ∀ ledger : Ledger ResourceKind,
                ledger.release ⟨.buffer, number⟩ =
                  ledger.releaseAll (pointer .buffer (some number)) :=
            fun _ => rfl
          simp [last, releaseAll_append]

/-- Objects are released that nothing else the engine holds can be made of. -/
theorem Tracked.drop
    (tracked : Tracked config engine) {released : List (Handle ResourceKind)}
    (ledger : next.ledger = engine.ledger.releaseAll released)
    (perm : (engine.held config).Perm (released ++ next.held config))
    (ordered :
      released.Pairwise fun earlier later =>
        ¬ later.kind.MayUse earlier.kind)
    (kept :
      ∀ handle ∈ next.held config, ∀ gone ∈ released,
        ¬ handle.kind.MayUse gone.kind)
    (oneBuffer :
      config.gpuDirect = false → next.rdmaCtx.dPtr = next.rdmaCtx.hPtr)
    (initialized : next.initialized = true → next.rdmaCtx.pd.isSome = true) :
    Tracked config next := by
  have whole := tracked.handles.trans perm
  have nodup := whole.nodup_iff.mp tracked.layered.nodup
  obtain ⟨nodupReleased, _, disjoint⟩ := List.nodup_append.mp nodup
  have there : ∀ handle ∈ released, handle ∈ engine.ledger.handles := by
    intro handle member
    exact whole.mem_iff.mpr (List.mem_append_left _ member)
  have closed :
      ∀ object ∈ engine.ledger.live, ∀ used ∈ object.uses,
        used ∈ released → object.handle ∈ released := by
    intro object member used uses gone
    have isHeld := whole.mem_iff.mp (List.mem_map_of_mem member)
    rcases List.mem_append.mp isHeld with isReleased | isKept
    · exact isReleased
    · have mayUse := (tracked.layered.uses object member used uses).1
      exact (kept object.handle isKept used gone mayUse).elim
  have all :=
    tracked.layered.releaseAll mayUse_irrefl there nodupReleased ordered closed
  rw [all] at ledger
  refine ⟨?_, ?_, ?_, oneBuffer, initialized⟩
  · rw [ledger]
    exact tracked.layered.without released
  · rw [ledger, Ledger.handles_without]
    refine (whole.filter _).trans (List.Perm.of_eq ?_)
    rw [List.filter_append]
    have noneReleased :
        released.filter (fun handle => handle ∉ released) = [] := by
      rw [List.filter_eq_nil_iff]
      intro handle member
      simpa using member
    have allKept :
        (next.held config).filter (fun handle => handle ∉ released) =
          next.held config := by
      rw [List.filter_eq_self]
      intro handle member
      rw [decide_eq_true_eq]
      intro gone
      exact disjoint handle gone handle member rfl
    rw [noneReleased, allKept, List.nil_append]
  · rw [ledger]
    exact tracked.refused

/-- A new object is held. -/
theorem Tracked.gain
    (tracked : Tracked config engine) {kind : ResourceKind}
    {uses : List (Handle ResourceKind)}
    (allowed :
      ∀ used ∈ uses, kind.MayUse used.kind ∧ used ∈ engine.held config)
    (ledger : next.ledger = engine.ledger.acquire kind uses)
    (perm :
      (next.held config).Perm
        (⟨kind, engine.ledger.made⟩ :: engine.held config))
    (oneBuffer :
      config.gpuDirect = false → next.rdmaCtx.dPtr = next.rdmaCtx.hPtr)
    (initialized : next.initialized = true → next.rdmaCtx.pd.isSome = true) :
    Tracked config next := by
  refine ⟨?_, ?_, ?_, oneBuffer, initialized⟩
  · rw [ledger]
    apply tracked.layered.acquire
    intro used member
    obtain ⟨mayUse, isHeld⟩ := allowed used member
    exact ⟨mayUse, tracked.handles.mem_iff.mpr isHeld⟩
  · rw [ledger, Ledger.handles_acquire]
    exact (tracked.handles.cons _).trans perm.symm
  · rw [ledger]
    exact tracked.refused

/-! ## Initialization -/

/-- The engine with other pointers, and what the drivers have done. -/
def withContext
    (engine : EngineResources) (context : RdmaContext)
    (ledger : Ledger ResourceKind) : EngineResources :=
  { engine with rdmaCtx := context, ledger := ledger }

/-- An engine that holds nothing. -/
structure Bare (config : EngineConfig) (engine : EngineResources) : Prop where
  context : engine.rdmaCtx = {}
  queuePairs : queuePairs engine.peerQps = []
  regions : engine.inBindings = []
  initialized : engine.initialized = false

theorem Tracked.bare
    (tracked : Tracked config engine) (nothing : engine.held config = []) :
    Bare config engine := by
  obtain ⟨noQueuePairs, rest⟩ := List.append_eq_nil_iff.mp nothing
  obtain ⟨noContext, noRegions⟩ := List.append_eq_nil_iff.mp rest
  have isNone {kind : ResourceKind} {stored : Option Nat}
      (empty : pointer kind stored = []) : stored = none := by
    cases stored with
    | none =>
        rfl
    | some _ =>
        cases empty
  simp only [inContext, List.append_eq_nil_iff] at noContext
  obtain ⟨sendCq, recvCq, mr, pd, ctx, device, host⟩ := noContext
  have noHost := isNone host
  have noDevice : engine.rdmaCtx.dPtr = none := by
    cases gpuDirect : config.gpuDirect with
    | true =>
        rw [if_pos gpuDirect] at device
        exact isNone device
    | false =>
        rw [tracked.oneBuffer gpuDirect, noHost]
  refine ⟨?_, noQueuePairs, noRegions, ?_⟩
  · rw [RdmaContext.mk.injEq] at *
    exact
      ⟨isNone ctx, isNone pd, isNone sendCq, isNone recvCq, isNone mr, noDevice,
        noHost⟩
  · cases initialized : engine.initialized with
    | false =>
        rfl
    | true =>
        have isSome := tracked.initialized initialized
        rw [isNone pd] at isSome
        cases isSome

theorem Bare.held
    (bare : Bare config engine) (context : RdmaContext)
    (ledger : Ledger ResourceKind) :
    (engine.withContext context ledger).held config =
      inContext config context := by
  have regions : (engine.withContext context ledger).inBindings = [] :=
    bare.regions
  rw [EngineResources.held, regions, List.append_nil]
  exact congrArg (· ++ inContext config context) bare.queuePairs

section Stages

variable (bare : Bare config engine) {ledger : Ledger ResourceKind}

include bare

theorem Bare.initialized_withContext
    (context : RdmaContext) (ledger : Ledger ResourceKind) :
    (engine.withContext context ledger).initialized = true →
      (engine.withContext context ledger).rdmaCtx.pd.isSome = true := by
  intro isInitialized
  have notInitialized : (engine.withContext context ledger).initialized = false :=
    bare.initialized
  rw [notInitialized] at isInitialized
  cases isInitialized

/-- A new object is stored in the context. -/
theorem Bare.gain
    {context after : RdmaContext} {kind : ResourceKind}
    {uses : List (Handle ResourceKind)}
    (tracked : Tracked config (engine.withContext context ledger))
    (allowed :
      ∀ used ∈ uses, kind.MayUse used.kind ∧ used ∈ inContext config context)
    (perm :
      (inContext config after).Perm
        (⟨kind, ledger.made⟩ :: inContext config context))
    (oneBuffer : config.gpuDirect = false → after.dPtr = after.hPtr) :
    Tracked config (engine.withContext after (ledger.acquire kind uses)) := by
  refine Tracked.gain tracked ?_ rfl ?_ oneBuffer ?_
  · rw [bare.held]
    exact allowed
  · rw [bare.held, bare.held]
    exact perm
  · exact bare.initialized_withContext after _

/-- Objects in the context are released. -/
theorem Bare.drop
    {context after : RdmaContext} {released : List (Handle ResourceKind)}
    (tracked : Tracked config (engine.withContext context ledger))
    (perm :
      (inContext config context).Perm (released ++ inContext config after))
    (ordered :
      released.Pairwise fun earlier later =>
        ¬ later.kind.MayUse earlier.kind)
    (kept :
      ∀ handle ∈ inContext config after, ∀ gone ∈ released,
        ¬ handle.kind.MayUse gone.kind)
    (oneBuffer : config.gpuDirect = false → after.dPtr = after.hPtr) :
    Tracked config (engine.withContext after (ledger.releaseAll released)) := by
  apply tracked.drop rfl ?_ ordered ?_ oneBuffer
  · exact bare.initialized_withContext after _
  · rw [bare.held, bare.held]
    exact perm
  · rw [bare.held]
    exact kept

end Stages

/-- How opening the device ends: nothing is held, or the device and a protection
domain. -/
inductive OpenedDevice (config : EngineConfig) (engine : EngineResources) :
    Bool × EngineResources → Prop where
  | failed (ledger : Ledger ResourceKind)
      (tracked : Tracked config (engine.withContext {} ledger)) :
      OpenedDevice config engine (false, engine.withContext {} ledger)
  | opened (ctx pd : Nat) (ledger : Ledger ResourceKind)
      (tracked :
        Tracked config
          (engine.withContext { ctx := some ctx, pd := some pd } ledger)) :
      OpenedDevice config engine
        (true, engine.withContext { ctx := some ctx, pd := some pd } ledger)

theorem Bare.openIbDevice
    (bare : Bare config engine) (answers : DriverAnswers) {ledger : Ledger ResourceKind}
    (tracked : Tracked config (engine.withContext {} ledger)) :
    OpenedDevice config engine
      ((engine.withContext {} ledger).openIbDevice answers) := by
  have withDevice :
      Tracked config
        (engine.withContext { ctx := some ledger.made }
          (ledger.acquire .deviceContext [])) := by
    apply bare.gain tracked (List.forall_mem_nil _) ?_ fun _ => rfl
    simp [inContext, pointer]
  have closed :
      Tracked config
        (engine.withContext {}
          (destroy .deviceContext (some ledger.made)
            (ledger.acquire .deviceContext []))) := by
    rw [destroy_eq]
    apply bare.drop withDevice ?_ (List.pairwise_singleton _ _) ?_ fun _ => rfl
    · simp [inContext, pointer]
    · simp [inContext, pointer]
  have withPd :
      Tracked config
        (engine.withContext
          { ctx := some ledger.made, pd := some (ledger.made + 1) }
          ((ledger.acquire .deviceContext []).acquire .protectionDomain
            [⟨.deviceContext, ledger.made⟩])) := by
    apply bare.gain withDevice ?_ ?_ fun _ => rfl
    · refine List.forall_mem_singleton.mpr ⟨rfl, ?_⟩
      simp [inContext, pointer]
    · simp [inContext, pointer, Ledger.acquire]
  unfold EngineResources.openIbDevice
  split
  · exact .failed ledger tracked
  · split
    · exact .failed ledger tracked
    · simp only
      split
      · exact .failed _ closed
      · split
        · exact .failed _ closed
        · split
          · exact .failed _ closed
          · split
            · exact .failed _ closed
            · exact .opened _ _ _ withPd

/-- How the allocation and registration of the buffer ends: with the buffer and its
region, or without; a device buffer can stay when there is no host memory. -/
inductive RegisteredBuffer (config : EngineConfig) (engine : EngineResources)
    (ctx pd : Nat) : Bool × EngineResources → Prop where
  | failed (device : Option Nat) (ledger : Ledger ResourceKind)
      (tracked :
        Tracked config
          (engine.withContext
            { ctx := some ctx, pd := some pd, dPtr := device } ledger)) :
      RegisteredBuffer config engine ctx pd
        (false,
          engine.withContext
            { ctx := some ctx, pd := some pd, dPtr := device } ledger)
  | registered (device host mr : Nat) (ledger : Ledger ResourceKind)
      (tracked :
        Tracked config
          (engine.withContext
            { ctx := some ctx, pd := some pd, mr := some mr
              dPtr := some device, hPtr := some host } ledger)) :
      RegisteredBuffer config engine ctx pd
        (true,
          engine.withContext
            { ctx := some ctx, pd := some pd, mr := some mr
              dPtr := some device, hPtr := some host } ledger)

theorem Bare.allocAndRegisterGpuMem
    (bare : Bare config engine) (answers : DriverAnswers) (gpuDirect : config.gpuDirect = true)
    {ctx pd : Nat} {ledger : Ledger ResourceKind}
    (tracked :
      Tracked config
        (engine.withContext { ctx := some ctx, pd := some pd } ledger)) :
    RegisteredBuffer config engine ctx pd
      ((engine.withContext { ctx := some ctx, pd := some pd }
        ledger).allocAndRegisterGpuMem answers) := by
  have notHost (same : Prop) (noGpu : config.gpuDirect = false) : same := by
    rw [gpuDirect] at noGpu
    cases noGpu
  have onDevice :
      Tracked config
        (engine.withContext
          { ctx := some ctx, pd := some pd, dPtr := some ledger.made }
          (ledger.acquire .buffer [])) := by
    apply bare.gain tracked (List.forall_mem_nil _) ?_ (notHost _)
    simp only [inContext, pointer, gpuDirect]
    apply List.perm_iff_count.mpr
    intro handle
    simp [List.count_cons]
    omega
  have mirrored :
      Tracked config
        (engine.withContext
          { ctx := some ctx, pd := some pd, dPtr := some ledger.made
            hPtr := some (ledger.made + 1) }
          ((ledger.acquire .buffer []).acquire .buffer [])) := by
    apply bare.gain onDevice (List.forall_mem_nil _) ?_ (notHost _)
    simp only [inContext, pointer, gpuDirect]
    apply List.perm_iff_count.mpr
    intro handle
    simp [List.count_cons, Ledger.acquire]
    omega
  have released :
      Tracked config
        (engine.withContext { ctx := some ctx, pd := some pd }
          (destroy .buffer (some (ledger.made + 1))
            (destroy .buffer (some ledger.made)
              ((ledger.acquire .buffer []).acquire .buffer [])))) := by
    rw [destroy_eq, destroy_eq, releaseAll_append]
    apply bare.drop mirrored ?_ ?_ ?_ (notHost _)
    · simp only [inContext, pointer, gpuDirect]
      apply List.perm_iff_count.mpr
      intro handle
      simp [List.count_cons]
      omega
    · simp [pointer, ResourceKind.mayUse]
    · simp [inContext, pointer, ResourceKind.mayUse]
  have registered :
      Tracked config
        (engine.withContext
          { ctx := some ctx, pd := some pd, dPtr := some ledger.made
            hPtr := some (ledger.made + 1), mr := some (ledger.made + 2) }
          (((ledger.acquire .buffer []).acquire .buffer []).acquire
            .memoryRegion
            [⟨.protectionDomain, pd⟩, ⟨.buffer, ledger.made⟩])) := by
    apply bare.gain mirrored ?_ ?_ (notHost _)
    · simp [inContext, pointer, gpuDirect, ResourceKind.MayUse,
        ResourceKind.mayUse]
    · simp only [inContext, pointer, gpuDirect]
      apply List.perm_iff_count.mpr
      intro handle
      simp [List.count_cons, Ledger.acquire]
  unfold EngineResources.allocAndRegisterGpuMem
  split
  · exact .failed none ledger tracked
  · split
    · exact .failed none ledger tracked
    · simp only
      split
      · exact .failed (some ledger.made) _ onDevice
      · split
        · exact .failed none _ released
        · exact .registered _ _ _ _ registered

theorem Bare.allocAndRegisterHostMemory
    (bare : Bare config engine) (answers : DriverAnswers) (gpuDirect : config.gpuDirect = false)
    {ctx pd : Nat} {ledger : Ledger ResourceKind}
    (tracked :
      Tracked config
        (engine.withContext { ctx := some ctx, pd := some pd } ledger)) :
    RegisteredBuffer config engine ctx pd
      ((engine.withContext { ctx := some ctx, pd := some pd }
        ledger).allocAndRegisterHostMemory answers) := by
  have allocated :
      Tracked config
        (engine.withContext
          { ctx := some ctx, pd := some pd, dPtr := some ledger.made
            hPtr := some ledger.made }
          (ledger.acquire .buffer [])) := by
    apply bare.gain tracked (List.forall_mem_nil _) ?_ fun _ => rfl
    simp only [inContext, pointer, gpuDirect]
    apply List.perm_iff_count.mpr
    intro handle
    simp [List.count_cons]
    omega
  have released :
      Tracked config
        (engine.withContext { ctx := some ctx, pd := some pd }
          (destroy .buffer (some ledger.made)
            (ledger.acquire .buffer []))) := by
    rw [destroy_eq]
    apply bare.drop allocated ?_ (List.pairwise_singleton _ _) ?_ fun _ => rfl
    · simp only [inContext, pointer, gpuDirect]
      apply List.perm_iff_count.mpr
      intro handle
      simp [List.count_cons]
      omega
    · simp [inContext, pointer, ResourceKind.mayUse]
  have registered :
      Tracked config
        (engine.withContext
          { ctx := some ctx, pd := some pd, dPtr := some ledger.made
            hPtr := some ledger.made, mr := some (ledger.made + 1) }
          ((ledger.acquire .buffer []).acquire .memoryRegion
            [⟨.protectionDomain, pd⟩, ⟨.buffer, ledger.made⟩])) := by
    apply bare.gain allocated ?_ ?_ fun _ => rfl
    · simp [inContext, pointer, gpuDirect, ResourceKind.MayUse,
        ResourceKind.mayUse]
    · simp [inContext, pointer, gpuDirect, Ledger.acquire]
  unfold EngineResources.allocAndRegisterHostMemory
  split
  · exact .failed none ledger tracked
  · simp only
    split
    · exact .failed none _ released
    · exact .registered _ _ _ _ registered

theorem Bare.allocAndRegisterGpuMemory
    (bare : Bare config engine) (answers : DriverAnswers) {ctx pd : Nat} {ledger : Ledger ResourceKind}
    (tracked :
      Tracked config
        (engine.withContext { ctx := some ctx, pd := some pd } ledger)) :
    RegisteredBuffer config engine ctx pd
      ((engine.withContext { ctx := some ctx, pd := some pd }
        ledger).allocAndRegisterGpuMemory config answers) := by
  unfold EngineResources.allocAndRegisterGpuMemory
  cases gpuDirect : config.gpuDirect with
  | true =>
      exact bare.allocAndRegisterGpuMem answers gpuDirect tracked
  | false =>
      exact bare.allocAndRegisterHostMemory answers gpuDirect tracked

/-- What is held once the buffer is registered. -/
def bufferContext (ctx pd device host mr : Nat) : RdmaContext where
  ctx := some ctx
  pd := some pd
  mr := some mr
  dPtr := some device
  hPtr := some host

/-- The completion queues are made or not; everything else in the context stays. -/
inductive CreatedCqs (config : EngineConfig) (engine : EngineResources)
    (context : RdmaContext) : Bool × EngineResources → Prop where
  | failed (ledger : Ledger ResourceKind)
      (tracked : Tracked config (engine.withContext context ledger)) :
      CreatedCqs config engine context
        (false, engine.withContext context ledger)
  | created (sendCq recvCq : Nat) (ledger : Ledger ResourceKind)
      (tracked :
        Tracked config
          (engine.withContext
            { context with sendCq := some sendCq, recvCq := some recvCq }
            ledger)) :
      CreatedCqs config engine context
        (true,
          engine.withContext
            { context with sendCq := some sendCq, recvCq := some recvCq }
            ledger)

theorem Bare.createCqs
    (bare : Bare config engine) (answers : DriverAnswers) {ctx pd device host mr : Nat}
    {ledger : Ledger ResourceKind}
    (tracked :
      Tracked config
        (engine.withContext (bufferContext ctx pd device host mr) ledger)) :
    CreatedCqs config engine (bufferContext ctx pd device host mr)
      ((engine.withContext (bufferContext ctx pd device host mr)
        ledger).createCqs answers) := by
  have oneBuffer :
      config.gpuDirect = false → (some device : Option Nat) = some host :=
    tracked.oneBuffer
  have sending :
      Tracked config
        (engine.withContext
          { bufferContext ctx pd device host mr with
            sendCq := some ledger.made }
          (ledger.acquire .completionQueue [⟨.deviceContext, ctx⟩])) := by
    apply bare.gain tracked ?_ ?_ oneBuffer
    · refine List.forall_mem_singleton.mpr ⟨rfl, ?_⟩
      simp [inContext, pointer, bufferContext]
    · simp [inContext, pointer, bufferContext]
  have released :
      Tracked config
        (engine.withContext (bufferContext ctx pd device host mr)
          (destroy .completionQueue (some ledger.made)
            (ledger.acquire .completionQueue [⟨.deviceContext, ctx⟩]))) := by
    rw [destroy_eq]
    apply bare.drop sending ?_ (List.pairwise_singleton _ _) ?_ oneBuffer
    · simp [inContext, pointer, bufferContext]
    · cases gpuDirect : config.gpuDirect <;>
        simp [inContext, pointer, bufferContext, gpuDirect,
          ResourceKind.mayUse]
  have created :
      Tracked config
        (engine.withContext
          { bufferContext ctx pd device host mr with
            sendCq := some ledger.made, recvCq := some (ledger.made + 1) }
          ((ledger.acquire .completionQueue [⟨.deviceContext, ctx⟩]).acquire
            .completionQueue [⟨.deviceContext, ctx⟩])) := by
    apply bare.gain sending ?_ ?_ oneBuffer
    · refine List.forall_mem_singleton.mpr ⟨rfl, ?_⟩
      simp [inContext, pointer, bufferContext]
    · simp only [inContext, pointer, bufferContext]
      apply List.perm_iff_count.mpr
      intro handle
      simp [List.count_cons, Ledger.acquire]
      omega
  unfold EngineResources.createCqs
  split
  · exact .failed ledger tracked
  · simp only
    split
    · exact .failed _ released
    · exact .created _ _ _ created

/-! ### Queue pairs -/

/-- No queue pair is stored for any of the peers. -/
def Unpaired
    (peers : List ByteString) (peerQps : List (ByteString × Option Nat)) :
    Prop :=
  ∀ peer ∈ peerQps, peer.1 ∈ peers → peer.2 = none

theorem queuePairs_storeQp
    {peerQps : List (ByteString × Option Nat)} {peerId : ByteString}
    {peers : List ByteString} (unpaired : Unpaired (peerId :: peers) peerQps)
    (qp : Nat) :
    queuePairs (storeQp peerQps peerId (some qp)) =
      ⟨.queuePair, qp⟩ :: queuePairs peerQps := by
  have others :
      queuePairs (peerQps.filter fun peer => peer.1 ≠ peerId) =
        queuePairs peerQps := by
    induction peerQps with
    | nil =>
        rfl
    | cons peer rest inductionHypothesis =>
        obtain ⟨first, later⟩ := List.forall_mem_cons.mp unpaired
        by_cases same : peer.1 = peerId
        · have isNull := first (same ▸ List.mem_cons_self)
          rw [List.filter_cons_of_neg (by simp [same]),
            inductionHypothesis later]
          simp [queuePairs, isNull, pointer]
        · rw [List.filter_cons_of_pos (by simp [same])]
          exact congrArg (pointer .queuePair peer.2 ++ ·)
            (inductionHypothesis later)
  rw [storeQp]
  exact congrArg (List.cons ⟨.queuePair, qp⟩) others

theorem Unpaired.storeQp
    {peerQps : List (ByteString × Option Nat)} {peerId : ByteString}
    {peers : List ByteString} (unpaired : Unpaired (peerId :: peers) peerQps)
    (notIn : peerId ∉ peers) (qp : Option Nat) :
    Unpaired peers (EngineResources.storeQp peerQps peerId qp) := by
  intro peer member isPeer
  rcases List.mem_cons.mp member with rfl | earlier
  · exact (notIn isPeer).elim
  · exact
      unpaired peer (List.mem_of_mem_filter earlier)
        (List.mem_cons_of_mem _ isPeer)

/-- The pointers of the context that queue pairs are made with are set for good. -/
theorem Tracked.createPeerQps
    (tracked : Tracked config engine) (answers : DriverAnswers)
    {peers : List ByteString} (nodup : peers.Nodup)
    (unpaired : Unpaired peers engine.peerQps) :
    Tracked config (engine.createPeerQps answers peers).2 ∧
      (engine.createPeerQps answers peers).2.rdmaCtx = engine.rdmaCtx ∧
      (engine.createPeerQps answers peers).2.initialized =
        engine.initialized := by
  induction peers generalizing engine with
  | nil =>
      exact ⟨tracked, rfl, rfl⟩
  | cons peerId rest inductionHypothesis =>
      obtain ⟨notIn, nodupRest⟩ := List.nodup_cons.mp nodup
      have allowed :
          ∀ used ∈ pointer .protectionDomain engine.rdmaCtx.pd ++
              (pointer .completionQueue engine.rdmaCtx.sendCq ++
                pointer .completionQueue engine.rdmaCtx.recvCq),
            ResourceKind.queuePair.MayUse used.kind ∧
              used ∈ engine.held config := by
        intro used member
        have kinds {kind : ResourceKind} {stored : Option Nat}
            (points : used ∈ pointer kind stored) : used.kind = kind := by
          obtain ⟨number, _, rfl⟩ := List.mem_map.mp points
          rfl
        simp only [List.mem_append, held, inContext] at member ⊢
        rcases member with pd | sendCq | recvCq
        · refine ⟨?_, by simp only [pd, true_or, or_true]⟩
          rw [ResourceKind.MayUse, kinds pd]
          rfl
        · refine ⟨?_, by simp only [sendCq, true_or, or_true]⟩
          rw [ResourceKind.MayUse, kinds sendCq]
          rfl
        · refine ⟨?_, by simp only [recvCq, true_or, or_true]⟩
          rw [ResourceKind.MayUse, kinds recvCq]
          rfl
      unfold EngineResources.createPeerQps EngineResources.createQpForPeer
      cases creates : answers.createsQp peerId with
      | false =>
          exact ⟨tracked, rfl, rfl⟩
      | true =>
          cases modifies : answers.modifiesQp peerId with
          | false =>
              refine ⟨?_, rfl, rfl⟩
              have undone :
                  (engine.ledger.acquire .queuePair _).release
                      ⟨.queuePair, engine.ledger.made⟩ =
                    { engine.ledger with made := engine.ledger.made + 1 } :=
                tracked.layered.release_acquire fun used member =>
                  tracked.handles.mem_iff.mpr (allowed used member).2
              have skipped :
                  Tracked config
                    { engine with
                      ledger :=
                        { engine.ledger with
                          made := engine.ledger.made + 1 } } :=
                { layered := tracked.layered.skip
                  handles := tracked.handles
                  refused := tracked.refused
                  oneBuffer := tracked.oneBuffer
                  initialized := tracked.initialized }
              rw [← undone] at skipped
              exact skipped
          | true =>
              refine
                inductionHypothesis
                  (tracked.gain allowed rfl ?_ tracked.oneBuffer
                    tracked.initialized)
                  nodupRest (unpaired.storeQp notIn _)
              have stored := queuePairs_storeQp unpaired engine.ledger.made
              refine List.Perm.of_eq ?_
              exact
                congrArg
                  (· ++ (inContext config engine.rdmaCtx ++ engine.inBindings))
                  stored

/-! ### The whole of it -/

/-- The engine is initialized; or it is not, and holds nothing unless the device was
opened. -/
structure Attempted (config : EngineConfig) (result : Bool × EngineResources) :
    Prop where
  tracked : Tracked config result.2
  initialized : result.2.initialized = result.1
  held :
    result.1 = false →
      (result.2.held config = [] ↔ result.2.rdmaCtx.ctx = none)

theorem Bare.attempted
    (bare : Bare config engine) {context : RdmaContext}
    {ledger : Ledger ResourceKind}
    (tracked : Tracked config (engine.withContext context ledger))
    (opened : inContext config context = [] ↔ context.ctx = none) :
    Attempted config (false, engine.withContext context ledger) where
  tracked := tracked
  initialized := bare.initialized
  held := by
    intro _
    rw [bare.held]
    exact opened

theorem unpaired_of_queuePairs
    {peerQps : List (ByteString × Option Nat)}
    (none : queuePairs peerQps = []) (peers : List ByteString) :
    Unpaired peers peerQps := by
  intro peer member _
  have nothing := List.flatMap_eq_nil_iff.mp none peer member
  cases stored : peer.2 with
  | none =>
      rfl
  | some _ =>
      rw [stored] at nothing
      cases nothing

/-- The last two stages. -/
theorem Bare.attempted_createCqs
    (bare : Bare config engine) (answers : DriverAnswers)
    (nodup : config.peers.Nodup)
    {ctx pd device host mr : Nat} {ledger : Ledger ResourceKind}
    (tracked :
      Tracked config
        (engine.withContext (bufferContext ctx pd device host mr) ledger)) :
    Attempted config
      (match
        (engine.withContext (bufferContext ctx pd device host mr)
          ledger).createCqs answers with
      | (false, failed) => (false, failed)
      | (true, polling) =>
          match polling.createPeerQps answers config.peers with
          | (false, failed) => (false, failed)
          | (true, connectable) =>
              (true, { connectable with initialized := true })) := by
  have creating := bare.createCqs answers tracked
  have notNone {handles : List (Handle ResourceKind)}
      (member : (⟨.deviceContext, ctx⟩ : Handle ResourceKind) ∈ handles) :
      handles ≠ [] :=
    List.ne_nil_of_mem member
  split
  · rename_i failed isFailed
    rw [isFailed] at creating
    cases creating with
    | failed ledger tracked =>
        refine bare.attempted tracked (iff_of_false ?_ ?_)
        · apply notNone
          simp [inContext, pointer, bufferContext]
        · exact Option.some_ne_none ctx
  · rename_i polling isPolling
    rw [isPolling] at creating
    cases creating with
    | created sendCq recvCq ledger tracked =>
        have unpaired :=
          unpaired_of_queuePairs bare.queuePairs config.peers
        obtain ⟨trackedPairs, context, initialized⟩ :=
          tracked.createPeerQps answers nodup unpaired
        split
        · rename_i failed isFailed
          rw [isFailed] at trackedPairs context initialized
          refine ⟨trackedPairs, initialized.trans bare.initialized, ?_⟩
          intro _
          refine iff_of_false ?_ ?_
          · apply notNone
            rw [EngineResources.held, context]
            simp [inContext, pointer, bufferContext, withContext]
          · rw [context]
            exact Option.some_ne_none ctx
        · rename_i connectable isConnectable
          rw [isConnectable] at trackedPairs context
          refine ⟨?_, rfl, fun failed => (Bool.noConfusion failed)⟩
          refine
            { layered := trackedPairs.layered
              handles := trackedPairs.handles
              refused := trackedPairs.refused
              oneBuffer := trackedPairs.oneBuffer
              initialized := ?_ }
          intro _
          rw [context]
          rfl

theorem Tracked.initializeEngine
    (tracked : Tracked config engine) (answers : DriverAnswers)
    (nothing : engine.held config = [])
    (nodup : config.peers.Nodup) :
    Attempted config (engine.initializeEngine config answers) := by
  have bare := tracked.bare nothing
  have same : engine = engine.withContext {} engine.ledger := by
    rw [← bare.context]
    rfl
  have empty : inContext config {} = [] := by
    simp [inContext, pointer]
  have notBegun : Attempted config (false, engine) := by
    rw [same]
    rw [same] at tracked
    exact bare.attempted tracked (iff_of_true empty rfl)
  have someHeld (context : RdmaContext) (isOpen : context.ctx ≠ none) :
      inContext config context = [] ↔ context.ctx = none := by
    obtain ⟨number, isNumber⟩ := Option.ne_none_iff_exists'.mp isOpen
    simp [inContext, pointer, isNumber]
  rw [same] at tracked
  have opening := bare.openIbDevice answers tracked
  rw [← same] at opening
  unfold EngineResources.initializeEngine
  split
  · exact notBegun
  · split
    · exact notBegun
    · split
      · rename_i failed isFailed
        rw [isFailed] at opening
        cases opening with
        | failed ledger tracked =>
            exact bare.attempted tracked (iff_of_true empty rfl)
      · rename_i opened isOpened
        rw [isOpened] at opening
        cases opening with
        | opened ctx pd ledger tracked =>
            have registering := bare.allocAndRegisterGpuMemory answers tracked
            split
            · rename_i failed isFailed
              rw [isFailed] at registering
              cases registering with
              | failed device ledger tracked =>
                  refine bare.attempted tracked (someHeld _ ?_)
                  exact Option.some_ne_none ctx
            · rename_i registered isRegistered
              rw [isRegistered] at registering
              cases registering with
              | registered device host mr ledger tracked =>
                  exact bare.attempted_createCqs answers nodup tracked

/-! ## The other calls -/

theorem kinds_pointer (kind : ResourceKind) (stored : Option Nat) :
    ((pointer kind stored).map Handle.kind).Sublist [kind] := by
  cases stored with
  | none =>
      exact List.nil_sublist _
  | some _ =>
      exact List.Sublist.refl _

/-- The order in which the context is destroyed. -/
def destroyOrder : List ResourceKind :=
  [.completionQueue, .completionQueue, .memoryRegion, .protectionDomain,
    .deviceContext, .buffer, .buffer]

theorem kinds_inContext (context : RdmaContext) :
    ((inContext config context).map Handle.kind).Sublist destroyOrder := by
  have device :
      ((if config.gpuDirect then pointer .buffer context.dPtr else []).map
          Handle.kind).Sublist [.buffer] := by
    cases config.gpuDirect with
    | true =>
        exact kinds_pointer .buffer context.dPtr
    | false =>
        exact List.nil_sublist _
  simp only [inContext, List.map_append]
  exact
    (kinds_pointer _ _).append <| (kinds_pointer _ _).append <|
      (kinds_pointer _ _).append <| (kinds_pointer _ _).append <|
        (kinds_pointer _ _).append <| device.append (kinds_pointer _ _)

theorem kind_queuePairs
    {peerQps : List (ByteString × Option Nat)} {handle : Handle ResourceKind}
    (member : handle ∈ queuePairs peerQps) :
    handle.kind = .queuePair := by
  obtain ⟨peer, _, points⟩ := List.mem_flatMap.mp member
  obtain ⟨number, _, rfl⟩ := List.mem_map.mp points
  rfl

theorem not_mayUse_queuePair (kind : ResourceKind) :
    ¬ kind.MayUse .queuePair := by
  cases kind <;>
    exact Bool.false_ne_true

theorem not_mayUse_memoryRegion (kind : ResourceKind) :
    ¬ kind.MayUse .memoryRegion := by
  cases kind <;>
    exact Bool.false_ne_true

/-- Nothing is released before what was made of it. -/
theorem shutdown_ordered (engine : EngineResources) :
    (queuePairs engine.peerQps ++ inContext config engine.rdmaCtx).Pairwise
      fun earlier later => ¬ later.kind.MayUse earlier.kind := by
  have inOrder :
      destroyOrder.Pairwise fun earlier later => ¬ later.MayUse earlier := by
    decide
  have notQueuePair :
      ∀ handle ∈ queuePairs engine.peerQps, ∀ other : Handle ResourceKind,
        ¬ other.kind.MayUse handle.kind := by
    intro handle member other
    rw [kind_queuePairs member]
    exact not_mayUse_queuePair other.kind
  rw [List.pairwise_append]
  refine ⟨?_, ?_, ?_⟩
  · apply List.Pairwise.imp_of_mem ?_
      (List.pairwise_of_forall fun _ _ => trivial)
    intro earlier later member _ _
    exact notQueuePair earlier member later
  · exact
      List.pairwise_map.mp
        (inOrder.sublist (kinds_inContext engine.rdmaCtx))
  · intro handle member other _
    exact notQueuePair handle member other

theorem Tracked.context_destroyed
    (tracked : Tracked config engine) (ledger : Ledger ResourceKind) :
    (destroyRdmaContext config engine.rdmaCtx ledger).1 = {} := by
  unfold destroyRdmaContext
  cases gpuDirect : config.gpuDirect with
  | true =>
      rfl
  | false =>
      have oneBuffer := tracked.oneBuffer gpuDirect
      cases host : engine.rdmaCtx.hPtr with
      | none =>
          rw [host] at oneBuffer
          simp [oneBuffer]
      | some number =>
          simp

theorem Tracked.shutdown
    (tracked : Tracked config engine) (isInitialized : engine.initialized = true)
    (noRegions : engine.regions = []) :
    Tracked config (engine.shutdown config) ∧
      (engine.shutdown config).held config = [] := by
  have regions : engine.inBindings = [] := by
    rw [inBindings, noRegions, List.map_nil]
  have result :
      engine.shutdown config =
        { engine with
          rdmaCtx := {}
          peerQps := []
          initialized := false
          ledger :=
            engine.ledger.releaseAll
              (queuePairs engine.peerQps ++
                inContext config engine.rdmaCtx) } := by
    unfold EngineResources.shutdown
    simp only [isInitialized, Bool.not_true, Bool.false_eq_true, if_false,
      tracked.context_destroyed, destroyRdmaContext_snd, foldl_destroy,
      releaseAll_append]
  have nothing : (engine.shutdown config).held config = [] := by
    rw [result]
    change
      queuePairs [] ++ (inContext config {} ++ engine.inBindings) = []
    rw [regions]
    simp [queuePairs, inContext, pointer]
  refine ⟨?_, nothing⟩
  apply tracked.drop (congrArg EngineResources.ledger result) ?_
    (shutdown_ordered engine)
  · rw [nothing]
    exact List.forall_mem_nil _
  · intro _
    rw [result]
  · intro again
    rw [result] at again
    cases again
  · rw [nothing, held, regions, List.append_nil, List.append_nil]

theorem Tracked.of_same
    (tracked : Tracked config engine) (ledger : next.ledger = engine.ledger)
    (context : next.rdmaCtx = engine.rdmaCtx)
    (initialized : next.initialized = engine.initialized)
    (held : (next.held config).Perm (engine.held config)) :
    Tracked config next where
  layered := by
    rw [ledger]
    exact tracked.layered
  handles := by
    rw [ledger]
    exact tracked.handles.trans held.symm
  refused := by
    rw [ledger]
    exact tracked.refused
  oneBuffer := by
    rw [context]
    exact tracked.oneBuffer
  initialized := by
    rw [context, initialized]
    exact tracked.initialized

theorem Tracked.lookUpQueuePair
    (tracked : Tracked config engine) (peerId : ByteString) :
    Tracked config (engine.lookUpQueuePair peerId) := by
  unfold EngineResources.lookUpQueuePair
  split
  · exact tracked
  · exact tracked.of_same rfl rfl rfl (List.Perm.refl _)

theorem Tracked.registerGpuMemory
    (tracked : Tracked config engine) {name : ByteString} {registers : Bool}
    (taken : engine.registerGpuMemory name registers = some next) :
    Tracked config next := by
  unfold EngineResources.registerGpuMemory at taken
  split at taken
  · rename_i registered pd isRegistered isPd
    split at taken
    · cases taken
      exact tracked
    · cases taken
      refine
        tracked.gain (List.forall_mem_singleton.mpr ⟨rfl, ?_⟩) rfl ?_
          tracked.oneBuffer tracked.initialized
      · simp only [held, inContext, isPd, List.mem_append]
        exact
          Or.inr (Or.inl (Or.inr (Or.inr (Or.inr
            (Or.inl List.mem_cons_self)))))
      · have regions : engine.regions = registered.map Prod.snd := by
          rw [EngineResources.regions, isRegistered]
          rfl
        simp only [held, inBindings, regions]
        apply List.perm_iff_count.mpr
        intro handle
        simp [EngineResources.regions, make, List.count_cons]
        omega
  · cases taken

theorem foldl_deregister
    (regions : List Nat) (ledger : Ledger ResourceKind) :
    regions.foldl
        (fun ledger region => destroy .memoryRegion (some region) ledger)
        ledger =
      ledger.releaseAll
        (regions.map fun number => ⟨.memoryRegion, number⟩) := by
  rw [Ledger.releaseAll, List.foldl_map]
  rfl

theorem Tracked.destroyBindings
    (tracked : Tracked config engine)
    (noneLeft : engine.initialized = false → engine.regions = []) :
    Tracked config engine.destroyBindings := by
  unfold EngineResources.destroyBindings
  split
  · have kinds :
        ∀ gone ∈ engine.inBindings, ∀ handle : Handle ResourceKind,
          ¬ handle.kind.MayUse gone.kind := by
      intro gone member handle
      obtain ⟨number, _, rfl⟩ := List.mem_map.mp member
      exact not_mayUse_memoryRegion handle.kind
    refine
      tracked.drop (foldl_deregister engine.regions engine.ledger) ?_ ?_ ?_
        tracked.oneBuffer tracked.initialized
    · simp only [held, inBindings, EngineResources.regions]
      apply List.perm_iff_count.mpr
      intro handle
      simp
      omega
    · apply List.Pairwise.imp_of_mem ?_
        (List.pairwise_of_forall fun _ _ => trivial)
      intro earlier later member _ _
      exact kinds earlier member later
    · intro handle _ gone member
      exact kinds gone member handle
  · rename_i notInitialized
    have noRegions := noneLeft (eq_false_of_ne_true notInitialized)
    refine tracked.of_same rfl rfl rfl (List.Perm.of_eq ?_)
    simp only [held, inBindings, noRegions]
    rfl

/-! ## Runs -/

/-- `initialize` begins with nothing.  The bindings deregister what they registered,
and do so before `shutdown`. -/
def Orderly (config : EngineConfig) (engine : EngineResources) :
    EngineAction → Prop
  | .initializeEngine _ => engine.held config = []
  | .shutdown => engine.initialized = true → engine.regions = []
  | .destroyBindings => engine.initialized = false → engine.regions = []
  | .lookUpQueuePair _ | .makeBindings | .registerGpuMemory _ _ => True

theorem Tracked.step
    (nodup : config.peers.Nodup) (tracked : Tracked config engine)
    {action : EngineAction} (taken : engine.step config action = some next)
    (orderly : Orderly config engine action) :
    Tracked config next := by
  cases action with
  | initializeEngine answers =>
      cases taken
      exact (tracked.initializeEngine answers orderly nodup).tracked
  | shutdown =>
      cases taken
      cases isInitialized : engine.initialized with
      | true =>
          exact (tracked.shutdown isInitialized (orderly isInitialized)).1
      | false =>
          unfold EngineResources.shutdown
          rw [isInitialized]
          exact tracked
  | lookUpQueuePair peerId =>
      cases taken
      exact tracked.lookUpQueuePair peerId
  | makeBindings =>
      simp only [EngineResources.step] at taken
      split at taken
      · cases taken
      · rename_i noBindings
        cases taken
        unfold EngineResources.makeBindings
        split
        · refine tracked.of_same rfl rfl rfl (List.Perm.of_eq ?_)
          have isNone : engine.bindings = none := by
            simpa using noBindings
          simp [held, inBindings, regions, isNone]
        · exact tracked
  | registerGpuMemory name registers =>
      exact tracked.registerGpuMemory taken
  | destroyBindings =>
      cases taken
      exact tracked.destroyBindings orderly

theorem tracked_of_execute
    (nodup : config.peers.Nodup) {actions : List EngineAction}
    (run : execute (step config) {} actions = some engine)
    (orderly : Meets (step config) (Orderly config) {} actions) :
    Tracked config engine :=
  invariant_of_meets
    (fun _ _ _ taken orderly tracked => tracked.step nodup taken orderly)
    run orderly tracked_start

/-- What is there is always what the engine and its bindings hold, and no driver
ever refuses to release anything. -/
theorem resources_accounted
    (nodup : config.peers.Nodup) {actions : List EngineAction}
    (run : execute (step config) {} actions = some engine)
    (orderly : Meets (step config) (Orderly config) {} actions) :
    engine.ledger.handles.Perm (engine.held config) ∧
      engine.ledger.handles.Nodup ∧ engine.ledger.refused = [] := by
  have tracked := tracked_of_execute nodup run orderly
  exact ⟨tracked.handles, tracked.layered.nodup, tracked.refused⟩

/-- A decode node with two prefill nodes, built with GPUDirect. -/
def sampleConfig : EngineConfig where
  gpuDirect := true
  role := .decode
  prefillNodes := [.ofText "prefill-1", .ofText "prefill-2"]
  decodeNodes := []

theorem sampleConfig_peers_nodup : sampleConfig.peers.Nodup := by
  decide +kernel

instance decidableOrderly
    (config : EngineConfig) (engine : EngineResources) (action : EngineAction) :
    Decidable (Orderly config engine action) :=
  match action with
  | .initializeEngine _ => inferInstanceAs (Decidable (_ = []))
  | .shutdown => inferInstanceAs (Decidable (_ = true → _ = []))
  | .destroyBindings => inferInstanceAs (Decidable (_ = false → _ = []))
  | .lookUpQueuePair _ => .isTrue trivial
  | .makeBindings => .isTrue trivial
  | .registerGpuMemory _ _ => .isTrue trivial

def sampleActions : List EngineAction :=
  [.initializeEngine {}, .makeBindings, .registerGpuMemory (.ofText "layer") true,
    .lookUpQueuePair (.ofText "prefill-3")]

theorem resources_accounted_sampleActions :
    ∃ engine,
      execute (step sampleConfig) {} sampleActions = some engine ∧
        engine.ledger.handles.length = 10 ∧
          engine.ledger.handles.Perm (engine.held sampleConfig) ∧
            engine.ledger.handles.Nodup ∧ engine.ledger.refused = [] :=
  ⟨_, rfl, by decide +kernel,
    resources_accounted sampleConfig_peers_nodup
      (rfl : execute (step sampleConfig) {} sampleActions = _)
      (by decide +kernel)⟩

theorem live_eq_nil_iff (tracked : Tracked config engine) :
    engine.ledger.live = [] ↔ engine.held config = [] := by
  have handles := tracked.handles
  constructor
  · intro nothing
    rw [Ledger.handles, nothing] at handles
    exact handles.symm.eq_nil
  · intro nothing
    rw [nothing] at handles
    exact List.map_eq_nil_iff.mp handles.eq_nil

/-- `shutdown` leaves nothing exactly if the engine is initialized or nothing has
been made.  After an `initialize` that fails it releases nothing, so all that was
made stays if the device was opened. -/
theorem shutdown_releases_iff
    (nodup : config.peers.Nodup) {actions : List EngineAction}
    (run : execute (step config) {} actions = some engine)
    (orderly : Meets (step config) (Orderly config) {} actions)
    (noRegions : engine.regions = []) :
    ((engine.shutdown config).ledger.live = [] ↔
        engine.initialized = true ∨ engine.ledger.live = []) ∧
      ∀ answers failed,
        engine.held config = [] →
          engine.initializeEngine config answers = (false, failed) →
            failed.shutdown config = failed ∧
              (failed.ledger.live = [] ↔ failed.rdmaCtx.ctx = none) := by
  have tracked := tracked_of_execute nodup run orderly
  constructor
  · cases isInitialized : engine.initialized with
    | true =>
        obtain ⟨trackedAfter, nothing⟩ :=
          tracked.shutdown isInitialized noRegions
        rw [live_eq_nil_iff trackedAfter]
        exact iff_of_true nothing (Or.inl rfl)
    | false =>
        unfold shutdown
        rw [isInitialized]
        simp
  · intro answers failed nothing isFailed
    have attempted := tracked.initializeEngine answers nothing nodup
    rw [isFailed] at attempted
    constructor
    · unfold shutdown
      rw [attempted.initialized]
      rfl
    · rw [live_eq_nil_iff attempted.tracked]
      exact attempted.held rfl

/-- The second of the two queue pairs is not made. -/
def sampleAnswers : DriverAnswers where
  createsQp peerId := decide (peerId = .ofText "prefill-1")

theorem shutdown_releases_iff_sampleAnswers :
    let failed := (initializeEngine sampleConfig sampleAnswers {}).2
    failed.ledger.handles.length = 8 ∧
      failed.shutdown sampleConfig = failed ∧
        (failed.ledger.live = [] ↔ failed.rdmaCtx.ctx = none) :=
  ⟨by decide +kernel,
    (shutdown_releases_iff sampleConfig_peers_nodup
      (rfl : execute (step sampleConfig) {} [] = some {}) trivial rfl).2
      sampleAnswers _ rfl rfl⟩

end EngineResources

end RdmaKvCache
