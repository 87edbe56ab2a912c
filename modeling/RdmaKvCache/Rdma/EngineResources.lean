import RdmaKvCache.Library.LabelledRuns
import RdmaKvCache.Library.ResourceLedgers
import RdmaKvCache.Rdma.QueuePairs

/-!
# What the RDMA engine makes and releases

`initialize` opens the device, allocates and registers a buffer, and makes
completion queues and one queue pair for each peer.  `shutdown` releases all of it,
but only if the engine is initialized.  The Python bindings register more memory
with the protection domain of the engine.

A driver refuses to release what something else was made of.  A call that fails
leaves the pointer it would have stored as it is if it stores through an argument,
and null if its result is assigned.
-/

namespace RdmaKvCache

open LabelledRuns ResourceLedgers

inductive ResourceKind where
  | deviceContext
  | protectionDomain
  | buffer
  | memoryRegion
  | completionQueue
  | queuePair
  deriving DecidableEq

/-- An object of the first kind can be made of one of the second. -/
def ResourceKind.mayUse : ResourceKind → ResourceKind → Bool
  | .protectionDomain, .deviceContext
  | .memoryRegion, .protectionDomain
  | .memoryRegion, .buffer
  | .completionQueue, .deviceContext
  | .queuePair, .protectionDomain
  | .queuePair, .completionQueue => true
  | _, _ => false

abbrev ResourceKind.MayUse (kind used : ResourceKind) : Prop :=
  kind.mayUse used = true

/-- A pointer as the list of what it points to. -/
def pointer (kind : ResourceKind) (stored : Option Nat) :
    List (Handle ResourceKind) :=
  stored.toList.map fun number => ⟨kind, number⟩

/-! ## The engine -/

/-- The pointers in the context; without GPUDirect both memory pointers are those of
the one buffer. -/
structure RdmaContext where
  ctx : Option Nat := none
  pd : Option Nat := none
  sendCq : Option Nat := none
  recvCq : Option Nat := none
  mr : Option Nat := none
  dPtr : Option Nat := none
  hPtr : Option Nat := none
  deriving DecidableEq

/-- `gpuDirect` tells whether the engine was built with it. -/
structure EngineConfig where
  gpuDirect : Bool
  role : NodeRole
  prefillNodes : List ByteString
  decodeNodes : List ByteString

def EngineConfig.peers (config : EngineConfig) : List ByteString :=
  expectedPeers config.role config.prefillNodes config.decodeNodes

/-- `bindings` are the registered regions of the bindings by their names, if the
bindings exist. -/
structure EngineResources where
  rdmaCtx : RdmaContext := {}
  peerQps : List (ByteString × Option Nat) := []
  initialized : Bool := false
  bindings : Option (List (ByteString × Nat)) := none
  ledger : Ledger ResourceKind := {}

/-- Which calls succeed.  Without GPUDirect the buffer is host memory. -/
structure DriverAnswers where
  probesDevices : Bool := true
  bindsCudaDevice : Bool := true
  findsDevice : Bool := true
  opensDevice : Bool := true
  queriesDevice : Bool := true
  queriesPort : Bool := true
  portActive : Bool := true
  allocatesPd : Bool := true
  setsCudaDevice : Bool := true
  allocatesDeviceMemory : Bool := true
  allocatesHostMemory : Bool := true
  registersMemory : Bool := true
  createsSendCq : Bool := true
  createsRecvCq : Bool := true
  createsQp : ByteString → Bool := fun _ => true
  modifiesQp : ByteString → Bool := fun _ => true

inductive EngineAction where
  | initializeEngine (answers : DriverAnswers)
  | shutdown
  | lookUpQueuePair (peerId : ByteString)
  | makeBindings
  | registerGpuMemory (name : ByteString) (registers : Bool)
  | destroyBindings

namespace EngineResources

def updateContext
    (engine : EngineResources) (update : RdmaContext → RdmaContext) :
    EngineResources :=
  { engine with rdmaCtx := update engine.rdmaCtx }

/-- An object is made and its pointer stored. -/
def make
    (engine : EngineResources) (kind : ResourceKind)
    (uses : List (Handle ResourceKind))
    (store : Nat → RdmaContext → RdmaContext) : EngineResources where
  rdmaCtx := store engine.ledger.made engine.rdmaCtx
  peerQps := engine.peerQps
  initialized := engine.initialized
  bindings := engine.bindings
  ledger := engine.ledger.acquire kind uses

/-- What a pointer points to is released, if it is not null. -/
def destroy
    (kind : ResourceKind) (stored : Option Nat) (ledger : Ledger ResourceKind) :
    Ledger ResourceKind :=
  match stored with
  | none => ledger
  | some number => ledger.release ⟨kind, number⟩

/-! ### Making resources -/

def closeDevice (engine : EngineResources) : EngineResources :=
  { engine with
    rdmaCtx := { engine.rdmaCtx with ctx := none }
    ledger := destroy .deviceContext engine.rdmaCtx.ctx engine.ledger }

def openIbDevice (answers : DriverAnswers) (engine : EngineResources) :
    Bool × EngineResources :=
  if !answers.findsDevice then
    (false, engine)
  else if !answers.opensDevice then
    (false, engine.updateContext fun context => { context with ctx := none })
  else
    let opened :=
      engine.make .deviceContext [] fun number context =>
        { context with ctx := some number }
    if !answers.queriesDevice then
      (false, opened.closeDevice)
    else if !answers.queriesPort then
      (false, opened.closeDevice)
    else if !answers.portActive then
      (false, opened.closeDevice)
    else if !answers.allocatesPd then
      let withoutPd :=
        opened.updateContext fun context => { context with pd := none }
      (false, withoutPd.closeDevice)
    else
      (true,
        opened.make .protectionDomain
          (pointer .deviceContext opened.rdmaCtx.ctx)
          fun number context => { context with pd := some number })

/-- Built with GPUDirect. -/
def allocAndRegisterGpuMem (answers : DriverAnswers) (engine : EngineResources) :
    Bool × EngineResources :=
  if !answers.setsCudaDevice then
    (false, engine)
  else if !answers.allocatesDeviceMemory then
    (false, engine)
  else
    let onDevice :=
      engine.make .buffer [] fun number context =>
        { context with dPtr := some number }
    if !answers.allocatesHostMemory then
      (false, onDevice)
    else
      let mirrored :=
        onDevice.make .buffer [] fun number context =>
          { context with hPtr := some number }
      if !answers.registersMemory then
        let ledger :=
          destroy .buffer mirrored.rdmaCtx.hPtr
            (destroy .buffer mirrored.rdmaCtx.dPtr mirrored.ledger)
        (false,
          { mirrored with
            rdmaCtx :=
              { mirrored.rdmaCtx with mr := none, dPtr := none, hPtr := none }
            ledger := ledger })
      else
        (true,
          mirrored.make .memoryRegion
            (pointer .protectionDomain mirrored.rdmaCtx.pd ++
              pointer .buffer mirrored.rdmaCtx.dPtr)
            fun number context => { context with mr := some number })

/-- The buffer of a build without GPUDirect. -/
def allocAndRegisterHostMemory
    (answers : DriverAnswers) (engine : EngineResources) :
    Bool × EngineResources :=
  if !answers.allocatesHostMemory then
    (false, engine)
  else
    let allocated :=
      engine.make .buffer [] fun number context =>
        { context with hPtr := some number, dPtr := some number }
    if !answers.registersMemory then
      (false,
        { allocated with
          rdmaCtx :=
            { allocated.rdmaCtx with mr := none, hPtr := none, dPtr := none }
          ledger := destroy .buffer allocated.rdmaCtx.hPtr allocated.ledger })
    else
      (true,
        allocated.make .memoryRegion
          (pointer .protectionDomain allocated.rdmaCtx.pd ++
            pointer .buffer allocated.rdmaCtx.dPtr)
          fun number context => { context with mr := some number })

def allocAndRegisterGpuMemory
    (config : EngineConfig) (answers : DriverAnswers)
    (engine : EngineResources) : Bool × EngineResources :=
  if config.gpuDirect then
    engine.allocAndRegisterGpuMem answers
  else
    engine.allocAndRegisterHostMemory answers

def createCqs (answers : DriverAnswers) (engine : EngineResources) :
    Bool × EngineResources :=
  if !answers.createsSendCq then
    (false, engine.updateContext fun context => { context with sendCq := none })
  else
    let sending :=
      engine.make .completionQueue (pointer .deviceContext engine.rdmaCtx.ctx)
        fun number context => { context with sendCq := some number }
    if !answers.createsRecvCq then
      (false,
        { sending with
          rdmaCtx :=
            { sending.rdmaCtx with recvCq := none, sendCq := none }
          ledger :=
            destroy .completionQueue sending.rdmaCtx.sendCq sending.ledger })
    else
      (true,
        sending.make .completionQueue
          (pointer .deviceContext sending.rdmaCtx.ctx)
          fun number context => { context with recvCq := some number })

/-- `none` when the queue pair is not made or not brought to its first state. -/
def createQpForPeer
    (answers : DriverAnswers) (peerId : ByteString) (engine : EngineResources) :
    Option Nat × EngineResources :=
  if !answers.createsQp peerId then
    (none, engine)
  else
    let created :=
      engine.make .queuePair
        (pointer .protectionDomain engine.rdmaCtx.pd ++
          (pointer .completionQueue engine.rdmaCtx.sendCq ++
            pointer .completionQueue engine.rdmaCtx.recvCq))
        fun _ context => context
    let qp := engine.ledger.made
    if !answers.modifiesQp peerId then
      (none,
        { created with
          ledger := destroy .queuePair (some qp) created.ledger })
    else
      (some qp, created)

/-- Assignment through `operator[]`. -/
def storeQp
    (peerQps : List (ByteString × Option Nat)) (peerId : ByteString)
    (qp : Option Nat) : List (ByteString × Option Nat) :=
  (peerId, qp) :: peerQps.filter fun peer => peer.1 ≠ peerId

def createPeerQps (answers : DriverAnswers) :
    List ByteString → EngineResources → Bool × EngineResources
  | [], engine => (true, engine)
  | peerId :: rest, engine =>
      match engine.createQpForPeer answers peerId with
      | (none, failed) => (false, failed)
      | (some qp, created) =>
          createPeerQps answers rest
            { created with
              peerQps := storeQp created.peerQps peerId (some qp) }

def initializeEngine
    (config : EngineConfig) (answers : DriverAnswers)
    (engine : EngineResources) : Bool × EngineResources :=
  if !answers.probesDevices then
    (false, engine)
  else if !answers.bindsCudaDevice then
    (false, engine)
  else
    match engine.openIbDevice answers with
    | (false, failed) => (false, failed)
    | (true, opened) =>
        match opened.allocAndRegisterGpuMemory config answers with
        | (false, failed) => (false, failed)
        | (true, registered) =>
            match registered.createCqs answers with
            | (false, failed) => (false, failed)
            | (true, polling) =>
                match polling.createPeerQps answers config.peers with
                | (false, failed) => (false, failed)
                | (true, connectable) =>
                    (true, { connectable with initialized := true })

/-! ### Releasing resources -/

def destroyRdmaContext (config : EngineConfig) (context : RdmaContext)
    (ledger : Ledger ResourceKind) : RdmaContext × Ledger ResourceKind :=
  let ledger := destroy .completionQueue context.sendCq ledger
  let ledger := destroy .completionQueue context.recvCq ledger
  let ledger := destroy .memoryRegion context.mr ledger
  let ledger := destroy .protectionDomain context.pd ledger
  let ledger := destroy .deviceContext context.ctx ledger
  if config.gpuDirect then
    ({}, destroy .buffer context.hPtr (destroy .buffer context.dPtr ledger))
  else
    match context.hPtr with
    | none => ({ dPtr := context.dPtr }, ledger)
    | some number => ({}, ledger.release ⟨.buffer, number⟩)

def shutdown (config : EngineConfig) (engine : EngineResources) :
    EngineResources :=
  if !engine.initialized then engine
  else
    let ledger :=
      engine.peerQps.foldl
        (fun ledger peer => destroy .queuePair peer.2 ledger) engine.ledger
    let (context, ledger) := destroyRdmaContext config engine.rdmaCtx ledger
    { engine with
      rdmaCtx := context
      peerQps := []
      initialized := false
      ledger := ledger }

/-! ### The bindings -/

def regions (engine : EngineResources) : List Nat :=
  (engine.bindings.getD []).map Prod.snd

/-- Bindings are made for an initialized engine only. -/
def makeBindings (engine : EngineResources) : EngineResources :=
  if engine.initialized then { engine with bindings := some [] } else engine

/-- `none` when there are no bindings or no protection domain.  `registers` tells
whether the checks and the adapter accept the memory. -/
def registerGpuMemory
    (engine : EngineResources) (name : ByteString) (registers : Bool) :
    Option EngineResources :=
  match engine.bindings, engine.rdmaCtx.pd with
  | some registered, some pd =>
      if registered.any (fun region => region.1 = name) || !registers then
        some engine
      else
        let created :=
          engine.make .memoryRegion [⟨.protectionDomain, pd⟩]
            fun _ context => context
        some
          { created with
            bindings := some ((name, engine.ledger.made) :: registered) }
  | _, _ => none

/-- The regions are not deregistered once the engine has been shut down. -/
def destroyBindings (engine : EngineResources) : EngineResources :=
  if engine.initialized then
    { engine with
      bindings := none
      ledger :=
        engine.regions.foldl
          (fun ledger region => destroy .memoryRegion (some region) ledger)
          engine.ledger }
  else
    { engine with bindings := none }

/-- Looking a peer up through `operator[]` makes a null entry when there is none. -/
def lookUpQueuePair (engine : EngineResources) (peerId : ByteString) :
    EngineResources :=
  if engine.peerQps.any fun peer => peer.1 = peerId then engine
  else { engine with peerQps := (peerId, none) :: engine.peerQps }

def step (config : EngineConfig) (engine : EngineResources) :
    EngineAction → Option EngineResources
  | .initializeEngine answers => some (engine.initializeEngine config answers).2
  | .shutdown => some (engine.shutdown config)
  | .lookUpQueuePair peerId => some (engine.lookUpQueuePair peerId)
  | .makeBindings =>
      if engine.bindings.isSome then none else some engine.makeBindings
  | .registerGpuMemory name registers => engine.registerGpuMemory name registers
  | .destroyBindings => some engine.destroyBindings

end EngineResources

end RdmaKvCache
