import RdmaKvCache.Node.RdmaReadiness
import RdmaKvCache.Node.NodeSetup
import RdmaKvCache.Rdma.EngineShutdown
import RdmaKvCache.Rdma.RdmaEngine

/-!
# Starting and stopping a node

The main thread starts the services of a node one by one and stops them in
`shutdown`, and a node that does not start stops those it has started.  A decode
node polls the RDMA engine in a thread of its own, which ends by itself when the
engine reports a fatal error.  Each worker that handles the list of members forks a
vLLM server.

A step is a call or an access to a variable that the threads share.  What the
sockets, the driver, the adapter and `fork` answer comes from outside.
-/

namespace RdmaKvCache

open LabelledRuns ResourceLedgers

structure ProcessConfig where
  node : NodeConfig
  gpuDirect : Bool

namespace ProcessConfig

def isDecode (config : ProcessConfig) : Bool :=
  decide (config.node.role = .ofText "decode")

def engine (config : ProcessConfig) : EngineConfig where
  gpuDirect := config.gpuDirect
  role := (Node.nodeInfo config.node).role
  prefillNodes := config.node.prefillNodes
  decodeNodes := config.node.decodeNodes

end ProcessConfig

/-- What the main thread does next.  Both the failed start and `shutdown` end with
`closing`, where the engine is shut down, and `draining`, where the worker pool is
stopped; the argument tells whether the node had started. -/
inductive MainThread where
  | created
  | bound
  | setup
  | connecting
  | registering
  | spawning
  | storing
  | online
  | terminating
  | stopping
  | joining
  | closing (started : Bool)
  | draining (started : Bool)
  | returned (started : Bool)
  | destroyed
  | aborted
  deriving DecidableEq

namespace MainThread

/-- The poll thread has not been started. -/
def isStarting : MainThread → Bool
  | .created | .bound | .setup | .connecting | .registering | .spawning => true
  | _ => false

/-- The poll thread may have been started and `shutdown` has not told it to end. -/
def isServing : MainThread → Bool
  | .storing | .online | .terminating | .stopping => true
  | _ => false

/-- The engine is being shut down or has been. -/
def isClosing : MainThread → Bool
  | .closing _ | .draining _ | .returned _ | .destroyed | .aborted => true
  | _ => false

/-- The object of the poll thread is being joined or has been destroyed. -/
def endsThread : MainThread → Bool
  | .joining | .destroyed | .aborted => true
  | _ => false

/-- `shutdown` has not yet looked at the process id of the server. -/
def mayTerminate : MainThread → Bool
  | .created | .bound | .setup | .connecting | .registering | .spawning
  | .storing | .online | .terminating => true
  | _ => false

def hasReturned : MainThread → Bool
  | .returned _ | .destroyed | .aborted => true
  | _ => false

/-- How far the engine has been set up and shut down. -/
inductive Stage where
  | unopened
  | equipped
  | released
  deriving DecidableEq

def stage : MainThread → Stage
  | .created | .bound | .setup => .unopened
  | .connecting | .registering | .spawning | .storing | .online | .terminating
  | .stopping | .joining | .closing _ => .equipped
  | .draining _ | .returned _ | .destroyed | .aborted => .released

end MainThread

/-- Where the poll thread is in `rdma_poll_loop`. -/
inductive PollThread where
  | absent
  | testing
  | checking
  | polling
  | returned
  deriving DecidableEq

def PollThread.isIdle : PollThread → Bool
  | .absent | .returned => true
  | _ => false

/-- `joinable` belongs to the thread object.  `forking` and `announcing` count the
workers that handle the list of members, before and after `start_vllm_server`.
`children` are the vLLM servers that have not been waited for. -/
structure NodeProcess where
  main : MainThread := .created
  pollThread : PollThread := .absent
  pollRunning : Bool := false
  joinable : Bool := false
  poller : RDMAEngine
  resources : EngineResources := {}
  orchestratorFd : Int32 := -1
  poolRunning : Bool := false
  forking : Nat := 0
  announcing : Nat := 0
  vllmPid : Int32 := -1
  children : List Int32 := []
  state : NodeState := .starting
  running : Bool := false

/-- `advance` is a step of the main thread that depends on nothing outside. -/
inductive ProcessAction where
  | start (listens : Bool)
  | initializeEngine (answers : DriverAnswers)
  | connect (fd : Option Int32) (added : Bool)
  | advance
  | poll (polled : Option (List RecvCompletion)) (replenished : Bool)
  | handleMembers
  | fork (server : ServerAnswers)
  | announce

def ProcessAction.isPoll : ProcessAction → Bool
  | .poll _ _ => true
  | _ => false

/-! ## The engine has no bindings -/

namespace EngineResources

theorem bindings_openIbDevice
    (engine : EngineResources) (answers : DriverAnswers) :
    (engine.openIbDevice answers).2.bindings = engine.bindings := by
  unfold openIbDevice
  repeat' split
  all_goals rfl

theorem bindings_allocAndRegisterGpuMemory
    (engine : EngineResources) (config : EngineConfig)
    (answers : DriverAnswers) :
    (engine.allocAndRegisterGpuMemory config answers).2.bindings =
      engine.bindings := by
  unfold allocAndRegisterGpuMemory allocAndRegisterGpuMem
    allocAndRegisterHostMemory
  repeat' split
  all_goals rfl

theorem bindings_createCqs
    (engine : EngineResources) (answers : DriverAnswers) :
    (engine.createCqs answers).2.bindings = engine.bindings := by
  unfold createCqs
  repeat' split
  all_goals rfl

theorem bindings_createPeerQps
    (answers : DriverAnswers) (peers : List ByteString)
    (engine : EngineResources) :
    (engine.createPeerQps answers peers).2.bindings = engine.bindings := by
  induction peers generalizing engine with
  | nil =>
      rfl
  | cons peerId rest inductionHypothesis =>
      have created :
          (engine.createQpForPeer answers peerId).2.bindings =
            engine.bindings := by
        unfold createQpForPeer
        repeat' split
        all_goals rfl
      unfold createPeerQps
      split
      · rename_i failed isFailed
        rw [isFailed] at created
        exact created
      · rename_i qp made isMade
        rw [isMade] at created
        rw [inductionHypothesis]
        exact created

theorem bindings_initializeEngine
    (engine : EngineResources) (config : EngineConfig)
    (answers : DriverAnswers) :
    (engine.initializeEngine config answers).2.bindings = engine.bindings := by
  have opening := engine.bindings_openIbDevice answers
  unfold initializeEngine
  split
  · rfl
  · split
    · rfl
    · split
      · rename_i failed isFailed
        rw [isFailed] at opening
        exact opening
      · rename_i opened isOpened
        rw [isOpened] at opening
        have registering :=
          opened.bindings_allocAndRegisterGpuMemory config answers
        split
        · rename_i failed isFailed
          rw [isFailed] at registering
          exact registering.trans opening
        · rename_i registered isRegistered
          rw [isRegistered] at registering
          have polling := registered.bindings_createCqs answers
          split
          · rename_i failed isFailed
            rw [isFailed] at polling
            exact polling.trans (registering.trans opening)
          · rename_i ready isReady
            rw [isReady] at polling
            have connecting :=
              ready.bindings_createPeerQps answers config.peers
            split
            · rename_i failed isFailed
              rw [isFailed] at connecting
              exact
                connecting.trans (polling.trans (registering.trans opening))
            · rename_i connectable isConnectable
              rw [isConnectable] at connecting
              exact
                connecting.trans (polling.trans (registering.trans opening))

end EngineResources

namespace NodeProcess

/-! ## The main thread -/

/-- The memory is checked and the server bound. -/
def start (config : ProcessConfig) (listens : Bool) (process : NodeProcess) :
    Option NodeProcess :=
  match process.main with
  | .created =>
      if config.node.memory.kvBufferMb < config.node.memory.requiredMb then
        some { process with main := .returned false }
      else if listens then
        some { process with main := .bound }
      else
        some { process with main := .returned false }
  | _ => none

def initializeEngine
    (config : ProcessConfig) (answers : DriverAnswers)
    (process : NodeProcess) : Option NodeProcess :=
  match process.main with
  | .setup =>
      if config.node.useGpu then
        let result :=
          process.resources.initializeEngine config.engine answers
        some
          { process with
            resources := result.2
            main := if result.1 then .connecting else .draining false }
      else
        some { process with main := .connecting }
  | _ => none

/-- `connect_to_orchestrator`; a descriptor is not negative. -/
def connect
    (fd : Option Int32) (added : Bool) (process : NodeProcess) :
    Option NodeProcess :=
  match process.main, fd with
  | .connecting, none => some { process with main := .closing false }
  | .connecting, some fd =>
      if 0 ≤ fd then
        some
          { process with
            orchestratorFd := fd
            main := if added then .registering else .closing false }
      else
        none
  | _, _ => none

/-- `kill` and `waitpid`. -/
def terminateVllm (process : NodeProcess) : NodeProcess :=
  if 0 < process.vllmPid then
    { process with children := process.children.erase process.vllmPid }
  else
    process

def spawnPollThread (config : ProcessConfig) (process : NodeProcess) :
    NodeProcess :=
  if config.isDecode then
    { process with
      pollRunning := true
      pollThread := .testing
      joinable := true }
  else
    process

/-- `join` returns when the thread has; the destructor of a thread that can be
joined ends the process. -/
def advance (config : ProcessConfig) (process : NodeProcess) :
    Option NodeProcess :=
  match process.main with
  | .bound => some { process with poolRunning := true, main := .setup }
  | .registering =>
      some
        { process with
          main :=
            if process.orchestratorFd < 0 then .closing false else .spawning }
  | .spawning =>
      some { process.spawnPollThread config with main := .storing }
  | .storing =>
      some
        { process with
          state := .waitingForOrchestratorBroadcast
          running := true
          main := .online }
  | .online => some { process with main := .terminating }
  | .terminating => some { process.terminateVllm with main := .stopping }
  | .stopping =>
      if config.isDecode && process.pollRunning then
        some
          { process with
            state := .stopped
            pollRunning := false
            main := .joining }
      else
        some { process with state := .stopped, main := .closing true }
  | .joining =>
      if process.pollThread = .returned then
        some { process with joinable := false, main := .closing true }
      else
        none
  | .closing started =>
      some
        { process with
          resources := process.resources.shutdown config.engine
          main := .draining started }
  | .draining started =>
      if process.forking = 0 ∧ process.announcing = 0 then
        some
          { process with
            poolRunning := false
            running := false
            main := .returned started }
      else
        none
  | .returned _ =>
      some
        { process with
          main := if process.joinable then .aborted else .destroyed }
  | .created | .setup | .connecting | .destroyed | .aborted => none

/-! ## The other threads -/

/-- Nothing is polled without a completion queue. -/
def pollRecvCq
    (polled : Option (List RecvCompletion)) (replenished : Bool)
    (process : NodeProcess) : RDMAEngine :=
  match process.resources.rdmaCtx.recvCq with
  | none => process.poller
  | some _ => (process.poller.pollRecvCq polled replenished).2

/-- The next section of `rdma_poll_loop`. -/
def poll
    (polled : Option (List RecvCompletion)) (replenished : Bool)
    (process : NodeProcess) : Option NodeProcess :=
  match process.pollThread with
  | .testing =>
      some
        { process with
          pollThread := if process.pollRunning then .checking else .returned }
  | .checking =>
      if process.poller.rdmaFatalError then
        some { process with pollRunning := false, pollThread := .returned }
      else
        some { process with pollThread := .polling }
  | .polling =>
      some
        { process with
          poller := process.pollRecvCq polled replenished
          pollThread := .testing }
  | .absent | .returned => none

def handleMembers (process : NodeProcess) : Option NodeProcess :=
  if process.poolRunning then
    some { process with forking := process.forking + 1 }
  else
    none

/-- `start_vllm_server`; a new process has a number of its own. -/
def fork (config : ProcessConfig) (server : ServerAnswers)
    (process : NodeProcess) : Option NodeProcess :=
  match process.forking with
  | 0 => none
  | others + 1 =>
      let attempted := startVllmServer config.node.useGpu server process.vllmPid
      let moved :=
        { process with
          forking := others
          announcing := process.announcing + 1
          vllmPid := attempted.2 }
      if attempted.1 then
        if 0 < server.forked ∧ server.forked ∉ process.children then
          some { moved with children := server.forked :: process.children }
        else
          none
      else
        some moved

def announce (process : NodeProcess) : Option NodeProcess :=
  match process.announcing with
  | 0 => none
  | others + 1 =>
      some { process with announcing := others, state := .running }

def step (config : ProcessConfig) (process : NodeProcess) :
    ProcessAction → Option NodeProcess
  | .start listens => process.start config listens
  | .initializeEngine answers => process.initializeEngine config answers
  | .connect fd added => process.connect fd added
  | .advance => process.advance config
  | .poll polled replenished => process.poll polled replenished
  | .handleMembers => process.handleMembers
  | .fork server => process.fork config server
  | .announce => process.announce

/-! ## What a step changes -/

variable {config : ProcessConfig} {process next : NodeProcess}
  {action : ProcessAction}

structure SamePoll (process next : NodeProcess) : Prop where
  thread : next.pollThread = process.pollThread
  running : next.pollRunning = process.pollRunning
  joinable : next.joinable = process.joinable

/-- What a step means for the main thread and the poll thread. -/
inductive Moved (config : ProcessConfig) (process next : NodeProcess) :
    ProcessAction → Prop where
  | worked {action : ProcessAction}
      (notPoll : action.isPoll = false)
      (same : SamePoll process next)
      (main : next.main = process.main) :
      Moved config process next action
  | began {action : ProcessAction}
      (same : SamePoll process next)
      (starting : process.main.isStarting = true)
      (later : next.main.endsThread = false) :
      Moved config process next action
  | spawned (isDecode : config.isDecode = true)
      (starting : process.main.isStarting = true)
      (main : next.main = .storing)
      (thread : next.pollThread = .testing)
      (running : next.pollRunning = true)
      (joinable : next.joinable = true) :
      Moved config process next .advance
  | served
      (same : SamePoll process next)
      (serving : process.main.isServing = true)
      (later : next.main.isServing = true) :
      Moved config process next .advance
  | unsignalled
      (same : SamePoll process next)
      (serving : process.main.isServing = true)
      (idle : config.isDecode = false ∨ process.pollRunning = false)
      (main : next.main = .closing true) :
      Moved config process next .advance
  | signalled
      (serving : process.main.isServing = true)
      (running : process.pollRunning = true)
      (main : next.main = .joining)
      (thread : next.pollThread = process.pollThread)
      (cleared : next.pollRunning = false)
      (joinable : next.joinable = process.joinable) :
      Moved config process next .advance
  | joined
      (joining : process.main = .joining)
      (returned : process.pollThread = .returned)
      (main : next.main = .closing true)
      (thread : next.pollThread = process.pollThread)
      (running : next.pollRunning = process.pollRunning)
      (joinable : next.joinable = false) :
      Moved config process next .advance
  | closed
      (same : SamePoll process next)
      (closing : process.main.isClosing = true)
      (later : next.main.isClosing = true)
      (destroyed : next.main = .destroyed → process.joinable = false)
      (aborted : next.main = .aborted → process.joinable = true) :
      Moved config process next .advance
  | tested (polled : Option (List RecvCompletion)) (replenished : Bool)
      (main : next.main = process.main)
      (testing : process.pollThread = .testing)
      (thread :
        next.pollThread =
          if process.pollRunning then .checking else .returned)
      (running : next.pollRunning = process.pollRunning)
      (joinable : next.joinable = process.joinable) :
      Moved config process next (.poll polled replenished)
  | gaveUp (polled : Option (List RecvCompletion)) (replenished : Bool)
      (main : next.main = process.main)
      (checking : process.pollThread = .checking)
      (fatal : process.poller.rdmaFatalError = true)
      (thread : next.pollThread = .returned)
      (running : next.pollRunning = false)
      (joinable : next.joinable = process.joinable) :
      Moved config process next (.poll polled replenished)
  | wentOn (polled : Option (List RecvCompletion)) (replenished : Bool)
      (main : next.main = process.main)
      (thread :
        process.pollThread = .checking ∧
            process.poller.rdmaFatalError = false ∧
            next.pollThread = .polling ∨
          process.pollThread = .polling ∧ next.pollThread = .testing)
      (running : next.pollRunning = process.pollRunning)
      (joinable : next.joinable = process.joinable) :
      Moved config process next (.poll polled replenished)

theorem moved_start
    {listens : Bool} (taken : process.start config listens = some next) :
    Moved config process next (.start listens) := by
  unfold start at taken
  split at taken
  · rename_i created
    have starting : process.main.isStarting = true := by rw [created]; rfl
    split at taken
    · cases taken
      exact .began ⟨rfl, rfl, rfl⟩ starting rfl
    · split at taken <;> cases taken <;>
        exact .began ⟨rfl, rfl, rfl⟩ starting rfl
  · cases taken

theorem moved_initializeEngine
    {answers : DriverAnswers}
    (taken : process.initializeEngine config answers = some next) :
    Moved config process next (.initializeEngine answers) := by
  unfold initializeEngine at taken
  split at taken
  · rename_i setup
    have starting : process.main.isStarting = true := by rw [setup]; rfl
    split at taken
    · cases taken
      refine .began ⟨rfl, rfl, rfl⟩ starting ?_
      dsimp only
      split <;> rfl
    · cases taken
      exact .began ⟨rfl, rfl, rfl⟩ starting rfl
  · cases taken

theorem moved_connect
    {fd : Option Int32} {added : Bool}
    (taken : process.connect fd added = some next) :
    Moved config process next (.connect fd added) := by
  unfold connect at taken
  split at taken
  · rename_i connecting
    have starting : process.main.isStarting = true := by rw [connecting]; rfl
    cases taken
    exact .began ⟨rfl, rfl, rfl⟩ starting rfl
  · rename_i connecting
    have starting : process.main.isStarting = true := by rw [connecting]; rfl
    split at taken
    · cases taken
      refine .began ⟨rfl, rfl, rfl⟩ starting ?_
      dsimp only
      split <;> rfl
    · cases taken
  · cases taken

theorem samePoll_terminateVllm (process : NodeProcess) (main : MainThread) :
    SamePoll process { process.terminateVllm with main := main } := by
  unfold terminateVllm
  split <;> exact ⟨rfl, rfl, rfl⟩

theorem moved_advance (taken : process.advance config = some next) :
    Moved config process next .advance := by
  unfold advance at taken
  split at taken <;> rename_i main
  · have starting : process.main.isStarting = true := by rw [main]; rfl
    cases taken
    exact .began ⟨rfl, rfl, rfl⟩ starting rfl
  · have starting : process.main.isStarting = true := by rw [main]; rfl
    cases taken
    refine .began ⟨rfl, rfl, rfl⟩ starting ?_
    dsimp only
    split <;> rfl
  · have starting : process.main.isStarting = true := by rw [main]; rfl
    cases taken
    unfold spawnPollThread
    by_cases isDecode : config.isDecode = true
    · rw [if_pos isDecode]
      exact .spawned isDecode starting rfl rfl rfl rfl
    · rw [if_neg isDecode]
      exact .began ⟨rfl, rfl, rfl⟩ starting rfl
  · cases taken
    exact .served ⟨rfl, rfl, rfl⟩ (by rw [main]; rfl) rfl
  · cases taken
    exact .served ⟨rfl, rfl, rfl⟩ (by rw [main]; rfl) rfl
  · cases taken
    exact .served (samePoll_terminateVllm process _) (by rw [main]; rfl) rfl
  · have serving : process.main.isServing = true := by rw [main]; rfl
    split at taken
    · rename_i signals
      obtain ⟨_, running⟩ := Bool.and_eq_true_iff.mp signals
      cases taken
      exact .signalled serving running rfl rfl rfl rfl
    · rename_i unsignalled
      cases taken
      refine .unsignalled ⟨rfl, rfl, rfl⟩ serving ?_ rfl
      simpa only [Bool.and_eq_true, not_and_or, Bool.not_eq_true]
        using unsignalled
  · split at taken
    · rename_i returned
      cases taken
      exact .joined main returned rfl rfl rfl rfl
    · cases taken
  · cases taken
    exact .closed ⟨rfl, rfl, rfl⟩ (by rw [main]; rfl) rfl (by simp) (by simp)
  · split at taken
    · cases taken
      exact
        .closed ⟨rfl, rfl, rfl⟩ (by rw [main]; rfl) rfl (by simp) (by simp)
    · cases taken
  · cases taken
    cases joinable : process.joinable with
    | true =>
        exact
          .closed ⟨rfl, rfl, joinable.symm⟩ (by rw [main]; rfl) rfl (by simp)
            (fun _ => joinable)
    | false =>
        exact
          .closed ⟨rfl, rfl, joinable.symm⟩ (by rw [main]; rfl) rfl
            (fun _ => joinable) (by simp)
  · cases taken
  · cases taken
  · cases taken
  · cases taken
  · cases taken

theorem moved_poll
    {polled : Option (List RecvCompletion)} {replenished : Bool}
    (taken : process.poll polled replenished = some next) :
    Moved config process next (.poll polled replenished) := by
  unfold poll at taken
  split at taken <;> rename_i thread
  · cases taken
    exact .tested _ _ rfl thread rfl rfl rfl
  · split at taken
    · rename_i fatal
      cases taken
      exact .gaveUp _ _ rfl thread fatal rfl rfl rfl
    · rename_i usable
      cases taken
      have notFatal : process.poller.rdmaFatalError = false :=
        Bool.not_eq_true _ ▸ usable
      exact .wentOn _ _ rfl (Or.inl ⟨thread, notFatal, rfl⟩) rfl rfl
  · cases taken
    exact .wentOn _ _ rfl (Or.inr ⟨thread, rfl⟩) rfl rfl
  · cases taken
  · cases taken

theorem moved_fork
    {server : ServerAnswers} (taken : process.fork config server = some next) :
    Moved config process next (.fork server) := by
  unfold fork at taken
  split at taken
  · cases taken
  · dsimp only at taken
    split at taken
    · split at taken
      · cases taken
        exact .worked rfl ⟨rfl, rfl, rfl⟩ rfl
      · cases taken
    · cases taken
      exact .worked rfl ⟨rfl, rfl, rfl⟩ rfl

theorem moved_of_step (taken : process.step config action = some next) :
    Moved config process next action := by
  cases action with
  | start listens =>
      exact moved_start taken
  | initializeEngine answers =>
      exact moved_initializeEngine taken
  | connect fd added =>
      exact moved_connect taken
  | advance =>
      exact moved_advance taken
  | poll polled replenished =>
      exact moved_poll taken
  | handleMembers =>
      simp only [step, handleMembers] at taken
      split at taken
      · cases taken
        exact .worked rfl ⟨rfl, rfl, rfl⟩ rfl
      · cases taken
  | fork server =>
      exact moved_fork taken
  | announce =>
      simp only [step, announce] at taken
      split at taken
      · cases taken
      · cases taken
        exact .worked rfl ⟨rfl, rfl, rfl⟩ rfl

/-! ## The poll thread -/

/-- Only a decode node that is serving polls; otherwise the thread is not there, or
has ended, or the main thread waits for it. -/
structure PollOrder (config : ProcessConfig) (process : NodeProcess) : Prop where
  starting :
    process.main.isStarting = true →
      process.pollThread = .absent ∧ process.joinable = false ∧
        process.pollRunning = false
  running :
    process.pollRunning = true →
      config.isDecode = true ∧ process.main.isServing = true
  idle :
    process.pollRunning = false → process.main ≠ .joining →
      process.pollThread.isIdle = true
  present :
    process.pollRunning = true ∨ process.main = .joining →
      process.pollThread ≠ .absent

theorem isServing_of_closing
    {main : MainThread} (closing : main.isClosing = true) :
    main.isServing = false ∧ main.isStarting = false ∧ main ≠ .joining := by
  cases main <;> simp_all [MainThread.isStarting, MainThread.isServing,
    MainThread.isClosing]

theorem isStarting_of_serving
    {main : MainThread} (serving : main.isServing = true) :
    main.isStarting = false ∧ main.isClosing = false ∧ main ≠ .joining := by
  cases main <;> simp_all [MainThread.isStarting, MainThread.isServing,
    MainThread.isClosing]

/-- Nothing runs, whatever the main thread goes on with. -/
theorem PollOrder.of_idle
    (idle : next.pollThread.isIdle = true) (running : next.pollRunning = false)
    (starting :
      next.main.isStarting = true →
        next.pollThread = .absent ∧ next.joinable = false)
    (notJoining : next.main ≠ .joining) :
    PollOrder config next where
  starting isStarting :=
    ⟨(starting isStarting).1, (starting isStarting).2, running⟩
  running isRunning := by
    rw [running] at isRunning
    cases isRunning
  idle _ _ := idle
  present waits := by
    rcases waits with isRunning | joining
    · rw [running] at isRunning
      cases isRunning
    · exact absurd joining notJoining

theorem PollOrder.not_running
    (order : PollOrder config process)
    (notServing : process.main.isServing = false) :
    process.pollRunning = false := by
  by_contra isRunning
  have serving := (order.running (by simpa using isRunning)).2
  rw [notServing] at serving
  cases serving

theorem PollOrder.not_running_of_idle
    (order : PollOrder config process)
    (idle : config.isDecode = false ∨ process.pollRunning = false) :
    process.pollRunning = false := by
  rcases idle with notDecode | notRunning
  · by_contra isRunning
    have isDecode := (order.running (by simpa using isRunning)).1
    rw [notDecode] at isDecode
    cases isDecode
  · exact notRunning

/-- The thread and the flag are as they were, and so is what the main thread knows
of them. -/
theorem PollOrder.of_same
    (order : PollOrder config process) (same : SamePoll process next)
    (starting : next.main.isStarting = process.main.isStarting)
    (serving : next.main.isServing = process.main.isServing)
    (joining : next.main = .joining ↔ process.main = .joining) :
    PollOrder config next where
  starting isStarting := by
    rw [same.thread, same.joinable, same.running]
    exact order.starting (starting.symm.trans isStarting)
  running isRunning := by
    rw [serving]
    exact order.running (same.running.symm.trans isRunning)
  idle isIdle notJoining := by
    rw [same.thread]
    exact order.idle (same.running.symm.trans isIdle) (mt joining.mpr notJoining)
  present waits := by
    rw [same.running, joining] at waits
    rw [same.thread]
    exact order.present waits

/-- A section of the poll thread, after which it has ended or the flag is as it
was. -/
theorem PollOrder.of_busy
    (order : PollOrder config process) (main : next.main = process.main)
    (busy : process.pollThread.isIdle = false)
    (present : next.pollThread ≠ .absent)
    (running :
      next.pollRunning = process.pollRunning ∨
        next.pollRunning = false ∧ next.pollThread = .returned) :
    PollOrder config next := by
  have isRunning : next.pollRunning = true → process.pollRunning = true := by
    intro isRunning
    rcases running with same | ⟨cleared, _⟩
    · exact same.symm.trans isRunning
    · rw [cleared] at isRunning
      cases isRunning
  refine ⟨?_, ?_, ?_, fun _ => present⟩
  · intro starting
    rw [main] at starting
    rw [(order.starting starting).1] at busy
    cases busy
  · intro runs
    rw [main]
    exact order.running (isRunning runs)
  · intro notRunning notJoining
    rw [main] at notJoining
    rcases running with same | ⟨_, returned⟩
    · rw [order.idle (same.symm.trans notRunning) notJoining] at busy
      cases busy
    · rw [returned]
      rfl

theorem PollOrder.moved
    (order : PollOrder config process) (moved : Moved config process next action) :
    PollOrder config next := by
  cases moved with
  | worked _ same main =>
      apply order.of_same same <;> rw [main]
  | began same starting later =>
      obtain ⟨absent, notJoinable, notRunning⟩ := order.starting starting
      have stillAbsent := same.thread.trans absent
      apply PollOrder.of_idle _ (same.running.trans notRunning)
      · exact fun _ => ⟨stillAbsent, same.joinable.trans notJoinable⟩
      · intro joining
        rw [joining] at later
        cases later
      · rw [stillAbsent]
        rfl
  | spawned isDecode _ main thread running _ =>
      refine ⟨?_, ?_, ?_, ?_⟩
      · intro starting
        rw [main] at starting
        cases starting
      · intro _
        rw [main]
        exact ⟨isDecode, rfl⟩
      · intro notRunning
        rw [running] at notRunning
        cases notRunning
      · intro _
        rw [thread]
        exact PollThread.noConfusion
  | served same serving later =>
      obtain ⟨notStarting, _, notJoining⟩ := isStarting_of_serving serving
      obtain ⟨stillNotStarting, _, stillNotJoining⟩ :=
        isStarting_of_serving later
      apply order.of_same same
      · rw [notStarting, stillNotStarting]
      · rw [serving, later]
      · exact iff_of_false stillNotJoining notJoining
  | unsignalled same serving idle main =>
      have notRunning := order.not_running_of_idle idle
      have isIdle :=
        order.idle notRunning (isStarting_of_serving serving).2.2
      apply PollOrder.of_idle _ (same.running.trans notRunning)
      · rw [main]
        exact fun starting => Bool.noConfusion starting
      · rw [main]
        exact MainThread.noConfusion
      · rw [same.thread]
        exact isIdle
  | signalled _ running main thread cleared _ =>
      refine ⟨?_, ?_, ?_, ?_⟩
      · intro starting
        rw [main] at starting
        cases starting
      · intro isRunning
        rw [cleared] at isRunning
        cases isRunning
      · intro _ notJoining
        exact absurd main notJoining
      · intro _
        rw [thread]
        exact order.present (Or.inl running)
  | joined joining returned main thread running _ =>
      have notServing : process.main.isServing = false := by
        rw [joining]
        rfl
      apply PollOrder.of_idle _ (running.trans (order.not_running notServing))
      · rw [main]
        exact fun starting => Bool.noConfusion starting
      · rw [main]
        exact MainThread.noConfusion
      · rw [thread, returned]
        rfl
  | closed same closing later _ _ =>
      obtain ⟨notServing, notStarting, notJoining⟩ :=
        isServing_of_closing closing
      obtain ⟨stillNotServing, stillNotStarting, stillNotJoining⟩ :=
        isServing_of_closing later
      apply order.of_same same
      · rw [notStarting, stillNotStarting]
      · rw [notServing, stillNotServing]
      · exact iff_of_false stillNotJoining notJoining
  | tested _ _ main testing thread running _ =>
      apply order.of_busy main
      · rw [testing]
        rfl
      · rw [thread]
        split <;> exact PollThread.noConfusion
      · exact Or.inl running
  | gaveUp _ _ main checking _ thread running _ =>
      apply order.of_busy main
      · rw [checking]
        rfl
      · rw [thread]
        exact PollThread.noConfusion
      · exact Or.inr ⟨running, thread⟩
  | wentOn _ _ main thread running _ =>
      rcases thread with ⟨checking, _, polling⟩ | ⟨polling, testing⟩
      · apply order.of_busy main _ _ (Or.inl running)
        · rw [checking]
          rfl
        · rw [polling]
          exact PollThread.noConfusion
      · apply order.of_busy main _ _ (Or.inl running)
        · rw [polling]
          rfl
        · rw [testing]
          exact PollThread.noConfusion

theorem PollOrder.of_closing
    (order : PollOrder config process)
    (closing : process.main.isClosing = true) :
    process.pollThread.isIdle = true := by
  obtain ⟨notServing, _, notJoining⟩ := isServing_of_closing closing
  exact order.idle (order.not_running notServing) notJoining

/-- A thread that has not been started or has ended takes no step. -/
theorem poll_eq_none
    (idle : process.pollThread.isIdle = true)
    (polled : Option (List RecvCompletion)) (replenished : Bool) :
    process.poll polled replenished = none := by
  unfold poll
  cases thread : process.pollThread <;> simp_all [PollThread.isIdle]

theorem isClosing_of_moved
    (moved : Moved config process next action)
    (closing : process.main.isClosing = true) :
    next.main.isClosing = true := by
  obtain ⟨notServing, notStarting, notJoining⟩ := isServing_of_closing closing
  cases moved with
  | worked _ _ main | tested _ _ main | gaveUp _ _ main | wentOn _ _ main =>
      rw [main]
      exact closing
  | began _ starting | spawned _ starting =>
      rw [notStarting] at starting
      cases starting
  | served _ serving | unsignalled _ serving | signalled serving =>
      rw [notServing] at serving
      cases serving
  | joined joining =>
      exact absurd joining notJoining
  | closed _ _ later =>
      exact later

/-! ## The engine -/

/-- What a step does to the engine. -/
inductive ResourceStep (config : ProcessConfig) (process next : NodeProcess) :
    ProcessAction → Prop where
  | kept {action : ProcessAction}
      (resources : next.resources = process.resources)
      (stage : next.main.stage = process.main.stage) :
      ResourceStep config process next action
  | refused (listens : Bool)
      (resources : next.resources = process.resources)
      (created : process.main = .created)
      (main : next.main = .returned false) :
      ResourceStep config process next (.start listens)
  | withoutGpu (answers : DriverAnswers)
      (resources : next.resources = process.resources)
      (setup : process.main = .setup)
      (useGpu : config.node.useGpu = false)
      (main : next.main = .connecting) :
      ResourceStep config process next (.initializeEngine answers)
  | attempted (answers : DriverAnswers)
      (setup : process.main = .setup)
      (useGpu : config.node.useGpu = true)
      (resources :
        next.resources =
          (process.resources.initializeEngine config.engine answers).2)
      (main :
        next.main =
          if (process.resources.initializeEngine config.engine answers).1 then
            .connecting
          else
            .draining false) :
      ResourceStep config process next (.initializeEngine answers)
  | shut
      (closing : process.main.stage = .equipped)
      (resources : next.resources = process.resources.shutdown config.engine)
      (main : next.main.stage = .released) :
      ResourceStep config process next .advance

theorem resourceStep_advance (taken : process.advance config = some next) :
    ResourceStep config process next .advance := by
  unfold advance at taken
  split at taken <;> rename_i main
  · cases taken
    exact .kept rfl (by rw [main]; rfl)
  · cases taken
    refine .kept rfl ?_
    rw [main]
    dsimp only
    split <;> rfl
  · cases taken
    refine .kept ?_ (by rw [main]; rfl)
    unfold spawnPollThread
    split <;> rfl
  · cases taken
    exact .kept rfl (by rw [main]; rfl)
  · cases taken
    exact .kept rfl (by rw [main]; rfl)
  · cases taken
    refine .kept ?_ (by rw [main]; rfl)
    unfold terminateVllm
    split <;> rfl
  · split at taken <;> cases taken <;>
      exact .kept rfl (by rw [main]; rfl)
  · split at taken <;> cases taken
    exact .kept rfl (by rw [main]; rfl)
  · cases taken
    exact .shut (by rw [main]; rfl) rfl rfl
  · split at taken <;> cases taken
    exact .kept rfl (by rw [main]; rfl)
  · cases taken
    refine .kept rfl ?_
    rw [main]
    dsimp only
    split <;> rfl
  all_goals cases taken

theorem resourceStep_of_step (taken : process.step config action = some next) :
    ResourceStep config process next action := by
  cases action with
  | start listens =>
      simp only [step, start] at taken
      split at taken
      · rename_i created
        split at taken
        · cases taken
          exact .refused listens rfl created rfl
        · split at taken <;> cases taken
          · exact .kept rfl (by rw [created]; rfl)
          · exact .refused _ rfl created rfl
      · cases taken
  | initializeEngine answers =>
      simp only [step, initializeEngine] at taken
      split at taken
      · rename_i setup
        split at taken
        · rename_i useGpu
          cases taken
          exact .attempted answers setup useGpu rfl rfl
        · rename_i cpu
          cases taken
          exact .withoutGpu answers rfl setup (by simpa using cpu) rfl
      · cases taken
  | connect fd added =>
      simp only [step, connect] at taken
      split at taken
      · rename_i connecting
        cases taken
        exact .kept rfl (by rw [connecting]; rfl)
      · rename_i connecting
        split at taken
        · cases taken
          refine .kept rfl ?_
          rw [connecting]
          dsimp only
          split <;> rfl
        · cases taken
      · cases taken
  | advance =>
      exact resourceStep_advance taken
  | poll polled replenished =>
      simp only [step, poll] at taken
      split at taken
      · cases taken
        exact .kept rfl rfl
      · split at taken <;> cases taken <;> exact .kept rfl rfl
      · cases taken
        exact .kept rfl rfl
      · cases taken
      · cases taken
  | handleMembers =>
      simp only [step, handleMembers] at taken
      split at taken <;> cases taken
      exact .kept rfl rfl
  | fork server =>
      simp only [step, fork] at taken
      split at taken
      · cases taken
      · split at taken
        · split at taken <;> cases taken
          exact .kept rfl rfl
        · cases taken
          exact .kept rfl rfl
  | announce =>
      simp only [step, announce] at taken
      split at taken <;> cases taken
      exact .kept rfl rfl

/-- The engine holds what there is, and nothing before its initialization or without
a GPU. -/
structure Equipped (config : ProcessConfig) (process : NodeProcess) : Prop where
  tracked : process.resources.Tracked config.engine
  bindings : process.resources.bindings = none
  unopened :
    process.main.stage = .unopened → process.resources.held config.engine = []
  equipped :
    process.main.stage = .equipped →
      process.resources.initialized = config.node.useGpu ∧
        (config.node.useGpu = false →
          process.resources.held config.engine = [])

theorem Equipped.attempted
    (equipped : Equipped config process)
    (nodup : config.engine.peers.Nodup) (setup : process.main = .setup)
    (answers : DriverAnswers) :
    EngineResources.Attempted config.engine
      (process.resources.initializeEngine config.engine answers) := by
  have unopened : process.main.stage = .unopened := by
    rw [setup]
    rfl
  exact
    equipped.tracked.initializeEngine answers (equipped.unopened unopened) nodup

theorem Equipped.shutdown
    (equipped : Equipped config process)
    (stage : process.main.stage = .equipped) :
    let closed := process.resources.shutdown config.engine
    closed.Tracked config.engine ∧ closed.bindings = none ∧
      closed.held config.engine = [] := by
  have noRegions : process.resources.regions = [] := by
    rw [EngineResources.regions, equipped.bindings]
    rfl
  obtain ⟨initialized, withoutGpu⟩ := equipped.equipped stage
  cases useGpu : config.node.useGpu with
  | true =>
      rw [useGpu] at initialized
      obtain ⟨tracked, nothing⟩ :=
        equipped.tracked.shutdown initialized noRegions
      refine ⟨tracked, ?_, nothing⟩
      rw [EngineResources.shutdown, initialized]
      exact equipped.bindings
  | false =>
      rw [useGpu] at initialized
      rw [EngineResources.shutdown, initialized]
      exact ⟨equipped.tracked, equipped.bindings, withoutGpu useGpu⟩

theorem Equipped.step
    (nodup : config.engine.peers.Nodup) (equipped : Equipped config process)
    (stepped : ResourceStep config process next action) :
    Equipped config next := by
  cases stepped with
  | kept resources stage =>
      constructor
      · rw [resources]
        exact equipped.tracked
      · rw [resources]
        exact equipped.bindings
      · rw [resources, stage]
        exact equipped.unopened
      · rw [resources, stage]
        exact equipped.equipped
  | refused _ resources created main =>
      constructor
      · rw [resources]
        exact equipped.tracked
      · rw [resources]
        exact equipped.bindings
      · rw [main]
        exact MainThread.Stage.noConfusion
      · rw [main]
        exact MainThread.Stage.noConfusion
  | withoutGpu _ resources setup useGpu main =>
      have nothing : process.resources.held config.engine = [] :=
        equipped.unopened (by rw [setup]; rfl)
      constructor
      · rw [resources]
        exact equipped.tracked
      · rw [resources]
        exact equipped.bindings
      · rw [main]
        exact MainThread.Stage.noConfusion
      · intro _
        rw [resources, useGpu]
        exact ⟨(equipped.tracked.bare nothing).initialized, fun _ => nothing⟩
  | attempted answers setup useGpu resources main =>
      have attempted := equipped.attempted nodup setup answers
      constructor
      · rw [resources]
        exact attempted.tracked
      · rw [resources, EngineResources.bindings_initializeEngine]
        exact equipped.bindings
      · rw [main]
        split <;> exact MainThread.Stage.noConfusion
      · rw [main, resources, attempted.initialized, useGpu]
        split
        · rename_i succeeded
          exact fun _ => ⟨succeeded, Bool.noConfusion⟩
        · exact MainThread.Stage.noConfusion
  | shut closing resources main =>
      obtain ⟨tracked, bindings, _⟩ := equipped.shutdown closing
      constructor
      · rw [resources]
        exact tracked
      · rw [resources]
        exact bindings
      · rw [main]
        exact MainThread.Stage.noConfusion
      · rw [main]
        exact MainThread.Stage.noConfusion

/-! ## Runs -/

/-- A node that has been constructed. -/
def new (poller : RDMAEngine) : NodeProcess where
  poller := poller

theorem pollOrder_new (poller : RDMAEngine) : PollOrder config (new poller) where
  starting _ := ⟨rfl, rfl, rfl⟩
  running isRunning := Bool.noConfusion isRunning
  idle _ _ := rfl
  present waits := by
    rcases waits with isRunning | joining
    · cases isRunning
    · cases joining

theorem equipped_new (poller : RDMAEngine) : Equipped config (new poller) where
  tracked := EngineResources.tracked_start
  bindings := rfl
  unopened _ := by
    simp [new, EngineResources.held, EngineResources.queuePairs,
      EngineResources.inContext, EngineResources.inBindings,
      EngineResources.regions, pointer]
  equipped stage := by cases stage

theorem pollOrder_of_execute
    {poller : RDMAEngine} {actions : List ProcessAction}
    (run : execute (step config) (new poller) actions = some process) :
    PollOrder config process :=
  invariant_of_execute
    (fun _ _ _ taken order => order.moved (moved_of_step taken)) run
    (pollOrder_new poller)

theorem equipped_of_execute
    {poller : RDMAEngine} {actions : List ProcessAction}
    (nodup : config.engine.peers.Nodup)
    (run : execute (step config) (new poller) actions = some process) :
    Equipped config process :=
  invariant_of_execute
    (fun _ _ _ taken equipped =>
      equipped.step nodup (resourceStep_of_step taken))
    run (equipped_new poller)

theorem stage_of_busy
    (order : PollOrder config process)
    (busy : process.pollThread.isIdle = false) :
    process.main.stage = .equipped := by
  by_cases joining : process.main = .joining
  · rw [joining]
    rfl
  · have running : process.pollRunning = true := by
      by_contra notRunning
      have idle := order.idle (by simpa using notRunning) joining
      rw [busy] at idle
      cases idle
    have serving := (order.running running).2
    cases main : process.main <;> rw [main] at serving <;>
      simp_all [MainThread.isServing, MainThread.stage]

/-- Once the engine is being shut down the thread takes no step. -/
theorem PollOrder.not_isPoll
    (order : PollOrder config process)
    (closing : process.main.isClosing = true)
    {later : List ProcessAction} {final : NodeProcess}
    (run : execute (step config) process later = some final) :
    ∀ action ∈ later, action.isPoll = false := by
  induction later generalizing process with
  | nil =>
      exact List.forall_mem_nil _
  | cons first rest inductionHypothesis =>
      obtain ⟨next, taken, remaining⟩ := execute_cons_eq_some run
      have moved := moved_of_step taken
      refine List.forall_mem_cons.mpr ⟨?_, ?_⟩
      · cases first with
        | poll polled replenished =>
            have idle := order.of_closing closing
            rw [step, poll_eq_none idle] at taken
            cases taken
        | _ =>
            rfl
      · exact
          inductionHypothesis (order.moved moved)
            (isClosing_of_moved moved closing) remaining

/-- The thread polls an engine that is initialized, if it ever is, and a completion
queue that is there; and when the engine is being shut down it has left its loop and
polls no more. -/
theorem polls_reach_live_queue
    {poller : RDMAEngine} {actions : List ProcessAction}
    (nodup : config.engine.peers.Nodup)
    (run : execute (step config) (new poller) actions = some process) :
    (process.pollThread = .polling →
        process.resources.initialized = config.node.useGpu ∧
          ∀ number, process.resources.rdmaCtx.recvCq = some number →
            ⟨.completionQueue, number⟩ ∈ process.resources.ledger.handles) ∧
      (process.main.isClosing = true →
        process.pollThread.isIdle = true ∧
          ∀ later final,
            execute (step config) process later = some final →
              ∀ action ∈ later, action.isPoll = false) := by
  have order := pollOrder_of_execute run
  have equipped := equipped_of_execute nodup run
  constructor
  · intro polling
    have busy : process.pollThread.isIdle = false := by
      rw [polling]
      rfl
    refine ⟨(equipped.equipped (stage_of_busy order busy)).1, ?_⟩
    intro number recvCq
    rw [equipped.tracked.handles.mem_iff]
    simp [EngineResources.held, EngineResources.inContext, pointer, recvCq]
  · intro closing
    refine ⟨order.of_closing closing, ?_⟩
    intro later final continued
    exact order.not_isPoll closing continued

/-! ### A decode node -/

def sampleConfig : ProcessConfig where
  node :=
    { nodeId := .ofText "decode-1"
      role := .ofText "decode"
      numLayers := 1
      memory := {}
      prefillNodes := [.ofText "prefill-1"]
      decodeNodes := [.ofText "decode-1"] }
  gpuDirect := true

/-- One more failure to post receive work requests is fatal. -/
def samplePoller : RDMAEngine where
  kvBufferMb := 1
  hostOrder := .littleEndian
  mem := ⟨1024, 7, 4096⟩
  qmaps := []
  recvWrReplenishFailures := 4

theorem sampleConfig_peers_nodup : sampleConfig.engine.peers.Nodup := by
  decide +kernel

/-- The node starts. -/
def sampleStart : List ProcessAction :=
  [.start true, .advance, .initializeEngine {}, .connect (some 7) true,
    .advance, .advance, .advance]

/-- The node shuts down while the thread polls. -/
def sampleShutdown : List ProcessAction :=
  sampleStart ++
    [.poll none false, .poll none false, .advance, .advance, .advance]

theorem polls_reach_live_queue_sampleShutdown :
    ∃ process,
      execute (step sampleConfig) (new samplePoller) sampleShutdown =
          some process ∧
        process.main = .joining ∧ process.pollThread = .polling ∧
        process.resources.initialized = true := by
  have reached :
      (execute (step sampleConfig) (new samplePoller) sampleShutdown).map
          (fun process => (process.main, process.pollThread)) =
        some (.joining, .polling) := by
    decide +kernel
  obtain ⟨process, run, same⟩ := Option.map_eq_some_iff.mp reached
  obtain ⟨joining, polling⟩ := Prod.mk.inj same
  have live := polls_reach_live_queue sampleConfig_peers_nodup run
  exact ⟨process, run, joining, polling, (live.1 polling).1⟩

end NodeProcess

end RdmaKvCache
