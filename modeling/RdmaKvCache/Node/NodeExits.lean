import RdmaKvCache.Node.Lifecycle

/-!
# How a node ends

`shutdown` joins the poll thread only if it still runs, and terminates the last vLLM
server that was forked before it looked.  So a node whose poll thread has ended by
itself is aborted, and a server that is forked beside another one, or later, is left
behind.
-/

namespace RdmaKvCache

open LabelledRuns ResourceLedgers

/-- How many sections the thread goes through once it is told to end. -/
def PollThread.remaining : PollThread → Nat
  | .absent | .returned => 0
  | .testing => 1
  | .polling => 2
  | .checking => 3

theorem PollThread.remaining_le (thread : PollThread) : thread.remaining ≤ 3 := by
  cases thread <;> simp [remaining]

namespace NodeProcess

variable {config : ProcessConfig} {process next : NodeProcess}
  {action : ProcessAction}

/-! ## Joining the poll thread -/

/-- The thread does not end by itself, unless the main thread already waits for
it. -/
def PollOutlasts (process : NodeProcess) (action : ProcessAction) : Prop :=
  action.isPoll = true → process.pollThread = .checking →
    process.poller.rdmaFatalError = true → process.main = .joining

instance (process : NodeProcess) (action : ProcessAction) :
    Decidable (process.PollOutlasts action) :=
  inferInstanceAs
    (Decidable
      (action.isPoll = true → process.pollThread = .checking →
        process.poller.rdmaFatalError = true → process.main = .joining))

/-- A thread that can be joined runs until it is. -/
structure Joins (config : ProcessConfig) (process : NodeProcess) : Prop where
  order : PollOrder config process
  joinable : process.pollRunning = true → process.joinable = true
  runs :
    process.joinable = true →
      process.pollRunning = true ∨ process.main = .joining
  alive : process.main ≠ .aborted

/-- The thread has ended and is never joined. -/
structure GaveUp (config : ProcessConfig) (process : NodeProcess) : Prop where
  order : PollOrder config process
  joinable : process.joinable = true
  stopped : process.pollRunning = false
  unjoined : process.main ≠ .joining
  undestroyed : process.main ≠ .destroyed

theorem Joins.not_joinable
    (joins : Joins config process) (notRunning : process.pollRunning = false)
    (notJoining : process.main ≠ .joining) :
    process.joinable = false := by
  by_contra joinable
  rcases joins.runs (by simpa using joinable) with running | joining
  · rw [notRunning] at running
    cases running
  · exact notJoining joining

theorem Joins.not_joinable_of_closing
    (joins : Joins config process) (closing : process.main.isClosing = true) :
    process.joinable = false := by
  obtain ⟨notServing, _, notJoining⟩ := isServing_of_closing closing
  exact joins.not_joinable (joins.order.not_running notServing) notJoining

theorem Joins.step
    (joins : Joins config process)
    (taken : process.step config action = some next)
    (outlasts : process.PollOutlasts action) :
    Joins config next := by
  have moved := moved_of_step taken
  have order := joins.order.moved moved
  cases moved with
  | worked _ same main =>
      refine ⟨order, ?_, ?_, ?_⟩
      · rw [same.running, same.joinable]
        exact joins.joinable
      · rw [same.running, same.joinable, main]
        exact joins.runs
      · rw [main]
        exact joins.alive
  | began same starting later =>
      obtain ⟨_, notJoinable, notRunning⟩ := joins.order.starting starting
      refine ⟨order, ?_, ?_, ?_⟩
      · rw [same.running, notRunning]
        exact Bool.noConfusion
      · rw [same.joinable, notJoinable]
        exact Bool.noConfusion
      · intro aborted
        rw [aborted] at later
        cases later
  | spawned isDecode _ main _ running joinable =>
      refine ⟨order, fun _ => joinable, fun _ => Or.inl running, ?_⟩
      rw [main]
      exact MainThread.noConfusion
  | served same serving later =>
      refine ⟨order, ?_, ?_, ?_⟩
      · rw [same.running, same.joinable]
        exact joins.joinable
      · rw [same.running, same.joinable]
        intro joinable
        rcases joins.runs joinable with running | joining
        · exact Or.inl running
        · exact absurd joining (isStarting_of_serving serving).2.2
      · intro aborted
        rw [aborted] at later
        cases later
  | unsignalled same serving idle main =>
      have notRunning := joins.order.not_running_of_idle idle
      have notJoinable :=
        joins.not_joinable notRunning (isStarting_of_serving serving).2.2
      refine ⟨order, ?_, ?_, ?_⟩
      · rw [same.running, notRunning]
        exact Bool.noConfusion
      · rw [same.joinable, notJoinable]
        exact Bool.noConfusion
      · rw [main]
        exact MainThread.noConfusion
  | signalled _ running main _ cleared joinable =>
      refine ⟨order, ?_, fun _ => Or.inr main, ?_⟩
      · rw [cleared]
        exact Bool.noConfusion
      · rw [main]
        exact MainThread.noConfusion
  | joined joining _ main _ running joinable =>
      have notServing : process.main.isServing = false := by
        rw [joining]
        rfl
      refine ⟨order, ?_, ?_, ?_⟩
      · rw [running, joins.order.not_running notServing]
        exact Bool.noConfusion
      · rw [joinable]
        exact Bool.noConfusion
      · rw [main]
        exact MainThread.noConfusion
  | closed same closing later _ aborted =>
      have notJoinable := joins.not_joinable_of_closing closing
      refine ⟨order, ?_, ?_, ?_⟩
      · rw [same.running, same.joinable]
        exact joins.joinable
      · rw [same.joinable, notJoinable]
        exact Bool.noConfusion
      · intro isAborted
        rw [aborted isAborted] at notJoinable
        cases notJoinable
  | tested _ _ main _ _ running joinable
  | wentOn _ _ main _ running joinable =>
      refine ⟨order, ?_, ?_, ?_⟩
      · rw [running, joinable]
        exact joins.joinable
      · rw [running, joinable, main]
        exact joins.runs
      · rw [main]
        exact joins.alive
  | gaveUp _ _ main checking fatal _ running joinable =>
      have joining := outlasts rfl checking fatal
      refine ⟨order, ?_, fun _ => Or.inr (main.trans joining), ?_⟩
      · rw [running]
        exact Bool.noConfusion
      · rw [main]
        exact joins.alive

/-- Without a thread that runs no step makes up for it. -/
theorem GaveUp.step
    (gaveUp : GaveUp config process)
    (taken : process.step config action = some next) :
    GaveUp config next := by
  have moved := moved_of_step taken
  have order := gaveUp.order.moved moved
  have stopped := gaveUp.stopped
  have idle := gaveUp.order.idle stopped gaveUp.unjoined
  cases moved with
  | worked _ same main =>
      refine
        ⟨order, same.joinable.trans gaveUp.joinable,
          same.running.trans stopped, ?_, ?_⟩
      · rw [main]
        exact gaveUp.unjoined
      · rw [main]
        exact gaveUp.undestroyed
  | began _ starting _ | spawned _ starting =>
      have notJoinable := (gaveUp.order.starting starting).2.1
      rw [gaveUp.joinable] at notJoinable
      cases notJoinable
  | served same _ later =>
      refine
        ⟨order, same.joinable.trans gaveUp.joinable,
          same.running.trans stopped, (isStarting_of_serving later).2.2, ?_⟩
      intro destroyed
      rw [destroyed] at later
      cases later
  | unsignalled same _ _ main =>
      refine
        ⟨order, same.joinable.trans gaveUp.joinable,
          same.running.trans stopped, ?_, ?_⟩ <;>
        rw [main] <;> exact MainThread.noConfusion
  | signalled _ running =>
      rw [stopped] at running
      cases running
  | joined joining =>
      exact absurd joining gaveUp.unjoined
  | closed same _ later destroyed _ =>
      refine
        ⟨order, same.joinable.trans gaveUp.joinable,
          same.running.trans stopped, (isServing_of_closing later).2.2, ?_⟩
      intro isDestroyed
      have notJoinable := destroyed isDestroyed
      rw [gaveUp.joinable] at notJoinable
      cases notJoinable
  | tested _ _ _ testing =>
      rw [testing] at idle
      cases idle
  | gaveUp _ _ _ checking =>
      rw [checking] at idle
      cases idle
  | wentOn _ _ _ thread =>
      rcases thread with ⟨checking, _⟩ | ⟨polling, _⟩
      · rw [checking] at idle
        cases idle
      · rw [polling] at idle
        cases idle

theorem Joins.gaveUp
    (joins : Joins config process)
    (taken : process.step config action = some next)
    (ends : ¬ process.PollOutlasts action) :
    GaveUp config next := by
  have order := joins.order.moved (moved_of_step taken)
  cases action with
  | poll polled replenished =>
      simp only [PollOutlasts, ProcessAction.isPoll, true_implies,
        Classical.not_imp] at ends
      obtain ⟨checking, fatal, notJoining⟩ := ends
      have running : process.pollRunning = true := by
        by_contra notRunning
        have idle := joins.order.idle (by simpa using notRunning) notJoining
        rw [checking] at idle
        cases idle
      have serving := (joins.order.running running).2
      simp only [NodeProcess.step, poll, checking, fatal, if_true,
        Option.some_inj] at taken
      subst next
      refine ⟨order, joins.joinable running, rfl, notJoining, ?_⟩
      intro destroyed
      rw [destroyed] at serving
      cases serving
  | _ =>
      exact absurd (fun isPoll => Bool.noConfusion isPoll) ends

theorem joins_new (poller : RDMAEngine) : Joins config (new poller) where
  order := pollOrder_new poller
  joinable running := Bool.noConfusion running
  runs joinable := Bool.noConfusion joinable
  alive := MainThread.noConfusion

/-- A node that ends is destroyed, and not aborted, exactly if its poll thread has
not ended by itself. -/
theorem node_exits_iff
    {poller : RDMAEngine} {actions : List ProcessAction}
    (run : execute (step config) (new poller) actions = some process)
    (ended : process.main = .destroyed ∨ process.main = .aborted) :
    process.main = .destroyed ↔
      Meets (step config) PollOutlasts (new poller) actions := by
  rcases
    meets_or_broken
      (fun _ _ _ taken outlasts joins => Joins.step joins taken outlasts)
      (fun _ _ _ taken ends joins => Joins.gaveUp joins taken ends)
      (fun _ _ _ taken gaveUp => GaveUp.step gaveUp taken)
      run (joins_new poller) with
    ⟨meets, joins⟩ | ⟨fails, gaveUp⟩
  · have destroyed := ended.resolve_right joins.alive
    exact iff_of_true destroyed meets
  · exact iff_of_false gaveUp.undestroyed fails

/-! ## Shutting down -/

/-- The thread finds the engine in a fatal state before the node is shut down. -/
def sampleFatal : List ProcessAction :=
  sampleStart ++
    [.poll none false, .poll none false,
      .poll (some [⟨true, [0, 0, 0, 0], 17, 64⟩]) false, .poll none false,
      .poll none false, .advance, .advance, .advance, .advance, .advance,
      .advance]

theorem node_exits_iff_sampleFatal :
    ∃ process,
      execute (step sampleConfig) (new samplePoller) sampleFatal =
          some process ∧
        process.main = .aborted ∧
        ¬ Meets (step sampleConfig) PollOutlasts (new samplePoller)
            sampleFatal := by
  have reached :
      (execute (step sampleConfig) (new samplePoller) sampleFatal).map
          NodeProcess.main =
        some .aborted := by
    decide +kernel
  obtain ⟨process, run, aborted⟩ := Option.map_eq_some_iff.mp reached
  have exits := node_exits_iff run (Or.inr aborted)
  refine ⟨process, run, aborted, mt exits.mpr ?_⟩
  rw [aborted]
  exact MainThread.noConfusion

/-- A step while the main thread waits for the poll thread. -/
theorem step_of_joining
    (order : PollOrder config process) (joining : process.main = .joining)
    (taken : process.step config action = some next) :
    next.main.isClosing = true ∨
      next.main = .joining ∧
        next.pollThread.remaining + action.isPoll.toNat ≤
          process.pollThread.remaining := by
  have notServing : process.main.isServing = false := by
    rw [joining]
    rfl
  have notRunning := order.not_running notServing
  cases moved_of_step taken with
  | worked notPoll same main =>
      refine Or.inr ⟨main.trans joining, ?_⟩
      rw [same.thread, notPoll]
      exact Nat.le_refl _
  | began _ starting | spawned _ starting =>
      rw [joining] at starting
      cases starting
  | served _ serving | unsignalled _ serving | signalled serving =>
      rw [notServing] at serving
      cases serving
  | joined _ _ main =>
      rw [main]
      exact Or.inl rfl
  | closed _ closing =>
      rw [joining] at closing
      cases closing
  | tested _ _ main testing thread =>
      refine Or.inr ⟨main.trans joining, ?_⟩
      rw [thread, testing, notRunning]
      rfl
  | gaveUp _ _ main checking _ thread =>
      refine Or.inr ⟨main.trans joining, ?_⟩
      simp [thread, checking, PollThread.remaining, ProcessAction.isPoll]
  | wentOn _ _ main thread =>
      refine Or.inr ⟨main.trans joining, ?_⟩
      rcases thread with ⟨checking, _, polling⟩ | ⟨polling, testing⟩
      · rw [checking, polling]
        rfl
      · rw [polling, testing]
        rfl

theorem countP_isPoll_le
    (order : PollOrder config process) (joining : process.main = .joining)
    {later : List ProcessAction} {final : NodeProcess}
    (run : execute (step config) process later = some final)
    (stillJoining : final.main = .joining) :
    later.countP ProcessAction.isPoll ≤ process.pollThread.remaining := by
  induction later generalizing process with
  | nil =>
      exact Nat.zero_le _
  | cons first rest inductionHypothesis =>
      obtain ⟨next, taken, remaining⟩ := execute_cons_eq_some run
      rcases step_of_joining order joining taken with
        closing | ⟨joiningNext, fewer⟩
      · have closed : final.main.isClosing = true :=
          invariant_of_execute
            (fun _ _ _ taken closing =>
              isClosing_of_moved (moved_of_step taken) closing)
            remaining closing
        rw [stillJoining] at closed
        cases closed
      · have few :=
          inductionHypothesis (order.moved (moved_of_step taken)) joiningNext
            remaining
        rw [List.countP_cons]
        cases isPoll : first.isPoll <;> simp [isPoll] at fewer ⊢ <;> omega

theorem poll_isSome
    (busy : process.pollThread.isIdle = false)
    (polled : Option (List RecvCompletion)) (replenished : Bool) :
    (process.poll polled replenished).isSome = true := by
  unfold poll
  split
  · rfl
  · split <;> rfl
  · rfl
  · rename_i absent
    rw [absent] at busy
    cases busy
  · rename_i returned
    rw [returned] at busy
    cases busy

/-- `start_vllm_server` gets as far as `fork`. -/
def attempts (config : ProcessConfig) (server : ServerAnswers) : Bool :=
  config.node.useGpu || (server.configOpened && server.configWritten)

theorem startVllmServer_eq
    (config : ProcessConfig) (server : ServerAnswers) (vllmPid : Int32) :
    startVllmServer config.node.useGpu server vllmPid =
      if attempts config server then
        (decide (0 ≤ server.forked), server.forked)
      else
        (false, vllmPid) :=
  rfl

/-- The operating system answers with the number of a new process or with an
error. -/
theorem fork_isSome
    {server : ServerAnswers} (forking : 0 < process.forking)
    (answers :
      server.forked < 0 ∨
        0 < server.forked ∧ server.forked ∉ process.children) :
    (process.fork config server).isSome = true := by
  unfold fork
  split
  · rename_i none
    rw [none] at forking
    cases forking
  · dsimp only
    rw [startVllmServer_eq]
    by_cases attempted : attempts config server = true
    · rw [if_pos attempted]
      rcases answers with negative | fresh
      · rw [decide_eq_false (Int32.not_le.mpr negative)]
        rfl
      · simp [fresh, Int32.le_of_lt]
    · rw [if_neg attempted]
      rfl

/-- `shutdown` waits for the poll thread, which goes through at most three sections
before it has returned, and for the workers, each of which can go on unless `fork`
gives a number that is taken; otherwise it goes on by itself. -/
theorem shutdown_goes_on
    {poller : RDMAEngine} {actions : List ProcessAction}
    (run : execute (step config) (new poller) actions = some process) :
    (process.main = .joining →
        (process.pollThread ≠ .returned →
            ∀ polled replenished,
              (process.step config (.poll polled replenished)).isSome = true) ∧
          (process.pollThread = .returned →
            (process.step config .advance).isSome = true) ∧
          ∀ later final,
            execute (step config) process later = some final →
              final.main = .joining →
                later.countP ProcessAction.isPoll ≤ 3) ∧
      (∀ started, process.main = .draining started →
        (0 < process.forking →
            ∀ server,
              (server.forked < 0 ∨
                  0 < server.forked ∧ server.forked ∉ process.children) →
                (process.step config (.fork server)).isSome = true) ∧
          (0 < process.announcing →
            (process.step config .announce).isSome = true) ∧
          (process.forking = 0 → process.announcing = 0 →
            (process.step config .advance).isSome = true)) ∧
      (process.main = .terminating ∨ process.main = .stopping ∨
          (∃ started, process.main = .closing started) →
        (process.step config .advance).isSome = true) := by
  have order := pollOrder_of_execute run
  refine ⟨?_, ?_, ?_⟩
  · intro joining
    refine ⟨?_, ?_, ?_⟩
    · intro notReturned polled replenished
      apply poll_isSome
      have present := order.present (Or.inr joining)
      cases thread : process.pollThread <;> simp_all [PollThread.isIdle]
    · intro returned
      simp only [step, advance, joining, returned, if_true]
      rfl
    · intro later final continued stillJoining
      have few := countP_isPoll_le order joining continued stillJoining
      have bounded := process.pollThread.remaining_le
      omega
  · intro started draining
    refine ⟨?_, ?_, ?_⟩
    · intro forking server answers
      exact fork_isSome forking answers
    · intro announcing
      obtain ⟨others, more⟩ := Nat.exists_eq_add_of_lt announcing
      simp only [step, announce]
      split <;> simp_all
    · intro forked announced
      simp only [step, advance, draining, forked, announced, and_self, if_true]
      rfl
  · rintro (terminating | stopping | ⟨started, closing⟩)
    · simp only [step, advance, terminating]
      rfl
    · simp only [step, advance, stopping]
      split <;> rfl
    · simp only [step, advance, closing]
      rfl

theorem shutdown_goes_on_sampleShutdown :
    ∃ process,
      execute (step sampleConfig) (new samplePoller) sampleShutdown =
          some process ∧
        process.main = .joining ∧
        ∀ later final,
          execute (step sampleConfig) process later = some final →
            final.main = .joining →
              later.countP ProcessAction.isPoll ≤ 3 := by
  have reached :
      (execute (step sampleConfig) (new samplePoller) sampleShutdown).map
          NodeProcess.main =
        some .joining := by
    decide +kernel
  obtain ⟨process, run, joining⟩ := Option.map_eq_some_iff.mp reached
  obtain ⟨waits, _⟩ := shutdown_goes_on run
  exact ⟨process, run, joining, (waits joining).2.2⟩

/-! ## Releasing what the engine holds -/

/-- An initialization that fails leaves no device open. -/
def SetsUp (config : ProcessConfig) (process : NodeProcess) :
    ProcessAction → Prop
  | .initializeEngine answers =>
      let result := process.resources.initializeEngine config.engine answers
      config.node.useGpu = true → result.1 = true ∨ result.2.rdmaCtx.ctx = none
  | _ => True

/-- The engine holds nothing any more. -/
structure Emptied (config : ProcessConfig) (process : NodeProcess) : Prop where
  equipped : Equipped config process
  nothing :
    process.main.stage = .released → process.resources.held config.engine = []

/-- What the engine holds is not released any more. -/
structure Leaking (config : ProcessConfig) (process : NodeProcess) : Prop where
  equipped : Equipped config process
  released : process.main.stage = .released
  something : process.resources.held config.engine ≠ []

theorem Emptied.step
    (nodup : config.engine.peers.Nodup) (emptied : Emptied config process)
    (taken : process.step config action = some next)
    (setsUp : process.SetsUp config action) :
    Emptied config next := by
  have stepped := resourceStep_of_step taken
  have equipped := emptied.equipped.step nodup stepped
  refine ⟨equipped, ?_⟩
  cases stepped with
  | kept resources stage =>
      rw [resources, stage]
      exact emptied.nothing
  | refused _ resources created _ =>
      intro _
      rw [resources]
      exact emptied.equipped.unopened (by rw [created]; rfl)
  | withoutGpu _ _ _ _ main =>
      rw [main]
      exact MainThread.Stage.noConfusion
  | attempted answers setup useGpu resources main =>
      have attempted := emptied.equipped.attempted nodup setup answers
      intro released
      rw [main] at released
      split at released
      · cases released
      · rename_i failed
        have failed := Bool.not_eq_true _ ▸ failed
        have noDevice := (setsUp useGpu).resolve_left (by simp [failed])
        rw [resources]
        exact (attempted.held failed).mpr noDevice
  | shut closing resources _ =>
      intro _
      rw [resources]
      exact (emptied.equipped.shutdown closing).2.2

theorem Emptied.leaking
    (nodup : config.engine.peers.Nodup) (emptied : Emptied config process)
    (taken : process.step config action = some next)
    (leaves : ¬ process.SetsUp config action) :
    Leaking config next := by
  have equipped := emptied.equipped.step nodup (resourceStep_of_step taken)
  cases action with
  | initializeEngine answers =>
      simp only [SetsUp, Classical.not_imp, not_or] at leaves
      obtain ⟨useGpu, failed, device⟩ := leaves
      have failed := Bool.not_eq_true _ ▸ failed
      simp only [NodeProcess.step, NodeProcess.initializeEngine, useGpu,
        if_true] at taken
      split at taken
      · rename_i setup
        have attempted := emptied.equipped.attempted nodup setup answers
        cases taken
        refine ⟨equipped, ?_, mt (attempted.held failed).mp device⟩
        simp only [failed]
        rfl
      · cases taken
  | _ =>
      exact absurd trivial leaves

theorem Leaking.step
    (nodup : config.engine.peers.Nodup) (leaking : Leaking config process)
    (taken : process.step config action = some next) :
    Leaking config next := by
  have stepped := resourceStep_of_step taken
  have equipped := leaking.equipped.step nodup stepped
  have released := leaking.released
  cases stepped with
  | kept resources stage =>
      refine ⟨equipped, stage.trans released, ?_⟩
      rw [resources]
      exact leaking.something
  | refused _ _ main | withoutGpu _ _ main | attempted _ main =>
      rw [main] at released
      cases released
  | shut closing =>
      rw [closing] at released
      cases released

theorem emptied_new (poller : RDMAEngine) : Emptied config (new poller) where
  equipped := equipped_new poller
  nothing released := by cases released

theorem stage_of_returned
    {main : MainThread} (returned : main.hasReturned = true) :
    main.stage = .released := by
  cases main <;> simp_all [MainThread.hasReturned, MainThread.stage]

/-- A node that has returned from `start` or `shutdown` for good leaves nothing of
the engine exactly if its initialization did not fail with the device open. -/
theorem node_releases_iff
    {poller : RDMAEngine} {actions : List ProcessAction}
    (nodup : config.engine.peers.Nodup)
    (run : execute (step config) (new poller) actions = some process)
    (returned : process.main.hasReturned = true) :
    process.resources.ledger.live = [] ↔
      Meets (step config) (SetsUp config) (new poller) actions := by
  rcases
    meets_or_broken
      (fun _ _ _ taken setsUp emptied => Emptied.step nodup emptied taken setsUp)
      (fun _ _ _ taken leaves emptied =>
        Emptied.leaking nodup emptied taken leaves)
      (fun _ _ _ taken leaking => Leaking.step nodup leaking taken)
      run (emptied_new poller) with
    ⟨meets, emptied⟩ | ⟨fails, leaking⟩
  · rw [EngineResources.live_eq_nil_iff emptied.equipped.tracked]
    exact iff_of_true (emptied.nothing (stage_of_returned returned)) meets
  · rw [EngineResources.live_eq_nil_iff leaking.equipped.tracked]
    exact iff_of_false leaking.something fails

/-- The receive completion queue is not created. -/
def sampleUnready : List ProcessAction :=
  [.start true, .advance, .initializeEngine { createsRecvCq := false },
    .advance]

theorem node_releases_iff_sampleUnready :
    ∃ process,
      execute (step sampleConfig) (new samplePoller) sampleUnready =
          some process ∧
        process.main = .returned false ∧
        process.resources.ledger.live.length = 5 ∧
        ¬ Meets (step sampleConfig) (SetsUp sampleConfig) (new samplePoller)
            sampleUnready := by
  have reached :
      (execute (step sampleConfig) (new samplePoller) sampleUnready).map
          (fun process =>
            (process.main, process.resources.ledger.live.length)) =
        some (.returned false, 5) := by
    decide +kernel
  obtain ⟨process, run, same⟩ := Option.map_eq_some_iff.mp reached
  obtain ⟨returned, live⟩ := Prod.mk.inj same
  have releases :=
    node_releases_iff sampleConfig_peers_nodup run (by rw [returned]; rfl)
  refine ⟨process, run, returned, live, mt releases.mpr ?_⟩
  intro nothing
  rw [nothing] at live
  cases live

/-! ## The vLLM servers -/

/-- The step ends a start that has failed. -/
def startFails (config : ProcessConfig) (process : NodeProcess) :
    ProcessAction → Bool
  | .start listens =>
      config.node.memory.kvBufferMb < config.node.memory.requiredMb || !listens
  | .initializeEngine answers =>
      config.node.useGpu &&
        !(process.resources.initializeEngine config.engine answers).1
  | .connect fd added => fd.isNone || !added
  | .advance =>
      process.main = .registering && decide (process.orchestratorFd < 0)
  | _ => false

/-- A server is forked while there is none, before `shutdown` has looked; and a node
does not fail to start when it has one. -/
def TendsVllm (config : ProcessConfig) (process : NodeProcess) :
    ProcessAction → Prop
  | .fork server =>
      attempts config server = true →
        process.children = [] ∧
          (process.main.mayTerminate = true ∨ server.forked < 0)
  | action =>
      process.startFails config action = true → process.children = []

/-- The only server is the one that `shutdown` will terminate. -/
structure Tended (process : NodeProcess) : Prop where
  children :
    process.children = [] ∨
      process.main.mayTerminate = true ∧ 0 < process.vllmPid ∧
        process.children = [process.vllmPid]

/-- A server that `shutdown` does not terminate. -/
def Stray (process : NodeProcess) : Prop :=
  ∃ pid ∈ process.children,
    0 < pid ∧
      (process.main.mayTerminate = false ∨ pid ≠ process.vllmPid)

inductive VllmStep (config : ProcessConfig) (process next : NodeProcess) :
    ProcessAction → Prop where
  | kept {action : ProcessAction}
      (tends : process.TendsVllm config action)
      (children : next.children = process.children)
      (vllmPid : next.vllmPid = process.vllmPid)
      (main : next.main.mayTerminate = process.main.mayTerminate) :
      VllmStep config process next action
  | failed {action : ProcessAction}
      (notFork : ∀ server, action ≠ .fork server)
      (fails : process.startFails config action = true)
      (children : next.children = process.children)
      (vllmPid : next.vllmPid = process.vllmPid)
      (main : next.main.mayTerminate = false) :
      VllmStep config process next action
  | terminated
      (terminating : process.main = .terminating)
      (children :
        next.children =
          if 0 < process.vllmPid then process.children.erase process.vllmPid
          else process.children)
      (vllmPid : next.vllmPid = process.vllmPid)
      (main : next.main.mayTerminate = false) :
      VllmStep config process next .advance
  | unforked (server : ServerAnswers)
      (attempted : attempts config server = true)
      (negative : server.forked < 0)
      (children : next.children = process.children)
      (vllmPid : next.vllmPid = server.forked)
      (main : next.main = process.main) :
      VllmStep config process next (.fork server)
  | forked (server : ServerAnswers)
      (attempted : attempts config server = true)
      (positive : 0 < server.forked)
      (new : server.forked ∉ process.children)
      (children : next.children = server.forked :: process.children)
      (vllmPid : next.vllmPid = server.forked)
      (main : next.main = process.main) :
      VllmStep config process next (.fork server)

theorem vllmStep_advance (taken : process.advance config = some next) :
    VllmStep config process next .advance := by
  unfold advance at taken
  split at taken <;> rename_i main
  · cases taken
    exact .kept (by simp [TendsVllm, startFails, main]) rfl rfl (by rw [main]; rfl)
  · cases taken
    by_cases unconnected : process.orchestratorFd < 0
    · refine .failed (by simp) ?_ rfl rfl ?_
      · simp [startFails, main, unconnected]
      · rw [if_pos unconnected]
        rfl
    · refine .kept ?_ rfl rfl ?_
      · simp [TendsVllm, startFails, unconnected]
      · rw [if_neg unconnected, main]
        rfl
  · cases taken
    refine
      .kept (by simp [TendsVllm, startFails, main]) ?_ ?_ (by rw [main]; rfl) <;>
      unfold spawnPollThread <;> split <;> rfl
  · cases taken
    exact .kept (by simp [TendsVllm, startFails, main]) rfl rfl (by rw [main]; rfl)
  · cases taken
    exact .kept (by simp [TendsVllm, startFails, main]) rfl rfl (by rw [main]; rfl)
  · cases taken
    refine .terminated main ?_ ?_ rfl <;>
      unfold terminateVllm <;> split <;> rfl
  · split at taken <;> cases taken <;>
      exact .kept (by simp [TendsVllm, startFails, main]) rfl rfl (by rw [main]; rfl)
  · split at taken <;> cases taken
    exact .kept (by simp [TendsVllm, startFails, main]) rfl rfl (by rw [main]; rfl)
  · cases taken
    exact .kept (by simp [TendsVllm, startFails, main]) rfl rfl (by rw [main]; rfl)
  · split at taken <;> cases taken
    exact .kept (by simp [TendsVllm, startFails, main]) rfl rfl (by rw [main]; rfl)
  · cases taken
    refine .kept (by simp [TendsVllm, startFails, main]) rfl rfl ?_
    rw [main]
    dsimp only
    split <;> rfl
  all_goals cases taken

theorem vllmStep_fork
    {server : ServerAnswers} (taken : process.fork config server = some next) :
    VllmStep config process next (.fork server) := by
  unfold fork at taken
  split at taken
  · cases taken
  · by_cases attempted : attempts config server = true
    · simp only [startVllmServer_eq, attempted, if_true,
        decide_eq_true_eq] at taken
      split at taken
      · split at taken
        · rename_i fresh
          cases taken
          exact .forked server attempted fresh.1 fresh.2 rfl rfl rfl
        · cases taken
      · rename_i negative
        cases taken
        exact .unforked server attempted (Int32.not_le.mp negative) rfl rfl rfl
    · simp only [startVllmServer_eq, attempted, Bool.false_eq_true,
        if_false] at taken
      cases taken
      exact .kept (fun attempts => absurd attempts attempted) rfl rfl rfl

theorem vllmStep_of_step (taken : process.step config action = some next) :
    VllmStep config process next action := by
  cases action with
  | start listens =>
      simp only [step, start] at taken
      split at taken
      · rename_i created
        split at taken
        · rename_i tooSmall
          cases taken
          exact .failed (by simp) (by simp [startFails, tooSmall]) rfl rfl rfl
        · rename_i fits
          split at taken <;> rename_i listens <;> cases taken
          · refine .kept ?_ rfl rfl (by rw [created]; rfl)
            simp [TendsVllm, startFails, fits, listens]
          · exact .failed (by simp) (by simp [startFails, listens]) rfl rfl rfl
      · cases taken
  | initializeEngine answers =>
      simp only [step, initializeEngine] at taken
      split at taken
      · rename_i setup
        cases useGpu : config.node.useGpu with
        | true =>
            rw [useGpu, if_pos rfl] at taken
            cases taken
            cases result :
                (process.resources.initializeEngine config.engine answers).1 with
            | true =>
                refine .kept ?_ rfl rfl (by rw [setup]; rfl)
                simp [TendsVllm, startFails, result]
            | false =>
                refine .failed (by simp) ?_ rfl rfl rfl
                simp [startFails, useGpu, result]
        | false =>
            rw [useGpu] at taken
            cases taken
            refine .kept ?_ rfl rfl (by rw [setup]; rfl)
            simp [TendsVllm, startFails, useGpu]
      · cases taken
  | connect fd added =>
      simp only [step, connect] at taken
      split at taken
      · cases taken
        exact .failed (by simp) (by simp [startFails]) rfl rfl rfl
      · rename_i connecting
        split at taken
        · cases taken
          cases added with
          | true =>
              refine .kept ?_ rfl rfl (by rw [connecting]; rfl)
              simp [TendsVllm, startFails]
          | false =>
              exact .failed (by simp) (by simp [startFails]) rfl rfl rfl
        · cases taken
      · cases taken
  | advance =>
      exact vllmStep_advance taken
  | poll polled replenished =>
      have tends : process.TendsVllm config (.poll polled replenished) := by
        simp [TendsVllm, startFails]
      simp only [step, poll] at taken
      split at taken
      · cases taken
        exact .kept tends rfl rfl rfl
      · split at taken <;> cases taken <;> exact .kept tends rfl rfl rfl
      · cases taken
        exact .kept tends rfl rfl rfl
      · cases taken
      · cases taken
  | handleMembers =>
      simp only [step, handleMembers] at taken
      split at taken <;> cases taken
      exact .kept (by simp [TendsVllm, startFails]) rfl rfl rfl
  | fork server =>
      exact vllmStep_fork taken
  | announce =>
      simp only [step, announce] at taken
      split at taken <;> cases taken
      exact .kept (by simp [TendsVllm, startFails]) rfl rfl rfl

theorem tendsVllm_of_not_fork
    (notFork : ∀ server, action ≠ .fork server)
    (fails : process.startFails config action = true) :
    process.TendsVllm config action ↔ process.children = [] := by
  cases action with
  | fork server =>
      exact absurd rfl (notFork server)
  | _ =>
      exact ⟨fun tends => tends fails, fun nothing _ => nothing⟩

theorem Tended.step
    (tended : Tended process)
    (taken : process.step config action = some next)
    (tends : process.TendsVllm config action) :
    Tended next := by
  cases vllmStep_of_step taken with
  | kept _ children vllmPid main =>
      constructor
      rw [children, vllmPid, main]
      exact tended.children
  | failed notFork fails children =>
      have nothing := (tendsVllm_of_not_fork notFork fails).mp tends
      exact ⟨Or.inl (children.trans nothing)⟩
  | terminated _ children =>
      refine ⟨Or.inl ?_⟩
      rw [children]
      rcases tended.children with nothing | ⟨_, positive, only⟩
      · simp [nothing]
      · simp [positive, only]
  | unforked _ attempted _ children =>
      exact ⟨Or.inl (children.trans (tends attempted).1)⟩
  | forked server attempted positive _ children vllmPid main =>
      obtain ⟨nothing, mayTerminate⟩ := tends attempted
      have looked := mayTerminate.resolve_right (Int32.lt_asymm positive)
      refine ⟨Or.inr ⟨?_, ?_, ?_⟩⟩
      · rw [main]
        exact looked
      · rw [vllmPid]
        exact positive
      · rw [children, vllmPid, nothing]

theorem Tended.stray
    (tended : Tended process)
    (taken : process.step config action = some next)
    (neglects : ¬ process.TendsVllm config action) :
    Stray next := by
  cases vllmStep_of_step taken with
  | kept tends =>
      exact absurd tends neglects
  | failed notFork fails children _ main =>
      have something := mt (tendsVllm_of_not_fork notFork fails).mpr neglects
      obtain ⟨_, positive, only⟩ := tended.children.resolve_left something
      refine ⟨process.vllmPid, ?_, positive, Or.inl main⟩
      rw [children, only]
      exact List.mem_singleton_self _
  | terminated terminating =>
      refine absurd ?_ neglects
      simp [TendsVllm, startFails, terminating]
  | unforked server attempted negative children vllmPid _ =>
      have something : process.children ≠ [] := by
        intro nothing
        exact neglects fun _ => ⟨nothing, Or.inr negative⟩
      obtain ⟨_, positive, only⟩ := tended.children.resolve_left something
      refine ⟨process.vllmPid, ?_, positive, Or.inr ?_⟩
      · rw [children, only]
        exact List.mem_singleton_self _
      · rw [vllmPid]
        rintro same
        rw [same] at positive
        exact Int32.lt_asymm positive negative
  | forked server attempted positive new children vllmPid main =>
      rcases tended.children with nothing | ⟨_, alive, only⟩
      · have looked : process.main.mayTerminate = false := by
          by_contra mayTerminate
          refine neglects fun _ => ⟨nothing, Or.inl ?_⟩
          simpa using mayTerminate
        refine ⟨server.forked, ?_, positive, Or.inl ?_⟩
        · rw [children]
          exact List.mem_cons_self
        · rw [main]
          exact looked
      · have isChild : process.vllmPid ∈ process.children := by
          rw [only]
          exact List.mem_singleton_self _
        refine ⟨process.vllmPid, ?_, alive, Or.inr ?_⟩
        · rw [children]
          exact List.mem_cons_of_mem _ isChild
        · rw [vllmPid]
          intro same
          exact new (same ▸ isChild)

theorem Stray.step
    (stray : Stray process) (taken : process.step config action = some next) :
    Stray next := by
  obtain ⟨pid, isChild, positive, missed⟩ := stray
  cases vllmStep_of_step taken with
  | kept _ children vllmPid main =>
      refine ⟨pid, children ▸ isChild, positive, ?_⟩
      rw [main, vllmPid]
      exact missed
  | failed _ _ children _ main =>
      exact ⟨pid, children ▸ isChild, positive, Or.inl main⟩
  | terminated terminating children _ main =>
      have isOther : pid ≠ process.vllmPid := by
        rcases missed with looked | isOther
        · rw [terminating] at looked
          cases looked
        · exact isOther
      refine ⟨pid, ?_, positive, Or.inl main⟩
      rw [children]
      split
      · exact (List.mem_erase_of_ne isOther).mpr isChild
      · exact isChild
  | unforked server _ negative children vllmPid _ =>
      refine ⟨pid, children ▸ isChild, positive, Or.inr ?_⟩
      rw [vllmPid]
      rintro rfl
      exact Int32.lt_asymm positive negative
  | forked server _ _ new children vllmPid _ =>
      refine
        ⟨pid, children ▸ List.mem_cons_of_mem _ isChild, positive, Or.inr ?_⟩
      rw [vllmPid]
      rintro rfl
      exact new isChild

theorem tended_new (poller : RDMAEngine) : Tended (new poller) :=
  ⟨Or.inl rfl⟩

theorem mayTerminate_of_returned
    {main : MainThread} (returned : main.hasReturned = true) :
    main.mayTerminate = false := by
  cases main <;> simp_all [MainThread.hasReturned, MainThread.mayTerminate]

/-- A node that has returned from `start` or `shutdown` for good leaves no vLLM
server behind exactly if each was forked alone and in time. -/
theorem no_vllm_left_iff
    {poller : RDMAEngine} {actions : List ProcessAction}
    (run : execute (step config) (new poller) actions = some process)
    (returned : process.main.hasReturned = true) :
    process.children = [] ↔
      Meets (step config) (TendsVllm config) (new poller) actions := by
  have notTerminating := mayTerminate_of_returned returned
  rcases
    meets_or_broken
      (fun _ _ _ taken tends tended => Tended.step tended taken tends)
      (fun _ _ _ taken neglects tended => Tended.stray tended taken neglects)
      (fun _ _ _ taken stray => Stray.step stray taken)
      run (tended_new poller) with
    ⟨meets, tended⟩ | ⟨fails, pid, isChild, _⟩
  · have nothing : process.children = [] := by
      apply tended.children.resolve_right
      rintro ⟨mayTerminate, _⟩
      rw [notTerminating] at mayTerminate
      cases mayTerminate
    exact iff_of_true nothing meets
  · exact iff_of_false (List.ne_nil_of_mem isChild) fails

/-- Two lists of members are handled. -/
def sampleForks : List ProcessAction :=
  sampleStart ++
    [.handleMembers, .fork ⟨false, false, 41⟩, .announce, .handleMembers,
      .fork ⟨false, false, 42⟩, .announce, .advance, .advance, .advance,
      .poll none false, .advance, .advance, .advance]

theorem no_vllm_left_iff_sampleForks :
    ∃ process,
      execute (step sampleConfig) (new samplePoller) sampleForks =
          some process ∧
        process.children = [41] ∧
        ¬ Meets (step sampleConfig) (TendsVllm sampleConfig)
            (new samplePoller) sampleForks := by
  have reached :
      (execute (step sampleConfig) (new samplePoller) sampleForks).map
          (fun process => (process.main.hasReturned, process.children)) =
        some (true, [41]) := by
    decide +kernel
  obtain ⟨process, run, same⟩ := Option.map_eq_some_iff.mp reached
  obtain ⟨returned, children⟩ := Prod.mk.inj same
  have left := no_vllm_left_iff run returned
  refine ⟨process, run, children, mt left.mpr ?_⟩
  rw [children]
  exact List.cons_ne_nil _ _

end NodeProcess

end RdmaKvCache
