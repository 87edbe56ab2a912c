import Mathlib.Data.Int.Order.Basic
import RdmaKvCache.Library.DescriptorTables
import RdmaKvCache.Library.LabelledRuns

/-!
# The descriptors of the I/O workers

A node or orchestrator opens descriptors for its listening sockets, for epoll and for
its connections.  The I/O thread accepts and removes connections, other threads
connect to peers, `stop` closes the connections there are and the destructor what is
left.  The operating system gives a number to somebody else as soon as it has been
closed, and the rest of the process opens descriptors as well.

A step is a call, or a section of `add_connection` and of what calls it.
-/

namespace RdmaKvCache

open LabelledRuns DescriptorTables

/-- What has a descriptor. -/
inductive DescriptorOwner where
  | epoll
  | clientServer
  | serverServer
  | connection
  | other
  deriving DecidableEq

inductive Listener where
  | clients
  | servers
  deriving DecidableEq

def Listener.owner : Listener → DescriptorOwner
  | .clients => .clientServer
  | .servers => .serverServer

/-- Which calls of `start` succeed; `epollFd` is the result of `epoll_create1`. -/
structure EpollAnswers where
  epollFd : Option Int32
  clientNonblocking : Bool := true
  clientAdded : Bool := true
  serverNonblocking : Bool := true
  serverAdded : Bool := true

/-- `connections` has the descriptor of the connection of each entry; a listening
socket has none.  `pending` are the connections that are being added.  `others` is
what the rest of the process has open. -/
structure IoDescriptors where
  table : Table Int32 DescriptorOwner := {}
  clientSockfd : Int32 := -1
  serverSockfd : Int32 := -1
  epollFd : Int32 := -1
  started : Bool := false
  running : Bool := false
  destroyed : Bool := false
  connections : List (Int32 × Option Int32) := []
  pending : List Int32 := []
  others : List Int32 := []

inductive DescriptorAction where
  | bind (listener : Listener) (fd : Int32) (bound : Bool)
  | closeServer (listener : Listener)
  | start (answers : EpollAnswers)
  | accept (listener : Listener) (fd : Int32)
  | connect (fd : Int32) (connected : Bool)
  | addConnection (fd : Int32) (added : Bool)
  | removeConnection (fd : Int32)
  | stop
  | destroy
  | openOther (fd : Int32)
  | closeOther (fd : Int32)

namespace IoDescriptors

/-- A new descriptor is not negative. -/
def openFor
    (state : IoDescriptors) (fd : Int32) (owner : DescriptorOwner) :
    Option (Table Int32 DescriptorOwner) :=
  if 0 ≤ fd then state.table.openFor fd owner else none

/-! ## The listening sockets -/

def sockfd (state : IoDescriptors) : Listener → Int32
  | .clients => state.clientSockfd
  | .servers => state.serverSockfd

def setSockfd (state : IoDescriptors) (listener : Listener) (fd : Int32) :
    IoDescriptors :=
  match listener with
  | .clients => { state with clientSockfd := fd }
  | .servers => { state with serverSockfd := fd }

/-- `TCPServer::bind` when it has got a socket, which it closes if a later call
fails. -/
def bind
    (listener : Listener) (fd : Int32) (bound : Bool) (state : IoDescriptors) :
    Option IoDescriptors :=
  if state.sockfd listener < 0 then
    (state.openFor fd listener.owner).map fun table =>
      if bound then { state with table := table }.setSockfd listener fd
      else
        { state with table := table.close fd listener.owner }.setSockfd
          listener (-1)
  else
    none

/-- `TCPServer::close` -/
def closeServer (listener : Listener) (state : IoDescriptors) :
    IoDescriptors :=
  let fd := state.sockfd listener
  if 0 ≤ fd then
    { state with table := state.table.close fd listener.owner }.setSockfd
      listener (-1)
  else
    state

/-! ## Starting -/

/-- `connections_[fd]` for a listening socket. -/
def listenOn (state : IoDescriptors) (fd : Int32) : IoDescriptors :=
  if state.connections.any fun entry => entry.1 = fd then state
  else { state with connections := (fd, none) :: state.connections }

def closeEpoll (state : IoDescriptors) : IoDescriptors :=
  { state with table := state.table.close state.epollFd .epoll }

/-- The part of `start` that an orchestrator and a node share. -/
def listenToServers (answers : EpollAnswers) (state : IoDescriptors) :
    IoDescriptors :=
  if answers.serverNonblocking && answers.serverAdded then
    { state.listenOn state.serverSockfd with running := true }
  else
    { state.closeEpoll with epollFd := -1 }

/-- An orchestrator that cannot listen to clients closes the epoll descriptor and
keeps its number. -/
def start
    (isOrchestrator : Bool) (answers : EpollAnswers) (state : IoDescriptors) :
    Option IoDescriptors :=
  if state.started || state.destroyed then none
  else
    match answers.epollFd with
    | none => some { state with started := true }
    | some fd =>
        (state.openFor fd .epoll).map fun table =>
          let opened :=
            { state with table := table, epollFd := fd, started := true }
          if isOrchestrator then
            if answers.clientNonblocking && answers.clientAdded then
              (opened.listenOn opened.clientSockfd).listenToServers answers
            else
              opened.closeEpoll
          else
            opened.listenToServers answers

/-! ## Connections -/

/-- The I/O thread accepts a connection; a node has no server for clients. -/
def accept
    (isOrchestrator : Bool) (listener : Listener) (fd : Int32)
    (state : IoDescriptors) : Option IoDescriptors :=
  if !state.destroyed && state.running &&
      decide (0 ≤ state.sockfd listener) &&
      (isOrchestrator || listener = .servers) then
    (state.openFor fd .connection).map fun table =>
      { state with table := table, pending := fd :: state.pending }
  else
    none

/-- `Connection::connect` when it has got a socket. -/
def connect (fd : Int32) (connected : Bool) (state : IoDescriptors) :
    Option IoDescriptors :=
  if state.destroyed then none
  else
    (state.openFor fd .connection).map fun table =>
      if connected then
        { state with table := table, pending := fd :: state.pending }
      else
        { state with table := table.close fd .connection }

def connectionOf (state : IoDescriptors) (fd : Int32) : Option Int32 :=
  (state.connections.lookup fd).join

/-- A connection that is not added is destroyed, and so is the one whose entry is
assigned. -/
def addConnection (fd : Int32) (added : Bool) (state : IoDescriptors) :
    Option IoDescriptors :=
  if state.destroyed || decide (fd ∉ state.pending) then none
  else if added then
    some
      { state with
        table :=
          state.table.closeAll .connection (state.connectionOf fd).toList
        connections :=
          (fd, some fd) ::
            state.connections.filter fun entry => entry.1 ≠ fd
        pending := state.pending.erase fd }
  else
    some
      { state with
        table := state.table.close fd .connection
        pending := state.pending.erase fd }

/-- Called by the I/O thread. -/
def removeConnection (fd : Int32) (state : IoDescriptors) :
    Option IoDescriptors :=
  if state.running then
    some
      { state with
        table :=
          state.table.closeAll .connection (state.connectionOf fd).toList
        connections :=
          state.connections.filter fun entry => entry.1 ≠ fd }
  else
    none

/-! ## Stopping -/

def clearConnections (state : IoDescriptors) : IoDescriptors :=
  { state with
    table :=
      state.table.closeAll .connection
        (state.connections.filterMap Prod.snd)
    connections := [] }

/-- `stop` once it has joined the I/O thread. -/
def stop (state : IoDescriptors) : IoDescriptors :=
  if state.running then { state.clearConnections with running := false }
  else state

/-- The destructor, at a time when no connection is being added. -/
def destroy (state : IoDescriptors) : Option IoDescriptors :=
  if state.destroyed || !state.pending.isEmpty then none
  else
    let stopped := state.stop
    let closed :=
      if 0 ≤ stopped.epollFd then { stopped.closeEpoll with epollFd := -1 }
      else stopped
    some { closed.clearConnections with destroyed := true }

/-! ## The rest of the process -/

def openOther (fd : Int32) (state : IoDescriptors) : Option IoDescriptors :=
  (state.openFor fd .other).map fun table =>
    { state with table := table, others := fd :: state.others }

def closeOther (fd : Int32) (state : IoDescriptors) : Option IoDescriptors :=
  if fd ∈ state.others then
    some
      { state with
        table := state.table.close fd .other
        others := state.others.erase fd }
  else
    none

def step (isOrchestrator : Bool) (state : IoDescriptors) :
    DescriptorAction → Option IoDescriptors
  | .bind listener fd bound => state.bind listener fd bound
  | .closeServer listener => some (state.closeServer listener)
  | .start answers => state.start isOrchestrator answers
  | .accept listener fd => state.accept isOrchestrator listener fd
  | .connect fd connected => state.connect fd connected
  | .addConnection fd added => state.addConnection fd added
  | .removeConnection fd => state.removeConnection fd
  | .stop => if state.destroyed then none else some state.stop
  | .destroy => state.destroy
  | .openOther fd => state.openOther fd
  | .closeOther fd => state.closeOther fd

/-! ## Who holds what -/

/-- A negative number is no descriptor. -/
def heldFd (fd : Int32) : List Int32 :=
  if 0 ≤ fd then [fd] else []

def held (state : IoDescriptors) : DescriptorOwner → List Int32
  | .epoll => heldFd state.epollFd
  | .clientServer => heldFd state.clientSockfd
  | .serverServer => heldFd state.serverSockfd
  | .connection => state.pending ++ state.connections.filterMap Prod.snd
  | .other => state.others

/-- Every descriptor is held by what has opened it, and an entry has the descriptor
under which it is found. -/
structure Accounted (state : IoDescriptors) : Prop where
  accounts : state.table.Accounts state.held
  misclosed : state.table.misclosed = []
  keys : ∀ fd conn, (fd, some conn) ∈ state.connections → conn = fd
  distinct : (state.connections.map Prod.fst).Nodup
  unstarted : state.started = false → state.epollFd < 0
  destroyed :
    state.destroyed = true →
      state.epollFd < 0 ∧ state.connections = [] ∧ state.pending = []

variable {state next : IoDescriptors} {isOrchestrator : Bool}
  {action : DescriptorAction}

theorem closed_lt : (-1 : Int32) < 0 := by
  decide

theorem heldFd_of_nonneg {fd : Int32} (nonneg : 0 ≤ fd) : heldFd fd = [fd] :=
  if_pos nonneg

theorem heldFd_of_neg {fd : Int32} (negative : fd < 0) : heldFd fd = [] :=
  if_neg (Int32.not_le.mpr negative)

theorem openFor_eq_some
    {fd : Int32} {owner : DescriptorOwner}
    {table : Table Int32 DescriptorOwner}
    (opened : state.openFor fd owner = some table) :
    0 ≤ fd ∧ state.table.openFor fd owner = some table := by
  unfold openFor at opened
  split at opened
  · rename_i nonneg
    exact ⟨nonneg, opened⟩
  · cases opened

theorem accounted_new : Accounted {} where
  accounts := by
    apply Table.accounts_empty.of_perm
    intro owner
    cases owner <;> exact List.Perm.refl _
  misclosed := rfl
  keys := by simp
  distinct := List.nodup_nil
  unstarted _ := by decide
  destroyed destroyed := by cases destroyed

/-! ### The listening sockets -/

theorem held_setSockfd
    (state : IoDescriptors) (table : Table Int32 DescriptorOwner)
    (listener : Listener) (fd : Int32) :
    ({ state with table := table }.setSockfd listener fd).held listener.owner =
        heldFd fd ∧
      ∀ asked, asked ≠ listener.owner →
        ({ state with table := table }.setSockfd listener fd).held asked =
          state.held asked := by
  cases listener with
  | clients =>
      refine ⟨rfl, ?_⟩
      intro asked isOther
      cases asked with
      | clientServer =>
          exact absurd rfl isOther
      | epoll | serverServer | connection | other =>
          rfl
  | servers =>
      refine ⟨rfl, ?_⟩
      intro asked isOther
      cases asked with
      | serverServer =>
          exact absurd rfl isOther
      | epoll | clientServer | connection | other =>
          rfl

theorem held_owner (state : IoDescriptors) (listener : Listener) :
    state.held listener.owner = heldFd (state.sockfd listener) := by
  cases listener <;> rfl

/-- The rest is as before when only a listening socket changes. -/
theorem Accounted.setSockfd
    (accounted : Accounted state) {table : Table Int32 DescriptorOwner}
    {listener : Listener} {fd : Int32}
    (accounts :
      table.Accounts
        ({ state with table := table }.setSockfd listener fd).held)
    (misclosed : table.misclosed = []) :
    Accounted ({ state with table := table }.setSockfd listener fd) := by
  cases listener with
  | clients =>
      exact
        ⟨accounts, misclosed, accounted.keys, accounted.distinct,
          accounted.unstarted, accounted.destroyed⟩
  | servers =>
      exact
        ⟨accounts, misclosed, accounted.keys, accounted.distinct,
          accounted.unstarted, accounted.destroyed⟩

theorem Accounted.bind
    (accounted : Accounted state) {listener : Listener} {fd : Int32}
    {bound : Bool} (taken : state.bind listener fd bound = some next) :
    Accounted next := by
  unfold IoDescriptors.bind at taken
  split at taken
  · rename_i unbound
    obtain ⟨table, opened, rfl⟩ := Option.map_eq_some_iff.mp taken
    obtain ⟨nonneg, opened⟩ := openFor_eq_some opened
    have nothing : state.held listener.owner = [] := by
      rw [held_owner, heldFd_of_neg unbound]
    cases bound with
    | true =>
        obtain ⟨own, others⟩ := held_setSockfd state table listener fd
        obtain ⟨accounts, sameMisclosed⟩ :=
          accounted.accounts.openFor opened
            (List.Perm.of_eq (by rw [own, nothing, heldFd_of_nonneg nonneg]))
            others
        exact
          accounted.setSockfd accounts
            (sameMisclosed.trans accounted.misclosed)
    | false =>
        obtain ⟨accounts, sameMisclosed⟩ :=
          accounted.accounts.openFor_close opened
        obtain ⟨own, others⟩ :=
          held_setSockfd state (table.close fd listener.owner) listener (-1)
        apply
          accounted.setSockfd (accounts.of_perm _)
            (sameMisclosed.trans accounted.misclosed)
        intro owner
        by_cases isOwner : owner = listener.owner
        · rw [isOwner, own, nothing]
          exact List.Perm.refl _
        · rw [others owner isOwner]
  · cases taken

theorem Accounted.closeServer
    (accounted : Accounted state) (listener : Listener) :
    Accounted (state.closeServer listener) := by
  unfold IoDescriptors.closeServer
  dsimp only
  split
  · rename_i nonneg
    have isHeld :
        state.held listener.owner = [state.sockfd listener] := by
      rw [held_owner, heldFd_of_nonneg nonneg]
    obtain ⟨own, others⟩ :=
      held_setSockfd state
        (state.table.close (state.sockfd listener) listener.owner) listener
        (-1)
    obtain ⟨accounts, sameMisclosed⟩ :=
      accounted.accounts.close (by rw [isHeld]; exact List.mem_cons_self)
        (List.Perm.of_eq (by rw [own, isHeld]; rfl)) others
    exact
      accounted.setSockfd accounts (sameMisclosed.trans accounted.misclosed)
  · exact accounted

/-! ### Starting -/

theorem held_listenOn (state : IoDescriptors) (fd : Int32) :
    (state.listenOn fd).held = state.held := by
  unfold listenOn
  split
  · rfl
  · funext owner
    cases owner <;> rfl

theorem Accounted.listenOn
    (accounted : Accounted state) (alive : state.destroyed = false)
    (fd : Int32) :
    Accounted (state.listenOn fd) := by
  have heldSame := held_listenOn state fd
  revert heldSame
  unfold IoDescriptors.listenOn
  split
  · exact fun _ => accounted
  · rename_i unlisted
    intro heldSame
    refine ⟨?_, accounted.misclosed, ?_, ?_, accounted.unstarted, ?_⟩
    · rw [heldSame]
      exact accounted.accounts
    · intro listed conn entry
      rcases List.mem_cons.mp entry with isNew | earlier
      · cases isNew
      · exact accounted.keys listed conn earlier
    · refine List.nodup_cons.mpr ⟨?_, accounted.distinct⟩
      intro isKey
      obtain ⟨entry, listed, same⟩ := List.mem_map.mp isKey
      apply unlisted
      rw [List.any_eq_true]
      exact ⟨entry, listed, decide_eq_true same⟩
    · intro destroyed
      rw [alive] at destroyed
      cases destroyed

/-- The epoll descriptor is closed and forgotten. -/
theorem Accounted.closeEpoll
    (accounted : Accounted state) (nonneg : 0 ≤ state.epollFd) :
    Accounted { state.closeEpoll with epollFd := -1 } := by
  have isHeld : state.held .epoll = [state.epollFd] :=
    heldFd_of_nonneg nonneg
  have others (owner : DescriptorOwner) (isOther : owner ≠ .epoll) :
      { state.closeEpoll with epollFd := -1 }.held owner =
        state.held owner := by
    cases owner with
    | epoll =>
        exact absurd rfl isOther
    | clientServer | serverServer | connection | other =>
        rfl
  obtain ⟨accounts, sameMisclosed⟩ :=
    accounted.accounts.close (by rw [isHeld]; exact List.mem_cons_self)
      (List.Perm.of_eq (by rw [isHeld]; rfl)) others
  exact
    ⟨accounts, sameMisclosed.trans accounted.misclosed, accounted.keys,
      accounted.distinct, fun _ => closed_lt,
      fun destroyed => ⟨closed_lt, (accounted.destroyed destroyed).2⟩⟩

theorem Accounted.listenToServers
    (accounted : Accounted state) (alive : state.destroyed = false)
    (nonneg : 0 ≤ state.epollFd) (answers : EpollAnswers) :
    Accounted (state.listenToServers answers) := by
  unfold IoDescriptors.listenToServers
  split
  · have listening := accounted.listenOn alive state.serverSockfd
    exact
      ⟨listening.accounts, listening.misclosed, listening.keys,
        listening.distinct, listening.unstarted, listening.destroyed⟩
  · exact accounted.closeEpoll nonneg

/-- The epoll descriptor has been created. -/
theorem Accounted.openEpoll
    (accounted : Accounted state) (notStarted : state.started = false)
    (alive : state.destroyed = false) {fd : Int32}
    {table : Table Int32 DescriptorOwner}
    (opened : state.openFor fd .epoll = some table) :
    Accounted
      { state with table := table, epollFd := fd, started := true } := by
  obtain ⟨nonneg, opened⟩ := openFor_eq_some opened
  have nothing : state.held .epoll = [] :=
    heldFd_of_neg (accounted.unstarted notStarted)
  have own :
      { state with table := table, epollFd := fd, started := true }.held
          .epoll =
        [fd] :=
    heldFd_of_nonneg nonneg
  have others (owner : DescriptorOwner) (isOther : owner ≠ .epoll) :
      { state with table := table, epollFd := fd, started := true }.held
          owner =
        state.held owner := by
    cases owner with
    | epoll =>
        exact absurd rfl isOther
    | clientServer | serverServer | connection | other =>
        rfl
  obtain ⟨accounts, sameMisclosed⟩ :=
    accounted.accounts.openFor opened
      (List.Perm.of_eq (by rw [own, nothing])) others
  refine
    ⟨accounts, sameMisclosed.trans accounted.misclosed, accounted.keys,
      accounted.distinct, fun again => Bool.noConfusion again, ?_⟩
  intro destroyed
  rw [alive] at destroyed
  cases destroyed

theorem Accounted.start
    (accounted : Accounted state) {answers : EpollAnswers}
    (taken : state.start isOrchestrator answers = some next)
    (listens :
      isOrchestrator = true → answers.epollFd.isSome = true →
        (answers.clientNonblocking && answers.clientAdded) = true) :
    Accounted next := by
  unfold IoDescriptors.start at taken
  split at taken
  · cases taken
  · rename_i first
    obtain ⟨notStarted, alive⟩ := Bool.or_eq_false_iff.mp (Bool.not_eq_true _ ▸ first)
    split at taken
    · cases taken
      exact
        ⟨accounted.accounts, accounted.misclosed, accounted.keys,
          accounted.distinct, fun _ => accounted.unstarted notStarted,
          accounted.destroyed⟩
    · rename_i fd epollFd
      obtain ⟨table, opened, rfl⟩ := Option.map_eq_some_iff.mp taken
      have nonneg := (openFor_eq_some opened).1
      have begun := accounted.openEpoll notStarted alive opened
      split
      · rename_i orchestrator
        have listening := listens orchestrator (by rw [epollFd]; rfl)
        rw [if_pos listening]
        refine (begun.listenOn alive _).listenToServers ?_ ?_ answers
        · unfold IoDescriptors.listenOn
          split <;> exact alive
        · unfold IoDescriptors.listenOn
          split <;> exact nonneg
      · exact begun.listenToServers alive nonneg answers

/-! ### Connections -/

/-- A connection is being added. -/
theorem Accounted.pend
    (accounted : Accounted state) (alive : state.destroyed = false)
    {fd : Int32} {table : Table Int32 DescriptorOwner}
    (opened : state.openFor fd .connection = some table) :
    Accounted { state with table := table, pending := fd :: state.pending } := by
  obtain ⟨_, opened⟩ := openFor_eq_some opened
  have others (owner : DescriptorOwner) (isOther : owner ≠ .connection) :
      { state with table := table, pending := fd :: state.pending }.held
          owner =
        state.held owner := by
    cases owner with
    | connection =>
        exact absurd rfl isOther
    | epoll | clientServer | serverServer | other =>
        rfl
  obtain ⟨accounts, sameMisclosed⟩ :=
    accounted.accounts.openFor opened (List.Perm.refl _) others
  refine
    ⟨accounts, sameMisclosed.trans accounted.misclosed, accounted.keys,
      accounted.distinct, accounted.unstarted, ?_⟩
  intro destroyed
  rw [alive] at destroyed
  cases destroyed

theorem Accounted.connect
    (accounted : Accounted state) {fd : Int32} {connected : Bool}
    (taken : state.connect fd connected = some next) :
    Accounted next := by
  unfold IoDescriptors.connect at taken
  split at taken
  · cases taken
  · rename_i alive
    obtain ⟨table, opened, rfl⟩ := Option.map_eq_some_iff.mp taken
    split
    · exact accounted.pend (Bool.not_eq_true _ ▸ alive) opened
    · obtain ⟨accounts, sameMisclosed⟩ :=
        accounted.accounts.openFor_close (openFor_eq_some opened).2
      exact
        ⟨accounts, sameMisclosed.trans accounted.misclosed, accounted.keys,
          accounted.distinct, accounted.unstarted, accounted.destroyed⟩

/-- The connection of one entry and those of the others. -/
theorem filterMap_perm
    {connections : List (Int32 × Option Int32)}
    (distinct : (connections.map Prod.fst).Nodup) (fd : Int32) :
    ((connections.lookup fd).join.toList ++
        (connections.filter fun entry => entry.1 ≠ fd).filterMap
          Prod.snd).Perm
      (connections.filterMap Prod.snd) := by
  induction connections with
  | nil =>
      exact List.Perm.refl _
  | cons entry rest inductionHypothesis =>
      obtain ⟨key, conn⟩ := entry
      obtain ⟨unlisted, distinctRest⟩ := List.nodup_cons.mp distinct
      by_cases isKey : key = fd
      · subst isKey
        have kept : (rest.filter fun entry => entry.1 ≠ key) = rest := by
          rw [List.filter_eq_self]
          intro other listed
          rw [decide_eq_true_eq]
          rintro rfl
          exact unlisted (List.mem_map.mpr ⟨other, listed, rfl⟩)
        rw [List.lookup_cons_self, List.filter_cons_of_neg (by simp), kept]
        cases conn <;> exact List.Perm.refl _
      · have isOther : (fd == key) = false := by
          simpa using Ne.symm isKey
        have skipped : ((key, conn) :: rest).lookup fd = rest.lookup fd := by
          simp only [List.lookup_cons, isOther]
        rw [skipped, List.filter_cons_of_pos (by simpa using isKey)]
        cases conn with
        | none =>
            exact inductionHypothesis distinctRest
        | some opened =>
            exact
              List.perm_middle.trans
                ((inductionHypothesis distinctRest).cons opened)

theorem Accounted.connectionOf_eq_some
    (accounted : Accounted state) {fd conn : Int32}
    (found : state.connectionOf fd = some conn) :
    conn = fd ∧ fd ∈ state.connections.filterMap Prod.snd := by
  have listed :
      conn ∈
        (state.connections.lookup fd).join.toList ++
          (state.connections.filter fun entry => entry.1 ≠ fd).filterMap
            Prod.snd := by
    rw [connectionOf] at found
    rw [found]
    exact List.mem_cons_self
  have isOpen := (filterMap_perm accounted.distinct fd).mem_iff.mp listed
  have entry := Option.join_eq_some_iff.mp found
  obtain ⟨earlier, later, same, _⟩ := List.lookup_eq_some_iff.mp entry
  have isConn : conn = fd := by
    apply accounted.keys fd conn
    rw [same]
    exact List.mem_append_right _ List.mem_cons_self
  rw [isConn] at isOpen
  exact ⟨isConn, isOpen⟩

theorem filter_keys
    {connections : List (Int32 × Option Int32)}
    (distinct : (connections.map Prod.fst).Nodup) (fd : Int32) :
    fd ∉ (connections.filter fun entry => entry.1 ≠ fd).map Prod.fst ∧
      ((connections.filter fun entry => entry.1 ≠ fd).map
          Prod.fst).Nodup := by
  constructor
  · intro isKey
    obtain ⟨entry, listed, same⟩ := List.mem_map.mp isKey
    have isOther := (List.mem_filter.mp listed).2
    rw [decide_eq_true_eq] at isOther
    exact isOther same
  · exact (List.filter_sublist.map Prod.fst).nodup distinct

theorem held_connections
    (state : IoDescriptors) (table : Table Int32 DescriptorOwner)
    (connections : List (Int32 × Option Int32)) (pending : List Int32)
    {owner : DescriptorOwner} (isOther : owner ≠ .connection) :
    { state with
        table := table, connections := connections,
        pending := pending }.held owner =
      state.held owner := by
  cases owner with
  | connection =>
      exact absurd rfl isOther
  | epoll | clientServer | serverServer | other =>
      rfl

/-- Connections are closed, and only what holds connections changes. -/
theorem Accounted.closeConnections
    (accounted : Accounted state) (given : List Int32)
    {connections : List (Int32 × Option Int32)} {pending : List Int32}
    (own :
      (given ++ (pending ++ connections.filterMap Prod.snd)).Perm
        (state.held .connection))
    (keys : ∀ fd conn, (fd, some conn) ∈ connections → conn = fd)
    (distinct : (connections.map Prod.fst).Nodup)
    (destroyed :
      state.destroyed = true → connections = [] ∧ pending = []) :
    Accounted
      { state with
        table := state.table.closeAll .connection given
        connections := connections
        pending := pending } := by
  have accounts :
      Table.Accounts (state.table.closeAll .connection given)
          { state with
            table := state.table.closeAll .connection given
            connections := connections
            pending := pending }.held ∧
        (state.table.closeAll .connection given).misclosed =
          state.table.misclosed :=
    accounted.accounts.closeAll given own fun _ isOther =>
      held_connections state _ connections pending isOther
  exact
    ⟨accounts.1, accounts.2.trans accounted.misclosed, keys, distinct,
      accounted.unstarted,
      fun isDestroyed =>
        ⟨(accounted.destroyed isDestroyed).1, destroyed isDestroyed⟩⟩

theorem Accounted.keys_filter
    (accounted : Accounted state) (fd : Int32) :
    ∀ key conn,
      (key, some conn) ∈
          (state.connections.filter fun entry => entry.1 ≠ fd) →
        conn = key :=
  fun key conn listed => accounted.keys key conn (List.mem_filter.mp listed).1

theorem Accounted.addConnection
    (accounted : Accounted state) {fd : Int32} {added : Bool}
    (taken : state.addConnection fd added = some next) :
    Accounted next := by
  unfold IoDescriptors.addConnection at taken
  split at taken
  · cases taken
  · rename_i allowed
    simp only [Bool.or_eq_true, decide_eq_true_eq, not_or, not_not,
      Bool.not_eq_true] at allowed
    obtain ⟨alive, isPending⟩ := allowed
    have stillAlive :
        state.destroyed = true →
          state.connections = [] ∧ state.pending.erase fd = [] := by
      intro destroyed
      rw [alive] at destroyed
      cases destroyed
    have erased := List.perm_cons_erase isPending
    split at taken
    · have notFound : state.connectionOf fd = none := by
        cases found : state.connectionOf fd with
        | none =>
            rfl
        | some conn =>
            have isOpen := (accounted.connectionOf_eq_some found).2
            have nodup := accounted.accounts.nodup .connection
            exact
              absurd rfl ((List.nodup_append.mp nodup).2.2 fd isPending fd isOpen)
      have kept := filterMap_perm accounted.distinct fd
      rw [← connectionOf, notFound] at kept
      obtain ⟨notKey, distinct⟩ := filter_keys accounted.distinct fd
      cases taken
      rw [notFound]
      apply accounted.closeConnections []
      · exact
          List.perm_middle.trans
            ((erased.symm.append kept).trans (List.Perm.refl _))
      · intro key conn listed
        rcases List.mem_cons.mp listed with isNew | earlier
        · cases isNew
          rfl
        · exact accounted.keys_filter fd key conn earlier
      · exact List.nodup_cons.mpr ⟨notKey, distinct⟩
      · intro destroyed
        rw [alive] at destroyed
        cases destroyed
    · cases taken
      exact
        accounted.closeConnections [fd] (erased.symm.append_right _)
          accounted.keys accounted.distinct stillAlive

theorem Accounted.removeConnection
    (accounted : Accounted state) {fd : Int32}
    (taken : state.removeConnection fd = some next) :
    Accounted next := by
  unfold IoDescriptors.removeConnection at taken
  split at taken
  · cases taken
    have own :
        ((state.connectionOf fd).toList ++
            (state.pending ++
              (state.connections.filter fun entry => entry.1 ≠ fd).filterMap
                Prod.snd)).Perm
          (state.held .connection) := by
      have kept := filterMap_perm accounted.distinct fd
      refine List.Perm.trans ?_ (kept.append_left state.pending)
      rw [← List.append_assoc, ← List.append_assoc]
      exact List.perm_append_comm.append_right _
    refine
      accounted.closeConnections _ own (accounted.keys_filter fd)
        (filter_keys accounted.distinct fd).2 ?_
    intro destroyed
    obtain ⟨_, noEntries, nonePending⟩ := accounted.destroyed destroyed
    rw [noEntries]
    exact ⟨rfl, nonePending⟩
  · cases taken

/-! ### Stopping -/

theorem Accounted.clearConnections (accounted : Accounted state) :
    Accounted state.clearConnections := by
  apply accounted.closeConnections
  · rw [List.filterMap_nil, List.append_nil]
    exact List.perm_append_comm
  · simp
  · exact List.nodup_nil
  · exact fun destroyed => ⟨rfl, (accounted.destroyed destroyed).2.2⟩

theorem Accounted.stop (accounted : Accounted state) :
    Accounted state.stop := by
  unfold IoDescriptors.stop
  split
  · have cleared := accounted.clearConnections
    exact
      ⟨cleared.accounts, cleared.misclosed, cleared.keys, cleared.distinct,
        cleared.unstarted, cleared.destroyed⟩
  · exact accounted

theorem Accounted.destroy
    (accounted : Accounted state) (taken : state.destroy = some next) :
    Accounted next := by
  unfold IoDescriptors.destroy at taken
  split at taken
  · cases taken
  · rename_i allowed
    simp only [Bool.or_eq_true, Bool.not_eq_true', not_or,
      Bool.not_eq_true, List.isEmpty_eq_false_iff, not_not] at allowed
    obtain ⟨_, nonePending⟩ := allowed
    have stopped := accounted.stop
    have samePending : state.stop.pending = [] := by
      unfold IoDescriptors.stop
      split <;> exact nonePending
    cases taken
    split
    · rename_i nonneg
      have cleared := (stopped.closeEpoll nonneg).clearConnections
      exact
        ⟨cleared.accounts, cleared.misclosed, cleared.keys, cleared.distinct,
          cleared.unstarted, fun _ => ⟨closed_lt, rfl, samePending⟩⟩
    · rename_i negative
      have cleared := stopped.clearConnections
      exact
        ⟨cleared.accounts, cleared.misclosed, cleared.keys, cleared.distinct,
          cleared.unstarted,
          fun _ => ⟨Int32.not_le.mp negative, rfl, samePending⟩⟩

/-! ### The rest of the process -/

theorem held_others
    (state : IoDescriptors) (table : Table Int32 DescriptorOwner)
    (others : List Int32) {owner : DescriptorOwner} (isOther : owner ≠ .other) :
    { state with table := table, others := others }.held owner =
      state.held owner := by
  cases owner with
  | other =>
      exact absurd rfl isOther
  | epoll | clientServer | serverServer | connection =>
      rfl

theorem Accounted.openOther
    (accounted : Accounted state) {fd : Int32}
    (taken : state.openOther fd = some next) :
    Accounted next := by
  obtain ⟨table, opened, rfl⟩ := Option.map_eq_some_iff.mp taken
  obtain ⟨accounts, sameMisclosed⟩ :=
    accounted.accounts.openFor (openFor_eq_some opened).2 (List.Perm.refl _)
      fun _ isOther => held_others state table (fd :: state.others) isOther
  exact
    ⟨accounts, sameMisclosed.trans accounted.misclosed, accounted.keys,
      accounted.distinct, accounted.unstarted, accounted.destroyed⟩

theorem Accounted.closeOther
    (accounted : Accounted state) {fd : Int32}
    (taken : state.closeOther fd = some next) :
    Accounted next := by
  unfold IoDescriptors.closeOther at taken
  split at taken
  · rename_i isOpen
    cases taken
    obtain ⟨accounts, sameMisclosed⟩ :=
      accounted.accounts.close isOpen (List.perm_cons_erase isOpen).symm
        fun _ isOther =>
          held_others state (state.table.close fd .other)
            (state.others.erase fd) isOther
    exact
      ⟨accounts, sameMisclosed.trans accounted.misclosed, accounted.keys,
        accounted.distinct, accounted.unstarted, accounted.destroyed⟩
  · cases taken

/-! ## Runs -/

/-- An orchestrator that has an epoll descriptor can listen to clients. -/
def ListensToClients (isOrchestrator : Bool) (_ : IoDescriptors) :
    DescriptorAction → Prop
  | .start answers =>
      isOrchestrator = true → answers.epollFd.isSome = true →
        (answers.clientNonblocking && answers.clientAdded) = true
  | _ => True

instance decidableListensToClients
    (isOrchestrator : Bool) (state : IoDescriptors) :
    ∀ action, Decidable (state.ListensToClients isOrchestrator action)
  | .start answers =>
      inferInstanceAs
        (Decidable
          (isOrchestrator = true → answers.epollFd.isSome = true →
            (answers.clientNonblocking && answers.clientAdded) = true))
  | .bind _ _ _ | .closeServer _ | .accept _ _ | .connect _ _
  | .addConnection _ _ | .removeConnection _ | .stop | .destroy
  | .openOther _ | .closeOther _ =>
      .isTrue trivial

theorem Accounted.step
    (accounted : Accounted state)
    (taken : state.step isOrchestrator action = some next)
    (listens : state.ListensToClients isOrchestrator action) :
    Accounted next := by
  cases action with
  | bind listener fd bound =>
      exact accounted.bind taken
  | closeServer listener =>
      cases taken
      exact accounted.closeServer listener
  | start answers =>
      exact accounted.start taken listens
  | accept listener fd =>
      simp only [IoDescriptors.step, accept] at taken
      split at taken
      · rename_i allowed
        simp only [Bool.and_eq_true, Bool.not_eq_true'] at allowed
        obtain ⟨table, opened, rfl⟩ := Option.map_eq_some_iff.mp taken
        exact accounted.pend allowed.1.1.1 opened
      · cases taken
  | connect fd connected =>
      exact accounted.connect taken
  | addConnection fd added =>
      exact accounted.addConnection taken
  | removeConnection fd =>
      exact accounted.removeConnection taken
  | stop =>
      simp only [IoDescriptors.step] at taken
      split at taken <;> cases taken
      exact accounted.stop
  | destroy =>
      exact accounted.destroy taken
  | openOther fd =>
      exact accounted.openOther taken
  | closeOther fd =>
      exact accounted.closeOther taken

/-- A number has been closed wrongly, or will be by the destructor. -/
def Misclosing (state : IoDescriptors) : Prop :=
  state.table.misclosed ≠ [] ∨
    state.destroyed = false ∧ state.started = true ∧ 0 ≤ state.epollFd ∧
      (state.epollFd, .epoll) ∉ state.table.entries

/-- What a step means for the epoll descriptor once the worker has been started. -/
structure KeepsEpoll (state next : IoDescriptors) : Prop where
  later : Table.Later .epoll state.table next.table
  epollFd : next.epollFd = state.epollFd
  started : next.started = state.started
  destroyed : next.destroyed = state.destroyed

theorem Misclosing.of_keepsEpoll
    (misclosing : Misclosing state) (keeps : KeepsEpoll state next) :
    Misclosing next := by
  rcases misclosing with wrong | ⟨alive, started, nonneg, unopened⟩
  · exact Or.inl (keeps.later.misclosed wrong)
  · refine Or.inr ⟨?_, ?_, ?_, ?_⟩
    · rw [keeps.destroyed, alive]
    · rw [keeps.started, started]
    · rw [keeps.epollFd]
      exact nonneg
    · rw [keeps.epollFd]
      exact keeps.later.unopened _ unopened

theorem later_openFor
    {fd : Int32} {owner : DescriptorOwner} (isOther : owner ≠ .epoll)
    {table : Table Int32 DescriptorOwner}
    (opened : state.openFor fd owner = some table) :
    Table.Later .epoll state.table table :=
  Table.later_openFor (openFor_eq_some opened).2 isOther

theorem keepsEpoll_setSockfd
    {table : Table Int32 DescriptorOwner}
    (later : Table.Later .epoll state.table table) (listener : Listener)
    (fd : Int32) :
    KeepsEpoll state ({ state with table := table }.setSockfd listener fd) := by
  cases listener <;> exact ⟨later, rfl, rfl, rfl⟩

theorem keepsEpoll_bind
    {listener : Listener} {fd : Int32} {bound : Bool}
    (taken : state.bind listener fd bound = some next) :
    KeepsEpoll state next := by
  unfold IoDescriptors.bind at taken
  split at taken
  · obtain ⟨table, opened, rfl⟩ := Option.map_eq_some_iff.mp taken
    have isOther : listener.owner ≠ .epoll := by
      cases listener <;> exact DescriptorOwner.noConfusion
    have later := later_openFor isOther opened
    split
    · exact keepsEpoll_setSockfd later listener fd
    · exact
        keepsEpoll_setSockfd
          (later.trans (Table.later_close .epoll listener.owner table fd))
          listener (-1)
  · cases taken

theorem keepsEpoll_clearConnections (state : IoDescriptors) :
    KeepsEpoll state state.clearConnections :=
  ⟨Table.later_closeAll .epoll .connection _ state.table, rfl, rfl, rfl⟩

theorem keepsEpoll_stop (state : IoDescriptors) :
    KeepsEpoll state state.stop := by
  unfold stop
  split
  · have cleared := keepsEpoll_clearConnections state
    exact
      ⟨cleared.later, cleared.epollFd, cleared.started, cleared.destroyed⟩
  · exact ⟨Table.Later.refl _ _, rfl, rfl, rfl⟩

theorem Misclosing.destroy
    (misclosing : Misclosing state) (taken : state.destroy = some next) :
    next.table.misclosed ≠ [] := by
  unfold IoDescriptors.destroy at taken
  split at taken
  · cases taken
  · have stopped := misclosing.of_keepsEpoll (keepsEpoll_stop state)
    cases taken
    apply (keepsEpoll_clearConnections _).later.misclosed
    split
    · rename_i nonneg
      rcases stopped with wrong | ⟨_, _, _, unopened⟩
      · exact (Table.later_close .epoll _ _ _).misclosed wrong
      · exact Table.misclosed_close_ne_nil unopened
    · rename_i negative
      rcases stopped with wrong | ⟨_, _, nonneg, _⟩
      · exact wrong
      · exact absurd nonneg negative

theorem listenOn_table (state : IoDescriptors) (fd : Int32) :
    (state.listenOn fd).table = state.table := by
  unfold listenOn
  split <;> rfl

theorem misclosed_listenToServers
    (wrong : state.table.misclosed ≠ []) (answers : EpollAnswers) :
    (state.listenToServers answers).table.misclosed ≠ [] := by
  unfold listenToServers
  split
  · rw [listenOn_table]
    exact wrong
  · exact (Table.later_close .epoll .epoll _ _).misclosed wrong

theorem misclosed_start
    (wrong : state.table.misclosed ≠ []) {answers : EpollAnswers}
    (taken : state.start isOrchestrator answers = some next) :
    next.table.misclosed ≠ [] := by
  unfold start at taken
  split at taken
  · cases taken
  · split at taken
    · cases taken
      exact wrong
    · rename_i fd _
      obtain ⟨table, opened, rfl⟩ := Option.map_eq_some_iff.mp taken
      obtain ⟨_, opened⟩ := openFor_eq_some opened
      obtain ⟨_, same⟩ := Table.openFor_eq_some opened
      have wrongStill : table.misclosed ≠ [] := by
        rw [same]
        exact wrong
      split
      · split
        · apply misclosed_listenToServers
          rw [listenOn_table]
          exact wrongStill
        · exact (Table.later_close .epoll .epoll table fd).misclosed wrongStill
      · apply misclosed_listenToServers
        exact wrongStill

theorem Misclosing.step
    (misclosing : Misclosing state)
    (taken : state.step isOrchestrator action = some next) :
    Misclosing next := by
  cases action with
  | bind listener fd bound =>
      exact misclosing.of_keepsEpoll (keepsEpoll_bind taken)
  | closeServer listener =>
      cases taken
      apply misclosing.of_keepsEpoll
      unfold closeServer
      dsimp only
      split
      · exact
          keepsEpoll_setSockfd
            (Table.later_close DescriptorOwner.epoll listener.owner _ _)
            listener (-1)
      · exact ⟨Table.Later.refl _ _, rfl, rfl, rfl⟩
  | start answers =>
      rcases misclosing with wrong | ⟨_, started, _⟩
      · exact Or.inl (misclosed_start wrong taken)
      · simp [IoDescriptors.step, start, started] at taken
  | accept listener fd =>
      simp only [IoDescriptors.step, accept] at taken
      split at taken
      · obtain ⟨table, opened, rfl⟩ := Option.map_eq_some_iff.mp taken
        have later := later_openFor DescriptorOwner.noConfusion opened
        exact misclosing.of_keepsEpoll ⟨later, rfl, rfl, rfl⟩
      · cases taken
  | connect fd connected =>
      simp only [IoDescriptors.step, connect] at taken
      split at taken
      · cases taken
      · obtain ⟨table, opened, rfl⟩ := Option.map_eq_some_iff.mp taken
        have later := later_openFor DescriptorOwner.noConfusion opened
        split
        · exact misclosing.of_keepsEpoll ⟨later, rfl, rfl, rfl⟩
        · have closed := Table.later_close .epoll .connection table fd
          exact
            misclosing.of_keepsEpoll ⟨later.trans closed, rfl, rfl, rfl⟩
  | addConnection fd added =>
      simp only [IoDescriptors.step, addConnection] at taken
      split at taken
      · cases taken
      · split at taken <;> cases taken
        · have closed := Table.later_closeAll .epoll .connection
            (state.connectionOf fd).toList state.table
          exact misclosing.of_keepsEpoll ⟨closed, rfl, rfl, rfl⟩
        · have closed := Table.later_close .epoll .connection state.table fd
          exact misclosing.of_keepsEpoll ⟨closed, rfl, rfl, rfl⟩
  | removeConnection fd =>
      simp only [IoDescriptors.step, removeConnection] at taken
      split at taken <;> cases taken
      have closed := Table.later_closeAll .epoll .connection
        (state.connectionOf fd).toList state.table
      exact misclosing.of_keepsEpoll ⟨closed, rfl, rfl, rfl⟩
  | stop =>
      simp only [IoDescriptors.step] at taken
      split at taken <;> cases taken
      exact misclosing.of_keepsEpoll (keepsEpoll_stop state)
  | destroy =>
      exact Or.inl (misclosing.destroy taken)
  | openOther fd =>
      obtain ⟨table, opened, rfl⟩ := Option.map_eq_some_iff.mp taken
      have later := later_openFor DescriptorOwner.noConfusion opened
      exact misclosing.of_keepsEpoll ⟨later, rfl, rfl, rfl⟩
  | closeOther fd =>
      simp only [IoDescriptors.step, closeOther] at taken
      split at taken <;> cases taken
      have closed := Table.later_close .epoll .other state.table fd
      exact misclosing.of_keepsEpoll ⟨closed, rfl, rfl, rfl⟩

theorem misclosing_of_not_listens
    (taken : state.step isOrchestrator action = some next)
    (fails : ¬ state.ListensToClients isOrchestrator action) :
    Misclosing next := by
  cases action with
  | start answers =>
      simp only [ListensToClients, Classical.not_imp] at fails
      obtain ⟨orchestrator, created, unregistered⟩ := fails
      obtain ⟨fd, epollFd⟩ := Option.isSome_iff_exists.mp created
      simp only [IoDescriptors.step, start] at taken
      split at taken
      · cases taken
      · rename_i first
        simp only [Bool.or_eq_true, not_or, Bool.not_eq_true] at first
        rw [epollFd] at taken
        obtain ⟨table, opened, rfl⟩ := Option.map_eq_some_iff.mp taken
        refine Or.inr ⟨first.2, rfl, (openFor_eq_some opened).1, ?_⟩
        intro entry
        exact absurd rfl (of_decide_eq_true (List.mem_filter.mp entry).2)
  | _ =>
      exact absurd trivial fails

/-- Whatever closes a descriptor has opened it and not closed it yet, and what is
open is what is held, whichever numbers the operating system uses again; once the
worker is destroyed and the listening sockets are closed none of its descriptors is
left.  A node has nothing to meet for it. -/
theorem descriptors_accounted
    {actions : List DescriptorAction}
    (run : execute (step isOrchestrator) {} actions = some state)
    (listens :
      Meets (step isOrchestrator) (ListensToClients isOrchestrator) {}
        actions) :
    state.table.misclosed = [] ∧ state.table.Accounts state.held ∧
      (state.destroyed = true → state.clientSockfd < 0 →
        state.serverSockfd < 0 →
          ∀ fd owner, (fd, owner) ∈ state.table.entries → owner = .other) := by
  have accounted : Accounted state :=
    invariant_of_meets
      (fun _ _ _ taken listens accounted => Accounted.step accounted taken listens)
      run listens accounted_new
  refine ⟨accounted.misclosed, accounted.accounts, ?_⟩
  intro destroyed noClients noServers fd owner entry
  obtain ⟨noEpoll, noEntries, nonePending⟩ := accounted.destroyed destroyed
  have isHeld := (accounted.accounts.entries fd owner).mp entry
  cases owner with
  | other =>
      rfl
  | epoll =>
      simp [held, heldFd_of_neg noEpoll] at isHeld
  | clientServer =>
      simp [held, heldFd_of_neg noClients] at isHeld
  | serverServer =>
      simp [held, heldFd_of_neg noServers] at isHeld
  | connection =>
      simp [held, noEntries, nonePending] at isHeld

/-- A node accepts one connection, connects to a peer, and gets the number of the
listening socket again for it. -/
def sampleNodeActions : List DescriptorAction :=
  [.bind .servers 3 true, .start ⟨some 4, true, true, true, true⟩,
    .accept .servers 5, .addConnection 5 true, .closeServer .servers,
    .connect 3 true, .addConnection 3 true, .removeConnection 5,
    .openOther 5, .stop, .destroy]

theorem descriptors_accounted_sampleNodeActions :
    ∃ state,
      execute (step false) {} sampleNodeActions = some state ∧
        state.table.misclosed = [] ∧
        ∀ fd owner, (fd, owner) ∈ state.table.entries → owner = .other := by
  have reached :
      (execute (step false) {} sampleNodeActions).map
          (fun state =>
            (state.destroyed, state.clientSockfd, state.serverSockfd)) =
        some (true, -1, -1) := by
    decide +kernel
  obtain ⟨state, run, same⟩ := Option.map_eq_some_iff.mp reached
  obtain ⟨destroyed, sockets⟩ := Prod.mk.inj same
  obtain ⟨clients, servers⟩ := Prod.mk.inj sockets
  have listens :
      Meets (step false) (ListensToClients false) {} sampleNodeActions := by
    decide +kernel
  obtain ⟨misclosed, _, others⟩ := descriptors_accounted run listens
  refine ⟨state, run, misclosed, others destroyed ?_ ?_⟩
  · rw [clients]
    decide
  · rw [servers]
    decide

/-- An orchestrator that could not listen to clients closes a descriptor a second
time when it is destroyed, or one that somebody else has got the number of. -/
theorem descriptors_misclosed_iff
    {actions : List DescriptorAction}
    (run : execute (step isOrchestrator) {} actions = some state)
    (destroyed : state.destroyed = true) :
    state.table.misclosed = [] ↔
      Meets (step isOrchestrator) (ListensToClients isOrchestrator) {}
        actions := by
  rcases
    meets_or_broken
      (fun _ _ _ taken listens accounted => Accounted.step accounted taken listens)
      (fun _ _ _ taken fails _ => misclosing_of_not_listens taken fails)
      (fun _ _ _ taken misclosing => Misclosing.step misclosing taken)
      run accounted_new with
    ⟨meets, accounted⟩ | ⟨fails, wrong | ⟨alive, _⟩⟩
  · exact iff_of_true accounted.misclosed meets
  · exact iff_of_false wrong fails
  · rw [destroyed] at alive
    cases alive

/-- The rest of the process gets the number of the epoll descriptor. -/
def sampleUnregistered : List DescriptorAction :=
  [.bind .clients 3 true, .bind .servers 4 true,
    .start ⟨some 5, true, false, true, true⟩, .openOther 5, .destroy]

theorem descriptors_misclosed_iff_sampleUnregistered :
    ∃ state,
      execute (step true) {} sampleUnregistered = some state ∧
        state.table.misclosed = [5] ∧
        ¬ Meets (step true) (ListensToClients true) {} sampleUnregistered := by
  have reached :
      (execute (step true) {} sampleUnregistered).map
          (fun state => (state.destroyed, state.table.misclosed)) =
        some (true, [5]) := by
    decide +kernel
  obtain ⟨state, run, same⟩ := Option.map_eq_some_iff.mp reached
  obtain ⟨destroyed, misclosed⟩ := Prod.mk.inj same
  have closedOnce := descriptors_misclosed_iff run destroyed
  refine ⟨state, run, misclosed, mt closedOnce.mpr ?_⟩
  rw [misclosed]
  exact List.cons_ne_nil _ _

end IoDescriptors

end RdmaKvCache
