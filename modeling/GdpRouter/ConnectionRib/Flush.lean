import GdpRouter.ConnectionRib.History

/-! The router task with its three queues, and the one flush of a client that
peers with a gateway. `select!` serves the queues in any order, so the flush may
come before a registration that is already queued. -/
namespace GdpRouter

open Multimap Transition

variable {σ : Type}

/-- The task and what is waiting for it. -/
structure RibQueues (σ : Type) where
  table : RibTable σ
  ribRx : List GDPPacket
  channelRx : List (GDPChannel σ)
  statRs : List (GDPStatus σ)

def RibQueues.initial : RibQueues σ := ⟨∅, [], [], []⟩

inductive RibQueuesLabel (σ : Type) where
  /-- Some connection or ROS task calls `proc_gdp_packet` with its handle. -/
  | proc (packet : GDPPacket) (handle : σ)
  /-- `stat_tx.send(..)` -/
  | flush (update : GDPStatus σ)
  | recvPacket (order : List GDPName) (closed : σ → Bool)
  | recvChannel (order : List GDPName) (closed : σ → Bool)
  | recvStatus (order : List GDPName) (closed : σ → Bool)

/-- Queue what a call of `proc_gdp_packet` sends. -/
def RibQueues.enqueue (state : RibQueues σ) : Option (RibMessage σ) → RibQueues σ
  | some (.register channel) => { state with channelRx := state.channelRx ++ [channel] }
  | some (.route packet) => { state with ribRx := state.ribRx ++ [packet] }
  | none => state

/-- The task handles one event that has just left its queue. -/
def RibQueues.handle (state : RibQueues σ) (label : RibLabel σ) :
    Option (RibQueues σ × List (σ × GDPPacket)) :=
  (connectionRouterStep state.table label).map fun next =>
    ({ state with table := next.1 }, next.2)

def ribQueuesStep (state : RibQueues σ) :
    RibQueuesLabel σ → Option (RibQueues σ × List (σ × GDPPacket))
  | .proc packet handle => some (state.enqueue (procGdpPacket packet handle), [])
  | .flush update => some ({ state with statRs := state.statRs ++ [update] }, [])
  | .recvPacket order closed =>
      match state.ribRx with
      | [] => none
      | packet :: rest => { state with ribRx := rest }.handle ⟨.packet packet, order, closed⟩
  | .recvChannel order closed =>
      match state.channelRx with
      | [] => none
      | channel :: rest => { state with channelRx := rest }.handle ⟨.channel channel, order, closed⟩
  | .recvStatus order closed =>
      match state.statRs with
      | [] => none
      | update :: rest => { state with statRs := rest }.handle ⟨.status update, order, closed⟩

/-- The runs of the task with its queues, from the queues' side. -/
def RibTask (σ : Type) : Step (RibQueues σ) (RibQueuesLabel σ) (σ × GDPPacket) :=
  OfOption ribQueuesStep

/-- The RIB handles what it took from its queues by its table alone. -/
theorem RibQueues.handle_eq_some_iff {state next : RibQueues σ} {label : RibLabel σ}
    {out : List (σ × GDPPacket)} :
    state.handle label = some (next, out) ↔ ∃ table,
      connectionRouterStep state.table label = some (table, out) ∧
        next = { state with table := table } := by
  simp only [RibQueues.handle, Option.map_eq_some_iff, Prod.mk.injEq, Prod.exists]
  constructor
  · intro ⟨table, sent, hStep, hNext, hSent⟩
    subst hNext hSent
    exact ⟨table, hStep, rfl⟩
  · intro ⟨table, hStep, hNext⟩
    exact ⟨table, out, hStep, hNext.symm, rfl⟩

/-- Everything that one step can do. -/
inductive RibQueuesMove :
    RibQueues σ → RibQueuesLabel σ → RibQueues σ → List (σ × GDPPacket) → Prop where
  | proc {state : RibQueues σ} (packet : GDPPacket) (handle : σ) :
      RibQueuesMove state (.proc packet handle)
        (state.enqueue (procGdpPacket packet handle)) []
  | flush {state : RibQueues σ} (update : GDPStatus σ) :
      RibQueuesMove state (.flush update) { state with statRs := state.statRs ++ [update] } []
  | recvPacket {table : RibTable σ} {packet : GDPPacket} {rest : List GDPPacket}
      {channelRx : List (GDPChannel σ)} {statRs : List (GDPStatus σ)} {order : List GDPName}
      {closed : σ → Bool} (hOrder : order.Perm table.keys) :
      RibQueuesMove ⟨table, packet :: rest, channelRx, statRs⟩ (.recvPacket order closed)
        ⟨table, rest, channelRx, statRs⟩ (routePacket closed order table packet)
  | recvChannel {table : RibTable σ} {ribRx : List GDPPacket} {channel : GDPChannel σ}
      {rest : List (GDPChannel σ)} {statRs : List (GDPStatus σ)} {order : List GDPName}
      {closed : σ → Bool} (hOrder : order.Perm table.keys) :
      RibQueuesMove ⟨table, ribRx, channel :: rest, statRs⟩ (.recvChannel order closed)
        ⟨registerChannel table channel, ribRx, rest, statRs⟩ []
  | recvStatus {table : RibTable σ} {ribRx : List GDPPacket} {channelRx : List (GDPChannel σ)}
      {update : GDPStatus σ} {rest : List (GDPStatus σ)} {order : List GDPName}
      {closed : σ → Bool} (hOrder : order.Perm table.keys) :
      RibQueuesMove ⟨table, ribRx, channelRx, update :: rest⟩ (.recvStatus order closed)
        ⟨table, ribRx, channelRx, rest⟩ (flushAdvertisements closed order update)

section Move

variable {state next : RibQueues σ} {label : RibQueuesLabel σ} {out : List (σ × GDPPacket)}

/-- Every step of the task is one of these moves. -/
theorem ribQueuesStep_move (h : ribQueuesStep state label = some (next, out)) :
    RibQueuesMove state label next out := by
  obtain ⟨table, ribRx, channelRx, statRs⟩ := state
  cases label with
  | proc packet handle =>
      cases h
      exact .proc packet handle
  | flush update =>
      cases h
      exact .flush update
  | recvPacket order closed =>
      cases ribRx with
      | nil => cases h
      | cons packet rest =>
          obtain ⟨_, hRoute, rfl⟩ := RibQueues.handle_eq_some_iff.mp h
          obtain ⟨hOrder, rfl, rfl⟩ := connectionRouterStep_packet.mp hRoute
          exact .recvPacket hOrder
  | recvChannel order closed =>
      cases channelRx with
      | nil => cases h
      | cons channel rest =>
          obtain ⟨_, hRoute, rfl⟩ := RibQueues.handle_eq_some_iff.mp h
          obtain ⟨hOrder, rfl, rfl⟩ := connectionRouterStep_channel.mp hRoute
          exact .recvChannel hOrder
  | recvStatus order closed =>
      cases statRs with
      | nil => cases h
      | cons update rest =>
          obtain ⟨_, hRoute, rfl⟩ := RibQueues.handle_eq_some_iff.mp h
          obtain ⟨hOrder, rfl, rfl⟩ := connectionRouterStep_status.mp hRoute
          exact .recvStatus hOrder

/-- Filling a queue does not concern the task, and taking from one is one step
of it. -/
theorem RibQueuesMove.router (h : RibQueuesMove state label next out) :
    (next.table = state.table ∧ out = []) ∨
      ∃ routed, connectionRouterStep state.table routed = some (next.table, out) := by
  cases h with
  | proc packet handle =>
      left
      unfold RibQueues.enqueue
      split <;> exact ⟨rfl, rfl⟩
  | flush update => exact .inl ⟨rfl, rfl⟩
  | recvPacket hOrder =>
      exact .inr ⟨⟨.packet _, _, _⟩, connectionRouterStep_packet.mpr ⟨hOrder, rfl, rfl⟩⟩
  | recvChannel hOrder =>
      exact .inr ⟨⟨.channel _, _, fun _ => false⟩,
        connectionRouterStep_channel.mpr ⟨hOrder, rfl, rfl⟩⟩
  | recvStatus hOrder =>
      exact .inr ⟨⟨.status _, _, _⟩, connectionRouterStep_status.mpr ⟨hOrder, rfl, rfl⟩⟩

end Move

/-- A run with queues is a run of the task on what it took from them. -/
theorem ribTask_router {state finish : RibQueues σ} {labels : List (RibQueuesLabel σ)}
    {out : List (σ × GDPPacket)} (run : Run (RibTask σ) state labels finish out) :
    ∃ routed, Run (ConnectionRouter σ) state.table routed finish.table out := by
  induction run with
  | nil state => exact ⟨[], .nil _⟩
  | cons first _ ih =>
      obtain ⟨routed, tail⟩ := ih
      rcases (ribQueuesStep_move first).router with ⟨hTable, rfl⟩ | ⟨label, hStep⟩
      · exact ⟨routed, hTable ▸ tail⟩
      · exact ⟨label :: routed, .cons hStep tail⟩

/-! ### What has been taken from the queues -/

/-- The registration that a call sends. -/
def RibQueuesLabel.registers : RibQueuesLabel σ → List (GDPChannel σ)
  | .proc packet handle =>
      match procGdpPacket packet handle with
      | some (.register channel) => [channel]
      | some (.route _) | none => []
  | .flush _ | .recvPacket _ _ | .recvChannel _ _ | .recvStatus _ _ => []

def RibQueuesLabel.updates : RibQueuesLabel σ → List (GDPStatus σ)
  | .flush update => [update]
  | .proc _ _ | .recvPacket _ _ | .recvChannel _ _ | .recvStatus _ _ => []

def RibQueuesLabel.takesChannel : RibQueuesLabel σ → Bool
  | .recvChannel _ _ => true
  | .proc _ _ | .flush _ | .recvPacket _ _ | .recvStatus _ _ => false

def RibQueuesLabel.takesStatus : RibQueuesLabel σ → Bool
  | .recvStatus _ _ => true
  | .proc _ _ | .flush _ | .recvPacket _ _ | .recvChannel _ _ => false

/-- The registrations that the task has handled: the first of those sent, as many
as it has taken. -/
def handledRegistrations (labels : List (RibQueuesLabel σ)) : List (GDPChannel σ) :=
  (labels.flatMap RibQueuesLabel.registers).take (labels.countP RibQueuesLabel.takesChannel)

/-- The queues hold what was sent and not taken, and the table has the rest. -/
structure RibQueues.Accounts (state : RibQueues σ) (labels : List (RibQueuesLabel σ)) : Prop where
  registered : ∃ handled, labels.flatMap RibQueuesLabel.registers = handled ++ state.channelRx ∧
    labels.countP RibQueuesLabel.takesChannel = handled.length ∧
    Represents GDPChannel.gdpname state.table handled
  statuses : (labels.flatMap RibQueuesLabel.updates).length =
    labels.countP RibQueuesLabel.takesStatus + state.statRs.length
  forwards : ∀ packet ∈ state.ribRx, packet.action = .forward

/-- The books of a new RIB are empty. -/
theorem RibQueues.Accounts.initial : (RibQueues.initial : RibQueues σ).Accounts [] where
  registered := ⟨[], rfl, rfl, represents_empty _⟩
  statuses := rfl
  forwards := List.forall_mem_nil _

section Accounts

variable {state next : RibQueues σ} {label : RibQueuesLabel σ} {labels : List (RibQueuesLabel σ)}
  {out : List (σ × GDPPacket)}

/-- A registration waits in its queue until it is taken, and is then in the table. -/
theorem RibQueuesMove.registered (h : RibQueuesMove state label next out)
    {handled : List (GDPChannel σ)} (hTable : Represents GDPChannel.gdpname state.table handled) :
    ∃ taken, state.channelRx ++ label.registers = taken ++ next.channelRx ∧
      taken.length = [label].countP RibQueuesLabel.takesChannel ∧
      Represents GDPChannel.gdpname next.table (handled ++ taken) := by
  cases h with
  | proc packet handle =>
      refine ⟨[], ?_⟩
      rw [RibQueuesLabel.registers, List.append_nil]
      cases procGdpPacket packet handle with
      | none => exact ⟨by simp [RibQueues.enqueue], rfl, hTable⟩
      | some message => cases message <;> exact ⟨by simp [RibQueues.enqueue], rfl, hTable⟩
  | @recvChannel _ _ channel _ _ _ _ hOrder =>
      exact ⟨[channel], by simp [RibQueuesLabel.registers], rfl, hTable.push channel⟩
  | flush | recvPacket | recvStatus =>
      refine ⟨[], by simp [RibQueuesLabel.registers], rfl, ?_⟩
      rwa [List.append_nil]

/-- A request to flush is taken, or still waits. -/
theorem RibQueuesMove.statuses (h : RibQueuesMove state label next out) :
    state.statRs.length + label.updates.length =
      [label].countP RibQueuesLabel.takesStatus + next.statRs.length := by
  cases h with
  | proc packet handle =>
      unfold RibQueues.enqueue
      split <;> simp [RibQueuesLabel.updates, RibQueuesLabel.takesStatus]
  | flush | recvPacket | recvChannel => simp [RibQueuesLabel.updates, RibQueuesLabel.takesStatus]
  | recvStatus => simp [RibQueuesLabel.updates, RibQueuesLabel.takesStatus, Nat.add_comm]

/-- Nothing but packets waits among the packets. -/
theorem RibQueuesMove.forwards (h : RibQueuesMove state label next out)
    (hForwards : ∀ packet ∈ state.ribRx, packet.action = .forward) :
    ∀ packet ∈ next.ribRx, packet.action = .forward := by
  cases h with
  | proc packet handle =>
      unfold procGdpPacket
      split
      · exact hForwards
      · rename_i hAction
        exact List.forall_mem_append.mpr ⟨hForwards, List.forall_mem_singleton.mpr hAction⟩
      all_goals exact hForwards
  | recvPacket hOrder => exact (List.forall_mem_cons.mp hForwards).2
  | flush | recvChannel | recvStatus => exact hForwards

/-- Every move keeps the books. -/
theorem RibQueues.Accounts.step (h : state.Accounts labels)
    (hMove : RibQueuesMove state label next out) : next.Accounts (labels ++ [label]) where
  registered := by
    obtain ⟨handled, hSent, hTaken, hTable⟩ := h.registered
    obtain ⟨taken, hQueue, hCount, hNext⟩ := hMove.registered hTable
    refine ⟨handled ++ taken, ?_, ?_, hNext⟩
    · rw [List.flatMap_append, hSent, List.flatMap_singleton, List.append_assoc, hQueue,
        List.append_assoc]
    · rw [List.countP_append, hTaken, ← hCount, List.length_append]
  statuses := by
    rw [List.flatMap_append, List.length_append, h.statuses, List.countP_append,
      List.flatMap_singleton, Nat.add_assoc, hMove.statuses, Nat.add_assoc]
  forwards := hMove.forwards h.forwards

theorem RibQueues.accounts_of_run (run : Run (RibTask σ) .initial labels state out) :
    state.Accounts labels :=
  run.history_invariant (fun state labels _ => state.Accounts labels) .initial
    fun _ _ _ _ _ _ _ h hStep => h.step (ribQueuesStep_move hStep)

/-- The names in the table are those of the registrations that have been handled. -/
theorem RibQueues.Accounts.keys_perm (h : state.Accounts labels) :
    state.table.keys.Perm (registeredNames (handledRegistrations labels)) := by
  obtain ⟨handled, hSent, hTaken, hTable⟩ := h.registered
  have hHandled : handledRegistrations labels = handled := by
    rw [handledRegistrations, hSent, hTaken, List.take_left]
  rw [hHandled]
  exact hTable.keys_perm

/-- The advertisements that are put on queues. -/
def advertisementsIn (out : List (σ × GDPPacket)) : List (σ × GDPPacket) :=
  out.filter fun sent => sent.2.action = .advertise

theorem advertisementsIn_append (first second : List (σ × GDPPacket)) :
    advertisementsIn (first ++ second) = advertisementsIn first ++ advertisementsIn second :=
  List.filter_append ..

/-- Only the status branch sends advertisements. -/
theorem RibQueuesMove.advertisementsIn_eq_nil (h : RibQueuesMove state label next out)
    (hForwards : ∀ packet ∈ state.ribRx, packet.action = .forward)
    (hLabel : label.takesStatus = false) : advertisementsIn out = [] := by
  cases h with
  | proc | flush | recvChannel => rfl
  | recvPacket hOrder =>
      rw [advertisementsIn, List.filter_eq_nil_iff]
      intro sent hSent
      obtain ⟨-, dst, -, -, -, rfl⟩ := mem_routePacket hSent
      simp [hForwards _ List.mem_cons_self]
  | recvStatus => cases hLabel

/-- While no status is handled, nothing is advertised. -/
theorem advertisementsIn_of_run {start finish : RibQueues σ}
    (hForwards : ∀ packet ∈ start.ribRx, packet.action = .forward)
    (hLabels : labels.countP RibQueuesLabel.takesStatus = 0)
    (run : Run (RibTask σ) start labels finish out) : advertisementsIn out = [] := by
  induction run with
  | nil => rfl
  | cons first _ ih =>
      have hMove := ribQueuesStep_move first
      obtain ⟨hLabel, hRest⟩ := List.forall_mem_cons.mp (List.countP_eq_zero.mp hLabels)
      have hFirst := hMove.advertisementsIn_eq_nil hForwards (by simpa using hLabel)
      have hLast := ih (hMove.forwards hForwards) (List.countP_eq_zero.mpr hRest)
      rw [advertisementsIn_append, hFirst, hLast, List.append_nil]

/-- A flush sends one advertisement for each name that is known, unless its sink
is closed. -/
theorem advertisementsIn_flushAdvertisements {order : List GDPName} {closed : σ → Bool}
    {update : GDPStatus σ} :
    advertisementsIn (flushAdvertisements closed order update) =
      if closed update.sink then []
      else order.map fun name => (update.sink, constructGdpAdvertisementFromBytes name name) := by
  have hAll : ∀ sent ∈ flushAdvertisements closed order update, sent.2.action = .advertise := by
    intro sent hSent
    obtain ⟨-, name, -, rfl⟩ := mem_flushAdvertisements.mp hSent
    rfl
  rw [advertisementsIn, List.filter_eq_self.mpr (by simpa using hAll), flushAdvertisements]
  cases hSink : closed update.sink with
  | true => simp [send, hSink]
  | false => simp [send_of_open hSink, List.map_eq_flatMap]

end Accounts

/-- In every state behind the flush, each name that was in the table when the status was
handled is on the sink's queue as an advertisement, if the sink was open. These are
the names of the registrations that had been handled by then. If the status is the
only one, nothing else is ever advertised: a registration that is handled later is
not, even when it was sent before the status. -/
theorem ribTask_flush_advertises {before after : List (RibQueuesLabel σ)} {order : List GDPName}
    {closed : σ → Bool} {finish : RibQueues σ} {out : List (σ × GDPPacket)}
    (run : Run (RibTask σ) .initial (before ++ .recvStatus order closed :: after) finish out) :
    ∃ middle earlier update rest, Run (RibTask σ) .initial before middle earlier ∧
      middle.statRs = update :: rest ∧
      (closed update.sink = false → ∀ name ∈ middle.table,
        (update.sink, constructGdpAdvertisementFromBytes name name) ∈ out) ∧
      (∀ name, name ∈ middle.table ↔ name ∈ order) ∧
      order.Perm (registeredNames (handledRegistrations before)) ∧
      ((before ++ after).flatMap RibQueuesLabel.updates = [update] →
        advertisementsIn out =
          if closed update.sink then []
          else order.map fun name =>
            (update.sink, constructGdpAdvertisementFromBytes name name)) := by
  obtain ⟨middle, earlier, later, hBefore, hAfter, rfl⟩ := run_append_iff.mp run
  have hMiddle := RibQueues.accounts_of_run hBefore
  cases hAfter with
  | @cons _ next _ _ _ flushed behind first tail =>
      have hMove := ribQueuesStep_move first
      have hNext := (hMiddle.step hMove).forwards
      cases hMove with
      | @recvStatus table ribRx channelRx update rest _ _ hOrder =>
          have hMem : ∀ name, name ∈ table ↔ name ∈ order := fun name =>
            AList.mem_keys.trans hOrder.mem_iff.symm
          refine ⟨_, earlier, update, rest, hBefore, rfl, ?_, hMem,
            hOrder.trans hMiddle.keys_perm, ?_⟩
          · intro hOpen name hName
            have hSent := mem_flushAdvertisements.mpr ⟨hOpen, name, (hMem name).mp hName, rfl⟩
            exact List.mem_append_right _ (List.mem_append_left _ hSent)
          · intro hOnce
            have hAll := (RibQueues.accounts_of_run run).statuses
            rw [List.flatMap_append] at hOnce
            rw [List.flatMap_append, List.flatMap_cons, RibQueuesLabel.updates, List.nil_append,
              hOnce, List.countP_append, List.countP_cons, RibQueuesLabel.takesStatus, if_pos rfl,
              List.length_singleton] at hAll
            have hEarlier := advertisementsIn_of_run (List.forall_mem_nil _) (by omega) hBefore
            have hLater := advertisementsIn_of_run hNext (by omega) tail
            rw [advertisementsIn_append, hEarlier, advertisementsIn_append, hLater,
              List.append_nil, List.nil_append, advertisementsIn_flushAdvertisements]

namespace FlushExample

open RouterExample

def allOpen : Nat → Bool := fun _ => false

/-- A topic is registered in time. -/
def timely : List (RibQueuesLabel Nat) :=
  [.proc (constructGdpAdvertisementFromBytes topic publisher) 1, .flush ⟨0⟩,
    .recvChannel [] allOpen]

/-- Two topics are registered before the status is sent, and one of them in time. -/
def halfway : List (RibQueuesLabel Nat) :=
  [.proc (constructGdpAdvertisementFromBytes topic publisher) 1,
    .proc (constructGdpAdvertisementFromBytes other publisher) 1, .flush ⟨0⟩,
    .recvChannel [] allOpen]

/-- The topic is queued for registration when the flush is handled. -/
def late : List (RibQueuesLabel Nat) :=
  [.proc (constructGdpAdvertisementFromBytes topic publisher) 1, .flush ⟨0⟩, .recvStatus [] allOpen,
    .recvChannel [] allOpen]

/-- The topic is registered in time, but the connection of the sink has ended. -/
def refused : List (RibQueuesLabel Nat) :=
  timely ++ [.recvStatus [topic] fun handle => handle = 0]

end FlushExample

open RouterExample FlushExample

/-- The second topic is in the table in the end, and only the first was advertised. -/
theorem ribTask_flush_advertises_example : ∃ finish out,
    Run (RibTask Nat) .initial
      (halfway ++ .recvStatus [topic] allOpen :: [.recvChannel [topic] allOpen]) finish out ∧
      other ∈ finish.table ∧
      advertisementsIn out = [(0, constructGdpAdvertisementFromBytes topic topic)] := by
  have hBefore : (runOption ribQueuesStep .initial halfway).any (fun result =>
      decide (result.1.statRs.map GDPStatus.sink = [0])) = true := by decide +kernel
  have hWhole : (runOption ribQueuesStep .initial
      (halfway ++ .recvStatus [topic] allOpen :: [.recvChannel [topic] allOpen])).any (fun result =>
        decide (other ∈ result.1.table)) = true := by decide +kernel
  obtain ⟨⟨middle, earlier⟩, hMiddle, hSink⟩ := (Option.any_eq_true _ _).mp hBefore
  obtain ⟨⟨finish, out⟩, hFinish, hOther⟩ := (Option.any_eq_true _ _).mp hWhole
  have run := runOption_eq_some_iff.mp hFinish
  obtain ⟨_, _, update, rest, prior, hQueue, -, -, -, hOnly⟩ := ribTask_flush_advertises run
  obtain ⟨rfl, rfl⟩ := ofOption_functional (runOption_eq_some_iff.mp hMiddle) prior
  have hFirst := of_decide_eq_true hSink
  simp only [hQueue, List.map_cons, List.cons.injEq] at hFirst
  obtain rfl : update = ⟨0⟩ := congrArg GDPStatus.mk hFirst.1
  exact ⟨finish, out, run, of_decide_eq_true hOther, hOnly rfl⟩

/-- A name registered after the flush is never announced, nor is one that goes
to a closed sink. -/
theorem FlushExample.missed : ∀ labels ∈ [late, refused], ∃ finish,
    Run (RibTask Nat) .initial labels finish [] ∧
      (finish.ribRx = [] ∧ finish.channelRx = [] ∧ finish.statRs = []) ∧ topic ∈ finish.table := by
  intro labels hLabels
  have hRun : ∀ labels ∈ [late, refused], (runOption ribQueuesStep .initial labels).any
      (fun result => result.2 = [] ∧ (result.1.ribRx = [] ∧ result.1.channelRx.length = 0 ∧
        result.1.statRs.length = 0) ∧ topic ∈ result.1.table) = true := by decide +kernel
  obtain ⟨⟨finish, out⟩, hResult, hFinish⟩ := (Option.any_eq_true _ _).mp (hRun labels hLabels)
  obtain ⟨hOut, ⟨hRib, hChannel, hStat⟩, hTopic⟩ := of_decide_eq_true hFinish
  simp only at hOut
  subst hOut
  exact ⟨finish, runOption_eq_some_iff.mp hResult,
    ⟨hRib, List.length_eq_zero_iff.mp hChannel, List.length_eq_zero_iff.mp hStat⟩, hTopic⟩

/-- Everything has been handled, the topic is in the table, and the gateway has
not been told: the flush came too early, or its sink was closed. -/
theorem ribTask_flush_misses :
    (∃ finish, Run (RibTask Nat) .initial late finish [] ∧
      (finish.ribRx = [] ∧ finish.channelRx = [] ∧ finish.statRs = []) ∧ topic ∈ finish.table) ∧
    ∃ finish, Run (RibTask Nat) .initial refused finish [] ∧
      (finish.ribRx = [] ∧ finish.channelRx = [] ∧ finish.statRs = []) ∧ topic ∈ finish.table :=
  ⟨missed late (by simp), missed refused (by simp)⟩

end GdpRouter
