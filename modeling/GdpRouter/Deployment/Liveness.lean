import GdpRouter.Deployment.Relay
import GdpRouter.Semantics.Fairness

/-! Endless runs in which every task gets its turn. What waits in a queue goes on then, and
so all the way from a subscriber on one robot to a publisher on another. -/
namespace GdpRouter

open Multimap Transition

variable {R E T : Type} [DecidableEq R] [DecidableEq E] [DecidableEq T]

/-- The scheduler treats every task fairly, as far as it works off its queues. -/
structure Network.Fair (net : Network R E T) (states : ℕ → NetState R E T)
    (chosen : ℕ → NetLabel R E T) : Prop where
  send : ∀ endpoint, WeaklyFair net.Steps states chosen (· = .connSend endpoint)
  recv : ∀ endpoint, WeaklyFair net.Steps states chosen (· = .connRecv endpoint)
  packet : ∀ router, WeaklyFair net.Steps states chosen fun label =>
    ∃ order, label = .ribPacket router order
  channel : ∀ router, WeaklyFair net.Steps states chosen (· = .ribChannel router)
  status : ∀ router, WeaklyFair net.Steps states chosen fun label =>
    ∃ order, label = .ribStatus router order
  publish : ∀ task, WeaklyFair net.Steps states chosen (· = .rosRecv task)

/-- There is nothing left to do. -/
structure NetState.Quiet (state : NetState R E T) : Prop where
  ribRx : ∀ router, state.ribRx router = []
  channelRx : ∀ router, state.channelRx router = []
  statRs : ∀ router, state.statRs router = []
  conn : ∀ endpoint, state.queue (.conn endpoint) = []
  ros : ∀ task, state.queue (.ros task) = []
  link : ∀ endpoint, state.link endpoint = []

instance [Fintype R] [Fintype E] [Fintype T] (state : NetState R E T) : Decidable state.Quiet :=
  decidable_of_iff ((∀ router, state.ribRx router = [] ∧ state.channelRx router = [] ∧
      state.statRs router = []) ∧
    (∀ endpoint, state.queue (.conn endpoint) = [] ∧ state.link endpoint = []) ∧
    ∀ task, state.queue (.ros task) = [])
    ⟨fun ⟨hRouters, hEndpoints, hTasks⟩ => ⟨fun router => (hRouters router).1,
        fun router => (hRouters router).2.1, fun router => (hRouters router).2.2,
        fun endpoint => (hEndpoints endpoint).1, hTasks, fun endpoint => (hEndpoints endpoint).2⟩,
      fun h => ⟨fun router => ⟨h.ribRx router, h.channelRx router, h.statRs router⟩,
        fun endpoint => ⟨h.conn endpoint, h.link endpoint⟩, h.ros⟩⟩

/-- A run that comes to rest again and again is fair. -/
theorem Network.Fair.of_quiet {net : Network R E T} {states : ℕ → NetState R E T}
    {chosen : ℕ → NetLabel R E T} (h : ∀ n, ∃ m, n ≤ m ∧ (states m).Quiet) :
    net.Fair states chosen := by
  have hFair : ∀ task : NetLabel R E T → Prop,
      (∀ {state}, state.Quiet → ¬Enabled net.Steps task state) →
        WeaklyFair net.Steps states chosen task := fun task hIdle =>
    .of_disabled fun n => (h n).imp fun _ hQuiet => hQuiet.imp_right hIdle
  constructor
  · refine fun endpoint => hFair _ fun hQuiet => ?_
    rintro ⟨_, _, _, rfl, hStep⟩
    cases next_move hStep with
    | connSend _ _ hQueue | connSendOut _ _ hQueue => cases (hQuiet.conn _).symm.trans hQueue
  · refine fun endpoint => hFair _ fun hQuiet => ?_
    rintro ⟨_, _, _, rfl, hStep⟩
    cases next_move hStep with
    | connRecv _ hLink => cases (hQuiet.link _).symm.trans hLink
  · refine fun router => hFair _ fun hQuiet => ?_
    rintro ⟨_, _, _, ⟨_, rfl⟩, hStep⟩
    cases next_move hStep with
    | ribPacket hQueue => cases (hQuiet.ribRx _).symm.trans hQueue
  · refine fun router => hFair _ fun hQuiet => ?_
    rintro ⟨_, _, _, rfl, hStep⟩
    cases next_move hStep with
    | ribChannel hQueue => cases (hQuiet.channelRx _).symm.trans hQueue
  · refine fun router => hFair _ fun hQuiet => ?_
    rintro ⟨_, _, _, ⟨_, rfl⟩, hStep⟩
    cases next_move hStep with
    | ribStatus hQueue => cases (hQuiet.statRs _).symm.trans hQueue
  · refine fun task => hFair _ fun hQuiet => ?_
    rintro ⟨_, _, _, rfl, hStep⟩
    cases next_move hStep with
    | rosRecv _ _ hQueue => cases (hQuiet.ros _).symm.trans hQueue

/-- A task that has ended can end again, for ever. -/
theorem close_idles {net : Network R E T} {state : NetState R E T} {handle : Handle E T}
    (hClosed : state.closed handle = true) (hQueue : state.queue handle = []) :
    net.Steps state (.close handle) state [] := by
  have hSame : Function.update state.closed handle true = state.closed :=
    Function.update_eq_self_iff.mpr hClosed.symm
  have hEmpty : Function.update state.queue handle [] = state.queue :=
    Function.update_eq_self_iff.mpr hQueue.symm
  simp [Network.Steps, OfOption, Network.next, hSame, hEmpty]

omit [DecidableEq R] [DecidableEq E] [DecidableEq T] in
theorem NetState.running_iff {state : NetState R E T} {handle : Handle E T} :
    state.running handle = true ↔
      state.started handle = true ∧ state.closed handle = false := by
  simp [running]

section Steps

variable {net : Network R E T} {state after : NetState R E T} {label : NetLabel R E T}
  {observed : List (Observation R E T)} {here there : E} {router : R} {task : T}

/-- Frames on a connection that does not break stay there until they are read. -/
theorem Move.link_kept (hMove : Move net state label after observed)
    (hLose : label ≠ .lose there) :
    state.link there <+: observed.flatMap (Observation.deliveredAt there) ++ after.link there := by
  have hNothing : ∀ sent : List (Handle E T × Copy R E T),
      (putAll sent).flatMap (Observation.deliveredAt there) = [] := fun sent =>
    putAll_flatMap_nil fun _ _ => rfl
  cases hMove with
  | @connSend endpoint other copy rest hRunning hPeer hQueue =>
      by_cases hThere : there = other <;> simp [hThere]
  | @connRecv endpoint frame rest hRunning hLink =>
      by_cases hThere : there = endpoint
      · subst hThere
        simp [hLink, Observation.deliveredAt]
      · simp [hThere, Ne.symm hThere, Observation.deliveredAt]
  | @wire endpoint header payload hPeer => by_cases hThere : there = endpoint <;> simp [hThere]
  | @lose endpoint frame rest hLink =>
      have hThere : there ≠ endpoint := fun hSame => hLose (hSame ▸ rfl)
      simp [hThere]
  | ribPacket | ribStatus | rosForwardDirect => simp [NetState.put, hNothing]
  | rosRecv => split <;> simp
  | ribChannel | connStart | connSendOut | rosAdvertise | rosForward | flush | close => simp

/-- Packets wait for the RIB until it handles them. -/
theorem Move.ribRx_kept (hMove : Move net state label after observed) (router : R) :
    state.ribRx router <+:
      observed.flatMap (Observation.handledAt router) ++ after.ribRx router := by
  have hNothing : ∀ sent : List (Handle E T × Copy R E T),
      (putAll sent).flatMap (Observation.handledAt router) = [] := fun sent =>
    putAll_flatMap_nil fun _ _ => rfl
  cases hMove with
  | @ribPacket other order copy rest hQueue hOrder =>
      by_cases hRouter : router = other
      · subst hRouter
        simp [NetState.put, hNothing, hQueue, Observation.handledAt]
      · simp [NetState.put, hNothing, hRouter, Ne.symm hRouter, Observation.handledAt]
  | ribStatus | rosForwardDirect => simp [NetState.put, hNothing]
  | rosRecv => split <;> simp [Observation.handledAt]
  | connRecv => simp [Observation.handledAt]
  | ribChannel | connStart | connSend | connSendOut | wire | lose => simp
  | rosAdvertise | rosForward | flush | close => simp

/-- A task that has begun goes on until it ends. -/
theorem Move.running_of_not_close (hMove : Move net state label after observed)
    {handle : Handle E T} (hClose : label ≠ .close handle)
    (h : state.running handle = true) : after.running handle = true := by
  rw [NetState.running_iff] at h ⊢
  refine ⟨?_, hMove.open_of_not_close hClose h.2⟩
  cases hMove with
  | @connStart endpoint hStarted | @rosAdvertise task hStarted =>
      simp [Function.update_apply, h.1]
  | ribPacket | ribStatus | rosForwardDirect => exact h.1
  | ribChannel | connSend | connSendOut | wire | lose | rosRecv | flush | close => exact h.1
  | connRecv | rosForward => simpa using h.1

/-- Sending puts a frame on its way. -/
theorem Move.link_of_connSend (hPeer : net.peer here = some there)
    (hMove : Move net state (.connSend here) after observed) : after.link there ≠ [] := by
  cases hMove with
  | connSend hRunning hOther =>
      obtain rfl := Option.some.inj (hOther.symm.trans hPeer)
      simp
  | connSendOut hRunning hOther => cases hOther.symm.trans hPeer

theorem Move.delivered_of_connRecv (hMove : Move net state (.connRecv there) after observed) :
    observed.flatMap (Observation.deliveredAt there) ≠ [] := by
  cases hMove with
  | connRecv => simp [Observation.deliveredAt]

theorem Move.handled_of_ribPacket {order : List GDPName}
    (hMove : Move net state (.ribPacket router order) after observed) :
    observed.flatMap (Observation.handledAt router) ≠ [] := by
  cases hMove with
  | ribPacket => simp [Observation.handledAt]

theorem Move.taken_of_rosRecv (hMove : Move net state (.rosRecv task) after observed) :
    state.taken (.rosRecv task) task ≠ [] := by
  cases hMove with
  | rosRecv hRunning hKind hQueue => simp [NetState.taken, hQueue]

end Steps

section Endless

variable {net : Network R E T} {states : ℕ → NetState R E T} {chosen : ℕ → NetLabel R E T}
  {outs : ℕ → List (Observation R E T)} {here there : E} {router : R} {task publisher : T}

/-- A task that has begun and does not end runs from then on. -/
theorem running_from (hSteps : ∀ n, net.Steps (states n) (chosen n) (states (n + 1)) (outs n))
    {handle : Handle E T} (hClose : ∀ n, chosen n ≠ .close handle) {n : ℕ}
    (hRunning : (states n).running handle = true) :
    ∀ m, n ≤ m → (states m).running handle = true := by
  intro m hm
  induction m, hm using Nat.le_induction with
  | base => exact hRunning
  | succ m _ ih => exact (next_move (hSteps m)).running_of_not_close (hClose m) ih

/-- All that is on its way over a connection is read in the end. -/
theorem delivered_follows (hPeer : net.peer here = some there)
    (hSteps : ∀ n, net.Steps (states n) (chosen n) (states (n + 1)) (outs n))
    (hFair : net.Fair states chosen)
    (hRunning : ∃ n, ∀ m, n ≤ m →
      (states m).running (.conn here) = true ∧ (states m).running (.conn there) = true)
    (hKept : ∀ n, chosen n ≠ .lose there ∧ chosen n ≠ .close (.conn here)) :
    Follows
      (fun n => (history outs n).flatMap (Observation.deliveredAt there) ++
        (states n).inFlight here there)
      fun n => (history outs n).flatMap (Observation.deliveredAt there) := by
  simp only [history_flatMap]
  have hCarries := fun n => (next_move (hSteps n)).carries hPeer (hKept n).1 (hKept n).2
  refine .of_queue (fun n => ?_) fun n hHeld => ?_
  · rw [← hCarries n]
    exact List.prefix_append _ _
  by_contra! hNone
  obtain ⟨begun, hRunning⟩ := hRunning
  have hFlight : ∀ m, n ≤ m → (states m).inFlight here there ≠ [] := by
    intro m hm
    induction m, hm using Nat.le_induction with
    | base => exact hHeld
    | succ m hm ih =>
        intro hEmpty
        have hAll := hCarries m
        rw [hNone m hm, hEmpty] at hAll
        exact ih (List.append_eq_nil_iff.mp hAll).1
  -- Something is sent, unless it has been before, and what is sent is read.
  have hSent : ∃ m, max n begun ≤ m ∧ (states m).link there ≠ [] := by
    by_contra! hUnsent
    obtain ⟨m, hm, hSend⟩ := hFair.send here (max n begun) fun m hm => by
      have hQueue := hFlight m (le_of_max_le_left hm)
      rw [NetState.inFlight, hUnsent m hm, List.nil_append] at hQueue
      exact connSend_enabled (hRunning m (le_of_max_le_right hm)).1
        (List.map_eq_nil_iff.not.mp hQueue)
    exact (hSend ▸ next_move (hSteps m)).link_of_connSend hPeer
      (hUnsent (m + 1) (Nat.le_succ_of_le hm))
  obtain ⟨first, hFirst, hLink⟩ := hSent
  have hUnread : ∀ m, first ≤ m → (states m).link there ≠ [] := by
    intro m hm
    induction m, hm using Nat.le_induction with
    | base => exact hLink
    | succ m hm ih =>
        intro hEmpty
        have hStays := (next_move (hSteps m)).link_kept (hKept m).1
        rw [hNone m ((le_of_max_le_left hFirst).trans hm), hEmpty] at hStays
        exact ih (List.prefix_nil.mp hStays)
  obtain ⟨m, hm, hRecv⟩ := hFair.recv there first fun m hm =>
    connRecv_enabled (hRunning m ((le_of_max_le_right hFirst).trans hm)).2 (hUnread m hm)
  exact (hRecv ▸ next_move (hSteps m)).delivered_of_connRecv
    (hNone m ((le_of_max_le_left hFirst).trans hm))

/-- All that waits for a RIB is handled in the end. -/
theorem handled_follows (router : R)
    (hSteps : ∀ n, net.Steps (states n) (chosen n) (states (n + 1)) (outs n))
    (hFair : net.Fair states chosen) :
    Follows
      (fun n => (history outs n).flatMap (Observation.handledAt router) ++ (states n).ribRx router)
      fun n => (history outs n).flatMap (Observation.handledAt router) := by
  simp only [history_flatMap]
  refine (hFair.packet router).follows (fun n => (next_move (hSteps n)).ribRx_kept router)
    (fun n => ribPacket_enabled) fun n => ?_
  rintro ⟨order, hLabel⟩
  exact (hLabel ▸ next_move (hSteps n)).handled_of_ribPacket

/-- All that a publisher has on its queue is taken in the end. -/
theorem taken_follows
    (hSteps : ∀ n, net.Steps (states n) (chosen n) (states (n + 1)) (outs n))
    (hFair : net.Fair states chosen) (hKind : net.rosKind publisher = .publisher)
    (hRunning : (states 0).running (.ros publisher) = true)
    (hClose : ∀ n, chosen n ≠ .close (.ros publisher)) :
    Follows (fun n => history (fun n => (states n).taken (chosen n) publisher) n ++
        (states n).queue (.ros publisher))
      (history fun n => (states n).taken (chosen n) publisher) := by
  refine (hFair.publish publisher).follows (fun n => ?_)
    (fun n => rosRecv_enabled (running_from hSteps hClose hRunning n n.zero_le) hKind)
    fun n hLabel => ?_
  · rw [← (next_move (hSteps n)).takes (hClose n)]
    exact List.prefix_append _ _
  · rw [hLabel]
    exact (hLabel ▸ next_move (hSteps n)).taken_of_rosRecv

omit [DecidableEq T] in
/-- The packets handled from one connection, among all that are handled. -/
theorem handledFrom_eq (observed : List (Observation R E T)) :
    observed.flatMap (Observation.handledFrom router there) =
      (observed.flatMap (Observation.handledAt router)).filter fun copy =>
        copy.heard = some there := by
  rw [List.filter_flatMap]
  apply List.flatMap_congr
  intro seen _
  cases seen with
  | handled other copy =>
      by_cases hRouter : other = router <;> by_cases hHeard : copy.heard = some there <;>
        simp [Observation.handledFrom, Observation.handledAt, hRouter, hHeard]
  | put | delivered | published => rfl

/-- One hop: the messages of a task come to the RIB at the other end. -/
theorem messages_follow_hop (hPeer : net.peer here = some there)
    (hTopic : (net.onTopic task).Everywhere net (states 0))
    (hSilent : (Local.silent task).Everywhere net (states 0))
    (hSteps : ∀ n, net.Steps (states n) (chosen n) (states (n + 1)) (outs n))
    (hFair : net.Fair states chosen)
    (hRunning : ∃ n, ∀ m, n ≤ m →
      (states m).running (.conn here) = true ∧ (states m).running (.conn there) = true)
    (hKept : ∀ n, chosen n ≠ .lose there ∧ chosen n ≠ .close (.conn here)) :
    Follows
      (fun n => ((history outs n).flatMap (Observation.putOn (.conn here))).flatMap
        (Copy.messageOf task))
      fun n => ((history outs n).flatMap (Observation.handledFrom (net.home there) there)).flatMap
        (Copy.messageOf task) := by
  have hDelivered := (delivered_follows hPeer hSteps hFair hRunning hKept).flatMap
    (InTransit.messageOf task)
  have hHandled := ((handled_follows (net.home there) hSteps hFair).filter fun copy =>
    copy.heard = some there).flatMap (Copy.messageOf task)
  simp only [List.filter_append, ← handledFrom_eq] at hHandled
  have hCarried := fun n => messages_carried hPeer hSilent (fun label hLabel => by
    obtain ⟨m, -, rfl⟩ := List.mem_map.mp hLabel
    exact hKept m) (Run.of_history hSteps n)
  exact (hDelivered.congr hCarried fun n =>
    (messages_read hTopic hSilent (Run.of_history hSteps n)).symm).trans hHandled

/-- The last step: they are published. -/
theorem messages_follow_published (hTopicName : net.topicName publisher = net.topicName task)
    (hTopic : (net.onTopic task).Everywhere net (states 0))
    (hSilent : (Local.silent task).Everywhere net (states 0))
    (hSteps : ∀ n, net.Steps (states n) (chosen n) (states (n + 1)) (outs n))
    (hFair : net.Fair states chosen) (hKind : net.rosKind publisher = .publisher)
    (hRunning : (states 0).running (.ros publisher) = true)
    (hClose : ∀ n, chosen n ≠ .close (.ros publisher)) :
    Follows
      (fun n => ((history outs n).flatMap (Observation.putOn (.ros publisher))).flatMap
        (Copy.messageOf task))
      fun n => ((history outs n).flatMap (Observation.publishedBy publisher)).flatMap
        (Copy.messageOf task) := by
  have hTopics : ∀ n, (net.onTopic task).Everywhere net (states n) := fun n =>
    (Run.of_history hSteps n).invariant ((net.onTopic task).Everywhere net) hTopic
      fun _ _ _ _ h hStep => (h.step (net.onTopic_preserved task) trivial (next_move hStep)).1
  have hTaken : ∀ n, ((history outs n).flatMap (Observation.publishedBy publisher)).flatMap
      (Copy.messageOf task) =
        (history (fun n => (states n).taken (chosen n) publisher) n).flatMap
          (Copy.messageOf task) := by
    intro n
    rw [history_flatMap, history_flatMap, history_flatMap]
    exact congrArg (history · n) <| funext fun m =>
      (next_move (hSteps m)).published_taken hTopicName (hTopics m)
  have hQueued := fun n => messages_published hTopicName hTopic hSilent (fun label hLabel => by
    obtain ⟨m, -, rfl⟩ := List.mem_map.mp hLabel
    exact hClose m) (Run.of_history hSteps n)
  refine ((taken_follows hSteps hFair hKind hRunning hClose).flatMap (Copy.messageOf task)).congr
    (fun n => ?_) hTaken
  rw [List.flatMap_append, ← hTaken]
  exact hQueued n

end Endless

/-- The step neither loses anything on the way nor ends a task that is on it. -/
def Launch.Route.Keeps {C : Type} {launch : Launch C} {σ : Type} {sha : Sha256 σ}
    {threadName : launch.Socket → GDPName} (route : launch.Route sha threadName)
    (label : NetLabel (Option C) launch.Socket launch.Task) : Prop :=
  label ≠ .lose route.gatewayIn ∧ label ≠ .lose route.sinkEnd ∧
    ∀ handle ∈ route.handles, label ≠ .close handle

instance {C : Type} [DecidableEq C] {launch : Launch C} {σ : Type} {sha : Sha256 σ}
    {threadName : launch.Socket → GDPName} (route : launch.Route sha threadName)
    (label : NetLabel (Option C) launch.Socket launch.Task) : Decidable (route.Keeps label) :=
  inferInstanceAs (Decidable (_ ∧ _ ∧ _))

namespace RelayExample

/-- A connection that nobody uses here. -/
def unused : Handle launch.Socket launch.Task := .conn (launch.advertising false)

/-- The two messages that are still on their way are published. -/
def finishing : List (NetLabel (Option Bool) launch.Socket launch.Task) := late ++
  [.ribPacket (some true) names, .rosRecv route.sinkTask, .ribPacket none names,
    .connSend route.gatewayOut, .connRecv route.sinkEnd, .ribPacket (some true) names,
    .rosRecv route.sinkTask, .ribChannel (some false), .close unused]

end RelayExample

end GdpRouter
