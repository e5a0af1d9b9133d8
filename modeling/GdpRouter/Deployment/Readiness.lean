import GdpRouter.Deployment.Liveness

/-! Start-up. What waits to be registered is registered in the end, and what a client knows
when it flushes becomes known to its gateway. So the way from one robot to another is
ready some time, and stays so. -/
namespace GdpRouter

open Multimap Transition

variable {R E T : Type} [DecidableEq R] [DecidableEq E] [DecidableEq T]

/-- The registration that a RIB makes at a step. -/
def NetState.registering (state : NetState R E T) (label : NetLabel R E T) (router : R) :
    List (GDPChannel (Handle E T)) :=
  if label = .ribChannel router then (state.channelRx router).take 1 else []

section Steps

variable {net : Network R E T} {state after : NetState R E T} {label : NetLabel R E T}
  {observed : List (Observation R E T)} {router : R}

/-- A registration is taken in its turn, or still waits. -/
theorem Move.channelRx_kept (hMove : Move net state label after observed) (router : R) :
    state.channelRx router <+: state.registering label router ++ after.channelRx router := by
  cases hMove with
  | @ribChannel other channel rest hQueue =>
      by_cases hRouter : router = other
      · subst hRouter
        simp [NetState.registering, hQueue]
      · simp [NetState.registering, hRouter, Ne.symm hRouter]
  | ribPacket | ribStatus | rosForwardDirect => simp [NetState.registering, NetState.put]
  | connStart | connSend | connSendOut | connRecv | wire => simp [NetState.registering]
  | lose | rosAdvertise | rosForward | rosRecv | flush | close => simp [NetState.registering]

theorem Move.registering_ne_nil (hMove : Move net state (.ribChannel router) after observed) :
    state.registering (.ribChannel router) router ≠ [] := by
  cases hMove with
  | ribChannel hQueue => simp [NetState.registering, hQueue]

/-- A registration that is taken is in the table. -/
theorem Move.registering_mem (hMove : Move net state label after observed)
    {channel : GDPChannel (Handle E T)} (h : channel ∈ state.registering label router) :
    channel ∈ ((after.table router).lookup channel.gdpname).getD [] := by
  obtain ⟨rfl, hTaken⟩ := List.mem_ite_nil_right.mp h
  cases hMove with
  | ribChannel hQueue =>
      rw [hQueue] at hTaken
      obtain rfl := List.mem_singleton.mp hTaken
      simp [registerChannel, lookup_push]

theorem Move.statRs_of_flush (hMove : Move net state (.flush router) after observed) :
    after.statRs router ≠ [] := by
  cases hMove with
  | flush => simp

/-- Only the RIB takes what waits on `stat_rs`. -/
theorem Move.statRs_ne_nil (hMove : Move net state label after observed)
    (hLabel : ∀ order, label ≠ .ribStatus router order) (h : state.statRs router ≠ []) :
    after.statRs router ≠ [] := by
  cases hMove with
  | @ribStatus other order update rest hQueue hOrder =>
      have hRouter : router ≠ other := fun hSame => hLabel order (hSame ▸ rfl)
      simpa [NetState.put, hRouter] using h
  | @flush other endpoint hFlushed hGateway =>
      by_cases hRouter : router = other
      · simp [hRouter]
      · simpa [hRouter] using h
  | ribPacket | rosForwardDirect => exact h
  | ribChannel | connSend | connSendOut | wire | lose | rosRecv | close => exact h
  | connStart | connRecv | rosAdvertise | rosForward => simpa using h

end Steps

section Endless

variable {net : Network R E T} {states : ℕ → NetState R E T} {chosen : ℕ → NetLabel R E T}
  {outs : ℕ → List (Observation R E T)} {router : R} {name : GDPName}
  {channel : GDPChannel (Handle E T)}

/-- What is known stays known. -/
theorem known_from (hSteps : ∀ n, net.Steps (states n) (chosen n) (states (n + 1)) (outs n))
    {n : ℕ} (h : channel ∈ (((states n).table router).lookup name).getD []) :
    ∀ m, n ≤ m → channel ∈ (((states m).table router).lookup name).getD [] := by
  intro m hm
  induction m, hm using Nat.le_induction with
  | base => exact h
  | succ m _ ih => exact (next_move (hSteps m)).table_grows ih

/-- A name that is known stays known. -/
theorem name_known_from (hSteps : ∀ n, net.Steps (states n) (chosen n) (states (n + 1)) (outs n))
    {n : ℕ} (h : name ∈ (states n).table router) : ∀ m, n ≤ m → name ∈ (states m).table router := by
  intro m hm
  induction m, hm using Nat.le_induction with
  | base => exact h
  | succ m _ ih => exact (next_move (hSteps m)).table_mem ih

/-- What waits to be registered is, in the end. -/
theorem registered_eventually
    (hSteps : ∀ n, net.Steps (states n) (chosen n) (states (n + 1)) (outs n))
    (hFair : net.Fair states chosen) {n : ℕ} (hWaits : channel ∈ (states n).channelRx router) :
    ∃ m, ∀ k, m ≤ k →
      channel ∈ (((states k).table router).lookup channel.gdpname).getD [] := by
  obtain ⟨m, -, hTaken⟩ := (hFair.channel router).follows
    (fun n => (next_move (hSteps n)).channelRx_kept router) (fun n => ribChannel_enabled)
    (fun n hLabel => by
      rw [hLabel]
      exact (hLabel ▸ next_move (hSteps n)).registering_ne_nil) n
  obtain ⟨k, -, hMade⟩ := List.mem_flatMap.mp (hTaken.subset (List.mem_append_right _ hWaits))
  exact ⟨k + 1, known_from hSteps ((next_move (hSteps k)).registering_mem hMade)⟩

/-- A flush that is asked for is done. -/
theorem flushed_eventually
    (hSteps : ∀ n, net.Steps (states n) (chosen n) (states (n + 1)) (outs n))
    (hFair : net.Fair states chosen) {n : ℕ} (hFlush : chosen n = .flush router) :
    ∃ m order, n ≤ m ∧ chosen m = .ribStatus router order := by
  have hAsked := (hFlush ▸ next_move (hSteps n)).statRs_of_flush
  obtain ⟨m, hm, ⟨order, hLabel⟩, -⟩ := (hFair.status router).steps
    (fun n => (states n).statRs router ≠ [])
    (fun n hPending hOther => (next_move (hSteps n)).statRs_ne_nil
      (fun order hLabel => hOther ⟨order, hLabel⟩) hPending)
    (fun n hPending => ribStatus_enabled hPending) hAsked
  exact ⟨m, order, by omega, hLabel⟩

/-- What a client knows when it flushes is registered at its gateway in the end. -/
theorem advertised_eventually {clientEnd gatewayEnd : E}
    (joined : net.JoinedTo clientEnd gatewayEnd) (hStart : states 0 = .initial fun _ => ∅)
    (hSteps : ∀ n, net.Steps (states n) (chosen n) (states (n + 1)) (outs n))
    (hFair : net.Fair states chosen)
    (hRunning : ∃ n, ∀ m, n ≤ m → (states m).running (.conn clientEnd) = true ∧
      (states m).running (.conn gatewayEnd) = true)
    (hKept : ∀ n, chosen n ≠ .lose gatewayEnd ∧ chosen n ≠ .close (.conn clientEnd)) {n : ℕ}
    (hFlush : chosen n = .flush (net.home clientEnd))
    (hKnown : name ∈ (states n).table (net.home clientEnd)) :
    ∃ m, ∀ k, m ≤ k → net.registration gatewayEnd name ∈
      (((states k).table (net.home gatewayEnd)).lookup name).getD [] := by
  have hRun : ∀ n, Run net.Steps (.initial fun _ => ∅) ((List.range n).map chosen) (states n)
      (history outs n) := fun n => hStart ▸ Run.of_history hSteps n
  have hLabels : ∀ n, ∀ label ∈ (List.range n).map chosen,
      label ≠ .lose gatewayEnd ∧ label ≠ .close (.conn clientEnd) := by
    intro n label hLabel
    obtain ⟨m, -, rfl⟩ := List.mem_map.mp hLabel
    exact hKept m
  obtain ⟨m, order, hm, hStatus⟩ := flushed_eventually hSteps hFair hFlush
  obtain ⟨hForwarding, -⟩ := Local.everywhere_of_run net.forwarding_preserved (by simp)
    (fun _ _ => trivial) (hRun m)
  have hOpen := open_of_run (hRun m) (fun label hLabel => (hLabels m label hLabel).2) rfl
  have hOnce := advertisedOn_flush hForwarding joined.gateway hOpen
    (name_known_from hSteps hKnown m hm) (hStatus ▸ next_move (hSteps m))
  obtain ⟨frame, hFrame, hName⟩ := List.countP_pos_iff.mp (hOnce.symm ▸ Nat.one_pos)
  have hCarried := carried_in_order joined.peer (hLabels (m + 1)) (hRun (m + 1))
  obtain ⟨k, -, hDelivered⟩ := delivered_follows joined.peer hSteps hFair hRunning hKept (m + 1)
  have hSent : frame ∈ (history outs (m + 1)).flatMap (Observation.deliveredAt gatewayEnd) ++
      (states (m + 1)).inFlight clientEnd gatewayEnd := by
    rw [← hCarried, history_succ, List.flatMap_append, List.map_append]
    exact List.mem_append_right _ hFrame
  have hRead : frame ∈ (history outs k).flatMap (Observation.deliveredAt gatewayEnd) :=
    hDelivered.subset hSent
  have hKind : net.kind gatewayEnd ≠ .toPeer := by
    rw [joined.listener]
    decide
  have hMade : net.registration gatewayEnd name ∈
      (states k).registeredFor (net.home gatewayEnd) gatewayEnd name := by
    rw [registered_in_order hKind name (hRun k)]
    exact List.mem_replicate.mpr ⟨(List.countP_pos_iff.mpr ⟨frame, hRead, hName⟩).ne', rfl⟩
  rcases List.mem_append.mp hMade with hTable | hWaits
  · exact ⟨k, known_from hSteps (List.mem_of_mem_filter hTable)⟩
  · exact registered_eventually hSteps hFair (List.mem_of_mem_filter hWaits)

/-- What a ROS task registers when it begins is registered in the end. -/
theorem node_registered_eventually {task : T} (hStart : states 0 = .initial fun _ => ∅)
    (hSteps : ∀ n, net.Steps (states n) (chosen n) (states (n + 1)) (outs n))
    (hFair : net.Fair states chosen) {n : ℕ} (hBegun : (states n).started (.ros task) = true) :
    ∃ m, ∀ k, m ≤ k → net.nodeRegistration task ∈
      (((states k).table (net.rosHome task)).lookup (net.topicName task)).getD [] := by
  have hMade : net.nodeRegistration task ∈ (states n).rosRegistered net task := by
    rw [rosRegistered_of_run (hStart ▸ Run.of_history hSteps n), if_pos hBegun]
    exact List.mem_singleton_self _
  rcases List.mem_append.mp hMade with hTable | hWaits
  · exact ⟨n, known_from hSteps (List.mem_of_mem_filter hTable)⟩
  · exact registered_eventually hSteps hFair (List.mem_of_mem_filter hWaits)

end Endless

namespace RelayExample

/-- The tasks begin, and the client of the sink flushes when it knows the topic. -/
def starting : List (NetLabel (Option Bool) launch.Socket launch.Task) :=
  early ++ [.ribChannel (some false), .close unused]

end RelayExample

end GdpRouter
