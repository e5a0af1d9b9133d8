import GdpRouter.Deployment.Network

/-! What one step of the network can do, with one case for each way to do it.
Every invariant is proved from these cases, and none unfolds `Network.next`. -/
namespace GdpRouter

open Multimap Transition

variable {R E T : Type} [DecidableEq R] [DecidableEq E] [DecidableEq T]

/-- What the RIB sends when it handles a copy. -/
def NetState.routed (state : NetState R E T) (router : R) (order : List GDPName)
    (copy : Copy R E T) : List (Handle E T × Copy R E T) :=
  (routePacket state.closed order (state.table router) copy.packet).map fun out =>
    (out.1, ⟨out.2, copy.heard, copy.trace⟩)

/-- What the RIB sends when it flushes. -/
def NetState.announced (state : NetState R E T) (router : R) (order : List GDPName)
    (update : GDPStatus (Handle E T)) : List (Handle E T × Copy R E T) :=
  (flushAdvertisements state.closed order update).map fun out =>
    (out.1, ⟨out.2, none, ⟨state.fresh, none, [router]⟩⟩)

/-- What a ROS subscriber sends straight to a direct connection. -/
def Network.injected (net : Network R E T) (state : NetState R E T) (task : T) (endpoint : E)
    (payload : Bytes) : List (Handle E T × Copy R E T) :=
  (send state.closed (.conn endpoint) (net.rosPacket task payload)).map fun out =>
    (out.1, ⟨out.2, none, ⟨state.fresh, some task, [net.rosHome task]⟩⟩)

inductive Move (net : Network R E T) :
    NetState R E T → NetLabel R E T → NetState R E T → List (Observation R E T) → Prop where
  | ribPacket {state : NetState R E T} {router : R} {order : List GDPName} {copy : Copy R E T}
      {rest : List (Copy R E T)} (hQueue : state.ribRx router = copy :: rest)
      (hOrder : order.Perm (state.table router).keys) :
      Move net state (.ribPacket router order)
        ({ state with ribRx := Function.update state.ribRx router rest }.put
          (state.routed router order copy))
        (.handled router copy :: putAll (state.routed router order copy))
  | ribChannel {state : NetState R E T} {router : R} {channel : GDPChannel (Handle E T)}
      {rest : List (GDPChannel (Handle E T))} (hQueue : state.channelRx router = channel :: rest) :
      Move net state (.ribChannel router)
        { state with
          channelRx := Function.update state.channelRx router rest
          table := Function.update state.table router
            (registerChannel (state.table router) channel) } []
  | ribStatus {state : NetState R E T} {router : R} {order : List GDPName}
      {update : GDPStatus (Handle E T)} {rest : List (GDPStatus (Handle E T))}
      (hQueue : state.statRs router = update :: rest)
      (hOrder : order.Perm (state.table router).keys) :
      Move net state (.ribStatus router order)
        ({ state with
          statRs := Function.update state.statRs router rest
          fresh := state.fresh + 1 }.put (state.announced router order update))
        (putAll (state.announced router order update))
  | connStart {state : NetState R E T} {endpoint : E}
      (hStarted : state.started (.conn endpoint) = false) :
      Move net state (.connStart endpoint)
        ({ state with started := Function.update state.started (.conn endpoint) true }.submit
          (net.home endpoint) none ⟨0, none, []⟩ (net.selfAdvertisement endpoint)) []
  | connSend {state : NetState R E T} {endpoint other : E} {copy : Copy R E T}
      {rest : List (Copy R E T)} (hRunning : state.running (.conn endpoint) = true)
      (hPeer : net.peer endpoint = some other)
      (hQueue : state.queue (.conn endpoint) = copy :: rest) :
      Move net state (.connSend endpoint)
        { state with
          queue := Function.update state.queue (.conn endpoint) rest
          link := Function.update state.link other (state.link other ++ [copy.frame]) } []
  | connSendOut {state : NetState R E T} {endpoint : E} {copy : Copy R E T}
      {rest : List (Copy R E T)} (hRunning : state.running (.conn endpoint) = true)
      (hPeer : net.peer endpoint = none) (hQueue : state.queue (.conn endpoint) = copy :: rest) :
      Move net state (.connSend endpoint)
        { state with queue := Function.update state.queue (.conn endpoint) rest } []
  | connRecv {state : NetState R E T} {endpoint : E} {frame : InTransit R T}
      {rest : List (InTransit R T)}
      (hRunning : state.running (.conn endpoint) = true)
      (hLink : state.link endpoint = frame :: rest) :
      Move net state (.connRecv endpoint)
        ({ state with link := Function.update state.link endpoint rest }.submit
          (net.home endpoint) (some endpoint) (net.arrive endpoint frame)
          (net.receive endpoint frame)) [.delivered endpoint frame]
  | wire {state : NetState R E T} {endpoint : E} (header : GDPPacketInTransit) (payload : Bytes)
      (hPeer : net.peer endpoint = none) :
      Move net state (.wire endpoint header payload)
        { state with
          link := Function.update state.link endpoint
            (state.link endpoint ++ [⟨header, payload, ⟨state.fresh, none, []⟩⟩])
          fresh := state.fresh + 1 } []
  | lose {state : NetState R E T} {endpoint : E} {frame : InTransit R T}
      {rest : List (InTransit R T)}
      (hLink : state.link endpoint = frame :: rest) :
      Move net state (.lose endpoint)
        { state with link := Function.update state.link endpoint rest } []
  | rosAdvertise {state : NetState R E T} {task : T}
      (hStarted : state.started (.ros task) = false) :
      Move net state (.rosAdvertise task)
        ({ state with started := Function.update state.started (.ros task) true }.submit
          (net.rosHome task) none ⟨0, none, []⟩ (net.nodeAdvertisement task)) []
  | rosForward {state : NetState R E T} {task : T} (payload : Bytes)
      (hRunning : state.running (.ros task) = true) (hKind : net.rosKind task = .subscriber)
      (hTx : net.ribTx task = none) (hSized : payload.length < usizeSize) :
      Move net state (.rosForward task payload)
        ({ state with fresh := state.fresh + 1 }.submit (net.rosHome task) none
          ⟨state.fresh, some task, [net.rosHome task]⟩
          (procGdpPacket (net.rosPacket task payload) (.ros task))) []
  | rosForwardDirect {state : NetState R E T} {task : T} {endpoint : E} (payload : Bytes)
      (hRunning : state.running (.ros task) = true) (hKind : net.rosKind task = .subscriber)
      (hTx : net.ribTx task = some endpoint) (hSized : payload.length < usizeSize) :
      Move net state (.rosForward task payload)
        ({ state with fresh := state.fresh + 1 }.put (net.injected state task endpoint payload))
        (putAll (net.injected state task endpoint payload))
  | rosRecv {state : NetState R E T} {task : T} {copy : Copy R E T} {rest : List (Copy R E T)}
      (hRunning : state.running (.ros task) = true) (hKind : net.rosKind task = .publisher)
      (hQueue : state.queue (.ros task) = copy :: rest) :
      Move net state (.rosRecv task)
        { state with queue := Function.update state.queue (.ros task) rest }
        (if copy.packet.action = .forward ∧ copy.packet.gdpname = net.topicName task then
          [.published task copy] else [])
  | flush {state : NetState R E T} {router : R} {endpoint : E}
      (hFlushed : state.flushed router = false) (hGateway : net.gateway router = some endpoint) :
      Move net state (.flush router)
        { state with
          statRs := Function.update state.statRs router (state.statRs router ++ [⟨.conn endpoint⟩])
          flushed := Function.update state.flushed router true } []
  | close {state : NetState R E T} (handle : Handle E T) :
      Move net state (.close handle)
        { state with
          closed := Function.update state.closed handle true
          queue := Function.update state.queue handle [] } []

section Inversion

variable {net : Network R E T} {state after : NetState R E T} {observed : List (Observation R E T)}

/-- The three branches of a RIB, with the table that the state keeps. -/
theorem ribHandle_eq_some {router : R} {event : RibEvent (Handle E T)} {order : List GDPName}
    {heard : Option E} {trace : Trace R T} {sent : List (Handle E T × Copy R E T)}
    (h : state.ribHandle router event order heard trace = some (after, sent)) :
    order.Perm (state.table router).keys ∧
      match event with
      | .packet packet =>
          sent = (routePacket state.closed order (state.table router) packet).map
            (fun out => (out.1, ⟨out.2, heard, trace⟩)) ∧ after = state.put sent
      | .channel channel => sent = [] ∧ after = { state with
          table := Function.update state.table router
            (registerChannel (state.table router) channel) }
      | .status update =>
          sent = (flushAdvertisements state.closed order update).map
            (fun out => (out.1, ⟨out.2, heard, trace⟩)) ∧ after = state.put sent := by
  simp only [NetState.ribHandle, connectionRouterStep, Option.map_eq_some_iff,
    Option.ite_none_right_eq_some, Prod.mk.injEq] at h
  obtain ⟨⟨table, out⟩, ⟨hOrder, hStep⟩, hAfter, hSent⟩ := h
  refine ⟨hOrder, ?_⟩
  cases event with
  | packet packet =>
      cases hStep
      simp only [Function.update_eq_self] at hAfter
      exact ⟨hSent.symm, hSent ▸ hAfter.symm⟩
  | channel channel =>
      cases hStep
      simp only [List.map_nil] at hAfter hSent
      refine ⟨hSent.symm, hAfter.symm.trans ?_⟩
      simp [NetState.put, enqueuedOn]
  | status update =>
      cases hStep
      simp only [Function.update_eq_self] at hAfter
      exact ⟨hSent.symm, hSent ▸ hAfter.symm⟩

theorem next_move {label : NetLabel R E T} (h : net.next state label = some (after, observed)) :
    Move net state label after observed := by
  cases label with
  | ribPacket router order =>
      simp only [Network.next] at h
      split at h
      · cases h
      · rename_i copy rest hQueue
        simp only [Option.map_eq_some_iff, Prod.mk.injEq] at h
        obtain ⟨⟨next, sent⟩, hHandle, rfl, rfl⟩ := h
        obtain ⟨hOrder, rfl, rfl⟩ := ribHandle_eq_some hHandle
        exact .ribPacket hQueue hOrder
  | ribChannel router =>
      simp only [Network.next] at h
      split at h
      · cases h
      · rename_i channel rest hQueue
        simp only [Option.map_eq_some_iff, Prod.mk.injEq] at h
        obtain ⟨⟨next, sent⟩, hHandle, rfl, rfl⟩ := h
        obtain ⟨-, rfl, rfl⟩ := ribHandle_eq_some hHandle
        exact .ribChannel hQueue
  | ribStatus router order =>
      simp only [Network.next] at h
      split at h
      · cases h
      · rename_i update rest hQueue
        simp only [Option.map_eq_some_iff, Prod.mk.injEq] at h
        obtain ⟨⟨next, sent⟩, hHandle, rfl, rfl⟩ := h
        obtain ⟨hOrder, rfl, rfl⟩ := ribHandle_eq_some hHandle
        exact .ribStatus hQueue hOrder
  | connStart endpoint =>
      simp only [Network.next, Option.ite_none_left_eq_some, Option.some.injEq, Prod.mk.injEq] at h
      obtain ⟨hStarted, rfl, rfl⟩ := h
      exact .connStart (by simpa using hStarted)
  | connSend endpoint =>
      simp only [Network.next] at h
      split at h
      · rename_i other copy rest hRunning hPeer hQueue
        cases h
        exact .connSend hRunning hPeer hQueue
      · rename_i copy rest hRunning hPeer hQueue
        cases h
        exact .connSendOut hRunning hPeer hQueue
      · cases h
  | connRecv endpoint =>
      simp only [Network.next] at h
      split at h
      · rename_i frame rest hRunning hLink
        cases h
        exact .connRecv hRunning hLink
      · cases h
  | wire endpoint header payload =>
      simp only [Network.next] at h
      split at h
      · cases h
      · rename_i hPeer
        cases h
        exact .wire header payload hPeer
  | lose endpoint =>
      simp only [Network.next] at h
      split at h
      · cases h
      · rename_i frame rest hLink
        cases h
        exact .lose hLink
  | rosAdvertise task =>
      simp only [Network.next, Option.ite_none_left_eq_some, Option.some.injEq, Prod.mk.injEq] at h
      obtain ⟨hStarted, rfl, rfl⟩ := h
      exact .rosAdvertise (by simpa using hStarted)
  | rosForward task payload =>
      simp only [Network.next, Option.ite_none_right_eq_some] at h
      obtain ⟨⟨hRunning, hKind, hSized⟩, h⟩ := h
      split at h
      · rename_i hTx
        cases h
        exact .rosForward payload hRunning hKind hTx hSized
      · rename_i endpoint hTx
        cases h
        exact .rosForwardDirect payload hRunning hKind hTx hSized
  | rosRecv task =>
      simp only [Network.next] at h
      split at h
      · rename_i copy rest hRunning hKind hQueue
        cases h
        exact .rosRecv hRunning hKind hQueue
      · cases h
  | flush router =>
      simp only [Network.next] at h
      split at h
      · rename_i endpoint hFlushed hGateway
        cases h
        exact .flush hFlushed hGateway
      · cases h
  | close handle =>
      simp only [Network.next, Option.some.injEq, Prod.mk.injEq] at h
      obtain ⟨rfl, rfl⟩ := h
      exact .close handle

end Inversion

end GdpRouter
