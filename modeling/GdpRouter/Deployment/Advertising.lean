import GdpRouter.ConnectionRib.History
import GdpRouter.Deployment.Conservation

/-! What a router announces over the connection to its gateway: its one flush, and
nothing besides. What it registers stays registered. -/
namespace GdpRouter

open Multimap Transition

variable {R E T : Type}

/-- Packets may go anywhere, advertisements only to gateways. So a connection that is
registered, but did not advertise itself, has a router at its other end whose
gateway is at this one. -/
def Network.forwarding (net : Network R E T) : Local R E T where
  inRib _ copy := copy.packet.action = .forward
  queued handle copy := copy.packet.action = .forward ∨
    copy.packet.action = .advertise ∧ ∃ router endpoint, net.gateway router = some endpoint ∧
      handle = .conn endpoint
  flying endpoint frame := ∀ other, net.peer endpoint = some other →
    frame.header.action = .advertise → net.gateway (net.home other) = some other
  registered _ channel := ∀ endpoint other, channel.channel = .conn endpoint →
    net.peer endpoint = some other →
      net.kind endpoint = .toPeer ∨ net.gateway (net.home other) = some other

/-- Whatever the tasks do, only a flush sends advertisements, and only to a gateway. -/
theorem Network.forwarding_preserved (net : Network R E T) :
    net.forwarding.Preserved net fun _ => True where
  routed hCopy _ _ := .inl hCopy
  announced _ _ hGateway := .inr ⟨rfl, _, _, hGateway, rfl⟩
  carried := by
    intro here there copy hPeer hCopy other hOther hAction
    obtain rfl := Option.some.inj ((net.peer_symm hPeer).symm.trans hOther)
    have hAdvertise := (GDPPacket.getHeader_action copy.packet).symm.trans hAction
    rcases hCopy with hForward | ⟨-, router, endpoint, hGateway, hSame⟩
    · rw [hForward] at hAdvertise
      cases hAdvertise
    · obtain rfl := Handle.conn.inj hSame
      rwa [(net.gateway_home hGateway).1]
  forwarded _ _ := rfl
  advertised := by
    intro endpoint frame hFrame hAction registered other hSame hPeer
    obtain rfl := Handle.conn.inj hSame
    exact .inr (hFrame other hPeer hAction)
  self := by
    intro endpoint hKind registered other hSame _
    obtain rfl := Handle.conn.inj hSame
    exact .inl hKind
  node := by
    rintro task endpoint other ⟨⟩
  wired := by
    intro endpoint header payload id _ hPeer other hOther
    rw [hPeer] at hOther
    cases hOther
  spoken _ _ _ := rfl
  injected _ _ _ := .inl rfl

variable [DecidableEq R] [DecidableEq E] [DecidableEq T]

section Steps

variable {net : Network R E T} {state after : NetState R E T} {label : NetLabel R E T}
  {observed : List (Observation R E T)}

/-- A table only ever changes by a registration. -/
theorem Move.table_cases (hMove : Move net state label after observed) (router : R) :
    after.table router = state.table router ∨
      ∃ channel, after.table router = registerChannel (state.table router) channel := by
  cases hMove with
  | @ribChannel other channel rest hQueue =>
      by_cases hRouter : router = other
      · subst hRouter
        exact .inr ⟨channel, by simp⟩
      · exact .inl (by simp [hRouter])
  | ribPacket | ribStatus | rosForwardDirect => exact .inl rfl
  | connSend | connSendOut | wire | lose | rosRecv | flush | close => exact .inl rfl
  | connStart | connRecv | rosAdvertise | rosForward => exact .inl (by simp)

/-- What is known stays known. -/
theorem Move.table_mem (hMove : Move net state label after observed) {router : R} {name : GDPName}
    (h : name ∈ state.table router) : name ∈ after.table router := by
  rcases hMove.table_cases router with hSame | ⟨channel, hChannel⟩
  · rwa [hSame]
  · rw [hChannel, registerChannel, mem_push]
    exact .inr h

/-- No step takes a registration out of a table. -/
theorem Move.table_grows (hMove : Move net state label after observed) {router : R}
    {name : GDPName} {channel : GDPChannel (Handle E T)}
    (h : channel ∈ ((state.table router).lookup name).getD []) :
    channel ∈ ((after.table router).lookup name).getD [] := by
  rcases hMove.table_cases router with hSame | ⟨other, hOther⟩
  · rwa [hSame]
  · rw [hOther, registerChannel, lookup_push]
    exact List.mem_append_left _ h

/-- Only the end of its own task closes a handle. -/
theorem Move.open_of_not_close (hMove : Move net state label after observed) {handle : Handle E T}
    (hLabel : label ≠ .close handle) (h : state.closed handle = false) :
    after.closed handle = false := by
  cases hMove with
  | close other =>
      have hHandle : handle ≠ other := fun hSame => hLabel (hSame ▸ rfl)
      simpa [hHandle] using h
  | ribPacket | ribStatus | rosForwardDirect => exact h
  | ribChannel | connSend | connSendOut | wire | lose | rosRecv | flush => exact h
  | connStart | connRecv | rosAdvertise | rosForward => simpa using h

/-- An end is for good. -/
theorem Move.closed_grows (hMove : Move net state label after observed) {handle : Handle E T}
    (h : state.closed handle = true) : after.closed handle = true := by
  cases hMove with
  | close other =>
      by_cases hHandle : handle = other
      · simp [hHandle]
      · simpa [hHandle] using h
  | ribPacket | ribStatus | rosForwardDirect => exact h
  | ribChannel | connSend | connSendOut | wire | lose | rosRecv | flush => exact h
  | connStart | connRecv | rosAdvertise | rosForward => simpa using h

/-- Nothing is put on a handle that is closed. -/
theorem Move.put_open (hMove : Move net state label after observed) {handle : Handle E T}
    {copy : Copy R E T} (hPut : .put handle copy ∈ observed) : state.closed handle = false := by
  rcases hMove.put_cases hPut with ⟨_, _, -, -, _, -, hOut⟩ | ⟨_, _, -, update, -, hOut⟩ |
    ⟨task, endpoint, payload, -, -, hOut⟩
  · obtain ⟨_, dst, -, -, hOpen, hSame⟩ := mem_routed hOut
    cases hSame
    exact hOpen
  · obtain ⟨sent, hSent, hSame⟩ := List.mem_map.mp hOut
    obtain ⟨hOpen, _, -, rfl⟩ := mem_flushAdvertisements.mp hSent
    cases hSame
    exact hOpen
  · obtain ⟨sent, hSent, hSame⟩ := List.mem_map.mp hOut
    obtain ⟨hOpen, rfl⟩ := mem_send.mp hSent
    cases hSame
    exact hOpen

/-- How many flushes a router may still handle. `router_async_loop` asks for one. -/
def NetState.flushesLeft (state : NetState R E T) (router : R) : Nat :=
  (state.statRs router).length + (!state.flushed router).toNat

/-- A RIB that announces its names has one flush less to do. -/
theorem Move.flushesLeft_of_ribStatus {router : R} {order : List GDPName}
    (hMove : Move net state (.ribStatus router order) after observed) :
    after.flushesLeft router + 1 = state.flushesLeft router := by
  cases hMove with
  | ribStatus hQueue hOrder =>
      simp [NetState.flushesLeft, NetState.put, hQueue, Nat.add_right_comm]

/-- Other steps leave the flushes to be done as they are. -/
theorem Move.flushesLeft_of_ne {router : R} (hMove : Move net state label after observed)
    (hLabel : ∀ order, label ≠ .ribStatus router order) :
    after.flushesLeft router = state.flushesLeft router := by
  cases hMove with
  | @ribStatus other order update rest hQueue hOrder =>
      have hRouter : router ≠ other := fun hSame => hLabel order (hSame ▸ rfl)
      simp [NetState.flushesLeft, NetState.put, hRouter]
  | @flush other endpoint hFlushed hGateway =>
      by_cases hRouter : router = other
      · subst hRouter
        simp [NetState.flushesLeft, hFlushed]
      · simp [NetState.flushesLeft, hRouter]
  | ribPacket | rosForwardDirect => rfl
  | ribChannel | connSend | connSendOut | wire | lose | rosRecv | close => rfl
  | connStart | connRecv | rosAdvertise | rosForward => simp [NetState.flushesLeft]

/-- Without a flush, only packets are put on the connection to the gateway. -/
theorem Move.puts_forward (hState : net.forwarding.Everywhere net state) {endpoint : E}
    (hMove : Move net state label after observed)
    (hLabel : ∀ order, label ≠ .ribStatus (net.home endpoint) order) {copy : Copy R E T}
    (hPut : .put (.conn endpoint) copy ∈ observed) : copy.packet.action = .forward := by
  rcases hMove.put_cases hPut with ⟨router, order, -, -, taken, hTaken, hOut⟩ |
    ⟨router, order, rfl, update, hUpdate, hOut⟩ | ⟨task, _, payload, -, -, hOut⟩
  · obtain ⟨_, dst, -, -, -, hSame⟩ := mem_routed hOut
    obtain ⟨-, rfl⟩ := Prod.mk.inj hSame
    exact hState.inRib router copy (List.mem_of_mem_head? hTaken)
  · obtain ⟨gateway, hGateway, hSink⟩ := hState.sinks router update hUpdate
    obtain ⟨name, -, hSame⟩ := mem_announced hOut
    have hEndpoint : endpoint = gateway := by
      have hHandle := congrArg Prod.fst hSame
      rw [hSink] at hHandle
      exact Handle.conn.inj hHandle
    have hRouter := (net.gateway_home hGateway).1
    rw [← hEndpoint] at hRouter
    exact absurd rfl (hRouter ▸ hLabel order)
  · cases mem_injected hOut
    rfl

end Steps

section Runs

variable {net : Network R E T} {start finish : NetState R E T} {labels : List (NetLabel R E T)}
  {observed : List (Observation R E T)}

/-- A handle whose task goes on stays open through a run. -/
theorem open_of_run (run : Run net.Steps start labels finish observed) {handle : Handle E T}
    (hLabels : ∀ label ∈ labels, label ≠ .close handle) (hStart : start.closed handle = false) :
    finish.closed handle = false := by
  induction run with
  | nil => exact hStart
  | cons first _ ih =>
      obtain ⟨hFirst, hRest⟩ := List.forall_mem_cons.mp hLabels
      exact ih hRest ((next_move first).open_of_not_close hFirst hStart)

/-- A name stays in its table through a run. -/
theorem table_mem_of_run (run : Run net.Steps start labels finish observed) {router : R}
    {name : GDPName} (h : name ∈ start.table router) : name ∈ finish.table router := by
  induction run with
  | nil => exact h
  | cons first _ ih => exact ih ((next_move first).table_mem h)

/-- A registration stays in its table through a run. -/
theorem table_grows_of_run (run : Run net.Steps start labels finish observed) {router : R}
    {name : GDPName} {channel : GDPChannel (Handle E T)}
    (h : channel ∈ ((start.table router).lookup name).getD []) :
    channel ∈ ((finish.table router).lookup name).getD [] := by
  induction run with
  | nil => exact h
  | cons first _ ih => exact ih ((next_move first).table_grows h)

/-- Flushes are used up, and while none is, only packets go to the gateway. -/
theorem forwards_only (endpoint : E) (run : Run net.Steps start labels finish observed)
    (hStart : net.forwarding.Everywhere net start) :
    finish.flushesLeft (net.home endpoint) ≤ start.flushesLeft (net.home endpoint) ∧
      (finish.flushesLeft (net.home endpoint) = start.flushesLeft (net.home endpoint) →
        ∀ copy, .put (.conn endpoint) copy ∈ observed → copy.packet.action = .forward) := by
  induction run with
  | nil => simp
  | @cons start middle finish label labels out rest first _ ih =>
      have hMove := next_move first
      obtain ⟨hLess, hRest⟩ := ih (hStart.step net.forwarding_preserved trivial hMove).1
      by_cases hLabel : ∀ order, label ≠ .ribStatus (net.home endpoint) order
      · have hSame := hMove.flushesLeft_of_ne hLabel
        refine ⟨hSame ▸ hLess, fun hAll copy hPut => ?_⟩
        rcases List.mem_append.mp hPut with hFirst | hLater
        · exact hMove.puts_forward hStart hLabel hFirst
        · exact hRest (hAll.trans hSame.symm) copy hLater
      · obtain ⟨order, rfl⟩ := not_forall_not.mp hLabel
        have hUsed := hMove.flushesLeft_of_ribStatus
        exact ⟨by omega, fun hAll => absurd hAll (by omega)⟩

end Runs

end GdpRouter
