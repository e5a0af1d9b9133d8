import GdpRouter.Deployment.Move

/-! Properties of single copies, frames and registrations, in every queue of the
network at once. If the places agree with each other, the property holds in
every reachable state. -/
namespace GdpRouter

open Multimap Transition

/-- A property for each kind of place. -/
structure Local (R E T : Type) where
  inRib : R → Copy R E T → Prop
  queued : Handle E T → Copy R E T → Prop
  flying : E → InTransit R T → Prop
  registered : R → GDPChannel (Handle E T) → Prop

variable {R E T : Type}

/-- The property at all places. The sink of a status is always a gateway. -/
structure Local.Everywhere (inv : Local R E T) (net : Network R E T) (state : NetState R E T) :
    Prop where
  inRib : ∀ router, ∀ copy ∈ state.ribRx router, inv.inRib router copy
  queued : ∀ handle, ∀ copy ∈ state.queue handle, inv.queued handle copy
  flying : ∀ endpoint, ∀ frame ∈ state.link endpoint, inv.flying endpoint frame
  table : ∀ router name, ∀ channel ∈ ((state.table router).lookup name).getD [],
    inv.registered router channel
  waiting : ∀ router, ∀ channel ∈ state.channelRx router, inv.registered router channel
  sinks : ∀ router, ∀ update ∈ state.statRs router,
    ∃ endpoint, net.gateway router = some endpoint ∧ update.sink = .conn endpoint

/-- The property of what was put on a queue and of what a RIB handled. -/
structure Local.Seen (inv : Local R E T) (observed : List (Observation R E T)) : Prop where
  put : ∀ handle copy, .put handle copy ∈ observed → inv.queued handle copy
  handled : ∀ router copy, .handled router copy ∈ observed → inv.inRib router copy

/-- Each way from one place to the next keeps the property. What enters from
outside need only have it for the labels in question. -/
structure Local.Preserved (inv : Local R E T) (net : Network R E T)
    (allowed : NetLabel R E T → Prop) : Prop where
  routed : ∀ {router copy dst}, inv.inRib router copy → inv.registered router dst →
    dst.advertisement.source ≠ copy.packet.source → inv.queued dst.channel copy
  announced : ∀ {router endpoint} name id, net.gateway router = some endpoint →
    inv.queued (.conn endpoint)
      ⟨constructGdpAdvertisementFromBytes name name, none, ⟨id, none, [router]⟩⟩
  carried : ∀ {here there copy}, net.peer here = some there → inv.queued (.conn here) copy →
    inv.flying there copy.frame
  forwarded : ∀ {endpoint frame}, inv.flying endpoint frame → frame.header.action = .forward →
    inv.inRib (net.home endpoint) ⟨constructGdpForwardFromBytes frame.header.destination
      (net.threadName endpoint) frame.payload, some endpoint, net.arrive endpoint frame⟩
  advertised : ∀ {endpoint frame}, inv.flying endpoint frame →
    frame.header.action = .advertise → inv.registered (net.home endpoint)
      ⟨frame.header.destination, .conn endpoint, constructGdpAdvertisementFromBytes
        frame.header.destination (net.threadName endpoint)⟩
  self : ∀ {endpoint}, net.kind endpoint = .toPeer → inv.registered (net.home endpoint)
    ⟨net.threadName endpoint, .conn endpoint,
      constructGdpAdvertisementFromBytes (net.threadName endpoint) (net.threadName endpoint)⟩
  node : ∀ task, inv.registered (net.rosHome task) ⟨net.topicName task, .ros task,
    constructGdpAdvertisementFromBytes (net.topicName task) (net.nodeName task)⟩
  wired : ∀ {endpoint header payload} id, allowed (.wire endpoint header payload) →
    net.peer endpoint = none → inv.flying endpoint ⟨header, payload, ⟨id, none, []⟩⟩
  spoken : ∀ {task payload} id, allowed (.rosForward task payload) → net.ribTx task = none →
    inv.inRib (net.rosHome task)
      ⟨net.rosPacket task payload, none, ⟨id, some task, [net.rosHome task]⟩⟩
  injected : ∀ {task endpoint payload} id, allowed (.rosForward task payload) →
    net.ribTx task = some endpoint → inv.queued (.conn endpoint)
      ⟨net.rosPacket task payload, none, ⟨id, some task, [net.rosHome task]⟩⟩

section Receive

variable {net : Network R E T}

/-- What can come of a frame that is read. -/
theorem receive_eq_some {endpoint : E} {frame : InTransit R T} {message : RibMessage (Handle E T)}
    (h : net.receive endpoint frame = some message) :
    (frame.header.action = .forward ∧ message = .route (constructGdpForwardFromBytes
        frame.header.destination (net.threadName endpoint) frame.payload)) ∨
    (frame.header.action = .advertise ∧ message = .register ⟨frame.header.destination,
        .conn endpoint, constructGdpAdvertisementFromBytes frame.header.destination
          (net.threadName endpoint)⟩) := by
  unfold Network.receive dispatch at h
  split at h
  · rename_i hAction
    cases h
    exact .inl ⟨hAction, rfl⟩
  · split at h
    · rename_i hAction
      cases h
      exact .inr ⟨hAction, rfl⟩
    · cases h

/-- Only a connection to a peer announces itself, under the name of its thread. -/
theorem selfAdvertisement_eq_some {endpoint : E} {message : RibMessage (Handle E T)}
    (h : net.selfAdvertisement endpoint = some message) :
    net.kind endpoint = .toPeer ∧ message = .register ⟨net.threadName endpoint, .conn endpoint,
      constructGdpAdvertisementFromBytes (net.threadName endpoint) (net.threadName endpoint)⟩ := by
  unfold Network.selfAdvertisement at h
  split at h
  · rename_i hKind
    cases h
    exact ⟨hKind, rfl⟩
  · cases h

theorem nodeAdvertisement_eq (task : T) : net.nodeAdvertisement task =
    some (.register ⟨net.topicName task, .ros task,
      constructGdpAdvertisementFromBytes (net.topicName task) (net.nodeName task)⟩) := rfl

theorem procGdpPacket_rosPacket (task : T) (payload : Bytes) (handle : Handle E T) :
    procGdpPacket (net.rosPacket task payload) handle =
      some (.route (net.rosPacket task payload)) := rfl

end Receive

section Sent

variable {net : Network R E T} {state : NetState R E T} {out : Handle E T × Copy R E T}

/-- A routed copy goes to an open registration of the table, and never to one of
its own source. -/
theorem mem_routed {router : R} {order : List GDPName} {copy : Copy R E T}
    (h : out ∈ state.routed router order copy) :
    ∃ name, ∃ dst ∈ ((state.table router).lookup name).getD [],
      dst.advertisement.source ≠ copy.packet.source ∧ state.closed dst.channel = false ∧
        out = (dst.channel, copy) := by
  obtain ⟨sent, hSent, rfl⟩ := List.mem_map.mp h
  obtain ⟨name, dst, hDst, hSource, hOpen, rfl⟩ := mem_routePacket hSent
  exact ⟨name, dst, hDst, hSource, hOpen, rfl⟩

/-- In whatever order the keys come, the copy is put on the open registrations
picked for its name, save those of its own source. -/
theorem mem_routed_iff {router : R} {order : List GDPName} {copy : Copy R E T}
    (hOrder : order.Perm (state.table router).keys) {out : Handle E T × Copy R E T} :
    out ∈ state.routed router order copy ↔ ∃ dst, Picks (state.table router) copy.packet.gdpname
      dst ∧ dst.advertisement.source ≠ copy.packet.source ∧ state.closed dst.channel = false ∧
        out = (dst.channel, copy) := by
  rw [NetState.routed, List.mem_map]
  constructor
  · rintro ⟨sent, hSent, rfl⟩
    obtain ⟨dst, hPicked, hSource, hOpen, rfl⟩ := (mem_routePacket_iff hOrder).mp hSent
    exact ⟨dst, hPicked, hSource, hOpen, rfl⟩
  · rintro ⟨dst, hPicked, hSource, hOpen, rfl⟩
    exact ⟨_, (mem_routePacket_iff hOrder).mpr ⟨dst, hPicked, hSource, hOpen, rfl⟩, rfl⟩

/-- A flush announces each name of the table to the one sink. -/
theorem mem_announced {router : R} {order : List GDPName} {update : GDPStatus (Handle E T)}
    (h : out ∈ state.announced router order update) :
    ∃ name ∈ order, out = (update.sink, ⟨constructGdpAdvertisementFromBytes name name, none,
      ⟨state.fresh, none, [router]⟩⟩) := by
  obtain ⟨sent, hSent, rfl⟩ := List.mem_map.mp h
  obtain ⟨-, name, hName, rfl⟩ := mem_flushAdvertisements.mp hSent
  exact ⟨name, hName, rfl⟩

/-- A task that sends to a connection directly sends one copy, to that connection. -/
theorem mem_injected {task : T} {endpoint : E} {payload : Bytes}
    (h : out ∈ net.injected state task endpoint payload) :
    out = (.conn endpoint, ⟨net.rosPacket task payload, none,
      ⟨state.fresh, some task, [net.rosHome task]⟩⟩) := by
  obtain ⟨sent, hSent, rfl⟩ := List.mem_map.mp h
  obtain ⟨-, rfl⟩ := mem_send.mp hSent
  rfl

theorem mem_putAll {sent : List (Handle E T × Copy R E T)} {handle : Handle E T}
    {copy : Copy R E T} : .put handle copy ∈ putAll sent ↔ (handle, copy) ∈ sent := by
  simp [putAll]

/-- The three ways in which a copy gets onto a queue. -/
theorem Move.put_cases [DecidableEq R] [DecidableEq E] [DecidableEq T] {after : NetState R E T}
    {label : NetLabel R E T} {observed : List (Observation R E T)}
    (hMove : Move net state label after observed) {handle : Handle E T} {copy : Copy R E T}
    (hPut : .put handle copy ∈ observed) :
    (∃ router order, label = .ribPacket router order ∧ order.Perm (state.table router).keys ∧
      ∃ taken ∈ (state.ribRx router).head?, (handle, copy) ∈ state.routed router order taken) ∨
    (∃ router order, label = .ribStatus router order ∧
      ∃ update ∈ state.statRs router, (handle, copy) ∈ state.announced router order update) ∨
    ∃ task endpoint payload, label = .rosForward task payload ∧ net.ribTx task = some endpoint ∧
      (handle, copy) ∈ net.injected state task endpoint payload := by
  cases hMove with
  | @ribPacket router order taken rest hQueue hOrder =>
      rcases List.mem_cons.mp hPut with hHandled | hPut
      · cases hHandled
      · exact .inl ⟨router, order, rfl, hOrder, taken, by rw [hQueue]; rfl, mem_putAll.mp hPut⟩
  | @ribStatus router order update rest hQueue hOrder =>
      exact .inr (.inl ⟨router, order, rfl, update, hQueue ▸ List.mem_cons_self,
        mem_putAll.mp hPut⟩)
  | @rosForwardDirect task endpoint payload hRunning hKind hTx =>
      exact .inr (.inr ⟨task, endpoint, payload, rfl, hTx, mem_putAll.mp hPut⟩)
  | rosRecv => split at hPut <;> simp at hPut
  | connRecv => simp at hPut
  | ribChannel | connStart | connSend | connSendOut | wire | lose => cases hPut
  | rosAdvertise | rosForward | flush | close => cases hPut

end Sent

/-- An item is among those for a handle when it was sent there. -/
theorem mem_enqueuedOn {σ α : Type} [DecidableEq σ] {handle : σ} {item : α} {sent : List (σ × α)} :
    item ∈ enqueuedOn handle sent ↔ (handle, item) ∈ sent := by
  unfold enqueuedOn
  constructor
  · intro h
    obtain ⟨⟨other, value⟩, hMem, hSome⟩ := List.mem_filterMap.mp h
    simp only [Option.ite_none_right_eq_some, Option.some.injEq] at hSome
    obtain ⟨rfl, rfl⟩ := hSome
    exact hMem
  · intro h
    exact List.mem_filterMap.mpr ⟨_, h, by simp⟩

section Queues

variable {net : Network R E T} {state after : NetState R E T} {label : NetLabel R E T}
  {observed : List (Observation R E T)} [DecidableEq R] [DecidableEq E] [DecidableEq T]

omit [DecidableEq R] in
/-- A copy in a queue was there before, or has just been put. -/
theorem NetState.mem_put {sent : List (Handle E T × Copy R E T)} {handle : Handle E T}
    {copy : Copy R E T} (h : copy ∈ (state.put sent).queue handle) :
    copy ∈ state.queue handle ∨ .put handle copy ∈ putAll sent := by
  rcases List.mem_append.mp h with hOld | hNew
  · exact .inl hOld
  · exact .inr (mem_putAll.mpr (mem_enqueuedOn.mp hNew))

/-- What is new on a queue is seen to be put there. -/
theorem Move.mem_queue (hMove : Move net state label after observed) {handle : Handle E T}
    {copy : Copy R E T} (h : copy ∈ after.queue handle) :
    copy ∈ state.queue handle ∨ .put handle copy ∈ observed := by
  have hShorter : ∀ {other : Handle E T} {rest : List (Copy R E T)},
      (∀ kept ∈ rest, kept ∈ state.queue other) →
        copy ∈ Function.update state.queue other rest handle → copy ∈ state.queue handle := by
    intro other rest hRest hMem
    by_cases hSame : handle = other
    · subst hSame
      rw [Function.update_self] at hMem
      exact hRest copy hMem
    · rwa [Function.update_of_ne hSame] at hMem
  cases hMove with
  | ribPacket hQueue hOrder => exact (NetState.mem_put h).imp_right (List.mem_cons_of_mem _)
  | ribStatus hQueue hOrder => exact NetState.mem_put h
  | rosForwardDirect payload hRunning hKind hTx => exact NetState.mem_put h
  | connSend hRunning hPeer hQueue | connSendOut hRunning hPeer hQueue =>
      exact .inl (hShorter (fun kept hKept => hQueue ▸ List.mem_cons_of_mem _ hKept) h)
  | rosRecv hRunning hKind hQueue =>
      exact .inl (hShorter (fun kept hKept => hQueue ▸ List.mem_cons_of_mem _ hKept) h)
  | close handle => exact .inl (hShorter (List.forall_mem_nil _) h)
  | connStart | connRecv | rosAdvertise | rosForward => exact .inl (by simpa using h)
  | ribChannel | wire | lose | flush => exact .inl h

/-- What is put on a queue is there after the step. -/
theorem Move.mem_queue_of_put (hMove : Move net state label after observed) {handle : Handle E T}
    {copy : Copy R E T} (h : .put handle copy ∈ observed) : copy ∈ after.queue handle := by
  have hPut : ∀ {taken : NetState R E T} {sent : List (Handle E T × Copy R E T)},
      .put handle copy ∈ putAll sent → copy ∈ (taken.put sent).queue handle := by
    intro taken sent hSent
    exact List.mem_append_right _ (mem_enqueuedOn.mpr (mem_putAll.mp hSent))
  cases hMove with
  | ribPacket hQueue hOrder =>
      rcases List.mem_cons.mp h with hHandled | hSent
      · cases hHandled
      · exact hPut hSent
  | ribStatus hQueue hOrder => exact hPut h
  | rosForwardDirect payload hRunning hKind hTx => exact hPut h
  | rosRecv => split at h <;> simp at h
  | connRecv => simp at h
  | ribChannel | connStart | connSend | connSendOut | wire | lose => cases h
  | rosAdvertise | rosForward | flush | close => cases h

end Queues

/-- Changing one queue is harmless if its new contents are. -/
theorem forall_mem_update {ι α : Type} [DecidableEq ι] {f : ι → List α} {P : ι → α → Prop}
    (h : ∀ i, ∀ x ∈ f i, P i x) {i₀ : ι} {items : List α} (hItems : ∀ x ∈ items, P i₀ x) :
    ∀ i, ∀ x ∈ Function.update f i₀ items i, P i x := by
  intro i
  by_cases hEq : i = i₀
  · subst hEq
    simpa using hItems
  · simpa [Function.update_of_ne hEq] using h i

theorem forall_mem_append_singleton {α : Type} {items : List α} {P : α → Prop} {last : α}
    (h : ∀ x ∈ items, P x) (hLast : P last) : ∀ x ∈ items ++ [last], P x := by
  intro x hx
  rcases List.mem_append.mp hx with hOld | hNew
  · exact h x hOld
  · exact List.mem_singleton.mp hNew ▸ hLast

/-- What is left of a queue keeps what its items had. -/
theorem forall_mem_rest {ι α : Type} {f : ι → List α} {P : ι → α → Prop}
    (h : ∀ i, ∀ x ∈ f i, P i x) {i : ι} {head : α} {rest : List α} (hQueue : f i = head :: rest) :
    P i head ∧ ∀ x ∈ rest, P i x := by
  have hAll := h i
  rw [hQueue] at hAll
  exact ⟨hAll head List.mem_cons_self, fun x hx => hAll x (List.mem_cons_of_mem _ hx)⟩

namespace Local

variable {inv : Local R E T} {net : Network R E T} {state after : NetState R E T} [DecidableEq R]

omit [DecidableEq R] in
/-- What the table answers with was registered there. -/
theorem Everywhere.picked (hState : inv.Everywhere net state)
    {router : R} {name : GDPName} {dst : GDPChannel (Handle E T)}
    (hPicked : Picks (state.table router) name dst) : inv.registered router dst := by
  unfold Picks at hPicked
  split at hPicked
  · rename_i routingDsts hLookup
    exact hState.table router name dst (by rwa [hLookup])
  · obtain ⟨other, hDst⟩ := hPicked
    exact hState.table router other dst hDst

theorem Everywhere.register (h : inv.Everywhere net state) {router : R} {heard : Option E}
    {trace : Trace R T} {channel : GDPChannel (Handle E T)}
    (hChannel : inv.registered router channel) :
    inv.Everywhere net (state.submit router heard trace (some (.register channel))) := by
  have hAll := forall_mem_append_singleton (h.waiting router) hChannel
  exact { h with waiting := forall_mem_update h.waiting hAll }

theorem Everywhere.route (h : inv.Everywhere net state) {router : R} {heard : Option E}
    {trace : Trace R T} {packet : GDPPacket}
    (hCopy : inv.inRib router ⟨packet, heard, trace⟩) :
    inv.Everywhere net (state.submit router heard trace (some (.route packet))) := by
  have hAll := forall_mem_append_singleton (h.inRib router) hCopy
  exact { h with inRib := forall_mem_update h.inRib hAll }

variable [DecidableEq E] [DecidableEq T]

omit [DecidableEq R] in
/-- Copies that may be queued keep the invariant. -/
theorem Everywhere.put (h : inv.Everywhere net state)
    {sent : List (Handle E T × Copy R E T)} (hSent : ∀ out ∈ sent, inv.queued out.1 out.2) :
    inv.Everywhere net (state.put sent) := by
  refine { h with queued := ?_ }
  intro handle copy hCopy
  rcases List.mem_append.mp hCopy with hOld | hNew
  · exact h.queued handle copy hOld
  · exact hSent _ (mem_enqueuedOn.mp hNew)

omit [DecidableEq R] [DecidableEq E] [DecidableEq T] in
/-- Two observations that respect the invariant do so one after the other. -/
theorem Seen.append {first second : List (Observation R E T)} (hFirst : inv.Seen first)
    (hSecond : inv.Seen second) : inv.Seen (first ++ second) where
  put handle copy hPut :=
    (List.mem_append.mp hPut).elim (hFirst.put handle copy) (hSecond.put handle copy)
  handled router copy hHandled :=
    (List.mem_append.mp hHandled).elim (hFirst.handled router copy) (hSecond.handled router copy)

omit [DecidableEq R] [DecidableEq E] [DecidableEq T] in
theorem Seen.putAll {sent : List (Handle E T × Copy R E T)}
    (hSent : ∀ out ∈ sent, inv.queued out.1 out.2) : inv.Seen (putAll sent) where
  put _ _ hPut := hSent _ (mem_putAll.mp hPut)
  handled router copy hHandled := by simp [GdpRouter.putAll] at hHandled

omit [DecidableEq R] [DecidableEq E] [DecidableEq T] in
/-- Handling a copy that may be handled respects the invariant. -/
theorem Seen.single {router : R} {copy : Copy R E T} (hCopy : inv.inRib router copy) :
    inv.Seen [.handled router copy] where
  put handle other hPut := by simp at hPut
  handled other _ hHandled := by
    cases List.mem_singleton.mp hHandled
    exact hCopy

/-- One step keeps the property everywhere, and what is seen of it has it. -/
theorem Everywhere.step {allowed : NetLabel R E T → Prop} (hPreserved : inv.Preserved net allowed)
    (h : inv.Everywhere net state) {label : NetLabel R E T} (hLabel : allowed label)
    {observed : List (Observation R E T)} (hMove : Move net state label after observed) :
    inv.Everywhere net after ∧ inv.Seen observed := by
  have hNothing : inv.Seen [] := ⟨by simp, by simp⟩
  cases hMove with
  | @ribPacket router order copy rest hQueue hOrder =>
      obtain ⟨hCopy, hRest⟩ := forall_mem_rest h.inRib hQueue
      have hSent : ∀ out ∈ state.routed router order copy, inv.queued out.1 out.2 := by
        intro out hOut
        obtain ⟨name, dst, hDst, hSource, -, rfl⟩ := mem_routed hOut
        exact hPreserved.routed hCopy (h.table router name dst hDst) hSource
      have hTaken : inv.Everywhere net { state with
          ribRx := Function.update state.ribRx router rest } :=
        { h with inRib := forall_mem_update h.inRib hRest }
      exact ⟨hTaken.put hSent, (Seen.single hCopy).append (.putAll hSent)⟩
  | @ribChannel router channel rest hQueue =>
      obtain ⟨hChannel, hRest⟩ := forall_mem_rest h.waiting hQueue
      refine ⟨{ h with waiting := forall_mem_update h.waiting hRest, table := ?_ }, hNothing⟩
      intro other name dst hDst
      by_cases hRouter : other = router
      · subst hRouter
        simp only [Function.update_self, registerChannel, lookup_push, List.mem_append] at hDst
        rcases hDst with hOld | hNew
        · exact h.table other name dst hOld
        · split at hNew
          · exact List.mem_singleton.mp hNew ▸ hChannel
          · cases hNew
      · simp only [Function.update_of_ne hRouter] at hDst
        exact h.table other name dst hDst
  | @ribStatus router order update rest hQueue hOrder =>
      obtain ⟨⟨endpoint, hGateway, hSink⟩, hRest⟩ := forall_mem_rest h.sinks hQueue
      have hSent : ∀ out ∈ state.announced router order update, inv.queued out.1 out.2 := by
        intro out hOut
        obtain ⟨name, -, rfl⟩ := mem_announced hOut
        rw [hSink]
        exact hPreserved.announced name _ hGateway
      have hTaken : inv.Everywhere net { state with
          statRs := Function.update state.statRs router rest
          fresh := state.fresh + 1 } := { h with sinks := forall_mem_update h.sinks hRest }
      exact ⟨hTaken.put hSent, .putAll hSent⟩
  | @connStart endpoint hStarted =>
      refine ⟨?_, hNothing⟩
      have hTaken : inv.Everywhere net { state with
          started := Function.update state.started (.conn endpoint) true } := { h with }
      cases hSelf : net.selfAdvertisement endpoint with
      | none => exact hTaken
      | some message =>
          obtain ⟨hKind, rfl⟩ := selfAdvertisement_eq_some hSelf
          exact hTaken.register (hPreserved.self hKind)
  | @connSend endpoint other copy rest hRunning hPeer hQueue =>
      obtain ⟨hCopy, hRest⟩ := forall_mem_rest h.queued hQueue
      have hFrame := forall_mem_append_singleton (h.flying other) (hPreserved.carried hPeer hCopy)
      exact ⟨{ h with
        queued := forall_mem_update h.queued hRest
        flying := forall_mem_update h.flying hFrame }, hNothing⟩
  | connSendOut hRunning hPeer hQueue =>
      obtain ⟨-, hRest⟩ := forall_mem_rest h.queued hQueue
      exact ⟨{ h with queued := forall_mem_update h.queued hRest }, hNothing⟩
  | @connRecv endpoint frame rest hRunning hLink =>
      obtain ⟨hFrame, hRest⟩ := forall_mem_rest h.flying hLink
      refine ⟨?_, by simp, by simp⟩
      have hTaken : inv.Everywhere net { state with
          link := Function.update state.link endpoint rest } :=
        { h with flying := forall_mem_update h.flying hRest }
      cases hReceive : net.receive endpoint frame with
      | none => exact hTaken
      | some message =>
          rcases receive_eq_some hReceive with ⟨hAction, rfl⟩ | ⟨hAction, rfl⟩
          · exact hTaken.route (hPreserved.forwarded hFrame hAction)
          · exact hTaken.register (hPreserved.advertised hFrame hAction)
  | @wire endpoint header payload hPeer =>
      have hFrame := forall_mem_append_singleton (h.flying endpoint)
        (hPreserved.wired state.fresh hLabel hPeer)
      exact ⟨{ h with flying := forall_mem_update h.flying hFrame }, hNothing⟩
  | lose hLink =>
      obtain ⟨-, hRest⟩ := forall_mem_rest h.flying hLink
      exact ⟨{ h with flying := forall_mem_update h.flying hRest }, hNothing⟩
  | @rosAdvertise task hStarted =>
      refine ⟨?_, hNothing⟩
      have hTaken : inv.Everywhere net { state with
          started := Function.update state.started (.ros task) true } := { h with }
      rw [nodeAdvertisement_eq]
      exact hTaken.register (hPreserved.node task)
  | rosForward payload hRunning hKind hTx =>
      refine ⟨?_, hNothing⟩
      have hTaken : inv.Everywhere net { state with fresh := state.fresh + 1 } := { h with }
      rw [procGdpPacket_rosPacket]
      exact hTaken.route (hPreserved.spoken state.fresh hLabel hTx)
  | @rosForwardDirect task endpoint payload hRunning hKind hTx =>
      have hSent : ∀ out ∈ net.injected state task endpoint payload,
          inv.queued out.1 out.2 := by
        intro out hOut
        rw [mem_injected hOut]
        exact hPreserved.injected state.fresh hLabel hTx
      have hTaken : inv.Everywhere net { state with fresh := state.fresh + 1 } := { h with }
      exact ⟨hTaken.put hSent, .putAll hSent⟩
  | rosRecv hRunning hKind hQueue =>
      obtain ⟨-, hRest⟩ := forall_mem_rest h.queued hQueue
      refine ⟨{ h with queued := forall_mem_update h.queued hRest }, ?_⟩
      split
      · exact ⟨by simp, by simp⟩
      · exact hNothing
  | @flush router endpoint hFlushed hGateway =>
      have hSink : ∃ gateway, net.gateway router = some gateway ∧
          (⟨.conn endpoint⟩ : GDPStatus (Handle E T)).sink = .conn gateway :=
        ⟨endpoint, hGateway, rfl⟩
      have hSinks := forall_mem_append_singleton (h.sinks router) hSink
      exact ⟨{ h with sinks := forall_mem_update h.sinks hSinks }, hNothing⟩
  | close handle =>
      exact ⟨{ h with queued := forall_mem_update h.queued (by simp) }, hNothing⟩

omit [DecidableEq R] [DecidableEq E] [DecidableEq T] in
theorem Everywhere.initial {table : R → RibTable (Handle E T)}
    (hTable : ∀ router name, ∀ channel ∈ ((table router).lookup name).getD [],
      inv.registered router channel) : inv.Everywhere net (.initial table) := by
  refine ⟨?_, ?_, ?_, hTable, ?_, ?_⟩ <;> simp [NetState.initial]

/-- The rule for runs. Only the tables need to be looked at initially. -/
theorem everywhere_of_run {allowed : NetLabel R E T → Prop}
    (hPreserved : inv.Preserved net allowed) {table : R → RibTable (Handle E T)}
    (hTable : ∀ router name, ∀ channel ∈ ((table router).lookup name).getD [],
      inv.registered router channel)
    {labels : List (NetLabel R E T)} (hLabels : ∀ label ∈ labels, allowed label)
    {observed : List (Observation R E T)}
    (run : Run net.Steps (.initial table) labels state observed) :
    inv.Everywhere net state ∧ inv.Seen observed := by
  revert hLabels
  refine run.history_invariant (fun state labels observed =>
    (∀ label ∈ labels, allowed label) → inv.Everywhere net state ∧ inv.Seen observed) ?start ?step
  case start => exact fun _ => ⟨.initial hTable, by simp, by simp⟩
  case step =>
    intro state labels observed label next last _ ih hStep hLabels
    obtain ⟨hState, hObserved⟩ := ih fun other hOther =>
      hLabels other (List.mem_append_left _ hOther)
    obtain ⟨hNext, hLast⟩ := hState.step hPreserved (hLabels label (by simp)) (next_move hStep)
    exact ⟨hNext, hObserved.append hLast⟩

end Local

end GdpRouter
