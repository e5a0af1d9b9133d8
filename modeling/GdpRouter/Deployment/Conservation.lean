import GdpRouter.Deployment.Everywhere

/-! Nothing gets lost, repeated or out of order on the way from a queue to the
RIB of the other end, as long as the connection neither breaks nor ends. -/
namespace GdpRouter

open Multimap Transition

variable {R E T : Type} [DecidableEq R] [DecidableEq E] [DecidableEq T]

namespace Observation

/-- The copies put on a handle. -/
def putOn (handle : Handle E T) : Observation R E T → List (Copy R E T)
  | .put other copy => if other = handle then [copy] else []
  | .delivered _ _ | .handled _ _ | .published _ _ => []

/-- The frames read at an endpoint. -/
def deliveredAt (endpoint : E) : Observation R E T → List (InTransit R T)
  | .delivered other frame => if other = endpoint then [frame] else []
  | .put _ _ | .handled _ _ | .published _ _ => []

/-- The copies that a RIB handles from one of its connections. -/
def handledFrom (router : R) (endpoint : E) : Observation R E T → List (Copy R E T)
  | .handled other copy => if other = router ∧ copy.heard = some endpoint then [copy] else []
  | .put _ _ | .delivered _ _ | .published _ _ => []

/-- The copies that a RIB handles. -/
def handledAt (router : R) : Observation R E T → List (Copy R E T)
  | .handled other copy => if other = router then [copy] else []
  | .put _ _ | .delivered _ _ | .published _ _ => []

variable (handle : Handle E T) (router other : R) (endpoint : E) (task : T) (copy : Copy R E T)
  (frame : InTransit R T)

section PutOn

omit [DecidableEq R]

@[simp] theorem putOn_handled : putOn handle (.handled router copy) = [] := rfl

@[simp] theorem putOn_delivered :
    putOn handle (.delivered endpoint frame : Observation R E T) = [] := rfl

@[simp] theorem putOn_published : putOn handle (.published task copy) = [] := rfl

end PutOn

section DeliveredAt

omit [DecidableEq R] [DecidableEq T]

@[simp] theorem deliveredAt_put : deliveredAt endpoint (.put handle copy) = [] := rfl

@[simp] theorem deliveredAt_handled :
    deliveredAt endpoint (.handled router copy : Observation R E T) = [] := rfl

@[simp] theorem deliveredAt_published : deliveredAt endpoint (.published task copy) = [] := rfl

end DeliveredAt

section HandledFrom

omit [DecidableEq T]

@[simp] theorem handledFrom_put : handledFrom router endpoint (.put handle copy) = [] := rfl

@[simp] theorem handledFrom_delivered (there : E) :
    handledFrom router endpoint (.delivered there frame : Observation R E T) = [] := rfl

@[simp] theorem handledFrom_published : handledFrom router endpoint (.published task copy) = [] :=
  rfl

end HandledFrom

end Observation

section Projections

variable {sent : List (Handle E T × Copy R E T)}

omit [DecidableEq R] in
/-- What is put on one handle, read off the observations of a step. -/
@[simp] theorem putAll_putOn (handle : Handle E T) :
    (putAll sent).flatMap (Observation.putOn handle) = enqueuedOn handle sent := by
  induction sent with
  | nil => rfl
  | cons out rest ih =>
      have hCons : (putAll (out :: rest)).flatMap (Observation.putOn handle) =
          Observation.putOn handle (.put out.1 out.2) ++
            (putAll rest).flatMap (Observation.putOn handle) := List.flatMap_cons
      rw [hCons, ih]
      by_cases hHandle : out.1 = handle <;> simp [Observation.putOn, enqueuedOn, hHandle]

omit [DecidableEq R] [DecidableEq E] [DecidableEq T] in
/-- An observer that ignores puts sees nothing of them. -/
theorem putAll_flatMap_nil {α : Type} {f : Observation R E T → List α}
    (h : ∀ handle copy, f (.put handle copy) = []) : (putAll sent).flatMap f = [] := by
  rw [List.flatMap_eq_nil_iff]
  intro seen hSeen
  obtain ⟨out, -, rfl⟩ := List.mem_map.mp hSeen
  exact h _ _

end Projections

section Carries

variable {net : Network R E T} {here there : E} {state after : NetState R E T}
  {label : NetLabel R E T} {observed : List (Observation R E T)}

/-- The frames on their way from one endpoint to the other. -/
def NetState.inFlight (state : NetState R E T) (here there : E) : List (InTransit R T) :=
  state.link there ++ (state.queue (.conn here)).map Copy.frame

/-- One step between the queue of an endpoint and the reads at its peer. -/
theorem Move.carries (hPeer : net.peer here = some there)
    (hMove : Move net state label after observed) (hLose : label ≠ .lose there)
    (hClose : label ≠ .close (.conn here)) :
    state.inFlight here there ++ observed.flatMap (fun seen => (seen.putOn (.conn here)).map
        Copy.frame) =
      observed.flatMap (Observation.deliveredAt there) ++ after.inFlight here there := by
  have hPut : ∀ sent : List (Handle E T × Copy R E T),
      (putAll sent).flatMap (fun seen => (seen.putOn (.conn here)).map Copy.frame) =
        (enqueuedOn (.conn here) sent).map Copy.frame := by
    intro sent
    rw [← putAll_putOn, List.map_flatMap]
  have hNothing : ∀ sent : List (Handle E T × Copy R E T),
      (putAll sent).flatMap (Observation.deliveredAt there) = [] := fun sent =>
    putAll_flatMap_nil fun _ _ => rfl
  cases hMove with
  | ribPacket hQueue hOrder =>
      simp [NetState.inFlight, NetState.put, hPut, hNothing]
  | ribChannel hQueue => simp [NetState.inFlight]
  | ribStatus hQueue hOrder => simp [NetState.inFlight, NetState.put, hPut, hNothing]
  | connStart hStarted => simp [NetState.inFlight]
  | @connSend endpoint other copy rest hRunning hOther hQueue =>
      by_cases hHere : endpoint = here
      · subst hHere
        obtain rfl := Option.some.inj (hOther.symm.trans hPeer)
        simp [NetState.inFlight, hQueue]
      · have hThere : there ≠ other := by
          rintro rfl
          exact hHere (Option.some.inj ((net.peer_symm hOther).symm.trans (net.peer_symm hPeer)))
        simp [NetState.inFlight, hThere, Ne.symm hHere]
  | @connSendOut endpoint copy rest hRunning hOther hQueue =>
      have hHere : here ≠ endpoint := by
        rintro rfl
        rw [hPeer] at hOther
        cases hOther
      simp [NetState.inFlight, hHere]
  | @connRecv endpoint frame rest hRunning hLink =>
      by_cases hThere : there = endpoint
      · subst hThere
        simp [NetState.inFlight, hLink, Observation.deliveredAt]
      · simp [NetState.inFlight, hThere, Ne.symm hThere, Observation.deliveredAt]
  | @wire endpoint header payload hOther =>
      have hThere : there ≠ endpoint := by
        rintro rfl
        rw [net.peer_symm hPeer] at hOther
        cases hOther
      simp [NetState.inFlight, hThere]
  | @lose endpoint frame rest hLink =>
      have hThere : there ≠ endpoint := fun h => hLose (h ▸ rfl)
      simp [NetState.inFlight, hThere]
  | rosAdvertise hStarted => simp [NetState.inFlight]
  | rosForward payload hRunning hKind hTx => simp [NetState.inFlight]
  | rosForwardDirect payload hRunning hKind hTx =>
      simp [NetState.inFlight, NetState.put, hPut, hNothing]
  | rosRecv hRunning hKind hQueue =>
      split <;> simp [NetState.inFlight]
  | flush hFlushed hGateway => simp [NetState.inFlight]
  | close handle =>
      have hHandle : Handle.conn here ≠ handle := fun h => hClose (h ▸ rfl)
      simp [NetState.inFlight, hHandle]

/-- With losses, what is read and what is on its way is still in order. -/
theorem Move.carries_sublist (hPeer : net.peer here = some there)
    (hMove : Move net state label after observed) (hClose : label ≠ .close (.conn here)) :
    (observed.flatMap (Observation.deliveredAt there) ++ after.inFlight here there).Sublist
      (state.inFlight here there ++ observed.flatMap fun seen =>
        (seen.putOn (.conn here)).map Copy.frame) := by
  by_cases hLose : label = .lose there
  · subst hLose
    cases hMove with
    | lose hLink => simp [NetState.inFlight, hLink]
  · rw [hMove.carries hPeer hLose hClose]

end Carries

section Receive

omit [DecidableEq R] [DecidableEq E] [DecidableEq T]

variable (net : Network R E T) (endpoint : E)

/-- The copy that is made of a frame with a packet. -/
def Network.arrival (frame : InTransit R T) : Copy R E T :=
  ⟨constructGdpForwardFromBytes frame.header.destination (net.threadName endpoint) frame.payload,
    some endpoint, net.arrive endpoint frame⟩

/-- What the RIB gets for a frame that is read. -/
def Network.received (frame : InTransit R T) : List (Copy R E T) :=
  if frame.header.action = .forward then [net.arrival endpoint frame] else []

/-- What an advertisement that is read registers. -/
def Network.registration (name : GDPName) : GDPChannel (Handle E T) :=
  ⟨name, .conn endpoint, constructGdpAdvertisementFromBytes name (net.threadName endpoint)⟩

variable {net endpoint}

/-- What a received frame adds to the packets of the RIB. -/
theorem messageCopies_receive (frame : InTransit R T) :
    messageCopies (some endpoint) (net.arrive endpoint frame) (net.receive endpoint frame) =
      net.received endpoint frame := by
  unfold Network.receive dispatch Network.received
  split
  · rfl
  · split <;> rfl

/-- What a received frame adds to the registrations of the RIB. -/
theorem messageChannels_receive (frame : InTransit R T) :
    messageChannels (net.receive endpoint frame) =
      if frame.header.action = .advertise then
        [net.registration endpoint frame.header.destination]
      else [] := by
  unfold Network.receive dispatch
  split
  · rename_i hForward
    rw [hForward]
    rfl
  · split <;> rfl

theorem messageCopies_self (heard : Option E) (trace : Trace R T) :
    messageCopies heard trace (net.selfAdvertisement endpoint) = [] := by
  unfold Network.selfAdvertisement
  split <;> rfl

end Receive

section Handles

variable {net : Network R E T} {endpoint : E} {state after : NetState R E T}
  {label : NetLabel R E T} {observed : List (Observation R E T)}

/-- The copies from an endpoint that its RIB has yet to handle. -/
def NetState.unhandled (state : NetState R E T) (router : R) (endpoint : E) :
    List (Copy R E T) :=
  (state.ribRx router).filter fun copy => copy.heard = some endpoint

/-- One step between the reads at an endpoint and its RIB. -/
theorem Move.handles (hMove : Move net state label after observed) :
    state.unhandled (net.home endpoint) endpoint ++ observed.flatMap (fun seen =>
        (seen.deliveredAt endpoint).flatMap (net.received endpoint)) =
      observed.flatMap (Observation.handledFrom (net.home endpoint) endpoint) ++
        after.unhandled (net.home endpoint) endpoint := by
  have hRead : ∀ sent : List (Handle E T × Copy R E T), (putAll sent).flatMap (fun seen =>
      (seen.deliveredAt endpoint).flatMap (net.received endpoint)) = [] := fun sent =>
    putAll_flatMap_nil fun _ _ => rfl
  have hHandled : ∀ sent : List (Handle E T × Copy R E T), (putAll sent).flatMap
      (Observation.handledFrom (net.home endpoint) endpoint) = [] := fun sent =>
    putAll_flatMap_nil fun _ _ => rfl
  cases hMove with
  | @ribPacket router order copy rest hQueue hOrder =>
      by_cases hRouter : net.home endpoint = router
      · subst hRouter
        by_cases hHeard : copy.heard = some endpoint <;>
          simp [NetState.unhandled, NetState.put, hRead, hHandled, Observation.handledFrom, hQueue,
            hHeard]
      · simp [NetState.unhandled, NetState.put, hRead, hHandled, Observation.handledFrom, hRouter,
          Ne.symm hRouter]
  | ribChannel hQueue => simp [NetState.unhandled]
  | ribStatus hQueue hOrder => simp [NetState.unhandled, NetState.put, hRead, hHandled]
  | connStart hStarted => simp [NetState.unhandled, messageCopies_self]
  | connSend hRunning hPeer hQueue => simp [NetState.unhandled]
  | connSendOut hRunning hPeer hQueue => simp [NetState.unhandled]
  | @connRecv other frame rest hRunning hLink =>
      by_cases hOther : other = endpoint
      · subst hOther
        have hHeard : (net.received other frame).filter (fun copy => copy.heard = some other) =
            net.received other frame := by
          unfold Network.received
          split <;> simp [Network.arrival]
        simp [NetState.unhandled, Observation.deliveredAt, messageCopies_receive, hHeard]
      · have hHeard : (net.received other frame).filter (fun copy => copy.heard = some endpoint) =
            [] := by
          unfold Network.received
          split <;> simp [Network.arrival, hOther]
        simp only [NetState.unhandled, NetState.submit_ribRx, messageCopies_receive]
        split <;> simp [Observation.deliveredAt, hOther, hHeard]
  | wire header payload hPeer => simp [NetState.unhandled]
  | lose hLink => simp [NetState.unhandled]
  | rosAdvertise hStarted => simp [NetState.unhandled, nodeAdvertisement_eq, messageCopies]
  | rosForward payload hRunning hKind hTx =>
      simp only [NetState.unhandled, NetState.submit_ribRx]
      split <;> simp [procGdpPacket_rosPacket, messageCopies]
  | rosForwardDirect payload hRunning hKind hTx =>
      simp [NetState.unhandled, NetState.put, hRead, hHandled]
  | rosRecv hRunning hKind hQueue => split <;> simp [NetState.unhandled]
  | flush hFlushed hGateway => simp [NetState.unhandled]
  | close handle => simp [NetState.unhandled]

/-- A frame that advertises this name. -/
def InTransit.Advertises (frame : InTransit R T) (name : GDPName) : Prop :=
  frame.header.action = .advertise ∧ frame.header.destination = name

instance (frame : InTransit R T) (name : GDPName) : Decidable (frame.Advertises name) :=
  inferInstanceAs (Decidable (_ ∧ _))

/-- The registrations of a name for an endpoint, and those yet to be made. -/
def NetState.registeredFor (state : NetState R E T) (router : R) (endpoint : E) (name : GDPName) :
    List (GDPChannel (Handle E T)) :=
  ((((state.table router).lookup name).getD []).filter fun channel =>
    channel.channel = .conn endpoint) ++
  (state.channelRx router).filter fun channel =>
    channel.channel = .conn endpoint ∧ channel.gdpname = name

theorem NetState.registeredFor_submit {router other : R} {heard : Option E} {trace : Trace R T}
    {message : Option (RibMessage (Handle E T))} {name : GDPName} :
    (state.submit router heard trace message).registeredFor other endpoint name =
      state.registeredFor other endpoint name ++ if other = router then
        (messageChannels message).filter fun channel =>
          channel.channel = .conn endpoint ∧ channel.gdpname = name
      else [] := by
  by_cases hRouter : other = router <;> simp [registeredFor, hRouter]

/-- Nothing else makes registrations for a connection that does not advertise itself. -/
theorem Move.registers (hKind : net.kind endpoint ≠ .toPeer) (name : GDPName)
    (hMove : Move net state label after observed) :
    state.registeredFor (net.home endpoint) endpoint name ++ observed.flatMap (fun seen =>
        (seen.deliveredAt endpoint).flatMap fun frame =>
          if frame.Advertises name then [net.registration endpoint name] else []) =
      observed.flatMap (fun _ => []) ++ after.registeredFor (net.home endpoint) endpoint name := by
  have hRead : ∀ sent : List (Handle E T × Copy R E T), (putAll sent).flatMap (fun seen =>
      (seen.deliveredAt endpoint).flatMap fun frame =>
        if frame.Advertises name then [net.registration endpoint name] else []) = [] := fun sent =>
    putAll_flatMap_nil fun _ _ => rfl
  cases hMove with
  | ribPacket hQueue hOrder => simp [NetState.registeredFor, NetState.put, hRead]
  | @ribChannel router channel rest hQueue =>
      by_cases hRouter : net.home endpoint = router
      · subst hRouter
        by_cases hChannel : channel.channel = .conn endpoint <;>
          by_cases hName : channel.gdpname = name <;>
            simp [NetState.registeredFor, registerChannel, lookup_push, hQueue, hChannel, hName,
              @eq_comm _ name channel.gdpname]
      · simp [NetState.registeredFor, hRouter]
  | ribStatus hQueue hOrder => simp [NetState.registeredFor, NetState.put, hRead]
  | @connStart other hStarted =>
      have hSelf : (messageChannels (net.selfAdvertisement other)).filter (fun channel =>
          channel.channel = .conn endpoint ∧ channel.gdpname = name) = [] := by
        by_cases hOther : other = endpoint
        · subst hOther
          simp [Network.selfAdvertisement, hKind, messageChannels]
        · unfold Network.selfAdvertisement
          split <;>
            simp [procGdpPacket, constructGdpAdvertisementFromBytes, messageChannels, hOther]
      rw [NetState.registeredFor_submit, hSelf]
      simp [NetState.registeredFor]
  | connSend hRunning hPeer hQueue => simp [NetState.registeredFor]
  | connSendOut hRunning hPeer hQueue => simp [NetState.registeredFor]
  | @connRecv other frame rest hRunning hLink =>
      rw [NetState.registeredFor_submit, messageChannels_receive]
      by_cases hOther : other = endpoint
      · subst hOther
        by_cases hAction : frame.header.action = .advertise <;>
          by_cases hName : frame.header.destination = name <;>
            simp [NetState.registeredFor, Observation.deliveredAt, InTransit.Advertises,
              Network.registration, hAction, hName]
      · by_cases hAction : frame.header.action = .advertise <;>
          simp [NetState.registeredFor, Observation.deliveredAt, Network.registration, hAction,
            hOther]
  | wire header payload hPeer => simp [NetState.registeredFor]
  | lose hLink => simp [NetState.registeredFor]
  | rosAdvertise hStarted =>
      rw [NetState.registeredFor_submit, nodeAdvertisement_eq]
      simp [NetState.registeredFor, messageChannels]
  | rosForward payload hRunning hKind hTx =>
      simp [NetState.registeredFor, procGdpPacket_rosPacket, messageChannels]
  | rosForwardDirect payload hRunning hKind hTx =>
      simp [NetState.registeredFor, NetState.put, hRead]
  | rosRecv hRunning hKind hQueue => split <;> simp [NetState.registeredFor]
  | flush hFlushed hGateway => simp [NetState.registeredFor]
  | close handle => simp [NetState.registeredFor]

end Handles

section InOrder

variable {net : Network R E T} {here there endpoint : E} {labels : List (NetLabel R E T)}
  {state : NetState R E T} {observed : List (Observation R E T)}

/-- A connection that neither breaks nor ends is a lossless queue. -/
theorem carried_in_order (hPeer : net.peer here = some there)
    (hLabels : ∀ label ∈ labels, label ≠ .lose there ∧ label ≠ .close (.conn here))
    (run : Run net.Steps (.initial fun _ => ∅) labels state observed) :
    (observed.flatMap (Observation.putOn (.conn here))).map Copy.frame =
      observed.flatMap (Observation.deliveredAt there) ++ state.inFlight here there := by
  rw [List.map_flatMap]
  exact run.conserves (fun state => state.inFlight here there) _ _
    (fun _ _ _ _ hLabel hStep => (next_move hStep).carries hPeer hLabel.1 hLabel.2) hLabels

/-- The RIB handles what a connection delivers in the order of delivery. What it
has not handled yet is still before it. -/
theorem handled_in_order (run : Run net.Steps (.initial fun _ => ∅) labels state observed) :
    (observed.flatMap (Observation.deliveredAt endpoint)).flatMap (net.received endpoint) =
      observed.flatMap (Observation.handledFrom (net.home endpoint) endpoint) ++
        state.unhandled (net.home endpoint) endpoint := by
  rw [List.flatMap_assoc]
  exact run.conserves (fun state => state.unhandled (net.home endpoint) endpoint) _ _
    (fun _ _ _ _ _ hStep => (next_move hStep).handles) (fun _ _ => trivial)

/-- As many registrations as advertisements that were read, and all alike. -/
theorem registered_in_order (hKind : net.kind endpoint ≠ .toPeer) (name : GDPName)
    (run : Run net.Steps (.initial fun _ => ∅) labels state observed) :
    state.registeredFor (net.home endpoint) endpoint name =
      List.replicate ((observed.flatMap (Observation.deliveredAt endpoint)).countP fun frame =>
        frame.Advertises name) (net.registration endpoint name) := by
  have hAlike : ∀ frames : List (InTransit R T), (frames.flatMap fun frame =>
      if frame.Advertises name then [net.registration endpoint name] else []) =
        List.replicate (frames.countP fun frame => frame.Advertises name)
          (net.registration endpoint name) := by
    intro frames
    induction frames with
    | nil => rfl
    | cons frame rest ih =>
        rw [List.flatMap_cons, ih, List.countP_cons]
        by_cases hName : frame.Advertises name <;> simp [hName, List.replicate_succ]
  have hAll := run.conserves
    (fun state => state.registeredFor (net.home endpoint) endpoint name) _ _
    (fun _ _ _ _ _ hStep => (next_move hStep).registers hKind name) (fun _ _ => trivial)
  have hNone : observed.flatMap (fun _ => ([] : List (GDPChannel (Handle E T)))) = [] :=
    List.flatMap_eq_nil_iff.mpr fun _ _ => rfl
  rw [← hAlike, List.flatMap_assoc]
  simpa [NetState.registeredFor, NetState.initial, hNone] using hAll.symm

end InOrder

end GdpRouter
