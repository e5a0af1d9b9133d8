import GdpRouter.Deployment.LateTopics
import GdpRouter.Deployment.Publishers
import GdpRouter.Semantics.Fairness
import Mathlib.Data.List.Flatten

/-! The messages of a task on their way through a network. A connection, a RIB that knows
where to send them and a publisher each take them in the order in which they come, and
make none. Only a connection may lose some. -/
namespace GdpRouter

open Multimap Transition

variable {R E T : Type} [DecidableEq R] [DecidableEq E] [DecidableEq T]

/-- The message of a copy, if this task has made it. -/
def Copy.messageOf (task : T) (copy : Copy R E T) : List Bytes :=
  if copy.trace.origin = some task then [copy.packet.body] else []

def InTransit.messageOf (task : T) (frame : InTransit R T) : List Bytes :=
  if frame.trace.origin = some task then [frame.payload] else []

/-- The message that a task is given to send. -/
def NetLabel.messageOf (task : T) : NetLabel R E T → List Bytes
  | .rosForward other payload => if other = task then [payload] else []
  | .ribPacket _ _ | .ribChannel _ | .ribStatus _ _ | .connStart _ | .connSend _ | .connRecv _
  | .wire _ _ _ | .lose _ | .rosAdvertise _ | .rosRecv _ | .flush _ | .close _ => []

/-- What a task makes are packets of its topic. -/
def Network.onTopic (net : Network R E T) (task : T) : Local R E T where
  inRib _ copy := copy.trace.origin = some task →
    copy.packet.action = .forward ∧ copy.packet.gdpname = net.topicName task
  queued _ copy := copy.trace.origin = some task →
    copy.packet.action = .forward ∧ copy.packet.gdpname = net.topicName task
  flying _ frame := frame.trace.origin = some task →
    frame.header.action = .forward ∧ frame.header.destination = net.topicName task
  registered _ _ := True

omit [DecidableEq R] [DecidableEq E] [DecidableEq T] in
/-- Frames keep their topic, whatever the tasks do. -/
theorem Network.onTopic_preserved (net : Network R E T) (task : T) :
    (net.onTopic task).Preserved net fun _ => True where
  routed hCopy _ _ := hCopy
  announced := by
    rintro router endpoint name id - ⟨⟩
  carried := by
    intro here there copy _ hCopy hOrigin
    obtain ⟨hAction, hName⟩ := hCopy hOrigin
    exact ⟨(GDPPacket.getHeader_action _).trans hAction,
      (GDPPacket.getHeader_destination _).trans hName⟩
  forwarded hFrame _ hOrigin := ⟨rfl, (hFrame hOrigin).2⟩
  advertised _ _ := trivial
  self _ := trivial
  node _ := trivial
  wired := by
    rintro endpoint header payload id - - ⟨⟩
  spoken := by
    rintro other payload id - - hOrigin
    obtain rfl := Option.some.inj hOrigin
    exact ⟨rfl, rfl⟩
  injected := by
    rintro other endpoint payload id - - hOrigin
    obtain rfl := Option.some.inj hOrigin
    exact ⟨rfl, rfl⟩

/-- As long as a task is not given anything, there is nothing of it. -/
def Local.silent (task : T) : Local R E T where
  inRib _ copy := copy.trace.origin ≠ some task
  queued _ copy := copy.trace.origin ≠ some task
  flying _ frame := frame.trace.origin ≠ some task
  registered _ _ := True

omit [DecidableEq R] [DecidableEq E] [DecidableEq T] in
/-- As long as a task sends nothing, no copy comes from it. -/
theorem Local.silent_preserved (net : Network R E T) (task : T) :
    (Local.silent task).Preserved net fun label => ∀ payload, label ≠ .rosForward task payload where
  routed hCopy _ _ := hCopy
  announced := by
    rintro router endpoint name id - ⟨⟩
  carried _ hCopy := hCopy
  forwarded hFrame _ := hFrame
  advertised _ _ := trivial
  self _ := trivial
  node _ := trivial
  wired := by
    rintro endpoint header payload id - - ⟨⟩
  spoken := by
    rintro other payload id hOther - hOrigin
    obtain rfl := Option.some.inj hOrigin
    exact hOther payload rfl
  injected := by
    rintro other endpoint payload id hOther - hOrigin
    obtain rfl := Option.some.inj hOrigin
    exact hOther payload rfl

section Hop

variable {net : Network R E T} {task : T} {here there endpoint : E}
  {start state : NetState R E T} {labels : List (NetLabel R E T)}
  {observed : List (Observation R E T)}

omit [DecidableEq R] [DecidableEq E] in
theorem map_frame_messageOf (copies : List (Copy R E T)) :
    (copies.map Copy.frame).flatMap (InTransit.messageOf task) =
      copies.flatMap (Copy.messageOf task) := by
  rw [List.flatMap_map]
  rfl

omit [DecidableEq R] [DecidableEq E] in
/-- A frame with a message is a packet, and read as one. -/
theorem received_messageOf {frames : List (InTransit R T)}
    (hFrames : ∀ frame ∈ frames, (net.onTopic task).flying endpoint frame) :
    (frames.flatMap (net.received endpoint)).flatMap (Copy.messageOf task) =
      frames.flatMap (InTransit.messageOf task) := by
  rw [List.flatMap_assoc]
  apply List.flatMap_congr
  intro frame hFrame
  by_cases hOrigin : frame.trace.origin = some task
  · have hAction := (hFrames frame hFrame hOrigin).1
    simp [Network.received, hAction, Network.arrival, Network.arrive, Copy.messageOf,
      InTransit.messageOf, hOrigin, constructGdpForwardFromBytes, GDPPacket.body]
  · by_cases hAction : frame.header.action = .forward <;>
      simp [Network.received, hAction, Network.arrival, Network.arrive, Copy.messageOf,
        InTransit.messageOf, hOrigin]

omit [DecidableEq R] [DecidableEq E] in
theorem messageOf_eq_nil {copies : List (Copy R E T)}
    (h : ∀ copy ∈ copies, copy.trace.origin ≠ some task) :
    copies.flatMap (Copy.messageOf task) = [] :=
  List.flatMap_eq_nil_iff.mpr fun copy hCopy => if_neg (h copy hCopy)

/-- A frame is read from what was on its way. -/
theorem Move.delivered_mem {after : NetState R E T} {label : NetLabel R E T}
    (hMove : Move net state label after observed) :
    ∀ frame ∈ observed.flatMap (Observation.deliveredAt endpoint), frame ∈ state.link endpoint := by
  have hNothing : ∀ sent : List (Handle E T × Copy R E T),
      (putAll sent).flatMap (Observation.deliveredAt endpoint) = [] := fun sent =>
    putAll_flatMap_nil fun _ _ => rfl
  intro frame hFrame
  cases hMove with
  | @connRecv other read rest hRunning hLink =>
      simp only [List.flatMap_cons, List.flatMap_nil, List.append_nil, Observation.deliveredAt,
        List.mem_ite_nil_right, List.mem_singleton] at hFrame
      obtain ⟨rfl, rfl⟩ := hFrame
      exact hLink ▸ List.mem_cons_self
  | ribPacket | ribStatus | rosForwardDirect => simp [hNothing] at hFrame
  | rosRecv => split at hFrame <;> simp at hFrame
  | ribChannel | connStart | connSend | connSendOut | wire | lose => cases hFrame
  | rosAdvertise | rosForward | flush | close => cases hFrame

/-- The frames of the task that are delivered are packets on its topic. -/
theorem onTopic_of_delivered (hStart : (net.onTopic task).Everywhere net start)
    (run : Run net.Steps start labels state observed) :
    ∀ frame ∈ observed.flatMap (Observation.deliveredAt endpoint),
      (net.onTopic task).flying endpoint frame := by
  have hAll := run.history_invariant (fun state _ observed =>
    (net.onTopic task).Everywhere net state ∧
      ∀ frame ∈ observed.flatMap (Observation.deliveredAt endpoint),
        (net.onTopic task).flying endpoint frame) ⟨hStart, by simp⟩ ?step
  case step =>
    rintro state labels observed label next last - ⟨hState, hOld⟩ hStep
    have hMove := next_move hStep
    refine ⟨(hState.step (net.onTopic_preserved task) trivial hMove).1, fun frame hFrame => ?_⟩
    rw [List.flatMap_append] at hFrame
    rcases List.mem_append.mp hFrame with hBefore | hNow
    · exact hOld frame hBefore
    · exact hState.flying _ frame (hMove.delivered_mem frame hNow)
  exact hAll.2

omit [DecidableEq R] [DecidableEq E] in
/-- Nothing of a silent task is on its way. -/
theorem inFlight_silent (hSilent : (Local.silent task).Everywhere net start) :
    (start.inFlight here there).flatMap (InTransit.messageOf task) = [] := by
  apply List.flatMap_eq_nil_iff.mpr
  intro frame hFrame
  apply if_neg
  rcases List.mem_append.mp hFrame with hLink | hQueue
  · exact hSilent.flying there frame hLink
  · obtain ⟨copy, hCopy, rfl⟩ := List.mem_map.mp hQueue
    exact hSilent.queued _ copy hCopy

/-- On the connection: messages are read there, or are on their way there. -/
theorem messages_carried (hPeer : net.peer here = some there)
    (hSilent : (Local.silent task).Everywhere net start)
    (hLabels : ∀ label ∈ labels, label ≠ .lose there ∧ label ≠ .close (.conn here))
    (run : Run net.Steps start labels state observed) :
    (observed.flatMap (Observation.putOn (.conn here))).flatMap (Copy.messageOf task) =
      (observed.flatMap (Observation.deliveredAt there) ++ state.inFlight here there).flatMap
        (InTransit.messageOf task) := by
  have hCarried := run.conserves (fun state => state.inFlight here there) _ _
    (fun _ _ _ _ hLabel hStep => (next_move hStep).carries hPeer hLabel.1 hLabel.2) hLabels
  have hRead := congrArg (List.flatMap (InTransit.messageOf task)) hCarried
  rwa [List.flatMap_append, inFlight_silent hSilent, List.nil_append, ← List.map_flatMap,
    map_frame_messageOf] at hRead

/-- If frames get lost there, the messages that are left are in order. -/
theorem messages_carried_sublist (hPeer : net.peer here = some there)
    (hSilent : (Local.silent task).Everywhere net start)
    (hLabels : ∀ label ∈ labels, label ≠ .close (.conn here))
    (run : Run net.Steps start labels state observed) :
    ((observed.flatMap (Observation.deliveredAt there) ++ state.inFlight here there).flatMap
      (InTransit.messageOf task)).Sublist
        ((observed.flatMap (Observation.putOn (.conn here))).flatMap (Copy.messageOf task)) := by
  have hCarried := run.sublist (fun state => state.inFlight here there) _ _
    (fun _ _ _ _ hLabel hStep => (next_move hStep).carries_sublist hPeer hLabel) hLabels
  have hRead := hCarried.flatMap (InTransit.messageOf task)
  rwa [@List.flatMap_append _ _ (start.inFlight here there), inFlight_silent hSilent,
    List.nil_append, ← List.map_flatMap, map_frame_messageOf] at hRead

/-- At its other end: what is read is handled, or waits for the RIB. -/
theorem messages_read (hTopic : (net.onTopic task).Everywhere net start)
    (hSilent : (Local.silent task).Everywhere net start)
    (run : Run net.Steps start labels state observed) :
    (observed.flatMap (Observation.deliveredAt there)).flatMap (InTransit.messageOf task) =
      (observed.flatMap (Observation.handledFrom (net.home there) there) ++
        state.unhandled (net.home there) there).flatMap (Copy.messageOf task) := by
  have hHandled := run.conserves (fun state => state.unhandled (net.home there) there) _ _
    (fun _ _ _ _ _ hStep => (next_move hStep).handles) (fun _ _ => trivial)
  have hWaiting : (start.unhandled (net.home there) there).flatMap (Copy.messageOf task) = [] :=
    messageOf_eq_nil fun copy hCopy => hSilent.inRib _ copy (List.mem_of_mem_filter hCopy)
  have hRouted := congrArg (List.flatMap (Copy.messageOf task)) hHandled
  rwa [List.flatMap_append, hWaiting, List.nil_append, ← List.flatMap_assoc,
    received_messageOf (onTopic_of_delivered hTopic run)] at hRouted

/-- One hop: what a task has on a queue comes to the RIB at the other end, or is on its
way there. -/
theorem messages_hop (hPeer : net.peer here = some there)
    (hTopic : (net.onTopic task).Everywhere net start)
    (hSilent : (Local.silent task).Everywhere net start)
    (hLabels : ∀ label ∈ labels, label ≠ .lose there ∧ label ≠ .close (.conn here))
    (run : Run net.Steps start labels state observed) :
    (observed.flatMap (Observation.putOn (.conn here))).flatMap (Copy.messageOf task) =
      (observed.flatMap (Observation.handledFrom (net.home there) there)).flatMap
          (Copy.messageOf task) ++
        (state.unhandled (net.home there) there).flatMap (Copy.messageOf task) ++
        (state.inFlight here there).flatMap (InTransit.messageOf task) := by
  rw [messages_carried hPeer hSilent hLabels run, List.flatMap_append,
    messages_read hTopic hSilent run, List.flatMap_append]

/-- Over a connection that is kept the messages arrive in order. Some may be missing. -/
theorem messages_hop_sublist (hPeer : net.peer here = some there)
    (hTopic : (net.onTopic task).Everywhere net start)
    (hSilent : (Local.silent task).Everywhere net start)
    (hLabels : ∀ label ∈ labels, label ≠ .close (.conn here))
    (run : Run net.Steps start labels state observed) :
    ((observed.flatMap (Observation.handledFrom (net.home there) there)).flatMap
          (Copy.messageOf task) ++
        (state.unhandled (net.home there) there).flatMap (Copy.messageOf task) ++
        (state.inFlight here there).flatMap (InTransit.messageOf task)).Sublist
      ((observed.flatMap (Observation.putOn (.conn here))).flatMap (Copy.messageOf task)) := by
  have hCarried := messages_carried_sublist hPeer hSilent hLabels run
  rwa [List.flatMap_append, messages_read hTopic hSilent run, List.flatMap_append] at hCarried

end Hop

section Publisher

variable {net : Network R E T} {task publisher : T} {start state after : NetState R E T}
  {label : NetLabel R E T} {labels : List (NetLabel R E T)}
  {observed : List (Observation R E T)}

/-- What a publisher takes from its queue. -/
def NetState.taken (state : NetState R E T) (label : NetLabel R E T) (publisher : T) :
    List (Copy R E T) :=
  if label = .rosRecv publisher then (state.queue (.ros publisher)).take 1 else []

/-- One step of the queue of a publisher: what is put there joins its end, and
what is taken leaves its front. -/
theorem Move.takes (hMove : Move net state label after observed)
    (hClose : label ≠ .close (.ros publisher)) :
    state.queue (.ros publisher) ++ observed.flatMap (Observation.putOn (.ros publisher)) =
      state.taken label publisher ++ after.queue (.ros publisher) := by
  by_cases hRecv : label = .rosRecv publisher
  · subst hRecv
    cases hMove with
    | rosRecv hRunning hKind hQueue => split <;> simp [NetState.taken, hQueue]
  · rw [NetState.taken, if_neg hRecv, (hMove.ros_queue hRecv hClose).1, List.nil_append]

/-- A publisher publishes the messages that it takes. -/
theorem Move.published_taken (hTopic : net.topicName publisher = net.topicName task)
    (hState : (net.onTopic task).Everywhere net state)
    (hMove : Move net state label after observed) :
    (observed.flatMap (Observation.publishedBy publisher)).flatMap (Copy.messageOf task) =
      (state.taken label publisher).flatMap (Copy.messageOf task) := by
  by_cases hRecv : label = .rosRecv publisher
  · subst hRecv
    cases hMove with
    | @rosRecv _ copy rest hRunning hKind hQueue =>
        by_cases hOrigin : copy.trace.origin = some task
        · have hCopy := hState.queued (.ros publisher) copy (hQueue ▸ List.mem_cons_self) hOrigin
          rw [← hTopic] at hCopy
          rw [if_pos hCopy]
          simp [NetState.taken, hQueue, Observation.publishedBy]
        · split <;>
            simp [NetState.taken, hQueue, Observation.publishedBy, Copy.messageOf, hOrigin]
  · rw [hMove.published_nil hRecv, NetState.taken, if_neg hRecv]

/-- The messages that a publisher gets are published, or are still in its queue. -/
theorem Move.publishes (hTopic : net.topicName publisher = net.topicName task)
    (hState : (net.onTopic task).Everywhere net state)
    (hMove : Move net state label after observed) (hClose : label ≠ .close (.ros publisher)) :
    (state.queue (.ros publisher)).flatMap (Copy.messageOf task) ++
        (observed.flatMap (Observation.putOn (.ros publisher))).flatMap (Copy.messageOf task) =
      (observed.flatMap (Observation.publishedBy publisher)).flatMap (Copy.messageOf task) ++
        (after.queue (.ros publisher)).flatMap (Copy.messageOf task) := by
  rw [← List.flatMap_append, hMove.takes hClose, List.flatMap_append,
    hMove.published_taken hTopic hState]

/-- What is put on the queue of a publisher is published, in order. -/
theorem messages_published (hTopic : net.topicName publisher = net.topicName task)
    (hStart : (net.onTopic task).Everywhere net start)
    (hSilent : (Local.silent task).Everywhere net start)
    (hLabels : ∀ label ∈ labels, label ≠ .close (.ros publisher))
    (run : Run net.Steps start labels state observed) :
    (observed.flatMap (Observation.putOn (.ros publisher))).flatMap (Copy.messageOf task) =
      (observed.flatMap (Observation.publishedBy publisher)).flatMap (Copy.messageOf task) ++
        (state.queue (.ros publisher)).flatMap (Copy.messageOf task) := by
  revert hLabels
  have hNone := messageOf_eq_nil (hSilent.queued (.ros publisher))
  have hAll := run.history_invariant (fun state labels observed =>
    (net.onTopic task).Everywhere net state ∧ ((∀ label ∈ labels, label ≠ .close (.ros publisher)) →
      (observed.flatMap (Observation.putOn (.ros publisher))).flatMap (Copy.messageOf task) =
        (observed.flatMap (Observation.publishedBy publisher)).flatMap (Copy.messageOf task) ++
          (state.queue (.ros publisher)).flatMap (Copy.messageOf task)))
    ⟨hStart, fun _ => by simp [hNone]⟩ ?step
  case step =>
    rintro state labels observed label next last - ⟨hState, hOld⟩ hStep
    have hMove := next_move hStep
    refine ⟨(hState.step (net.onTopic_preserved task) trivial hMove).1, fun hLabels => ?_⟩
    obtain ⟨hBefore, hNow⟩ := List.forall_mem_append.mp hLabels
    have hLast := hMove.publishes hTopic hState (hNow label (by simp))
    simp only [List.flatMap_append, hOld hBefore, List.append_assoc, hLast]
  exact hAll.2

/-- What a ROS task registers when it begins. -/
def Network.nodeRegistration (net : Network R E T) (task : T) : GDPChannel (Handle E T) :=
  ⟨net.topicName task, .ros task,
    constructGdpAdvertisementFromBytes (net.topicName task) (net.nodeName task)⟩

/-- The registrations of a ROS task, and those yet to be made. -/
def NetState.rosRegistered (state : NetState R E T) (net : Network R E T) (task : T) :
    List (GDPChannel (Handle E T)) :=
  ((((state.table (net.rosHome task)).lookup (net.topicName task)).getD []).filter fun channel =>
    channel.channel = .ros task) ++
  (state.channelRx (net.rosHome task)).filter fun channel =>
    channel.channel = .ros task ∧ channel.gdpname = net.topicName task

theorem NetState.rosRegistered_submit {router : R} {heard : Option E} {trace : Trace R T}
    {message : Option (RibMessage (Handle E T))} :
    (state.submit router heard trace message).rosRegistered net task =
      state.rosRegistered net task ++ if net.rosHome task = router then
        (messageChannels message).filter fun channel =>
          channel.channel = .ros task ∧ channel.gdpname = net.topicName task
      else [] := by
  by_cases hRouter : net.rosHome task = router <;> simp [rosRegistered, hRouter]

/-- The step that announces the task registers it, and no other step does. -/
theorem Move.rosRegisters (hMove : Move net state label after observed) :
    after.rosRegistered net task = state.rosRegistered net task ++
      if label = .rosAdvertise task then [net.nodeRegistration task] else [] := by
  cases hMove with
  | @ribChannel router channel rest hQueue =>
      by_cases hRouter : net.rosHome task = router
      · subst hRouter
        by_cases hChannel : channel.channel = .ros task <;>
          by_cases hName : channel.gdpname = net.topicName task <;>
            simp [NetState.rosRegistered, registerChannel, lookup_push, hQueue, hChannel, hName,
              @eq_comm _ (net.topicName task) channel.gdpname]
      · simp [NetState.rosRegistered, hRouter]
  | @connStart endpoint hStarted =>
      have hSelf : (messageChannels (net.selfAdvertisement endpoint)).filter (fun channel =>
          channel.channel = .ros task ∧ channel.gdpname = net.topicName task) = [] := by
        unfold Network.selfAdvertisement
        split <;> simp [procGdpPacket, constructGdpAdvertisementFromBytes, messageChannels]
      rw [NetState.rosRegistered_submit, hSelf]
      simp [NetState.rosRegistered]
  | @connRecv endpoint frame rest hRunning hLink =>
      rw [NetState.rosRegistered_submit, messageChannels_receive]
      by_cases hAction : frame.header.action = .advertise <;>
        simp [NetState.rosRegistered, hAction, Network.registration]
  | @rosAdvertise other hStarted =>
      rw [NetState.rosRegistered_submit, nodeAdvertisement_eq]
      by_cases hOther : other = task
      · subst hOther
        simp [NetState.rosRegistered, messageChannels, Network.nodeRegistration]
      · simp [NetState.rosRegistered, messageChannels, hOther]
  | rosForward payload hRunning hKind hTx =>
      simp [NetState.rosRegistered, procGdpPacket_rosPacket, messageChannels]
  | ribPacket | ribStatus | rosForwardDirect => simp [NetState.rosRegistered, NetState.put]
  | connSend | connSendOut | wire | lose | rosRecv | flush | close => simp [NetState.rosRegistered]

/-- A ROS task begins once. -/
theorem Move.ros_started (hMove : Move net state label after observed) (task : T) :
    (label = .rosAdvertise task → state.started (.ros task) = false) ∧
      after.started (.ros task) =
        (state.started (.ros task) || decide (label = .rosAdvertise task)) := by
  cases hMove with
  | @rosAdvertise other hStarted =>
      obtain rfl | hOther := eq_or_ne other task
      · simp [hStarted]
      · simp [hOther, hOther.symm]
  | ribPacket | ribChannel | ribStatus | rosForwardDirect => simp [NetState.put]
  | connStart | connSend | connSendOut | connRecv | wire | lose => simp
  | rosForward | rosRecv | flush | close => simp

/-- So it registers once. -/
theorem rosRegistered_of_run (run : Run net.Steps (.initial fun _ => ∅) labels state observed) :
    state.rosRegistered net task =
      if state.started (.ros task) then [net.nodeRegistration task] else [] := by
  apply run.invariant fun state => state.rosRegistered net task =
    if state.started (.ros task) then [net.nodeRegistration task] else []
  · rfl
  · intro state label next last hOld hStep
    have hMove := next_move hStep
    obtain ⟨hFirst, hStarted⟩ := hMove.ros_started task
    rw [hMove.rosRegisters, hOld, hStarted]
    by_cases hLabel : label = .rosAdvertise task
    · simp [hLabel, hFirst hLabel]
    · simp [hLabel]

/-- A task that the table knows stands there once. -/
theorem ros_registered_once (task : T)
    (run : Run net.Steps (.initial fun _ => ∅) labels state observed)
    (hKnown : net.nodeRegistration task ∈
      ((state.table (net.rosHome task)).lookup (net.topicName task)).getD []) :
    ((((state.table (net.rosHome task)).lookup (net.topicName task)).getD []).filter fun channel =>
      channel.channel = .ros task) = [net.nodeRegistration task] := by
  let made := (((state.table (net.rosHome task)).lookup (net.topicName task)).getD []).filter
    fun channel => channel.channel = .ros task
  have hMade : net.nodeRegistration task ∈ made :=
    List.mem_filter.mpr ⟨hKnown, by simp [Network.nodeRegistration]⟩
  have hPrefix : made <+: state.rosRegistered net task := List.prefix_append _ _
  rw [rosRegistered_of_run run] at hPrefix
  have hSome := List.length_pos_of_mem hMade
  split at hPrefix
  · exact hPrefix.eq_of_length (Nat.le_antisymm hPrefix.length_le hSome)
  · rw [List.prefix_nil.mp hPrefix] at hMade
    cases hMade

end Publisher

section Routed

variable {net : Network R E T} {task : T} {start state after : NetState R E T}
  {label : NetLabel R E T} {labels : List (NetLabel R E T)}
  {observed : List (Observation R E T)} {there : E} {handle : Handle E T}

omit [DecidableEq R] in
/-- One registration of the handle is one copy on it. -/
theorem enqueuedOn_routed_once {router : R} {order : List GDPName} {copy : Copy R E T}
    {dst : GDPChannel (Handle E T)}
    (hKnown : dst ∈ ((state.table router).lookup copy.packet.gdpname).getD [])
    (hOpen : state.closed handle = false)
    (hOne : (((state.table router).lookup copy.packet.gdpname).getD []).countP (fun channel =>
      channel.channel = handle ∧ channel.advertisement.source ≠ copy.packet.source) = 1) :
    enqueuedOn handle (state.routed router order copy) = [copy] := by
  cases hLookup : (state.table router).lookup copy.packet.gdpname with
  | none => simp [hLookup] at hKnown
  | some destinations =>
      rw [hLookup, Option.getD_some] at hOne
      rw [enqueuedOn_routed hLookup hOpen, hOne, List.replicate_one]

/-- The RIB that owns the handle gets what the task makes from one connection, and puts it
on the handle once. -/
structure Network.Relays (net : Network R E T) (task : T) (there : E) (handle : Handle E T)
    (state : NetState R E T) : Prop where
  sourced : net.sourced.Everywhere net state
  heard : ∀ copy ∈ state.ribRx (net.owner handle), copy.trace.origin = some task →
    copy.heard = some there
  once : ∀ order, ∀ copy ∈ state.ribRx (net.owner handle), copy.trace.origin = some task →
    enqueuedOn handle (state.routed (net.owner handle) order copy) = [copy]

/-- A message gets onto a queue by the RIB that owns it, or by its own task. -/
theorem Move.put_message (hSourced : net.sourced.Everywhere net state)
    (hMove : Move net state label after observed) {copy : Copy R E T}
    (hPut : .put handle copy ∈ observed) (hOrigin : copy.trace.origin = some task) :
    (∃ order, label = .ribPacket (net.owner handle) order) ∨
      ∃ endpoint, net.ribTx task = some endpoint ∧ handle = .conn endpoint := by
  rcases hMove.put_cases hPut with ⟨router, order, rfl, -, taken, -, hOut⟩ |
    ⟨router, order, -, update, -, hOut⟩ | ⟨other, endpoint, payload, -, hTx, hOut⟩
  · obtain ⟨name, dst, hDst, -, -, hSame⟩ := mem_routed hOut
    have hChannel : handle = dst.channel := congrArg Prod.fst hSame
    rw [hChannel, (hSourced.table router name dst hDst).1]
    exact .inl ⟨order, rfl⟩
  · obtain ⟨name, -, hSame⟩ := mem_announced hOut
    cases hSame
    cases hOrigin
  · have hSame := mem_injected hOut
    cases hSame
    cases hOrigin
    exact .inr ⟨endpoint, hTx, rfl⟩

/-- Only the RIB of a router handles packets there. -/
theorem Move.handled_nil (hMove : Move net state label after observed) {router : R}
    (hLabel : ∀ order, label ≠ .ribPacket router order) :
    observed.flatMap (Observation.handledFrom router there) = [] := by
  have hNothing : ∀ sent : List (Handle E T × Copy R E T),
      (putAll sent).flatMap (Observation.handledFrom router there) = [] := fun sent =>
    putAll_flatMap_nil fun _ _ => rfl
  cases hMove with
  | @ribPacket other order copy rest hQueue hOrder =>
      have hOther : other ≠ router := fun hSame => hLabel order (hSame ▸ rfl)
      simp [hNothing, Observation.handledFrom, hOther]
  | ribStatus | rosForwardDirect => exact hNothing _
  | rosRecv => split <;> simp
  | connRecv => simp
  | ribChannel | connStart | connSend | connSendOut | wire | lose => rfl
  | rosAdvertise | rosForward | flush | close => rfl

/-- A step puts on the handle the messages that its RIB handles in that step. -/
theorem Move.messages_routed (h : net.Relays task there handle state)
    (hDirect : ∀ endpoint, net.ribTx task = some endpoint → handle ≠ .conn endpoint)
    (hMove : Move net state label after observed) :
    (observed.flatMap (Observation.putOn handle)).flatMap (Copy.messageOf task) =
      (observed.flatMap (Observation.handledFrom (net.owner handle) there)).flatMap
        (Copy.messageOf task) := by
  by_cases hLabel : ∃ order, label = .ribPacket (net.owner handle) order
  · obtain ⟨order, rfl⟩ := hLabel
    cases hMove with
    | @ribPacket _ _ copy rest hQueue hOrder =>
        have hCopy : copy ∈ state.ribRx (net.owner handle) := hQueue ▸ List.mem_cons_self
        have hNothing : (putAll (state.routed (net.owner handle) order copy)).flatMap
            (Observation.handledFrom (net.owner handle) there) = [] :=
          putAll_flatMap_nil fun _ _ => rfl
        rw [List.flatMap_cons, List.flatMap_cons, hNothing, putAll_putOn,
          Observation.putOn_handled, List.nil_append, List.append_nil]
        by_cases hOrigin : copy.trace.origin = some task
        · rw [h.once order copy hCopy hOrigin]
          simp [Observation.handledFrom, h.heard copy hCopy hOrigin]
        · have hOther : (enqueuedOn handle (state.routed (net.owner handle) order copy)).flatMap
              (Copy.messageOf task) = [] := by
            apply messageOf_eq_nil
            intro sent hSent
            obtain ⟨_, _, -, -, -, hSame⟩ := mem_routed (mem_enqueuedOn.mp hSent)
            cases hSame
            exact hOrigin
          rw [hOther]
          simp only [Observation.handledFrom]
          split <;> simp [Copy.messageOf, hOrigin]
  · have hPuts : (observed.flatMap (Observation.putOn handle)).flatMap (Copy.messageOf task) =
        [] := by
      apply messageOf_eq_nil
      intro copy hCopy hOrigin
      rcases hMove.put_message h.sourced (mem_putOn.mp hCopy) hOrigin with hRib | ⟨_, hTx, hSame⟩
      · exact hLabel hRib
      · exact hDirect _ hTx hSame
    rw [hPuts, hMove.handled_nil (not_exists.mp hLabel)]
    rfl

/-- What a RIB gets of a task is what it puts on the handle. -/
theorem messages_routed (hDirect : ∀ endpoint, net.ribTx task = some endpoint →
      handle ≠ .conn endpoint)
    (run : Run net.Steps start labels state observed)
    (hRelays : Throughout net.Steps start labels (net.Relays task there handle)) :
    (observed.flatMap (Observation.putOn handle)).flatMap (Copy.messageOf task) =
      (observed.flatMap (Observation.handledFrom (net.owner handle) there)).flatMap
        (Copy.messageOf task) := by
  induction run with
  | nil => rfl
  | cons first _ ih =>
      have hFirst := (next_move first).messages_routed hRelays.head hDirect
      simp only [List.flatMap_append, hFirst, ih (hRelays.tail first)]

end Routed

section Rest

variable {net : Network R E T} {state : NetState R E T} {router : R} {endpoint : E} {task : T}

/-! A task with a queue that holds something can step. -/

/-- A RIB with a packet before it can take it. -/
theorem ribPacket_enabled (hQueue : state.ribRx router ≠ []) :
    Enabled net.Steps (fun label => ∃ order, label = .ribPacket router order) state := by
  obtain ⟨copy, rest, hQueue⟩ := List.exists_cons_of_ne_nil hQueue
  have hStep : ∃ result, net.next state (.ribPacket router (state.table router).keys) =
      some result := by
    simp [Network.next, hQueue, NetState.ribHandle, connectionRouterStep]
  obtain ⟨⟨next, out⟩, hNext⟩ := hStep
  exact ⟨_, next, out, ⟨_, rfl⟩, hNext⟩

/-- A RIB with a registration before it can take it. -/
theorem ribChannel_enabled (hQueue : state.channelRx router ≠ []) :
    Enabled net.Steps (· = .ribChannel router) state := by
  obtain ⟨channel, rest, hQueue⟩ := List.exists_cons_of_ne_nil hQueue
  have hStep : ∃ result, net.next state (.ribChannel router) = some result := by
    simp [Network.next, hQueue, NetState.ribHandle, connectionRouterStep]
  obtain ⟨⟨next, out⟩, hNext⟩ := hStep
  exact ⟨_, next, out, rfl, hNext⟩

/-- A RIB with a request to flush before it can take it. -/
theorem ribStatus_enabled (hQueue : state.statRs router ≠ []) :
    Enabled net.Steps (fun label => ∃ order, label = .ribStatus router order) state := by
  obtain ⟨update, rest, hQueue⟩ := List.exists_cons_of_ne_nil hQueue
  have hStep : ∃ result, net.next state (.ribStatus router (state.table router).keys) =
      some result := by
    simp [Network.next, hQueue, NetState.ribHandle, connectionRouterStep]
  obtain ⟨⟨next, out⟩, hNext⟩ := hStep
  exact ⟨_, next, out, ⟨_, rfl⟩, hNext⟩

/-- A running connection can send what is queued. -/
theorem connSend_enabled (hRunning : state.running (.conn endpoint) = true)
    (hQueue : state.queue (.conn endpoint) ≠ []) :
    Enabled net.Steps (· = .connSend endpoint) state := by
  obtain ⟨copy, rest, hQueue⟩ := List.exists_cons_of_ne_nil hQueue
  have hStep : ∃ result, net.next state (.connSend endpoint) = some result := by
    cases hPeer : net.peer endpoint <;> simp [Network.next, hRunning, hQueue, hPeer]
  obtain ⟨⟨next, out⟩, hNext⟩ := hStep
  exact ⟨_, next, out, rfl, hNext⟩

/-- A running connection can receive what is in flight. -/
theorem connRecv_enabled (hRunning : state.running (.conn endpoint) = true)
    (hLink : state.link endpoint ≠ []) : Enabled net.Steps (· = .connRecv endpoint) state := by
  obtain ⟨frame, rest, hLink⟩ := List.exists_cons_of_ne_nil hLink
  have hStep : ∃ result, net.next state (.connRecv endpoint) = some result := by
    simp [Network.next, hRunning, hLink]
  obtain ⟨⟨next, out⟩, hNext⟩ := hStep
  exact ⟨_, next, out, rfl, hNext⟩

/-- A running publisher can take what is queued. -/
theorem rosRecv_enabled (hRunning : state.running (.ros task) = true)
    (hKind : net.rosKind task = .publisher) (hQueue : state.queue (.ros task) ≠ []) :
    Enabled net.Steps (· = .rosRecv task) state := by
  obtain ⟨copy, rest, hQueue⟩ := List.exists_cons_of_ne_nil hQueue
  have hStep : ∃ result, net.next state (.rosRecv task) = some result := by
    simp [Network.next, hRunning, hKind, hQueue]
  obtain ⟨⟨next, out⟩, hNext⟩ := hStep
  exact ⟨_, next, out, rfl, hNext⟩

/-- The tasks have nothing left to do with what they have got. -/
def NetState.AtRest (state : NetState R E T) (net : Network R E T) : Prop :=
  ∀ next seen, (∀ router order, ¬net.Steps state (.ribPacket router order) next seen) ∧
    (∀ endpoint, ¬net.Steps state (.connSend endpoint) next seen ∧
      ¬net.Steps state (.connRecv endpoint) next seen) ∧
    ∀ task, ¬net.Steps state (.rosRecv task) next seen

/-- At rest no RIB has a packet before it. -/
theorem NetState.AtRest.ribRx (h : state.AtRest net) (router : R) : state.ribRx router = [] := by
  by_contra hQueue
  obtain ⟨_, next, out, ⟨order, rfl⟩, hStep⟩ : Enabled net.Steps _ state :=
    ribPacket_enabled hQueue
  exact (h next out).1 router order hStep

/-- At rest nothing is in flight to a running connection. -/
theorem NetState.AtRest.link (h : state.AtRest net)
    (hRunning : state.running (.conn endpoint) = true) : state.link endpoint = [] := by
  by_contra hLink
  obtain ⟨_, next, out, rfl, hStep⟩ : Enabled net.Steps _ state :=
    connRecv_enabled hRunning hLink
  exact ((h next out).2.1 endpoint).2 hStep

/-- At rest a running connection has nothing to send. -/
theorem NetState.AtRest.queue (h : state.AtRest net)
    (hRunning : state.running (.conn endpoint) = true) : state.queue (.conn endpoint) = [] := by
  by_contra hQueue
  obtain ⟨_, next, out, rfl, hStep⟩ : Enabled net.Steps _ state :=
    connSend_enabled hRunning hQueue
  exact ((h next out).2.1 endpoint).1 hStep

/-- At rest a running publisher has nothing to publish. -/
theorem NetState.AtRest.published (h : state.AtRest net)
    (hRunning : state.running (.ros task) = true) (hKind : net.rosKind task = .publisher) :
    state.queue (.ros task) = [] := by
  by_contra hQueue
  obtain ⟨_, next, out, rfl, hStep⟩ := rosRecv_enabled hRunning hKind hQueue
  exact (h next out).2.2 task hStep

end Rest

end GdpRouter
