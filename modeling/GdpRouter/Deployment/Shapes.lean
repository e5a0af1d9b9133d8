import GdpRouter.Deployment.Streams

/-! The packets that a router makes of whatever bytes it reads. The receive arms
check no shapes. They need not: a packet is built anew from the header and the
payload, and an advertisement never leaves the queue of registrations. -/
namespace GdpRouter

open Multimap Transition

/-- A forward of a message that may be said under its name. -/
def GDPPacket.Says (spoken : GDPName → Bytes → Prop) (packet : GDPPacket) : Prop :=
  packet.action = .forward ∧ ∃ payload, packet.payload = some payload ∧
    payload.length < usizeSize ∧ spoken packet.gdpname payload

/-- An advertisement as a flush makes it. -/
def GDPPacket.Announces (packet : GDPPacket) : Prop :=
  packet.action = .advertise ∧ packet.payload = none ∧ packet.source = packet.gdpname

/-- What the RIB takes are messages. What it and the ROS tasks send are messages and
announcements. -/
def Local.messages {R E T : Type} (spoken : GDPName → Bytes → Prop) : Local R E T where
  inRib _ copy := copy.packet.Says spoken
  queued _ copy := copy.packet.Says spoken ∨ copy.packet.Announces
  flying _ frame := frame.header.action = .forward →
    frame.payload.length < usizeSize ∧ spoken frame.header.destination frame.payload
  registered _ _ := True

variable {R E T : Type}

/-- The step brings nothing in but what may be said. -/
def Network.Speaks (net : Network R E T) (spoken : GDPName → Bytes → Prop) : NetLabel R E T → Prop
  | .rosForward task payload => payload.length < usizeSize ∧ spoken (net.topicName task) payload
  | .wire _ header payload =>
      header.action = .forward → payload.length < usizeSize ∧ spoken header.destination payload
  | .ribPacket _ _ | .ribChannel _ | .ribStatus _ _ | .connStart _ | .connSend _ | .connRecv _
  | .lose _ | .rosAdvertise _ | .rosRecv _ | .flush _ | .close _ => True

/-- Neither a router nor a connection changes a message. -/
theorem Local.messages_preserved (net : Network R E T) (spoken : GDPName → Bytes → Prop) :
    (Local.messages spoken).Preserved net (net.Speaks spoken) where
  routed := fun hCopy _ _ => .inl hCopy
  announced := fun _ _ _ => .inr ⟨rfl, rfl, rfl⟩
  carried := by
    intro here there copy _ hCopy hAction
    rw [Copy.frame, GDPPacket.getHeader_action] at hAction
    rcases hCopy with ⟨-, payload, hPayload, hMessage⟩ | ⟨hAdvertise, -⟩
    · simpa [Copy.frame, GDPPacket.body, hPayload] using hMessage
    · rw [hAdvertise] at hAction
      cases hAction
  forwarded := fun hFrame hAction => ⟨rfl, _, rfl, hFrame hAction⟩
  advertised := fun _ _ => trivial
  self := fun _ => trivial
  node := fun _ => trivial
  wired := fun _ hLabel _ => hLabel
  spoken := fun _ hLabel _ => ⟨rfl, _, rfl, hLabel⟩
  injected := fun _ hLabel _ => .inl ⟨rfl, _, rfl, hLabel⟩

variable [DecidableEq R] [DecidableEq E] [DecidableEq T]

section Queues

variable {net : Network R E T} {state after : NetState R E T} {label : NetLabel R E T}
  {observed : List (Observation R E T)}

/-- Only a flush puts an advertisement on a queue. -/
theorem Move.put_advertise {spoken : GDPName → Bytes → Prop}
    (hState : (Local.messages spoken).Everywhere net state)
    (hMove : Move net state label after observed) {handle : Handle E T} {copy : Copy R E T}
    (hPut : .put handle copy ∈ observed) (hAction : copy.packet.action = .advertise) :
    ∃ router order, label = .ribStatus router order := by
  rcases hMove.put_cases hPut with ⟨router, order, -, -, taken, hTaken, hOut⟩ |
    ⟨router, order, hLabel, -⟩ | ⟨task, _, payload, -, -, hOut⟩
  · obtain ⟨_, dst, -, -, -, hSame⟩ := mem_routed hOut
    obtain ⟨-, rfl⟩ := Prod.mk.inj hSame
    have hForward := (hState.inRib router copy (List.mem_of_mem_head? hTaken)).1
    rw [hAction] at hForward
    cases hForward
  · exact ⟨router, order, hLabel⟩
  · cases mem_injected hOut
    cases hAction

end Queues

section Shaped

variable {net : StreamNetwork R E T} {serde : SerdeJson} {state after : StreamState R E T}
  {label : StreamLabel R E T} {seen : List (StreamObservation R E T)}

omit [DecidableEq R] [DecidableEq E] [DecidableEq T] in
/-- The packet made of a frame is a forward with its payload, or an advertisement. -/
theorem dispatch_says {threadName : GDPName} {header : GDPPacketInTransit} {payload : Bytes}
    {packet : GDPPacket} (hLength : payload.length = header.length)
    (h : dispatch threadName header payload = some packet)
    (hAction : packet.action = .forward) : packet.Says fun _ _ => True := by
  unfold dispatch at h
  split at h
  · cases h
    exact ⟨rfl, payload, rfl, hLength ▸ header.length_lt, trivial⟩
  · split at h
    · cases h
      cases hAction
    · cases h

/-- One step over bytes keeps the messages to those that may be said, if the
receive arms hand no others on. -/
theorem StreamMove.messages {spoken : GDPName → Bytes → Prop}
    (hTasks : (Local.messages spoken).Everywhere net.cut state.tasks)
    (hSpeaks : ∀ task payload, label = .task (.rosForward task payload) →
      spoken (net.topicName task) payload)
    (hRead : ∀ endpoint receivingBuf recv packets, label = .read endpoint receivingBuf →
      (net.protocol endpoint).read serde (net.threadName endpoint) (state.recv endpoint)
        receivingBuf = .ok (recv, packets) →
      ∀ packet ∈ packets, packet.action = .forward → packet.Says spoken)
    (hMove : StreamMove net serde state label after seen) :
    (Local.messages spoken).Everywhere net.cut after.tasks := by
  cases hMove with
  | @task label tasks out hFrame hMove =>
      have hLabel : net.cut.Speaks spoken label := by
        cases label with
        | rosForward task payload =>
            have hMessage := hSpeaks task payload rfl
            cases hMove with
            | rosForward _ _ _ _ hSized => exact ⟨hSized, hMessage⟩
            | rosForwardDirect _ _ _ _ hSized => exact ⟨hSized, hMessage⟩
        | connSend | connRecv | wire | lose => cases hFrame
        | ribPacket | ribChannel | ribStatus | connStart | rosAdvertise => trivial
        | rosRecv | flush | close => trivial
      exact (hTasks.step (Local.messages_preserved net.cut spoken) hLabel hMove).1
  | @write endpoint event rest arm accepted hQueue hWrite =>
      obtain ⟨taken, hTaken, -⟩ := unqueue_eq_some hQueue
      have hRest : ∀ copy ∈ rest, (Local.messages spoken).queued (.conn endpoint) copy := by
        intro copy hCopy
        apply hTasks.queued (.conn endpoint) copy
        rw [hTaken]
        exact List.mem_append_right _ hCopy
      exact { hTasks with queued := forall_mem_update hTasks.queued hRest }
  | @read endpoint receivingBuf wire recv packets hWire hOk =>
      exact hTasks.handOver (hRead endpoint receivingBuf recv packets rfl hOk)
        fun _ _ _ => trivial

/-- Whatever is read, the packets in the queues keep their shapes. -/
theorem StreamMove.shaped
    (hTasks : (Local.messages fun _ _ => True).Everywhere net.cut state.tasks)
    (hMove : StreamMove net serde state label after seen) :
    (Local.messages fun _ _ => True).Everywhere net.cut after.tasks := by
  apply hMove.messages hTasks (fun _ _ _ => trivial)
  intro endpoint receivingBuf recv packets _ hRead packet hPacket hAction
  obtain ⟨header, payload, hLength, hDispatch⟩ := Protocol.read_dispatched hRead packet hPacket
  exact dispatch_says hLength hDispatch hAction

/-- A packet that a send arm takes has one of the two shapes. -/
theorem StreamMove.framed {spoken : GDPName → Bytes → Prop}
    (hTasks : (Local.messages spoken).Everywhere net.cut state.tasks)
    (hMove : StreamMove net serde state label after seen) {endpoint : E} {packet : GDPPacket}
    (hFramed : .framed endpoint packet ∈ seen) : packet.Says spoken ∨ packet.Announces := by
  cases hMove with
  | task hFrame hMove => simp at hFramed
  | @write other event rest arm accepted hQueue hWrite =>
      obtain ⟨taken, hTaken, hEvent⟩ := unqueue_eq_some hQueue
      obtain ⟨_, hPacket, hSame⟩ := List.mem_map.mp hFramed
      cases hSame
      rw [← hEvent] at hPacket
      obtain ⟨copy, hCopy, rfl⟩ := List.mem_map.mp hPacket
      apply hTasks.queued (.conn endpoint) copy
      rw [hTaken]
      exact List.mem_append_left _ hCopy
  | read hWire hRead => cases hFramed

/-- An advertisement on a queue is new only in a flush. -/
theorem StreamMove.advertised {spoken : GDPName → Bytes → Prop}
    (hTasks : (Local.messages spoken).Everywhere net.cut state.tasks)
    (hMove : StreamMove net serde state label after seen) {handle : Handle E T} {copy : Copy R E T}
    (hCopy : copy ∈ after.tasks.queue handle) (hAction : copy.packet.action = .advertise) :
    copy ∈ state.tasks.queue handle ∨
      ∃ router order, .task (.ribStatus router order) (.put handle copy) ∈ seen := by
  cases hMove with
  | @task label tasks out hFrame hMove =>
      apply (hMove.mem_queue hCopy).imp_right
      intro hPut
      obtain ⟨router, order, rfl⟩ := hMove.put_advertise hTasks hPut hAction
      exact ⟨router, order, List.mem_map_of_mem hPut⟩
  | @write endpoint event rest arm accepted hQueue hWrite =>
      obtain ⟨taken, hTaken, -⟩ := unqueue_eq_some hQueue
      left
      by_cases hSame : handle = .conn endpoint
      · subst hSame
        rw [hTaken]
        exact List.mem_append_right _ (by simpa using hCopy)
      · simpa [Function.update_of_ne hSame] using hCopy
  | read hWire hRead =>
      rw [Network.handOver_queue] at hCopy
      exact .inl hCopy

/-- What a send arm has in hand, it had before or takes in this step. -/
theorem StreamMove.held (hMove : StreamMove net serde state label after seen) {endpoint : E}
    {packet : GDPPacket} (hHeld : packet ∈ (after.arm endpoint).current) :
    packet ∈ (state.arm endpoint).current ∨ .framed endpoint packet ∈ seen := by
  cases hMove with
  | task hFrame hMove => exact .inl hHeld
  | @write other event rest arm accepted hQueue hWrite =>
      by_cases hSame : endpoint = other
      · subst hSame
        have hHand := (Protocol.write_in_hand hWrite).1 (by simpa using hHeld)
        exact (List.mem_append.mp hHand).imp_right List.mem_map_of_mem
      · exact .inl (by simpa [Function.update_of_ne hSame] using hHeld)
  | read hWire hRead => exact .inl hHeld

/-- The shapes in the queues and in the send arms, where the announcements are from,
and what was framed. -/
structure StreamState.Shaped (net : StreamNetwork R E T) (state : StreamState R E T)
    (observed : List (StreamObservation R E T)) : Prop where
  tasks : (Local.messages fun _ _ => True).Everywhere net.cut state.tasks
  flushed : ∀ handle, ∀ copy ∈ state.tasks.queue handle, copy.packet.action = .advertise →
    ∃ router order, .task (.ribStatus router order) (.put handle copy) ∈ observed
  framed : ∀ endpoint packet, .framed endpoint packet ∈ observed →
    packet.Says (fun _ _ => True) ∨ packet.Announces
  held : ∀ endpoint, ∀ packet ∈ (state.arm endpoint).current,
    packet.Says (fun _ _ => True) ∨ packet.Announces

omit [DecidableEq R] [DecidableEq E] [DecidableEq T] in
theorem StreamState.Shaped.initial : (StreamState.initial : StreamState R E T).Shaped net [] where
  tasks := .initial (by simp)
  flushed := by
    intro handle copy hCopy
    cases hCopy
  framed := by
    intro endpoint packet hFramed
    cases hFramed
  held := by
    intro endpoint packet hHeld
    cases hHeld

/-- Whatever is read, a step keeps the shapes. -/
theorem StreamState.Shaped.step {observed : List (StreamObservation R E T)}
    (h : state.Shaped net observed) (hMove : StreamMove net serde state label after seen) :
    after.Shaped net (observed ++ seen) where
  tasks := hMove.shaped h.tasks
  flushed := by
    intro handle copy hCopy hAction
    rcases hMove.advertised h.tasks hCopy hAction with hOld | ⟨router, order, hPut⟩
    · obtain ⟨router, order, hPut⟩ := h.flushed handle copy hOld hAction
      exact ⟨router, order, List.mem_append_left _ hPut⟩
    · exact ⟨router, order, List.mem_append_right _ hPut⟩
  framed := by
    intro endpoint packet hSeen
    rcases List.mem_append.mp hSeen with hOld | hNew
    · exact h.framed endpoint packet hOld
    · exact hMove.framed h.tasks hNew
  held := by
    intro endpoint packet hHeld
    rcases hMove.held hHeld with hOld | hNew
    · exact h.held endpoint packet hOld
    · exact hMove.framed h.tasks hNew

omit [DecidableEq R] [DecidableEq E] [DecidableEq T] in
/-- The header of a packet of the two shapes. -/
theorem GDPPacket.getHeader_shaped {packet : GDPPacket}
    (h : packet.Says (fun _ _ => True) ∨ packet.Announces) :
    packet.getHeader.action = .forward ∨
      (packet.getHeader.action = .advertise ∧ packet.getHeader.length = 0) := by
  rw [GDPPacket.getHeader_action, GDPPacket.getHeader_length, GDPPacket.body]
  rcases h with ⟨hAction, -⟩ | ⟨hAction, hPayload, -⟩
  · exact .inl hAction
  · refine .inr ⟨hAction, ?_⟩
    rw [hPayload]
    rfl

end Shaped

/-- In every run, whatever bytes come in on the connections: the packets that wait
for a RIB are forwards with a payload. Those on the queues are too, or they are
announcements that a flush has put there. So a send arm frames nothing else, all
that it writes is of such a frame, and an advertisement that is read is put on no
queue. -/
theorem shaped_packets (net : StreamNetwork R E T) (serde : SerdeJson)
    {labels : List (StreamLabel R E T)} {state : StreamState R E T}
    {observed : List (StreamObservation R E T)}
    (run : Run (net.Streams serde) .initial labels state observed) :
    (∀ router, ∀ copy ∈ state.tasks.ribRx router,
      copy.packet.action = .forward ∧ ∃ payload, copy.packet.payload = some payload) ∧
    (∀ handle, ∀ copy ∈ state.tasks.queue handle,
      (copy.packet.action = .forward ∧ ∃ payload, copy.packet.payload = some payload) ∨
      (copy.packet.Announces ∧ ∃ router order,
        .task (.ribStatus router order) (.put handle copy) ∈ observed)) ∧
    (∀ endpoint packet, .framed endpoint packet ∈ observed →
      packet.getHeader.action = .forward ∨
        (packet.getHeader.action = .advertise ∧ packet.getHeader.length = 0)) ∧
    (∀ endpoint event next last, net.Streams serde state (.write endpoint event) next last →
      ∀ arm accepted,
        (net.protocol endpoint).write serde (state.arm endpoint) event = some (arm, accepted) →
        ∃ packet, accepted <:+: (net.protocol endpoint).frame serde packet ∧
          (packet.getHeader.action = .forward ∨
            (packet.getHeader.action = .advertise ∧ packet.getHeader.length = 0))) ∧
    ∀ endpoint receivingBuf next last,
      net.Streams serde state (.read endpoint receivingBuf) next last →
        next.tasks.queue = state.tasks.queue := by
  have hShaped : state.Shaped net observed :=
    run.history_invariant (fun state _ observed => state.Shaped net observed) .initial
      fun _ _ _ _ _ _ _ h hStep => h.step (streams_move hStep)
  refine ⟨?_, ?_, ?_, ?_, ?_⟩
  · intro router copy hCopy
    obtain ⟨hAction, payload, hPayload, -⟩ := hShaped.tasks.inRib router copy hCopy
    exact ⟨hAction, payload, hPayload⟩
  · intro handle copy hCopy
    rcases hShaped.tasks.queued handle copy hCopy with
      ⟨hAction, payload, hPayload, -⟩ | hAnnounces
    · exact .inl ⟨hAction, payload, hPayload⟩
    · exact .inr ⟨hAnnounces, hShaped.flushed handle copy hCopy hAnnounces.1⟩
  · intro endpoint packet hSeen
    exact GDPPacket.getHeader_shaped (hShaped.framed endpoint packet hSeen)
  · intro endpoint event next last hStep arm accepted hWrite
    obtain ⟨-, packet, hHand, hAccepted⟩ := Protocol.write_in_hand hWrite
    refine ⟨packet, hAccepted, GDPPacket.getHeader_shaped ?_⟩
    rcases List.mem_append.mp hHand with hHeld | hTaken
    · exact hShaped.held endpoint packet hHeld
    · cases streams_move hStep with
      | write hQueue hWrite' =>
          exact (streams_move hStep).framed hShaped.tasks (List.mem_map_of_mem hTaken)
  · intro endpoint receivingBuf next last hStep
    cases streams_move hStep with
    | read hWire hRead => exact net.cut.handOver_queue endpoint state.tasks _

namespace ShapeExample

def topic : GDPName := .ofBytes 1 0 0 0

inductive Socket where
  | gateway
  | listener
  deriving DecidableEq

/-- A router without ROS tasks, with a DTLS connection to its gateway and a TCP
connection that it accepted. -/
def net : StreamNetwork Unit Socket Empty where
  home _ := ()
  peer _ := none
  kind
    | .gateway => .toPeer
    | .listener => .listener
  threadName
    | .gateway => .ofBytes 8 8 8 8
    | .listener => .ofBytes 9 9 9 9
  gateway _ := some .gateway
  rosHome := Empty.elim
  rosKind := Empty.elim
  nodeName := Empty.elim
  topicName := Empty.elim
  ribTx := Empty.elim
  protocol
    | .gateway => .dtls
    | .listener => .tcp
  peer_symm := by simp
  gateway_home := by
    rintro router endpoint ⟨⟩
    exact ⟨rfl, rfl⟩
  ribTx_home := by
    intro task
    exact task.elim
  tcp_of_peer := by simp

def bytes (header : GDPPacketInTransit) (payload : Bytes) : Bytes :=
  compactJson.toString header ++ 0 :: payload

/-- The peer advertises the topic with a payload, and sends a `Nack`. The gateway
learns of the topic and sends a message for it. -/
def labels : List (StreamLabel Unit Socket Empty) :=
  [.task (.connStart .listener), .task (.connStart .gateway), .task (.ribChannel ()),
    .read .listener (bytes (.announcing .advertise topic [5, 6]) [5, 6] ++
      bytes (.announcing .nack topic [7]) [7]),
    .task (.ribChannel ()), .task (.flush ()),
    .task (.ribStatus () [topic, net.threadName .gateway]),
    .write .gateway (.take (constructGdpAdvertisementFromBytes topic topic)),
    .read .gateway (bytes (.announcing .forward topic [8]) []), .read .gateway [8],
    .task (.ribPacket () [topic, net.threadName .gateway])]

def announced : Copy Unit Socket Empty :=
  ⟨constructGdpAdvertisementFromBytes (net.threadName .gateway) (net.threadName .gateway), none,
    ⟨0, none, [()]⟩⟩

def forwarded : GDPPacket :=
  constructGdpForwardFromBytes topic (net.threadName .gateway) [8]

end ShapeExample

open ShapeExample in
/-- One announcement still waits for the gateway, and the message for the peer. -/
theorem shaped_packets_example : ∃ state observed,
    Run (net.Streams compactJson) .initial labels state observed ∧
      state.tasks.queue (.conn .gateway) = [announced] ∧
      (state.tasks.queue (.conn .listener)).map Copy.packet = [forwarded] ∧
      ∃ router order, .task (.ribStatus router order) (.put (.conn .gateway) announced) ∈
        observed := by
  have hRun : (runOption (net.next compactJson) .initial labels).any (fun result =>
      result.1.tasks.queue (.conn .gateway) = [announced] ∧
        (result.1.tasks.queue (.conn .listener)).map Copy.packet = [forwarded]) = true := by
    decide +kernel
  obtain ⟨⟨state, observed⟩, hResult, hSeen⟩ := (Option.any_eq_true _ _).mp hRun
  obtain ⟨hGateway, hListener⟩ := of_decide_eq_true hSeen
  have run := runOption_eq_some_iff.mp hResult
  have hWaiting : announced ∈ state.tasks.queue (.conn .gateway) := by
    rw [hGateway]
    exact List.mem_cons_self
  refine ⟨state, observed, run, hGateway, hListener, ?_⟩
  rcases (shaped_packets net compactJson run).2.1 _ _ hWaiting with ⟨hForward, -⟩ | ⟨-, hFlushed⟩
  · cases hForward
  · exact hFlushed

end GdpRouter
