import GdpRouter.Deployment.Shapes

/-! Messages end to end. On each joint of the network the bytes that the reader
keeps, those on the wire and those that the writer has written of the packet in
hand belong together: they are frames of messages that were said somewhere. -/
namespace GdpRouter

open Framing Multimap Transition

variable {R E T : Type}

/-- One direction of a connection: the frames of `kept` and what is written of the
packet in hand are what the reader carries and what is on the wire. -/
def Intact (serde : SerdeJson) (spoken : GDPName → Bytes → Prop) (arm : SendArm)
    (recv : RecvState) (wire : Bytes) : Prop :=
  ∃ carried kept, Carries serde recv carried ∧
    (∀ packet ∈ kept ++ arm.current, packet.Says spoken ∨ packet.Announces) ∧
    carried ++ wire = wireBytes serde kept ++ arm.written serde

section Intact

variable {serde : SerdeJson} {spoken : GDPName → Bytes → Prop} {arm : SendArm} {recv : RecvState}
  {wire : Bytes}

theorem intact_initial : Intact serde spoken .select .initial [] :=
  ⟨[], [], carries_initial, List.forall_mem_nil _, rfl⟩

theorem GDPPacket.Says.receivedBy {packet : GDPPacket} (h : packet.Says spoken)
    (threadName : GDPName) : (packet.receivedBy threadName).Says spoken := h

/-- Messages and announcements can be sent. -/
theorem sendable_of_says {packet : GDPPacket} (h : packet.Says spoken ∨ packet.Announces) :
    packet.Sendable := by
  rcases h with ⟨hAction, payload, hPayload, hSized, -⟩ | ⟨hAction, hPayload, -⟩
  · refine ⟨.inl ⟨hAction, payload, hPayload⟩, ?_⟩
    rwa [GDPPacket.Sized, GDPPacket.body, hPayload]
  · refine ⟨.inr ⟨hAction, hPayload⟩, ?_⟩
    rw [GDPPacket.Sized, GDPPacket.body, hPayload]
    decide

/-- An event of the send arm that tears nothing. -/
theorem Intact.write (h : Intact serde spoken arm recv wire) {event : SendEvent}
    {next : SendArm} {out : Bytes} (hMove : SendMove serde arm event next out)
    (hTears : ¬arm.Tears serde event)
    (hTaken : ∀ packet ∈ event.taken, packet.Says spoken ∨ packet.Announces) :
    Intact serde spoken next recv (wire ++ out) := by
  obtain ⟨carried, kept, hCarries, hSaid, hStream⟩ := h
  obtain ⟨hKept, hCurrent⟩ := List.forall_mem_append.mp hSaid
  rcases hMove.written_append hTears with ⟨hNext, hWritten⟩ | ⟨rfl, hWhole⟩ | ⟨rfl, hNothing⟩
  · -- The same packet is still in hand, or a new one is.
    refine ⟨carried, kept, hCarries, ?_, ?_⟩
    · rw [hNext, List.forall_mem_append, List.forall_mem_append]
      exact ⟨hKept, hCurrent, hTaken⟩
    · rw [hWritten, ← List.append_assoc, hStream, List.append_assoc]
  · -- Its frame is complete.
    refine ⟨carried, kept ++ arm.current, hCarries, ?_, ?_⟩
    · rw [SendArm.current_select, List.append_nil]
      exact hSaid
    · rw [← List.append_assoc, hStream, List.append_assoc, hWhole, wireBytes_append,
        SendArm.written_select, List.append_nil]
  · -- It is dropped, and none of it was written.
    refine ⟨carried, kept, hCarries, ?_, ?_⟩
    · rw [SendArm.current_select, List.append_nil]
      exact hKept
    · rw [← List.append_assoc, hStream, List.append_assoc, hNothing, SendArm.written_select]

/-- The frames that are complete in what the reader has got lie before the packet
that its peer has in hand. -/
theorem completePackets_prefix {kept : List GDPPacket} {n : Nat}
    (h : n ≤ (wireBytes serde kept ++ arm.written serde).length) :
    completePackets serde (kept ++ arm.current) n <+: kept := by
  rcases @SendArm.written_lt serde arm with ⟨hCurrent, -⟩ | ⟨packet, hCurrent, hWritten⟩
  · rw [hCurrent, List.append_nil]
    exact completeWithin_isPrefix _ kept n
  · rw [hCurrent]
    apply completeWithin_isPrefix_of_lt
    rw [List.length_append] at h
    have hTotal : (wireBytes serde (kept ++ [packet])).length =
        (wireBytes serde kept).length + (frameBytes serde packet).length := by
      rw [wireBytes_append, wireBytes_singleton, List.length_append]
    rw [wireBytes, List.length_flatMap] at hTotal
    omega

/-- A read keeps the stream intact, and what it hands on was said. -/
theorem Intact.read (hSerde : serde.Lawful) {receivingBuf rest : Bytes} {threadName : GDPName}
    {next : RecvState} {packets : List GDPPacket}
    (h : Intact serde spoken arm recv (receivingBuf ++ rest))
    (hRead : handleTcpStreamRead serde threadName recv receivingBuf = .ok (next, packets)) :
    Intact serde spoken arm next rest ∧
      ∀ packet ∈ packets, packet.action = .forward → packet.Says spoken := by
  obtain ⟨carried, kept, hCarries, hSaid, hStream⟩ := h
  have hWritten : carried ++ receivingBuf <+: wireBytes serde kept ++ arm.written serde := by
    rw [← hStream, ← List.append_assoc]
    exact List.prefix_append _ _
  have hPrefix : carried ++ receivingBuf <+: wireBytes serde (kept ++ arm.current) := by
    rw [wireBytes_append]
    exact hWritten.trans ((List.prefix_append_right_inj _).mpr arm.written_within)
  obtain ⟨rfl, carried', hCarries', hBytes⟩ := handleTcpStreamRead_packets hSerde hCarries
    (fun packet hPacket => sendable_of_says (hSaid packet hPacket)) hPrefix hRead
  obtain ⟨left, hLeft⟩ := completePackets_prefix hWritten.length_le
  rw [← hLeft, List.append_assoc, List.forall_mem_append] at hSaid
  obtain ⟨hDone, hRest⟩ := hSaid
  constructor
  · refine ⟨carried', left, hCarries', hRest, ?_⟩
    -- What is left of the stream behind the frames that are done.
    apply List.append_cancel_left
    rw [← List.append_assoc, ← hBytes, List.append_assoc, hStream, ← List.append_assoc,
      ← wireBytes_append, hLeft]
  · intro packet hPacket hAction
    obtain ⟨sent, hSent, rfl⟩ := List.mem_map.mp hPacket
    rcases hDone sent hSent with hSays | ⟨hAdvertise, -⟩
    · exact hSays.receivedBy threadName
    · rw [GDPPacket.receivedBy, hAdvertise] at hAction
      cases hAction

end Intact

/-- No frame is left on a stream in part. -/
def StreamNetwork.Whole (serde : SerdeJson) (state : StreamState R E T) : StreamLabel R E T → Prop
  | .write endpoint event => ¬(state.arm endpoint).Tears serde event
  | .task _ | .read _ _ => True

instance (serde : SerdeJson) (state : StreamState R E T) :
    DecidablePred (StreamNetwork.Whole serde state)
  | .write _ _ => inferInstanceAs (Decidable (¬_))
  | .task _ | .read _ _ => inferInstanceAs (Decidable True)

/-- Every connection joins two routers of the network. -/
def StreamNetwork.Joined (net : StreamNetwork R E T) : Prop :=
  ∀ endpoint, ∃ other, net.peer endpoint = some other

/-- Some ROS subscriber has handed this message over under its name. -/
def StreamNetwork.Spoken (net : StreamNetwork R E T) (labels : List (StreamLabel R E T))
    (name : GDPName) (payload : Bytes) : Prop :=
  ∃ task, net.rosKind task = .subscriber ∧ net.topicName task = name ∧
    .task (.rosForward task payload) ∈ labels

variable [DecidableEq R] [DecidableEq E] [DecidableEq T]

/-- The messages in the queues, and those in pieces on the connections. -/
structure StreamState.Sound (net : StreamNetwork R E T) (serde : SerdeJson)
    (spoken : GDPName → Bytes → Prop) (state : StreamState R E T) : Prop where
  tasks : (Local.messages spoken).Everywhere net.cut state.tasks
  joined : ∀ {here there}, net.peer here = some there →
    Intact serde spoken (state.arm here) (state.recv there).recv (state.wire there)

section Sound

variable {net : StreamNetwork R E T} {serde : SerdeJson} {spoken : GDPName → Bytes → Prop}
  {state after : StreamState R E T} {label : StreamLabel R E T}
  {seen : List (StreamObservation R E T)}

omit [DecidableEq R] [DecidableEq E] [DecidableEq T] in
theorem StreamState.Sound.initial :
    (StreamState.initial : StreamState R E T).Sound net serde spoken :=
  ⟨.initial (by simp), fun _ => intact_initial⟩

/-- Over TCP the counter for resets is never looked at. -/
theorem Protocol.read_tcp {threadName : GDPName} {recv next : DtlsRecvState} {receivingBuf : Bytes}
    {packets : List GDPPacket}
    (h : Protocol.tcp.read serde threadName recv receivingBuf = .ok (next, packets)) :
    handleTcpStreamRead serde threadName recv.recv receivingBuf = .ok (next.recv, packets) := by
  rw [Protocol.read] at h
  obtain ⟨after, hRead, hNext⟩ := map_eq_ok_iff.mp h
  cases hNext
  exact hRead

omit [DecidableEq R] [DecidableEq T] in
/-- The bytes that a joined endpoint reads come off its stream. -/
theorem deliver_of_peer {wire wire' : E → Bytes} {endpoint other : E} {receivingBuf : Bytes}
    (hPeer : net.peer endpoint = some other)
    (h : net.deliver wire endpoint receivingBuf = some wire') :
    ∃ rest, wire endpoint = receivingBuf ++ rest ∧ wire' = Function.update wire endpoint rest := by
  simp only [StreamNetwork.deliver, hPeer, Option.ite_none_right_eq_some, Option.some.injEq] at h
  obtain ⟨⟨rest, hRest⟩, rfl⟩ := h
  refine ⟨rest, hRest.symm, ?_⟩
  rw [← hRest, List.drop_left]

omit [DecidableEq R] [DecidableEq T] in
/-- What is read at a joint. -/
theorem StreamState.Sound.read (hSerde : serde.Lawful) (h : state.Sound net serde spoken)
    {endpoint other : E} (hPeer : net.peer endpoint = some other) {receivingBuf : Bytes}
    {wire : E → Bytes} {recv : DtlsRecvState} {packets : List GDPPacket}
    (hWire : net.deliver state.wire endpoint receivingBuf = some wire)
    (hRead : (net.protocol endpoint).read serde (net.threadName endpoint) (state.recv endpoint)
      receivingBuf = .ok (recv, packets)) :
    Intact serde spoken (state.arm other) recv.recv (wire endpoint) ∧
      ∀ packet ∈ packets, packet.action = .forward → packet.Says spoken := by
  obtain ⟨rest, hRest, rfl⟩ := deliver_of_peer hPeer hWire
  have hIntact := h.joined (net.peer_symm hPeer)
  rw [hRest] at hIntact
  rw [net.tcp_of_peer hPeer] at hRead
  rw [Function.update_self]
  exact hIntact.read hSerde (Protocol.read_tcp hRead)

/-- One step keeps the messages what they are. -/
theorem StreamState.Sound.step (hSerde : serde.Lawful) (hJoined : net.Joined)
    (h : state.Sound net serde spoken)
    (hSpeaks : ∀ task payload, label = .task (.rosForward task payload) →
      spoken (net.topicName task) payload)
    (hWhole : StreamNetwork.Whole serde state label)
    (hMove : StreamMove net serde state label after seen) : after.Sound net serde spoken := by
  refine ⟨hMove.messages h.tasks hSpeaks ?read, ?joined⟩
  case read =>
    intro endpoint receivingBuf recv packets hLabel hRead
    subst hLabel
    obtain ⟨other, hPeer⟩ := hJoined endpoint
    cases hMove with
    | read hWire _ => exact (h.read hSerde hPeer hWire hRead).2
  case joined =>
    intro here there hPeer
    have hFramed := fun endpoint packet hSeen =>
      @StreamMove.framed _ _ _ _ _ _ net serde state after label seen spoken h.tasks hMove endpoint
        packet hSeen
    cases hMove with
    | task hFrame hMove => exact h.joined hPeer
    | @write endpoint event rest arm accepted hQueue hWrite =>
        obtain ⟨other, hOther⟩ := hJoined endpoint
        simp only [StreamNetwork.carry, hOther]
        by_cases hHere : here = endpoint
        · subst hHere
          obtain rfl := Option.some.inj (hPeer.symm.trans hOther)
          rw [net.tcp_of_peer hPeer, Protocol.write] at hWrite
          rw [Function.update_self, Function.update_self]
          exact (h.joined hPeer).write (sendStep_move hWrite) hWhole fun packet hPacket =>
            hFramed here packet (List.mem_map_of_mem hPacket)
        · have hThere : there ≠ other := by
            intro hSame
            subst hSame
            exact hHere (Option.some.inj ((net.peer_symm hPeer).symm.trans (net.peer_symm hOther)))
          rw [Function.update_of_ne hHere, Function.update_of_ne hThere]
          exact h.joined hPeer
    | @read endpoint receivingBuf wire recv packets hWire hRead =>
        obtain ⟨other, hOther⟩ := hJoined endpoint
        by_cases hThere : there = endpoint
        · subst hThere
          obtain rfl := Option.some.inj ((net.peer_symm hPeer).symm.trans hOther)
          simp only [Function.update_self]
          exact (h.read hSerde hOther hWire hRead).1
        · obtain ⟨rest, -, rfl⟩ := deliver_of_peer hOther hWire
          simp only [Function.update_of_ne hThere]
          exact h.joined hPeer

/-- The network is sound in every run that tears no frame. -/
theorem sound_of_run (hSerde : serde.Lawful) (hJoined : net.Joined)
    {labels : List (StreamLabel R E T)}
    (hSpeaks : ∀ task payload, .task (.rosForward task payload) ∈ labels →
      spoken (net.topicName task) payload)
    (run : Run (Guarded (net.Streams serde) (StreamNetwork.Whole serde)) .initial labels state
      seen) : state.Sound net serde spoken := by
  revert hSpeaks
  apply run.history_invariant (fun state labels _ =>
    (∀ task payload, .task (.rosForward task payload) ∈ labels →
      spoken (net.topicName task) payload) → state.Sound net serde spoken)
  · intro _
    exact .initial
  · intro state labels _ label next last _ ih hStep hSpeaks
    have hState := ih fun task payload hMem => hSpeaks task payload (List.mem_append_left _ hMem)
    apply hState.step hSerde hJoined _ hStep.2 (streams_move hStep.1)
    intro task payload hLabel
    exact hSpeaks task payload (by rw [hLabel]; simp)

/-- Only subscribers hand messages over. -/
theorem subscriber_of_run {labels : List (StreamLabel R E T)} {task : T} {payload : Bytes}
    (run : Run (Guarded (net.Streams serde) (StreamNetwork.Whole serde)) .initial labels state seen)
    (hLabel : .task (.rosForward task payload) ∈ labels) : net.rosKind task = .subscriber := by
  revert hLabel
  apply run.history_invariant (fun _ labels _ =>
    .task (.rosForward task payload) ∈ labels → net.rosKind task = .subscriber)
  · intro hLabel
    cases hLabel
  · intro _ labels _ label _ _ _ ih hStep hLabel
    rcases List.mem_append.mp hLabel with hOld | hNew
    · exact ih hOld
    · obtain rfl := List.mem_singleton.mp hNew
      cases streams_move hStep.1 with
      | task hFrame hMove =>
          cases hMove with
          | rosForward _ _ hKind => exact hKind
          | rosForwardDirect _ _ hKind => exact hKind

/-- A message that is published was on the queue of the task. -/
theorem Move.published {net : Network R E T} {state after : NetState R E T}
    {label : NetLabel R E T} {observed : List (Observation R E T)}
    (hMove : Move net state label after observed) {task : T} {copy : Copy R E T}
    (hSeen : .published task copy ∈ observed) :
    copy ∈ state.queue (.ros task) ∧ copy.packet.action = .forward ∧
      copy.packet.gdpname = net.topicName task := by
  cases hMove with
  | @rosRecv other taken rest hRunning hKind hQueue =>
      split at hSeen
      · rename_i hAccepted
        cases List.mem_singleton.mp hSeen
        exact ⟨hQueue ▸ List.mem_cons_self, hAccepted⟩
      · cases hSeen
  | ribPacket | ribStatus | rosForwardDirect => simp [putAll] at hSeen
  | ribChannel | connStart | connSend | connSendOut | wire | lose => cases hSeen
  | rosAdvertise | rosForward | flush | close => cases hSeen
  | connRecv => simp at hSeen

/-- A publisher publishes what it takes from its queue, on its topic. -/
theorem StreamMove.published (hMove : StreamMove net serde state label after seen) {task : T}
    {copy : Copy R E T} {cause : NetLabel R E T}
    (hSeen : .task cause (.published task copy) ∈ seen) :
    copy ∈ state.tasks.queue (.ros task) ∧ copy.packet.action = .forward ∧
      copy.packet.gdpname = net.topicName task := by
  cases hMove with
  | task hFrame hMove =>
      obtain ⟨_, hOut, hSame⟩ := List.mem_map.mp hSeen
      cases hSame
      exact hMove.published hOut
  | write hQueue hWrite => simp at hSeen
  | read hWire hRead => cases hSeen

end Sound

/-- In every run of a network that is joined by TCP connections, in any topology,
on which frames are written whole: every message that waits for a RIB, that waits
on a queue, that a send arm has in hand or that is published next has the name and
the payload that a ROS subscriber handed over before. -/
theorem end_to_end_integrity (net : StreamNetwork R E T) (hJoined : net.Joined) {serde : SerdeJson}
    (hSerde : serde.Lawful) {labels : List (StreamLabel R E T)} {state : StreamState R E T}
    {observed : List (StreamObservation R E T)}
    (run : Run (Guarded (net.Streams serde) (StreamNetwork.Whole serde)) .initial labels state
      observed) :
    (∀ router, ∀ copy ∈ state.tasks.ribRx router, copy.packet.Says (net.Spoken labels)) ∧
    (∀ handle, ∀ copy ∈ state.tasks.queue handle, copy.packet.action = .forward →
      copy.packet.Says (net.Spoken labels)) ∧
    (∀ endpoint, ∀ packet ∈ (state.arm endpoint).current, packet.action = .forward →
      packet.Says (net.Spoken labels)) ∧
    ∀ label next last cause task copy, net.Streams serde state label next last →
      .task cause (.published task copy) ∈ last →
        copy.packet.gdpname = net.topicName task ∧ copy.packet.Says (net.Spoken labels) := by
  have hSound : state.Sound net serde (net.Spoken labels) := by
    apply sound_of_run hSerde hJoined _ run
    intro task payload hLabel
    exact ⟨task, subscriber_of_run run hLabel, rfl, hLabel⟩
  have hForward : ∀ {packet : GDPPacket},
      packet.Says (net.Spoken labels) ∨ packet.Announces → packet.action = .forward →
        packet.Says (net.Spoken labels) := by
    intro packet hPacket hAction
    rcases hPacket with hSays | ⟨hAdvertise, -⟩
    · exact hSays
    · rw [hAdvertise] at hAction
      cases hAction
  refine ⟨hSound.tasks.inRib, ?_, ?_, ?_⟩
  · intro handle copy hCopy hAction
    exact hForward (hSound.tasks.queued handle copy hCopy) hAction
  · intro endpoint packet hPacket hAction
    obtain ⟨other, hPeer⟩ := hJoined endpoint
    obtain ⟨carried, kept, -, hSaid, -⟩ := hSound.joined hPeer
    exact hForward (hSaid packet (List.mem_append_right _ hPacket)) hAction
  · intro label next last cause task copy hStep hSeen
    obtain ⟨hCopy, hAction, hName⟩ := (streams_move hStep).published hSeen
    exact ⟨hName, hForward (hSound.tasks.queued _ copy hCopy) hAction⟩

namespace IntegrityExample

def topic : GDPName := .ofBytes 1 0 0 0

inductive Task where
  | speaker
  | hearer
  deriving DecidableEq

/-- A client, its gateway and the TCP connection between them. The gateway has a
subscriber of a topic, and the client a publisher of it. -/
def net : StreamNetwork Bool Bool Task where
  home endpoint := endpoint
  peer endpoint := some !endpoint
  kind
    | false => .listener
    | true => .toPeer
  threadName
    | false => .ofBytes 8 8 8 8
    | true => .ofBytes 9 9 9 9
  gateway
    | false => none
    | true => some true
  rosHome
    | .speaker => false
    | .hearer => true
  rosKind
    | .speaker => .subscriber
    | .hearer => .publisher
  nodeName
    | .speaker => .ofBytes 2 2 2 2
    | .hearer => .ofBytes 3 3 3 3
  topicName _ := topic
  ribTx _ := none
  protocol _ := .tcp
  peer_symm := by
    rintro here there ⟨⟩
    rw [Bool.not_not]
  gateway_home := by
    rintro (_ | _) endpoint ⟨⟩
    exact ⟨rfl, rfl⟩
  ribTx_home := by
    rintro task endpoint ⟨⟩
  tcp_of_peer := fun _ => rfl

def starting : List (StreamLabel Bool Bool Task) :=
  [.task (.connStart false), .task (.connStart true), .task (.rosAdvertise .speaker),
    .task (.rosAdvertise .hearer), .task (.ribChannel false), .task (.ribChannel true),
    .task (.ribChannel true), .task (.flush true)]

def advertisement : GDPPacket := constructGdpAdvertisementFromBytes topic topic

def headerLength (packet : GDPPacket) : Nat := (headerString compactJson packet).length

/-- The client advertises the topic to its gateway, which reads that in two pieces. -/
def advertising : List (StreamLabel Bool Bool Task) :=
  [.task (.ribStatus true [topic, net.threadName true]), .write true (.take advertisement),
    .write true .writable, .write true (.wrote (.ok (headerLength advertisement))),
    .read false ((frameBytes compactJson advertisement).take 20),
    .read false ((frameBytes compactJson advertisement).drop 20), .task (.ribChannel false)]

def message : GDPPacket := net.rosPacket .speaker [7, 0]

/-- The subscriber gets a message. The client reads the header and half of the
payload before the rest is written. -/
def speaking : List (StreamLabel Bool Bool Task) :=
  [.task (.rosForward .speaker [7, 0]), .task (.ribPacket false [topic]),
    .write false (.take message), .write false .writable,
    .write false (.wrote (.ok (headerLength message))), .write false (.wrote (.ok 1)),
    .read true (headerString compactJson message ++ [7]), .write false (.wrote (.ok 1)),
    .read true [0], .task (.ribPacket true [topic, net.threadName true])]

def labels : List (StreamLabel Bool Bool Task) := starting ++ advertising ++ speaking

def heard : Copy Bool Bool Task :=
  ⟨message.receivedBy (net.threadName true), some true, ⟨0, none, []⟩⟩

end IntegrityExample

open IntegrityExample in
/-- The publisher on the other side publishes the message of the subscriber. -/
theorem end_to_end_integrity_example : ∃ state observed next last,
    Run (Guarded (net.Streams compactJson) (StreamNetwork.Whole compactJson)) .initial labels state
      observed ∧
    net.Streams compactJson state (.task (.rosRecv .hearer)) next last ∧
    .task (.rosRecv .hearer) (.published .hearer heard) ∈ last ∧
    heard.packet.Says (net.Spoken labels) := by
  have hRun : (runGuarded (net.next compactJson) (StreamNetwork.Whole compactJson) .initial
      labels).any (fun before => (net.next compactJson before.1 (.task (.rosRecv .hearer))).any
        fun after => .task (.rosRecv .hearer) (.published .hearer heard) ∈ after.2) = true := by
    decide +kernel
  obtain ⟨⟨state, observed⟩, hResult, hLast⟩ := (Option.any_eq_true _ _).mp hRun
  obtain ⟨⟨next, last⟩, hStep, hSeen⟩ := (Option.any_eq_true _ _).mp hLast
  have run := runGuarded_eq_some_iff.mp hResult
  have hPublished := of_decide_eq_true hSeen
  have hJoined : net.Joined := fun endpoint => ⟨!endpoint, rfl⟩
  have hIntegrity := end_to_end_integrity net hJoined compactJson_lawful run
  exact ⟨state, observed, next, last, run, hStep, hPublished,
    (hIntegrity.2.2.2 _ next last _ _ _ hStep hPublished).2⟩

end GdpRouter
