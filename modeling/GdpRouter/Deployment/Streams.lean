import GdpRouter.Deployment.Everywhere
import GdpRouter.Network.Datagrams
import GdpRouter.Network.LengthIntegrity
import GdpRouter.Network.SendFraming

/-! The same routers and ROS tasks over bytes. The network is cut open at its
connections, and each of them gets its two arms and the bytes on their way to
the peer. Frames are no longer moved as a whole: they are written and read in
pieces. -/
namespace GdpRouter

open Multimap Transition

inductive Protocol where
  | tcp
  | dtls
  deriving DecidableEq, Repr

/-- A network with the protocols of its connections. What a DTLS connection
delivers is taken to be arbitrary, so only TCP connections join two routers here. -/
structure StreamNetwork (R E T : Type) extends Network R E T where
  protocol : E → Protocol
  tcp_of_peer : ∀ {here there}, peer here = some there → protocol here = .tcp

structure StreamState (R E T : Type) where
  /-- RIBs, queues and ROS tasks, without any frame in flight -/
  tasks : NetState R E T
  arm : E → SendArm
  recv : E → DtlsRecvState
  /-- the bytes on their way to an endpoint -/
  wire : E → Bytes

inductive StreamLabel (R E T : Type) where
  | task (label : NetLabel R E T)
  /-- one event in the send arm of a connection -/
  | write (endpoint : E) (event : SendEvent)
  /-- one read in its receive arm -/
  | read (endpoint : E) (receivingBuf : Bytes)
  deriving DecidableEq, Repr

/-- What can be seen of a step over bytes. -/
inductive StreamObservation (R E T : Type) where
  | task (label : NetLabel R E T) (seen : Observation R E T)
  /-- A send arm takes a packet, whose frame it sets out to write. -/
  | framed (endpoint : E) (packet : GDPPacket)
  deriving DecidableEq, Repr

/-- The steps in whose place bytes are written and read. -/
def NetLabel.movesFrame {R E T : Type} : NetLabel R E T → Bool
  | .connSend _ | .connRecv _ | .wire _ _ _ | .lose _ => true
  | .ribPacket _ _ | .ribChannel _ | .ribStatus _ _ | .connStart _ | .rosAdvertise _
  | .rosForward _ _ | .rosRecv _ | .flush _ | .close _ => false

/-- One event of a send arm. `write_all` of the DTLS arm comes back when a
datagram is sent, so that arm is never left in the middle of a packet. -/
def Protocol.write (serde : SerdeJson) : Protocol → SendArm → SendEvent → Option (SendArm × Bytes)
  | .tcp, arm, event => sendStep serde arm event
  | .dtls, arm, .take packet => some (arm, (dtlsDatagrams serde packet).flatten)
  | .dtls, _, .writable | .dtls, _, .wrote _ => none

/-- All that a send arm writes for one packet. -/
def Protocol.frame (serde : SerdeJson) : Protocol → GDPPacket → Bytes
  | .tcp, packet => frameBytes serde packet
  | .dtls, packet => (dtlsDatagrams serde packet).flatten

/-- One read of a receive arm. The TCP arm has no counter. -/
def Protocol.read (serde : SerdeJson) (threadName : GDPName) :
    Protocol → DtlsRecvState → Bytes → Except Panic (DtlsRecvState × List GDPPacket)
  | .tcp, state, receivingBuf =>
      (handleTcpStreamRead serde threadName state.recv receivingBuf).map fun next =>
        (⟨next.1, state.resetCounter⟩, next.2)
  | .dtls, state, receivingBuf => handleDtlsStreamRead serde threadName state receivingBuf

/-- What is left of a queue after an event: only `m_rx.recv()` takes from it. -/
def unqueue {R E T : Type} : SendEvent → List (Copy R E T) → Option (List (Copy R E T))
  | .take packet, copy :: rest => if copy.packet = packet then some rest else none
  | .take _, [] => none
  | .writable, queue | .wrote _, queue => some queue

variable {R E T : Type} [DecidableEq R] [DecidableEq E] [DecidableEq T]

def StreamState.initial : StreamState R E T where
  tasks := .initial fun _ => ∅
  arm _ := .select
  recv _ := .initial
  wire _ := []

/-- The packets of one read are handed to `proc_gdp_packet` one after the other. -/
def Network.handOver (net : Network R E T) (endpoint : E) (tasks : NetState R E T)
    (packets : List GDPPacket) : NetState R E T :=
  packets.foldl (fun tasks packet => tasks.submit (net.home endpoint) (some endpoint)
    ⟨0, none, []⟩ (procGdpPacket packet (.conn endpoint))) tasks

namespace StreamNetwork

/-- Without its joints: every connection leads outside. -/
def cut (net : StreamNetwork R E T) : Network R E T :=
  { net.toNetwork with
    peer := fun _ => none
    peer_symm := by simp }

/-- Accepted bytes set out for the peer. -/
def carry (net : StreamNetwork R E T) (wire : E → Bytes) (endpoint : E) (accepted : Bytes) :
    E → Bytes :=
  match net.peer endpoint with
  | some other => Function.update wire other (wire other ++ accepted)
  | none => wire

/-- What may be read: the next bytes from the peer, or anything from outside. -/
def deliver (net : StreamNetwork R E T) (wire : E → Bytes) (endpoint : E) (receivingBuf : Bytes) :
    Option (E → Bytes) :=
  match net.peer endpoint with
  | some _ =>
      if receivingBuf <+: wire endpoint then
        some (Function.update wire endpoint ((wire endpoint).drop receivingBuf.length))
      else none
  | none => some wire

/-- One step of some task. A task in its send arm does not read, and a read on
which it panics is no step: what remains of the task is that its handle closes. -/
def next (net : StreamNetwork R E T) (serde : SerdeJson) (state : StreamState R E T) :
    StreamLabel R E T → Option (StreamState R E T × List (StreamObservation R E T))
  | .task label =>
      if label.movesFrame then none
      else (net.cut.next state.tasks label).map fun after =>
        ({ state with tasks := after.1 }, after.2.map (.task label))
  | .write endpoint event =>
      if state.tasks.running (.conn endpoint) then do
        let rest ← unqueue event (state.tasks.queue (.conn endpoint))
        let (arm, accepted) ← (net.protocol endpoint).write serde (state.arm endpoint) event
        some ({ state with
          tasks := { state.tasks with
            queue := Function.update state.tasks.queue (.conn endpoint) rest }
          arm := Function.update state.arm endpoint arm
          wire := net.carry state.wire endpoint accepted }, event.taken.map (.framed endpoint))
      else none
  | .read endpoint receivingBuf =>
      if state.tasks.running (.conn endpoint) ∧ state.arm endpoint = .select ∧
          receivingBuf ≠ [] then do
        let wire ← net.deliver state.wire endpoint receivingBuf
        let (recv, packets) ← ((net.protocol endpoint).read serde (net.threadName endpoint)
          (state.recv endpoint) receivingBuf).toOption
        some ({ state with
          tasks := net.cut.handOver endpoint state.tasks packets
          recv := Function.update state.recv endpoint recv
          wire := wire }, [])
      else none

def Streams (net : StreamNetwork R E T) (serde : SerdeJson) :
    Step (StreamState R E T) (StreamLabel R E T) (StreamObservation R E T) :=
  OfOption (net.next serde)

end StreamNetwork

/-! ### What one step can do -/

/-- The three kinds of steps. -/
inductive StreamMove (net : StreamNetwork R E T) (serde : SerdeJson) :
    StreamState R E T → StreamLabel R E T → StreamState R E T →
      List (StreamObservation R E T) → Prop where
  | task {state : StreamState R E T} {label : NetLabel R E T} {after : NetState R E T}
      {seen : List (Observation R E T)} (hFrame : label.movesFrame = false)
      (hMove : Move net.cut state.tasks label after seen) :
      StreamMove net serde state (.task label) { state with tasks := after }
        (seen.map (.task label))
  | write {state : StreamState R E T} {endpoint : E} {event : SendEvent}
      {rest : List (Copy R E T)} {arm : SendArm} {accepted : Bytes}
      (hQueue : unqueue event (state.tasks.queue (.conn endpoint)) = some rest)
      (hWrite : (net.protocol endpoint).write serde (state.arm endpoint) event =
        some (arm, accepted)) :
      StreamMove net serde state (.write endpoint event)
        { state with
          tasks := { state.tasks with
            queue := Function.update state.tasks.queue (.conn endpoint) rest }
          arm := Function.update state.arm endpoint arm
          wire := net.carry state.wire endpoint accepted } (event.taken.map (.framed endpoint))
  | read {state : StreamState R E T} {endpoint : E} {receivingBuf : Bytes} {wire : E → Bytes}
      {recv : DtlsRecvState} {packets : List GDPPacket}
      (hWire : net.deliver state.wire endpoint receivingBuf = some wire)
      (hRead : (net.protocol endpoint).read serde (net.threadName endpoint) (state.recv endpoint)
        receivingBuf = .ok (recv, packets)) :
      StreamMove net serde state (.read endpoint receivingBuf)
        { state with
          tasks := net.cut.handOver endpoint state.tasks packets
          recv := Function.update state.recv endpoint recv
          wire := wire } []

theorem streams_move {net : StreamNetwork R E T} {serde : SerdeJson}
    {state after : StreamState R E T} {label : StreamLabel R E T}
    {seen : List (StreamObservation R E T)} (h : net.Streams serde state label after seen) :
    StreamMove net serde state label after seen := by
  unfold StreamNetwork.Streams OfOption at h
  cases label with
  | task label =>
      simp only [StreamNetwork.next, Option.ite_none_left_eq_some, Option.map_eq_some_iff,
        Prod.mk.injEq] at h
      obtain ⟨hFrame, ⟨tasks, out⟩, hNext, rfl, rfl⟩ := h
      exact .task (by simpa using hFrame) (next_move hNext)
  | write endpoint event =>
      simp only [StreamNetwork.next, Option.ite_none_right_eq_some, Option.bind_eq_bind,
        Option.bind_eq_some_iff, Option.some.injEq, Prod.mk.injEq] at h
      obtain ⟨-, rest, hQueue, ⟨arm, accepted⟩, hWrite, rfl, rfl⟩ := h
      exact .write hQueue hWrite
  | read endpoint receivingBuf =>
      simp only [StreamNetwork.next, Option.ite_none_right_eq_some, Option.bind_eq_bind,
        Option.bind_eq_some_iff, Option.some.injEq, Prod.mk.injEq] at h
      obtain ⟨-, wire, hWire, ⟨recv, packets⟩, hRead, rfl, rfl⟩ := h
      exact .read hWire (toOption_eq_some_iff.mp hRead)

section Parts

variable {serde : SerdeJson}

omit [DecidableEq R] [DecidableEq E] [DecidableEq T] in
/-- What is taken from a queue was at its head. -/
theorem unqueue_eq_some {event : SendEvent} {queue rest : List (Copy R E T)}
    (h : unqueue event queue = some rest) :
    ∃ taken, queue = taken ++ rest ∧ taken.map Copy.packet = event.taken := by
  unfold unqueue at h
  split at h
  · rename_i packet copy rest'
    simp only [Option.ite_none_right_eq_some, Option.some.injEq] at h
    obtain ⟨rfl, rfl⟩ := h
    exact ⟨[copy], rfl, rfl⟩
  · cases h
  · cases h
    exact ⟨[], rfl, rfl⟩
  · cases h
    exact ⟨[], rfl, rfl⟩

/-- What is accepted is of the frame of a packet that the arm has or takes, and no
other is in its hands afterwards. -/
theorem Protocol.write_in_hand {protocol : Protocol} {arm next : SendArm} {event : SendEvent}
    {accepted : Bytes} (h : protocol.write serde arm event = some (next, accepted)) :
    next.current ⊆ arm.current ++ event.taken ∧
      ∃ packet ∈ arm.current ++ event.taken, accepted <:+: protocol.frame serde packet := by
  cases protocol with
  | tcp =>
      obtain ⟨packet, hHand, hNext, hAccepted⟩ := (sendStep_move h).in_hand
      rw [hHand]
      exact ⟨hNext, packet, List.mem_singleton_self packet, hAccepted⟩
  | dtls =>
      cases event with
      | take packet =>
          cases h
          exact ⟨List.subset_append_left _ _, packet, by simp [SendEvent.taken],
            List.infix_rfl⟩
      | writable | wrote => cases h

/-- Whatever a receive arm hands on, it made of a header and a payload of its length. -/
theorem Protocol.read_dispatched {protocol : Protocol} {threadName : GDPName}
    {state next : DtlsRecvState} {receivingBuf : Bytes} {packets : List GDPPacket}
    (h : protocol.read serde threadName state receivingBuf = .ok (next, packets)) :
    ∀ packet ∈ packets, ∃ header payload, payload.length = header.length ∧
      dispatch threadName header payload = some packet := by
  have hPairs : ∃ given : List HeaderPayload, packets = dispatchPairs threadName given ∧
      Exact given := by
    cases protocol with
    | tcp =>
        obtain ⟨read, hRead, hSame⟩ := map_eq_ok_iff.mp h
        cases hSame
        obtain ⟨given, hGiven, hOut⟩ := handleTcpStreamRead_eq_ok_iff.mp hRead
        exact ⟨given, hOut, tcpStreamPairs_exact hGiven⟩
    | dtls =>
        obtain ⟨given, hGiven, hOut⟩ := handleDtlsStreamRead_eq_ok_iff.mp h
        exact ⟨given, hOut, dtlsStreamPairs_exact hGiven⟩
  obtain ⟨given, rfl, hExact⟩ := hPairs
  intro packet hPacket
  obtain ⟨pair, hMem, hPair⟩ := List.mem_filterMap.mp hPacket
  exact ⟨pair.1, pair.2, hExact pair hMem, hPair⟩

omit [DecidableEq E] [DecidableEq T] in
theorem Network.handOver_queue (net : Network R E T) (endpoint : E) (tasks : NetState R E T)
    (packets : List GDPPacket) : (net.handOver endpoint tasks packets).queue = tasks.queue := by
  induction packets generalizing tasks with
  | nil => rfl
  | cons packet packets ih =>
      rw [Network.handOver, List.foldl_cons]
      exact (ih _).trans (by simp)

omit [DecidableEq E] [DecidableEq T] in
/-- Packets from a connection keep a property everywhere if it fits what becomes
of them in the queues of the RIB. -/
theorem Local.Everywhere.handOver {inv : Local R E T} {net : Network R E T} {endpoint : E}
    {tasks : NetState R E T} (h : inv.Everywhere net tasks) {packets : List GDPPacket}
    (hForward : ∀ packet ∈ packets, packet.action = .forward →
      inv.inRib (net.home endpoint) ⟨packet, some endpoint, ⟨0, none, []⟩⟩)
    (hAdvertise : ∀ packet ∈ packets, packet.action = .advertise →
      inv.registered (net.home endpoint) ⟨packet.gdpname, .conn endpoint, packet⟩) :
    inv.Everywhere net (net.handOver endpoint tasks packets) := by
  induction packets generalizing tasks with
  | nil => exact h
  | cons packet packets ih =>
      obtain ⟨hFirst, hRest⟩ := List.forall_mem_cons.mp hForward
      obtain ⟨hName, hNames⟩ := List.forall_mem_cons.mp hAdvertise
      rw [Network.handOver, List.foldl_cons]
      apply ih _ hRest hNames
      unfold procGdpPacket
      split
      · rename_i hAction
        exact h.register (hName hAction)
      · rename_i hAction
        exact h.route (hFirst hAction)
      all_goals exact h

end Parts

end GdpRouter
