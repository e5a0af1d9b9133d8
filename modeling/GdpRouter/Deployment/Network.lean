import GdpRouter.ConnectionRib.Basic
import Mathlib.Logic.Function.Basic

/-! Routers, their connections and their ROS tasks as one transition system. A
connection carries whole frames in order. Packets carry a trace that no task
reads: it only records where a copy comes from. -/
namespace GdpRouter

open Multimap Transition

inductive ConnectionKind where
  /-- accepted by `tcp_listener` or `dtls_listener` -/
  | listener
  /-- opened by `tcp_to_peer` or `dtls_to_peer` -/
  | toPeer
  /-- opened by `tcp_to_peer_direct` or `dtls_to_peer_direct` -/
  | direct
  deriving DecidableEq, Repr

inductive RosKind where
  | publisher
  | subscriber
  deriving DecidableEq, Repr

/-- The sending half of a task's `m_rx`. -/
inductive Handle (E T : Type) where
  | conn (endpoint : E)
  | ros (task : T)
  deriving DecidableEq, Repr

/-- Which tasks there are and how they are wired, for routers `R`, connection
endpoints `E` and ROS tasks `T`. An endpoint without a `peer` faces a program
outside the network. `ribTx` is the queue that a ROS task got for its `rib_tx`:
that of a direct connection, or that of the RIB. -/
structure Network (R E T : Type) where
  home : E → R
  peer : E → Option E
  kind : E → ConnectionKind
  threadName : E → GDPName
  gateway : R → Option E
  rosHome : T → R
  rosKind : T → RosKind
  nodeName : T → GDPName
  topicName : T → GDPName
  ribTx : T → Option E
  peer_symm : ∀ {here there}, peer here = some there → peer there = some here
  gateway_home : ∀ {router endpoint}, gateway router = some endpoint →
    home endpoint = router ∧ kind endpoint = .toPeer
  ribTx_home : ∀ {task endpoint}, ribTx task = some endpoint →
    home endpoint = rosHome task ∧ kind endpoint = .direct

/-- Where a copy comes from: the number of the packet it is a copy of, the ROS
task that made the packet if any, and the routers it has been at, in order. -/
structure Trace (R T : Type) where
  id : Nat
  origin : Option T
  visited : List R
  deriving DecidableEq, Repr

/-- A packet in a queue, and the endpoint it was read from, if it was. -/
structure Copy (R E T : Type) where
  packet : GDPPacket
  heard : Option E
  trace : Trace R T
  deriving DecidableEq, Repr

/-- What travels between two endpoints. -/
structure InTransit (R T : Type) where
  header : GDPPacketInTransit
  payload : Bytes
  trace : Trace R T
  deriving DecidableEq, Repr

structure NetState (R E T : Type) where
  table : R → RibTable (Handle E T)
  ribRx : R → List (Copy R E T)
  channelRx : R → List (GDPChannel (Handle E T))
  statRs : R → List (GDPStatus (Handle E T))
  queue : Handle E T → List (Copy R E T)
  /-- the frames in flight towards an endpoint -/
  link : E → List (InTransit R T)
  closed : Handle E T → Bool
  started : Handle E T → Bool
  flushed : R → Bool
  /-- the number of the next packet -/
  fresh : Nat

inductive NetLabel (R E T : Type) where
  | ribPacket (router : R) (order : List GDPName)
  | ribChannel (router : R)
  | ribStatus (router : R) (order : List GDPName)
  /-- A connection task begins. `to_peer` advertises its own thread name. -/
  | connStart (endpoint : E)
  | connSend (endpoint : E)
  | connRecv (endpoint : E)
  /-- A program outside sends any frame. -/
  | wire (endpoint : E) (header : GDPPacketInTransit) (payload : Bytes)
  /-- A frame is lost: dropped by the sender, or in transit. -/
  | lose (endpoint : E)
  /-- A ROS task begins, with its advertisement. -/
  | rosAdvertise (task : T)
  /-- A ROS subscriber gets a message, in a vector. -/
  | rosForward (task : T) (payload : Bytes)
  | rosRecv (task : T)
  /-- `stat_tx.send(GDPStatus { sink: m_tx })` -/
  | flush (router : R)
  | close (handle : Handle E T)
  deriving DecidableEq, Repr

/-- What can be seen of a step. -/
inductive Observation (R E T : Type) where
  /-- A copy is put on the queue of a handle. -/
  | put (handle : Handle E T) (copy : Copy R E T)
  /-- A connection task reads a frame. -/
  | delivered (endpoint : E) (frame : InTransit R T)
  /-- A RIB takes a copy from `rib_rx`. -/
  | handled (router : R) (copy : Copy R E T)
  /-- A ROS publisher publishes a message. -/
  | published (task : T) (copy : Copy R E T)
  deriving DecidableEq, Repr

variable {R E T : Type} [DecidableEq R] [DecidableEq E] [DecidableEq T]

namespace NetState

/-- Everything is empty but the tables. -/
def initial (table : R → RibTable (Handle E T)) : NetState R E T where
  table := table
  ribRx _ := []
  channelRx _ := []
  statRs _ := []
  queue _ := []
  link _ := []
  closed _ := false
  started _ := false
  flushed _ := false
  fresh := 0

/-- Copies are put on the queues of their handles. -/
def put (state : NetState R E T) (sent : List (Handle E T × Copy R E T)) : NetState R E T :=
  { state with queue := fun handle => state.queue handle ++ enqueuedOn handle sent }

/-- The task behind a handle has begun and not ended. -/
def running (state : NetState R E T) (handle : Handle E T) : Bool :=
  state.started handle && !state.closed handle

/-- What a call of `proc_gdp_packet` sends, with the RIB queue for `rib_tx`. -/
def submit (state : NetState R E T) (router : R) (heard : Option E) (trace : Trace R T) :
    Option (RibMessage (Handle E T)) → NetState R E T
  | some (.register channel) =>
      { state with channelRx :=
          Function.update state.channelRx router (state.channelRx router ++ [channel]) }
  | some (.route packet) =>
      { state with ribRx :=
          Function.update state.ribRx router (state.ribRx router ++ [⟨packet, heard, trace⟩]) }
  | none => state

/-- The RIB of a router handles an event. What it sends inherits the trace. -/
def ribHandle (state : NetState R E T) (router : R) (event : RibEvent (Handle E T))
    (order : List GDPName) (heard : Option E) (trace : Trace R T) :
    Option (NetState R E T × List (Handle E T × Copy R E T)) :=
  (connectionRouterStep (state.table router) ⟨event, order, state.closed⟩).map fun next =>
    let sent := next.2.map fun out => (out.1, ⟨out.2, heard, trace⟩)
    ({ state with table := Function.update state.table router next.1 }.put sent, sent)

end NetState

/-- The copy that a message to the RIB carries, if any. -/
def messageCopies (heard : Option E) (trace : Trace R T) :
    Option (RibMessage (Handle E T)) → List (Copy R E T)
  | some (.route packet) => [⟨packet, heard, trace⟩]
  | some (.register _) | none => []

/-- The registration that a message to the RIB carries, if any. -/
def messageChannels : Option (RibMessage (Handle E T)) → List (GDPChannel (Handle E T))
  | some (.register channel) => [channel]
  | some (.route _) | none => []

section Submit

omit [DecidableEq E] [DecidableEq T]

variable (state : NetState R E T) (router : R) (heard : Option E) (trace : Trace R T)
  (message : Option (RibMessage (Handle E T)))

/-- A message to the RIB of a router joins one of its two queues there, and
changes nothing else. -/
theorem NetState.submit_eq : state.submit router heard trace message =
    { state with
      ribRx := Function.update state.ribRx router
        (state.ribRx router ++ messageCopies heard trace message)
      channelRx := Function.update state.channelRx router
        (state.channelRx router ++ messageChannels message) } := by
  unfold submit messageCopies messageChannels
  split <;> simp

@[simp] theorem NetState.submit_link :
    (state.submit router heard trace message).link = state.link := by rw [submit_eq]

@[simp] theorem NetState.submit_queue :
    (state.submit router heard trace message).queue = state.queue := by rw [submit_eq]

@[simp] theorem NetState.submit_table :
    (state.submit router heard trace message).table = state.table := by rw [submit_eq]

@[simp] theorem NetState.submit_closed :
    (state.submit router heard trace message).closed = state.closed := by rw [submit_eq]

@[simp] theorem NetState.submit_started :
    (state.submit router heard trace message).started = state.started := by rw [submit_eq]

@[simp] theorem NetState.submit_statRs :
    (state.submit router heard trace message).statRs = state.statRs := by rw [submit_eq]

@[simp] theorem NetState.submit_flushed :
    (state.submit router heard trace message).flushed = state.flushed := by rw [submit_eq]

@[simp] theorem NetState.submit_fresh :
    (state.submit router heard trace message).fresh = state.fresh := by rw [submit_eq]

/-- Only the RIB of the router gets the packet, behind those that wait there. -/
@[simp] theorem NetState.submit_ribRx (other : R) :
    (state.submit router heard trace message).ribRx other =
      state.ribRx other ++ if other = router then messageCopies heard trace message else [] := by
  rw [submit_eq]
  by_cases hRouter : other = router
  · subst hRouter
    simp
  · simp [hRouter]

/-- Only the RIB of the router gets the registration, behind those that wait there. -/
@[simp] theorem NetState.submit_channelRx (other : R) :
    (state.submit router heard trace message).channelRx other =
      state.channelRx other ++ if other = router then messageChannels message else [] := by
  rw [submit_eq]
  by_cases hRouter : other = router
  · subst hRouter
    simp
  · simp [hRouter]

end Submit

def putAll (sent : List (Handle E T × Copy R E T)) : List (Observation R E T) :=
  sent.map fun out => .put out.1 out.2

/-- The frame that a connection task writes for a packet. -/
def Copy.frame (copy : Copy R E T) : InTransit R T :=
  ⟨copy.packet.getHeader, copy.packet.body, copy.trace⟩

namespace Network

variable (net : Network R E T)

/-- The router of the task behind a handle. -/
def owner : Handle E T → R
  | .conn endpoint => net.home endpoint
  | .ros task => net.rosHome task

/-- A frame that arrives has now also been at the router of its endpoint. -/
def arrive (endpoint : E) (frame : InTransit R T) : Trace R T :=
  { frame.trace with visited := frame.trace.visited ++ [net.home endpoint] }

/-- The self-advertisement of `tcp_to_peer` and `dtls_to_peer`. -/
def selfAdvertisement (endpoint : E) : Option (RibMessage (Handle E T)) :=
  if net.kind endpoint = .toPeer then
    procGdpPacket (constructGdpAdvertisementFromBytes (net.threadName endpoint)
      (net.threadName endpoint)) (.conn endpoint)
  else none

/-- What a connection task does with a frame it has read. -/
def receive (endpoint : E) (frame : InTransit R T) : Option (RibMessage (Handle E T)) :=
  (dispatch (net.threadName endpoint) frame.header frame.payload).bind fun packet =>
    procGdpPacket packet (.conn endpoint)

/-- A ROS task's own advertisement. -/
def nodeAdvertisement (task : T) : Option (RibMessage (Handle E T)) :=
  procGdpPacket (constructGdpAdvertisementFromBytes (net.topicName task) (net.nodeName task))
    (.ros task)

/-- The packet that a ROS subscriber makes of a message. -/
def rosPacket (task : T) (payload : Bytes) : GDPPacket :=
  constructGdpForwardFromBytes (net.topicName task) (net.nodeName task) payload

/-- One step of some task. -/
def next (state : NetState R E T) :
    NetLabel R E T → Option (NetState R E T × List (Observation R E T))
  | .ribPacket router order =>
      match state.ribRx router with
      | [] => none
      | copy :: rest =>
          let taken : NetState R E T :=
            { state with ribRx := Function.update state.ribRx router rest }
          (taken.ribHandle router (.packet copy.packet) order copy.heard copy.trace).map
            fun after => (after.1, .handled router copy :: putAll after.2)
  | .ribChannel router =>
      match state.channelRx router with
      | [] => none
      | channel :: rest =>
          let taken : NetState R E T :=
            { state with channelRx := Function.update state.channelRx router rest }
          (taken.ribHandle router (.channel channel) (state.table router).keys none
            ⟨0, none, []⟩).map fun after => (after.1, putAll after.2)
  | .ribStatus router order =>
      match state.statRs router with
      | [] => none
      | update :: rest =>
          let taken : NetState R E T := { state with
            statRs := Function.update state.statRs router rest
            fresh := state.fresh + 1 }
          (taken.ribHandle router (.status update) order none ⟨state.fresh, none, [router]⟩).map
            fun after => (after.1, putAll after.2)
  | .connStart endpoint =>
      let taken : NetState R E T :=
        { state with started := Function.update state.started (.conn endpoint) true }
      if state.started (.conn endpoint) then none
      else some (taken.submit (net.home endpoint) none ⟨0, none, []⟩
        (net.selfAdvertisement endpoint), [])
  | .connSend endpoint =>
      match state.running (.conn endpoint), net.peer endpoint, state.queue (.conn endpoint) with
      | true, some other, copy :: rest =>
          some ({ state with
            queue := Function.update state.queue (.conn endpoint) rest
            link := Function.update state.link other (state.link other ++ [copy.frame]) }, [])
      | true, none, _ :: rest =>
          some ({ state with queue := Function.update state.queue (.conn endpoint) rest }, [])
      | _, _, _ => none
  | .connRecv endpoint =>
      match state.running (.conn endpoint), state.link endpoint with
      | true, frame :: rest =>
          let taken : NetState R E T :=
            { state with link := Function.update state.link endpoint rest }
          some (taken.submit (net.home endpoint) (some endpoint) (net.arrive endpoint frame)
            (net.receive endpoint frame), [.delivered endpoint frame])
      | _, _ => none
  | .wire endpoint header payload =>
      match net.peer endpoint with
      | some _ => none
      | none => some ({ state with
          link := Function.update state.link endpoint
            (state.link endpoint ++ [⟨header, payload, ⟨state.fresh, none, []⟩⟩])
          fresh := state.fresh + 1 }, [])
  | .lose endpoint =>
      match state.link endpoint with
      | [] => none
      | _ :: rest => some ({ state with link := Function.update state.link endpoint rest }, [])
  | .rosAdvertise task =>
      let taken : NetState R E T :=
        { state with started := Function.update state.started (.ros task) true }
      if state.started (.ros task) then none
      else some (taken.submit (net.rosHome task) none ⟨0, none, []⟩
        (net.nodeAdvertisement task), [])
  | .rosForward task payload =>
      let taken : NetState R E T := { state with fresh := state.fresh + 1 }
      let trace : Trace R T := ⟨state.fresh, some task, [net.rosHome task]⟩
      let packet := net.rosPacket task payload
      if state.running (.ros task) ∧ net.rosKind task = .subscriber ∧
          payload.length < usizeSize then
        match net.ribTx task with
        | none =>
            some (taken.submit (net.rosHome task) none trace (procGdpPacket packet (.ros task)), [])
        | some endpoint =>
            let sent := (send state.closed (.conn endpoint) packet).map fun out =>
              (out.1, ⟨out.2, none, trace⟩)
            some (taken.put sent, putAll sent)
      else none
  | .rosRecv task =>
      match state.running (.ros task), net.rosKind task, state.queue (.ros task) with
      | true, .publisher, copy :: rest =>
          some ({ state with queue := Function.update state.queue (.ros task) rest },
            if copy.packet.action = .forward ∧ copy.packet.gdpname = net.topicName task then
              [.published task copy]
            else [])
      | _, _, _ => none
  | .flush router =>
      match state.flushed router, net.gateway router with
      | false, some endpoint => some ({ state with
          statRs := Function.update state.statRs router
            (state.statRs router ++ [⟨.conn endpoint⟩])
          flushed := Function.update state.flushed router true }, [])
      | _, _ => none
  | .close handle =>
      some ({ state with
        closed := Function.update state.closed handle true
        queue := Function.update state.queue handle [] }, [])

def Steps : Step (NetState R E T) (NetLabel R E T) (Observation R E T) := OfOption net.next

end Network

end GdpRouter
