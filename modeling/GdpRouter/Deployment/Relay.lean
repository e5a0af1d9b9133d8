import GdpRouter.Deployment.Launch
import GdpRouter.Deployment.Messages

/-! From a subscriber on one robot to a publisher on another. Both are clients of one
gateway, and each message takes two hops. -/
namespace GdpRouter

open Multimap Transition

namespace Launch

variable {C : Type} (launch : Launch C)

/-- The gateway's end of a direct connection. -/
def accepted {client : C} (index : Fin (launch.tasks (some client)).length) : launch.Socket :=
  (⟨client, some index⟩, true)

/-- A direct connection is for the messages of one task, and a client gets messages over
its advertising connection only. -/
def relays (threadName : launch.Socket → GDPName) :
    Local (Option C) launch.Socket launch.Task where
  inRib router copy := (launch.routes threadName).inRib router copy ∧
    match router with
    | none => ∀ client index, copy.trace.origin = some ⟨some client, index⟩ →
        copy.heard = some (launch.accepted index)
    | some client => copy.heard = some (launch.advertising client)
  queued handle copy := (launch.routes threadName).queued handle copy ∧
    ∀ client (index : Fin (launch.tasks (some client)).length),
      handle = .conn (launch.direct index) → copy.trace.origin = some ⟨some client, index⟩
  flying socket frame := (launch.routes threadName).flying socket frame ∧
    ∀ client (index : Fin (launch.tasks (some client)).length),
      socket = launch.accepted index → frame.trace.origin = some ⟨some client, index⟩
  registered := (launch.routes threadName).registered

variable {launch} {σ : Type} (sha : Sha256 σ) (threadName : launch.Socket → GDPName)

/-- Messages keep to their way over the gateway. -/
theorem relays_preserved :
    (launch.relays threadName).Preserved (launch.network sha threadName) fun _ => True where
  routed := by
    intro router copy dst hCopy hDst hSource
    refine ⟨(launch.routes_preserved sha threadName).routed hCopy.1 hDst hSource, ?_⟩
    rintro client index hDirect
    rcases hDst with ⟨task, hTask, -⟩ | hDst
    · cases hTask.symm.trans hDirect
    · cases router with
      | none =>
          obtain ⟨other, hOther⟩ := hDst
          cases hOther.symm.trans hDirect
      | some other => cases hDst.1.symm.trans hDirect
  announced := by
    intro router endpoint name id hGateway
    refine ⟨(launch.routes_preserved sha threadName).announced name id hGateway, ?_⟩
    rintro client index hDirect
    cases router with
    | none => cases hGateway
    | some other =>
        cases hGateway
        cases hDirect
  carried := by
    intro here there copy hPeer hCopy
    refine ⟨(launch.routes_preserved sha threadName).carried hPeer hCopy.1, ?_⟩
    rintro client index rfl
    have hHere : here = launch.direct index :=
      Option.some.inj (((launch.network sha threadName).peer_symm hPeer).symm.trans rfl)
    exact hCopy.2 client index (congrArg Handle.conn hHere)
  forwarded := by
    intro endpoint frame hFrame hAction
    refine ⟨(launch.routes_preserved sha threadName).forwarded hFrame.1 hAction, ?_⟩
    obtain ⟨⟨client, _ | index⟩, _ | _⟩ := endpoint
    · rfl
    · cases hFrame.1.1.symm.trans hAction
    · cases hFrame.1
    · rintro other own hOrigin
      cases (hFrame.2 client index rfl).symm.trans hOrigin
      rfl
  advertised := (launch.routes_preserved sha threadName).advertised ∘ And.left
  self := (launch.routes_preserved sha threadName).self
  node := (launch.routes_preserved sha threadName).node
  wired := by
    rintro ⟨link, side⟩ header payload id - ⟨⟩
  spoken := by
    intro task payload id _ hTx
    refine ⟨(launch.routes_preserved sha threadName).spoken id trivial hTx, ?_⟩
    obtain ⟨_ | client, index⟩ := task
    · rintro other index ⟨⟩
    · cases hTx
  injected := by
    intro task endpoint payload id _ hTx
    refine ⟨(launch.routes_preserved sha threadName).injected id trivial hTx, ?_⟩
    obtain ⟨_ | client, index⟩ := task
    · cases hTx
    · rintro other index ⟨⟩
      cases hTx
      rfl

variable (launch) in
/-- A task of one client and a task of another that are of one topic. The names that tell
the connections apart are different. -/
structure Route where
  sender : C
  receiver : C
  source : Fin (launch.tasks (some sender)).length
  sink : Fin (launch.tasks (some receiver)).length
  topic : (launch.network sha threadName).topicName ⟨some receiver, sink⟩ =
    (launch.network sha threadName).topicName ⟨some sender, source⟩
  thread : threadName (launch.accepted source) ≠ threadName (launch.advertised receiver)
  node : (launch.network sha threadName).nodeName ⟨some receiver, sink⟩ ≠
    threadName (launch.advertising receiver)

namespace Route

variable {sha threadName} (route : launch.Route sha threadName)

abbrev net (_ : launch.Route sha threadName) : Network (Option C) launch.Socket launch.Task :=
  launch.network sha threadName

def sourceTask : launch.Task := ⟨some route.sender, route.source⟩

def sinkTask : launch.Task := ⟨some route.receiver, route.sink⟩

def name : GDPName := route.net.topicName route.sourceTask

/-- Up to the gateway. -/
def sourceEnd : launch.Socket := launch.direct route.source

def gatewayIn : launch.Socket := launch.accepted route.source

/-- Down to the other client. -/
def gatewayOut : launch.Socket := launch.advertised route.receiver

def sinkEnd : launch.Socket := launch.advertising route.receiver

/-- The tasks on the way, the source apart. -/
def handles : List (Handle launch.Socket launch.Task) :=
  [.conn route.sourceEnd, .conn route.gatewayIn, .conn route.gatewayOut, .conn route.sinkEnd,
    .ros route.sinkTask]

variable [DecidableEq C]

/-- The gateway knows the topic from the client of the sink, which knows it from the sink. -/
structure Ready (state : NetState (Option C) launch.Socket launch.Task) : Prop where
  sourceEnd : state.closed (.conn route.sourceEnd) = false
  gatewayOut : state.closed (.conn route.gatewayOut) = false
  sinkTask : state.closed (.ros route.sinkTask) = false
  gateway : route.net.registration route.gatewayOut route.name ∈
    ((state.table none).lookup route.name).getD []
  client : route.net.nodeRegistration route.sinkTask ∈
    ((state.table (some route.receiver)).lookup route.name).getD []

/-- The step closes no queue on the way from the source to the sink. -/
def LeavesOpen (label : NetLabel (Option C) launch.Socket launch.Task) : Prop :=
  label ≠ .close (.conn route.sourceEnd) ∧ label ≠ .close (.conn route.gatewayOut) ∧
    label ≠ .close (.ros route.sinkTask)

/-- The step loses no frame on either of the two connections. -/
def Spares (label : NetLabel (Option C) launch.Socket launch.Task) : Prop :=
  label ≠ .lose route.gatewayIn ∧ label ≠ .lose route.sinkEnd

instance : DecidableEq (Handle launch.Socket launch.Task) := inferInstance

instance : DecidableEq (NetLabel (Option C) launch.Socket launch.Task) := inferInstance

instance (state : NetState (Option C) launch.Socket launch.Task) :
    Decidable (route.Ready state) :=
  decidable_of_iff (state.closed (.conn route.sourceEnd) = false ∧
      state.closed (.conn route.gatewayOut) = false ∧ state.closed (.ros route.sinkTask) = false ∧
      route.net.registration route.gatewayOut route.name ∈
        ((state.table none).lookup route.name).getD [] ∧
      route.net.nodeRegistration route.sinkTask ∈
        ((state.table (some route.receiver)).lookup route.name).getD [])
    ⟨fun ⟨hSource, hOut, hSink, hGateway, hClient⟩ => ⟨hSource, hOut, hSink, hGateway, hClient⟩,
      fun h => ⟨h.sourceEnd, h.gatewayOut, h.sinkTask, h.gateway, h.client⟩⟩

instance (label : NetLabel (Option C) launch.Socket launch.Task) :
    Decidable (route.LeavesOpen label) :=
  inferInstanceAs (Decidable (_ ∧ _))

instance (label : NetLabel (Option C) launch.Socket launch.Task) :
    Decidable (route.Spares label) :=
  inferInstanceAs (Decidable (_ ∧ _))

/-- The messages of the source that have not been handled at the gateway yet. -/
def upward (state : NetState (Option C) launch.Socket launch.Task) : List Bytes :=
  (state.unhandled none route.gatewayIn).flatMap (Copy.messageOf route.sourceTask) ++
    (state.inFlight route.sourceEnd route.gatewayIn).flatMap
      (InTransit.messageOf route.sourceTask)

/-- Those that have not been handled at the other client. -/
def downward (state : NetState (Option C) launch.Socket launch.Task) : List Bytes :=
  (state.unhandled (some route.receiver) route.sinkEnd).flatMap
      (Copy.messageOf route.sourceTask) ++
    (state.inFlight route.gatewayOut route.sinkEnd).flatMap
      (InTransit.messageOf route.sourceTask)

/-- All that are not published yet, those in front first. -/
def underway (state : NetState (Option C) launch.Socket launch.Task) : List Bytes :=
  (state.queue (.ros route.sinkTask)).flatMap (Copy.messageOf route.sourceTask) ++
    route.downward state ++ route.upward state

variable {route} {start state after : NetState (Option C) launch.Socket launch.Task}
  {label : NetLabel (Option C) launch.Socket launch.Task}
  {labels : List (NetLabel (Option C) launch.Socket launch.Task)}
  {observed : List (Observation (Option C) launch.Socket launch.Task)}

/-- A route that is ready stays ready as long as its connections do. -/
theorem Ready.run (h : route.Ready start) (run : Run route.net.Steps start labels state observed)
    (hLabels : ∀ label ∈ labels, route.LeavesOpen label) : route.Ready state where
  sourceEnd := open_of_run run (fun label hLabel => (hLabels label hLabel).1) h.sourceEnd
  gatewayOut := open_of_run run (fun label hLabel => (hLabels label hLabel).2.1) h.gatewayOut
  sinkTask := open_of_run run (fun label hLabel => (hLabels label hLabel).2.2) h.sinkTask
  gateway := table_grows_of_run run h.gateway
  client := table_grows_of_run run h.client

/-- The gateway sends each message to the client of the sink, once. -/
theorem Ready.gateway_relays (h : route.Ready state)
    (run : Run route.net.Steps (.initial fun _ => ∅) labels state observed) :
    route.net.Relays route.sourceTask route.gatewayIn (.conn route.gatewayOut) state := by
  obtain ⟨hRelays, -⟩ := Local.everywhere_of_run (relays_preserved sha threadName) (by simp)
    (fun _ _ => trivial) run
  obtain ⟨hSourced, -⟩ := Local.everywhere_of_run route.net.sourced_preserved (by simp)
    (fun _ _ => trivial) run
  obtain ⟨hTopic, -⟩ := Local.everywhere_of_run
    (route.net.onTopic_preserved route.sourceTask) (by simp) (fun _ _ => trivial) run
  have hHeard : ∀ copy ∈ state.ribRx none, copy.trace.origin = some route.sourceTask →
      copy.heard = some route.gatewayIn :=
    fun copy hCopy => (hRelays.inRib none copy hCopy).2 route.sender route.source
  refine ⟨hSourced, hHeard, fun order copy hCopy hOrigin => ?_⟩
  have hName : copy.packet.gdpname = route.name := (hTopic.inRib none copy hCopy hOrigin).2
  have hSource : copy.packet.source ≠ threadName route.gatewayOut := by
    rw [(hSourced.inRib none copy hCopy _ (hHeard copy hCopy hOrigin)).2]
    exact route.thread
  have joined : route.net.JoinedTo route.sinkEnd route.gatewayOut := ⟨rfl, rfl, rfl⟩
  have hKnown := h.gateway
  rw [← hName] at hKnown
  have hOne := countP_registered copy.packet.gdpname joined run hSource
  exact enqueuedOn_routed_once hKnown h.gatewayOut
    (hOne.trans (if_pos (hName ▸ h.gateway)))

/-- The client sends each message to the sink, once. -/
theorem Ready.client_relays (h : route.Ready state)
    (run : Run route.net.Steps (.initial fun _ => ∅) labels state observed) :
    route.net.Relays route.sourceTask route.sinkEnd (.ros route.sinkTask) state := by
  obtain ⟨hRelays, -⟩ := Local.everywhere_of_run (relays_preserved sha threadName) (by simp)
    (fun _ _ => trivial) run
  obtain ⟨hSourced, -⟩ := Local.everywhere_of_run route.net.sourced_preserved (by simp)
    (fun _ _ => trivial) run
  obtain ⟨hTopic, -⟩ := Local.everywhere_of_run
    (route.net.onTopic_preserved route.sourceTask) (by simp) (fun _ _ => trivial) run
  have hHeard : ∀ copy ∈ state.ribRx (some route.receiver),
      copy.heard = some route.sinkEnd := fun copy hCopy => (hRelays.inRib _ copy hCopy).2
  refine ⟨hSourced, fun copy hCopy _ => hHeard copy hCopy, fun order copy hCopy hOrigin => ?_⟩
  have hName : copy.packet.gdpname = route.name := (hTopic.inRib _ copy hCopy hOrigin).2
  have hSource : copy.packet.source = threadName route.sinkEnd :=
    (hSourced.inRib _ copy hCopy _ (hHeard copy hCopy)).2
  have hKnown := h.client
  rw [← hName] at hKnown
  have hTopicName : copy.packet.gdpname = route.net.topicName route.sinkTask :=
    hName.trans route.topic.symm
  have hOnly := ros_registered_once route.sinkTask run (hTopicName ▸ hKnown)
  have hNode : (route.net.nodeRegistration route.sinkTask).advertisement.source ≠
      copy.packet.source := by
    rw [hSource]
    exact route.node
  have hOne : (((state.table (some route.receiver)).lookup copy.packet.gdpname).getD []).countP
      (fun channel => channel.channel = .ros route.sinkTask ∧
        channel.advertisement.source ≠ copy.packet.source) = 1 := by
    calc
      _ = ((((state.table (some route.receiver)).lookup copy.packet.gdpname).getD []).filter
            fun channel => channel.channel = .ros route.sinkTask).countP fun channel =>
              channel.advertisement.source ≠ copy.packet.source := by
        rw [List.countP_filter]
        simp [and_comm]
      _ = [route.net.nodeRegistration route.sinkTask].countP fun channel =>
            channel.advertisement.source ≠ copy.packet.source := by
        rw [hTopicName]
        exact congrArg _ hOnly
      _ = 1 := by simp [hNode]
  exact enqueuedOn_routed_once hKnown h.sinkTask hOne

/-- So the two RIBs send on what they get of the source. -/
theorem Ready.routed (h : route.Ready start)
    {early : List (NetLabel (Option C) launch.Socket launch.Task)}
    {before : List (Observation (Option C) launch.Socket launch.Task)}
    (prior : Run route.net.Steps (.initial fun _ => ∅) early start before)
    (run : Run route.net.Steps start labels state observed)
    (hLabels : ∀ label ∈ labels, route.LeavesOpen label) :
    (observed.flatMap (Observation.putOn (.conn route.gatewayOut))).flatMap
        (Copy.messageOf route.sourceTask) =
      (observed.flatMap (Observation.handledFrom none route.gatewayIn)).flatMap
        (Copy.messageOf route.sourceTask) ∧
    (observed.flatMap (Observation.putOn (.ros route.sinkTask))).flatMap
        (Copy.messageOf route.sourceTask) =
      (observed.flatMap (Observation.handledFrom (some route.receiver) route.sinkEnd)).flatMap
        (Copy.messageOf route.sourceTask) := by
  have hThroughout : ∀ relays : NetState (Option C) launch.Socket launch.Task → Prop,
      (∀ {labels state observed}, route.Ready state →
        Run route.net.Steps (.initial fun _ => ∅) labels state observed → relays state) →
      Throughout route.net.Steps start labels relays := by
    intro relays hEach first rest middle seen hLate hFirst
    have hOpen := fun label hLabel => hLabels label (hLate ▸ List.mem_append_left rest hLabel)
    exact hEach (h.run hFirst hOpen) (prior.append hFirst)
  constructor
  · apply messages_routed _ run (hThroughout _ Ready.gateway_relays)
    rintro endpoint ⟨⟩ hSame
    cases congrArg Prod.snd (Handle.conn.inj hSame)
  · apply messages_routed _ run (hThroughout _ Ready.client_relays)
    rintro endpoint - ⟨⟩

/-- Nobody else puts anything on a direct connection. -/
theorem put_sourceEnd
    (hRelays : (launch.relays threadName).Everywhere route.net state)
    (hMove : Move route.net state label after observed)
    {copy : Copy (Option C) launch.Socket launch.Task}
    (hPut : .put (.conn route.sourceEnd) copy ∈ observed)
    (hOrigin : copy.trace.origin = some route.sourceTask) :
    ∃ payload, label = .rosForward route.sourceTask payload := by
  rcases hMove.put_cases hPut with ⟨router, order, -, -, taken, -, hOut⟩ |
    ⟨router, order, -, update, -, hOut⟩ | ⟨other, endpoint, payload, rfl, -, hOut⟩
  · obtain ⟨name, dst, hDst, -, -, hSame⟩ := mem_routed hOut
    have hChannel : .conn route.sourceEnd = dst.channel := congrArg Prod.fst hSame
    rcases hRelays.table router name dst hDst with ⟨task, hTask, -⟩ | hConn
    · cases hTask.symm.trans hChannel.symm
    · cases router with
      | none =>
          obtain ⟨client, hClient⟩ := hConn
          cases hClient.symm.trans hChannel.symm
      | some client => cases hConn.1.symm.trans hChannel.symm
  · obtain ⟨name, -, hSame⟩ := mem_announced hOut
    obtain ⟨-, rfl⟩ := Prod.mk.inj hSame
    cases hOrigin
  · obtain ⟨-, rfl⟩ := Prod.mk.inj (mem_injected hOut)
    cases hOrigin
    exact ⟨payload, rfl⟩

/-- What the source is given goes on its direct connection. -/
theorem messages_given (hRelays : (launch.relays threadName).Everywhere route.net state)
    (hOpen : state.closed (.conn route.sourceEnd) = false)
    (hMove : Move route.net state label after observed) :
    (observed.flatMap (Observation.putOn (.conn route.sourceEnd))).flatMap
      (Copy.messageOf route.sourceTask) = label.messageOf route.sourceTask := by
  by_cases hLabel : ∃ payload, label = .rosForward route.sourceTask payload
  · obtain ⟨payload, rfl⟩ := hLabel
    cases hMove with
    | rosForward _ hRunning hKind hTx => cases hTx
    | @rosForwardDirect _ endpoint _ hRunning hKind hTx =>
        obtain rfl : route.sourceEnd = endpoint := Option.some.inj hTx
        rw [putAll_putOn, Network.injected, send_of_open hOpen]
        simp [enqueuedOn, Copy.messageOf, NetLabel.messageOf, Network.rosPacket,
          constructGdpForwardFromBytes, GDPPacket.body]
  · have hNone : label.messageOf route.sourceTask = [] := by
      cases label with
      | rosForward other payload =>
          have hOther : other ≠ route.sourceTask := fun hSame => hLabel ⟨payload, hSame ▸ rfl⟩
          exact if_neg hOther
      | _ => rfl
    rw [hNone]
    exact messageOf_eq_nil fun copy hCopy hOrigin =>
      hLabel (put_sourceEnd hRelays hMove (mem_putOn.mp hCopy) hOrigin)

/-- So it enters in the order in which it was given. -/
theorem Ready.given (h : route.Ready start)
    (hStart : (launch.relays threadName).Everywhere route.net start)
    (run : Run route.net.Steps start labels state observed)
    (hLabels : ∀ label ∈ labels, route.LeavesOpen label) :
    (observed.flatMap (Observation.putOn (.conn route.sourceEnd))).flatMap
      (Copy.messageOf route.sourceTask) =
        labels.flatMap (NetLabel.messageOf route.sourceTask) := by
  induction run with
  | nil => rfl
  | cons first _ ih =>
      obtain ⟨hFirst, hRest⟩ := List.forall_mem_cons.mp hLabels
      have hMove := next_move first
      have hNext := h.run (.single first) (by simpa using hFirst)
      have hKept := (hStart.step (relays_preserved sha threadName) trivial hMove).1
      rw [List.flatMap_append, List.flatMap_append, messages_given hStart h.sourceEnd hMove,
        ih hNext hKept hRest, List.flatMap_cons]

end Route

end Launch

/-- If the tasks on the way run and have come to rest, nothing is under way. -/
theorem Launch.Route.underway_nil {C : Type} [DecidableEq C] {launch : Launch C} {σ : Type}
    {sha : Sha256 σ} {threadName : launch.Socket → GDPName} (route : launch.Route sha threadName)
    {state : NetState (Option C) launch.Socket launch.Task} (hRest : state.AtRest route.net)
    (hRunning : ∀ handle ∈ route.handles, state.running handle = true)
    (hKind : route.net.rosKind route.sinkTask = .publisher) : route.underway state = [] := by
  simp only [handles, List.forall_mem_cons] at hRunning
  obtain ⟨hSource, hIn, hOut, hEnd, hSink, -⟩ := hRunning
  simp [underway, downward, upward, NetState.unhandled, NetState.inFlight, hRest.ribRx,
    hRest.queue hSource, hRest.link hIn, hRest.queue hOut, hRest.link hEnd,
    hRest.published hSink hKind]

/-- From a subscriber on one robot to a publisher on another, with distinct names, in every
run of a network that the program builds, from when both routers know the topic, if the
subscriber was given nothing before. As long as the queues on the way stay open: what the
publisher has published of it, followed by what is still on its way, is in the order in
which the subscriber was given it, and nothing is repeated. If no frame is lost on the two
connections, it is all that was given. And when the tasks on the way run and have come to
rest, nothing is left on its way. -/
theorem relayed_in_order {C : Type} [DecidableEq C] {launch : Launch C} {σ : Type}
    {sha : Sha256 σ} {threadName : launch.Socket → GDPName}
    (route : launch.Route sha threadName)
    {early late : List (NetLabel (Option C) launch.Socket launch.Task)}
    {ready state : NetState (Option C) launch.Socket launch.Task}
    {before after : List (Observation (Option C) launch.Socket launch.Task)}
    (prior : Run route.net.Steps (.initial fun _ => ∅) early ready before)
    (hSilent : ∀ payload, .rosForward route.sourceTask payload ∉ early)
    (hReady : route.Ready ready) (run : Run route.net.Steps ready late state after)
    (hOpen : ∀ label ∈ late, route.LeavesOpen label) :
    ((after.flatMap (Observation.publishedBy route.sinkTask)).flatMap
        (Copy.messageOf route.sourceTask) ++ route.underway state).Sublist
      (late.flatMap (NetLabel.messageOf route.sourceTask)) ∧
    ((∀ label ∈ late, route.Spares label) →
      late.flatMap (NetLabel.messageOf route.sourceTask) =
        (after.flatMap (Observation.publishedBy route.sinkTask)).flatMap
          (Copy.messageOf route.sourceTask) ++ route.underway state) ∧
    (state.AtRest route.net → (∀ handle ∈ route.handles, state.running handle = true) →
      route.net.rosKind route.sinkTask = .publisher → route.underway state = []) := by
  obtain ⟨hRelays, -⟩ := Local.everywhere_of_run (launch.relays_preserved sha threadName) (by simp)
    (fun _ _ => trivial) prior
  obtain ⟨hTopic, -⟩ := Local.everywhere_of_run (route.net.onTopic_preserved route.sourceTask)
    (by simp) (fun _ _ => trivial) prior
  obtain ⟨hNothing, -⟩ := Local.everywhere_of_run
    (Local.silent_preserved route.net route.sourceTask) (by simp)
    (fun label hLabel payload hSame => hSilent payload (hSame ▸ hLabel)) prior
  obtain ⟨hGateway, hClient⟩ := hReady.routed prior run hOpen
  have hGiven := hReady.given hRelays run hOpen
  have hSink : (after.flatMap (Observation.putOn (.ros route.sinkTask))).flatMap
      (Copy.messageOf route.sourceTask) = _ ++ _ :=
    messages_published route.topic hTopic hNothing
      (fun label hLabel => (hOpen label hLabel).2.2) run
  have hPeerUp : route.net.peer route.sourceEnd = some route.gatewayIn := rfl
  have hPeerDown : route.net.peer route.gatewayOut = some route.sinkEnd := rfl
  have hHomeUp : route.net.home route.gatewayIn = none := rfl
  have hHomeDown : route.net.home route.sinkEnd = some route.receiver := rfl
  refine ⟨?_, fun hSpares => ?_, fun hRest hRunning hKind =>
    route.underway_nil hRest hRunning hKind⟩
  · have hUp := messages_hop_sublist hPeerUp hTopic hNothing
      (fun label hLabel => (hOpen label hLabel).1) run
    have hDown := messages_hop_sublist hPeerDown hTopic hNothing
      (fun label hLabel => (hOpen label hLabel).2.1) run
    rw [hHomeUp, ← hGateway, hGiven, List.append_assoc] at hUp
    rw [hHomeDown, ← hClient, hSink, List.append_assoc] at hDown
    have hBoth := (hDown.append_right (route.upward state)).trans hUp
    simpa only [Launch.Route.underway, Launch.Route.downward, List.append_assoc] using hBoth
  · have hUp := messages_hop hPeerUp hTopic hNothing
      (fun label hLabel => ⟨(hSpares label hLabel).1, (hOpen label hLabel).1⟩) run
    have hDown := messages_hop hPeerDown hTopic hNothing
      (fun label hLabel => ⟨(hSpares label hLabel).2, (hOpen label hLabel).2.1⟩) run
    rw [hHomeUp, ← hGateway, hGiven, hDown, hHomeDown, ← hClient, hSink] at hUp
    rw [hUp]
    simp only [Launch.Route.underway, Launch.Route.downward, Launch.Route.upward,
      List.append_assoc]

namespace RelayExample

/-- A client that listens to a topic, and one that talks on it. -/
def launch : Launch Bool where
  topics
    | none => []
    | some false => [⟨"sub", "tcp", "listener_node", "/chatter", "std_msgs/msg/String"⟩]
    | some true => [⟨"pub", "tcp", "talker_node", "/chatter", "std_msgs/msg/String"⟩]
  certificate _ := TopicExample.cert
  protocols := by simp

def threadName : launch.Socket → GDPName
  | (⟨false, none⟩, false) => .ofBytes 1 1 1 1
  | (⟨false, none⟩, true) => .ofBytes 2 1 1 1
  | (⟨false, some _⟩, false) => .ofBytes 3 1 1 1
  | (⟨false, some _⟩, true) => .ofBytes 4 1 1 1
  | (⟨true, none⟩, false) => .ofBytes 1 2 1 1
  | (⟨true, none⟩, true) => .ofBytes 2 2 1 1
  | (⟨true, some _⟩, false) => .ofBytes 3 2 1 1
  | (⟨true, some _⟩, true) => .ofBytes 4 2 1 1

def route : launch.Route LaunchExample.sha threadName where
  sender := false
  receiver := true
  source := ⟨0, by decide⟩
  sink := ⟨0, by decide⟩
  topic := by decide +kernel
  thread := by decide
  node := by decide +kernel

def names : List GDPName := [route.name, .ofBytes 1 2 1 1]

/-- The tasks begin, and the gateway hears of the topic from the client of the sink. -/
def early : List (NetLabel (Option Bool) launch.Socket launch.Task) :=
  [.connStart route.sourceEnd, .connStart route.gatewayIn, .connStart route.sinkEnd,
    .connStart route.gatewayOut, .rosAdvertise route.sourceTask, .rosAdvertise route.sinkTask,
    .ribChannel (some true), .ribChannel (some true), .flush (some true),
    .ribStatus (some true) names, .connSend route.sinkEnd, .connSend route.sinkEnd,
    .connRecv route.gatewayOut, .connRecv route.gatewayOut, .ribChannel none, .ribChannel none]

/-- Of three messages, one is published, one is at the other client, and one at the
gateway. -/
def late : List (NetLabel (Option Bool) launch.Socket launch.Task) :=
  [.rosForward route.sourceTask [7], .rosForward route.sourceTask [8], .connSend route.sourceEnd,
    .connRecv route.gatewayIn, .ribPacket none names, .connSend route.sourceEnd,
    .connRecv route.gatewayIn, .ribPacket none names, .connSend route.gatewayOut,
    .connRecv route.sinkEnd, .ribPacket (some true) names, .connSend route.gatewayOut,
    .connRecv route.sinkEnd, .rosRecv route.sinkTask, .rosForward route.sourceTask [9],
    .connSend route.sourceEnd, .connRecv route.gatewayIn]

end RelayExample

open RelayExample in
/-- One message is published at the other client, and two are underway. -/
theorem relayed_in_order_example : ∃ ready before state after,
    Run route.net.Steps (.initial fun _ => ∅) early ready before ∧
      Run route.net.Steps ready late state after ∧
      (after.flatMap (Observation.publishedBy route.sinkTask)).flatMap
        (Copy.messageOf route.sourceTask) = [[7]] ∧ route.underway state = [[8], [9]] := by
  have hRun : (runOption route.net.next (.initial fun _ => ∅) early).any (fun first =>
      route.Ready first.1 ∧ (runOption route.net.next first.1 late).any fun second =>
        (second.2.flatMap (Observation.publishedBy route.sinkTask)).flatMap
          (Copy.messageOf route.sourceTask) = [[7]]) = true := by decide +kernel
  simp only [Option.any_eq_true, decide_eq_true_eq] at hRun
  obtain ⟨⟨ready, before⟩, hEarly, hReady, ⟨state, after⟩, hLate, hPublished⟩ := hRun
  have prior := runOption_eq_some_iff.mp hEarly
  have run := runOption_eq_some_iff.mp hLate
  obtain ⟨-, hAll, -⟩ := relayed_in_order route prior (by simp [early]) hReady run (by decide)
  have hRelayed := hAll (by decide)
  have hGiven : late.flatMap (NetLabel.messageOf route.sourceTask) = [[7], [8], [9]] := by decide
  rw [hGiven, hPublished] at hRelayed
  exact ⟨ready, before, state, after, prior, run, hPublished, (List.cons.inj hRelayed).2.symm⟩

end GdpRouter
