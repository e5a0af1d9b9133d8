import GdpRouter.TopicManager
import GdpRouter.Deployment.Echo
import GdpRouter.Deployment.Paths

/-! The network that the program builds when any number of clients peer with one
gateway. A client opens one connection to advertise and a direct one for each of its ROS
tasks. A message goes up over a direct connection, and comes down over the advertising
one: so it is never at more than three routers. -/
namespace GdpRouter

open Multimap Transition

/-- What a ROS task hashes for a name. Image tasks take a type of their own. -/
def RosTask.fields (task : RosTask) (name : String) (certificate : Bytes) : TopicFields :=
  match task.function with
  | .rosPublisher | .rosSubscriber => ⟨name, task.topicType, certificate⟩
  | .rosPublisherImage | .rosSubscriberImage => ⟨name, "sensor_msgs/CompressedImage", certificate⟩

def RosFunction.kind : RosFunction → RosKind
  | .rosPublisher | .rosPublisherImage => .publisher
  | .rosSubscriber | .rosSubscriberImage => .subscriber

/-- Clients `C` and their gateway `none`, with the topics that their managers create.
Only the clients have `peer_with_gateway`, and they know their protocols. -/
structure Launch (C : Type) where
  topics : Option C → List RosTopic
  certificate : Option C → Bytes
  protocols : ∀ client, ∀ topic ∈ topics (some client),
    topic.protocol = "tcp" ∨ topic.protocol = "dtls"

namespace Launch

variable {C : Type} (launch : Launch C)

def tasks (router : Option C) : List RosTask :=
  (launch.topics router).filterMap (RosTopic.task router.isSome)

/-- A connection of a client: to advertise, or for one of its tasks. -/
abbrev Link := Σ client : C, Option (Fin (launch.tasks (some client)).length)

/-- An end of a connection, and whether it is at the gateway. -/
abbrev Socket := launch.Link × Bool

abbrev Task := Σ router : Option C, Fin (launch.tasks router).length

def task (task : launch.Task) : RosTask := (launch.tasks task.1).get task.2

def home (socket : launch.Socket) : Option C :=
  if socket.2 then none else some socket.1.1

def kind : launch.Socket → ConnectionKind
  | (_, true) => .listener
  | (⟨_, none⟩, false) => .toPeer
  | (⟨_, some _⟩, false) => .direct

/-- The advertising connection, at the client and at the gateway. -/
def advertising (client : C) : launch.Socket := (⟨client, none⟩, false)

def advertised (client : C) : launch.Socket := (⟨client, none⟩, true)

/-- The client's end of a direct connection. -/
def direct {client : C} (index : Fin (launch.tasks (some client)).length) : launch.Socket :=
  (⟨client, some index⟩, false)

def ribTx : launch.Task → Option launch.Socket
  | ⟨none, _⟩ => none
  | ⟨some _, index⟩ => some (launch.direct index)

/-- The names are those of the hash, and those that the connections drew. -/
def network {σ : Type} (sha : Sha256 σ) (threadName : launch.Socket → GDPName) :
    Network (Option C) launch.Socket launch.Task where
  home := launch.home
  peer socket := some (socket.1, !socket.2)
  kind := launch.kind
  threadName := threadName
  gateway := Option.map launch.advertising
  rosHome task := task.1
  rosKind task := (launch.task task).function.kind
  nodeName task :=
    ((launch.task task).fields (launch.task task).nodeName (launch.certificate task.1)).gdpName sha
  topicName task :=
    ((launch.task task).fields (launch.task task).topicName (launch.certificate task.1)).gdpName sha
  ribTx := launch.ribTx
  peer_symm := by
    rintro ⟨link, side⟩ there ⟨⟩
    simp
  gateway_home := by
    rintro (_ | client) endpoint ⟨⟩
    exact ⟨rfl, rfl⟩
  ribTx_home := by
    rintro ⟨_ | client, index⟩ endpoint ⟨⟩
    exact ⟨rfl, rfl⟩

/-- The queue that a task got is the one that its manager gave it. -/
theorem mTx_task (task : launch.Task) :
    (launch.ribTx task = none ∧ (launch.task task).mTx = .rib) ∨
      ∃ socket, launch.ribTx task = some socket ∧
        ((launch.task task).mTx = .tcpToPeerDirect ∨
          (launch.task task).mTx = .dtlsToPeerDirect) := by
  obtain ⟨router, index⟩ := task
  have hMem : (launch.tasks router).get index ∈ launch.tasks router := List.get_mem _ _
  obtain ⟨topic, hTopic, hTask⟩ := List.mem_filterMap.mp hMem
  obtain ⟨function, -, hTask⟩ := Option.map_eq_some_iff.mp hTask
  have hHop : (launch.task ⟨router, index⟩).mTx = nextHop router.isSome topic.protocol := by
    rw [task, ← hTask]
  rw [hHop]
  cases router with
  | none => exact .inl ⟨rfl, rfl⟩
  | some client =>
      rcases launch.protocols client topic hTopic with hTcp | hDtls
      · exact .inr ⟨_, rfl, .inl (by simp [nextHop, hTcp])⟩
      · exact .inr ⟨_, rfl, .inr (by simp [nextHop, hDtls])⟩

/-- Where a packet has been when a RIB has it. -/
def AtRib : Option C → List (Option C) → Prop
  | none, visited => visited = [none] ∨ ∃ client, visited = [some client, none]
  | some client, visited => visited = [none, some client] ∨
      ∃ other, visited = [some other, none, some client]

/-- What goes over the connections, and in which direction. -/
def crosses (action : GdpAction) (visited : List (Option C)) : launch.Socket → Prop
  | (⟨_, none⟩, true) => AtRib none visited
  | (⟨_, some _⟩, true) => False
  | (⟨client, none⟩, false) => action = .advertise ∧ visited = [some client]
  | (⟨client, some _⟩, false) => action = .forward ∧ visited = [some client]

/-- Clients register nothing but themselves and their tasks, and the gateway registers
clients for their advertising connections only. -/
def routes (threadName : launch.Socket → GDPName) :
    Local (Option C) launch.Socket launch.Task where
  inRib router copy := AtRib router copy.trace.visited ∧
    ∀ client, router = some client → copy.packet.source = threadName (launch.advertising client)
  queued
    | .ros task, copy => AtRib task.1 copy.trace.visited
    | .conn socket, copy => launch.crosses copy.packet.action copy.trace.visited socket
  flying socket frame :=
    launch.crosses frame.header.action frame.trace.visited (socket.1, !socket.2)
  registered router channel :=
    (∃ task : launch.Task, channel.channel = .ros task ∧ task.1 = router) ∨
      match router with
      | none => ∃ client, channel.channel = .conn (launch.advertised client)
      | some client => channel.channel = .conn (launch.advertising client) ∧
          channel.advertisement.source = threadName (launch.advertising client)

/-- No step of the deployment takes a frame off its way. -/
theorem routes_preserved {σ : Type} (sha : Sha256 σ) (threadName : launch.Socket → GDPName) :
    (launch.routes threadName).Preserved (launch.network sha threadName) fun _ => True where
  routed := by
    rintro router copy dst ⟨hVisited, hSource⟩ hDst hOther
    rcases hDst with ⟨task, hTask, rfl⟩ | hDst
    · rw [hTask]
      exact hVisited
    · cases router with
      | none =>
          obtain ⟨client, hClient⟩ := hDst
          rw [hClient]
          exact hVisited
      | some client => exact absurd (hDst.2.trans (hSource client rfl).symm) hOther
  announced := by
    rintro (_ | client) endpoint name id ⟨⟩
    exact ⟨rfl, rfl⟩
  carried := by
    rintro ⟨link, side⟩ there copy ⟨⟩ hCopy
    simpa [routes, Copy.frame] using hCopy
  forwarded := by
    rintro ⟨⟨client, _ | index⟩, _ | _⟩ frame hFrame hAction
    · -- down over the advertising connection
      have hVisited : AtRib (some client) (frame.trace.visited ++ [some client]) := by
        rcases hFrame with hGateway | ⟨other, hOther⟩
        · exact .inl (by rw [hGateway]; rfl)
        · exact .inr ⟨other, by rw [hOther]; rfl⟩
      refine ⟨hVisited, ?_⟩
      rintro other ⟨⟩
      rfl
    · cases hFrame.1.symm.trans hAction
    · cases hFrame
    · -- up over a direct connection
      have hVisited : frame.trace.visited = [some client] := hFrame.2
      refine ⟨.inr ⟨client, ?_⟩, ?_⟩
      · simp [Network.arrive, hVisited, network, home]
      · rintro other ⟨⟩
  advertised := by
    rintro ⟨⟨client, _ | index⟩, _ | _⟩ frame hFrame hAction
    · exact .inr ⟨rfl, rfl⟩
    · exact .inr ⟨client, rfl⟩
    · cases hFrame
    · cases hFrame.1.symm.trans hAction
  self := by
    rintro ⟨⟨client, _ | index⟩, _ | _⟩ hKind
    · exact .inr ⟨rfl, rfl⟩
    · cases hKind
    · cases hKind
    · cases hKind
  node task := .inl ⟨task, rfl, rfl⟩
  wired := by
    rintro ⟨link, side⟩ header payload id - ⟨⟩
  spoken := by
    rintro ⟨_ | client, index⟩ payload id - ⟨⟩
    refine ⟨.inl rfl, ?_⟩
    rintro other ⟨⟩
  injected := by
    rintro ⟨_ | client, index⟩ endpoint payload id - ⟨⟩
    exact ⟨rfl, rfl⟩

/-- Each client, next to the gateway, is a deployment of the kind that the
delivery of a topic is about. -/
theorem deployed {σ : Type} (sha : Sha256 σ) (threadName : launch.Socket → GDPName) (client : C) :
    (launch.network sha threadName).Deployed (launch.advertising client)
      (launch.advertised client) where
  gateway := rfl
  peer := rfl
  listener := rfl
  accepted := by
    rintro ⟨link, _ | _⟩ other ⟨⟩ hHome -
    · cases hHome
    · rfl

/-- The two connections of a client with a task join the same routers. -/
theorem not_isForest {σ : Type} (sha : Sha256 σ) (threadName : launch.Socket → GDPName)
    {client : C} (hTasks : launch.tasks (some client) ≠ []) :
    ¬(launch.network sha threadName).IsForest := by
  intro hForest
  let index : Fin (launch.tasks (some client)).length := ⟨0, List.length_pos_iff.mpr hTasks⟩
  have hSame := @hForest.single (launch.advertising client) (launch.advertised client)
    (launch.direct index) (⟨client, some index⟩, true) rfl rfl rfl rfl
  cases congrArg Prod.fst hSame

end Launch

/-- The topic managers of a gateway and its clients, each somewhere in a run. -/
structure Managers (C : Type) where
  config : Option C → ManagerConfig
  labels : Option C → List TopicLabel
  finish : Option C → TopicManager
  seen : Option C → List TopicEvent
  run : ∀ router, Run (TopicManaging (config router)) (.initial (config router)) (labels router)
    (finish router) (seen router)
  running : ∀ router, .panicked ∉ seen router
  peerWithGateway : ∀ router, (config router).peerWithGateway = router.isSome
  rosProtocol : ∀ client, (config (some client)).rosProtocol = "tcp" ∨
    (config (some client)).rosProtocol = "dtls"
  protocols : ∀ client, ∀ topic ∈ (config (some client)).ros,
    topic.protocol = "tcp" ∨ topic.protocol = "dtls"

/-- The network of what the managers have created. -/
def Managers.launch {C : Type} (managers : Managers C) (certificate : Option C → Bytes) :
    Launch C where
  topics router := (managers.seen router).flatMap TopicEvent.createdTopic
  certificate := certificate
  protocols client topic hTopic := by
    obtain ⟨_, _, _, hManaged⟩ := TopicManager.managed_of_run (managers.run (some client))
      (managers.running (some client))
    rcases hManaged.protocol hTopic with hRos | ⟨other, hOther, hSame⟩
    · rw [hRos]
      exact managers.rosProtocol client
    · rw [← hSame]
      exact managers.protocols client other hOther

/-- Its ROS tasks are the ones that the managers have started. -/
theorem Managers.launch_tasks {C : Type} (managers : Managers C) (certificate : Option C → Bytes)
    (router : Option C) :
    (managers.launch certificate).tasks router =
      (managers.seen router).flatMap TopicEvent.spawnedTask := by
  obtain ⟨_, _, _, hManaged⟩ := TopicManager.managed_of_run (managers.run router)
    (managers.running router)
  rw [hManaged.tasks, ← hManaged.created, managers.peerWithGateway router]
  rfl

namespace LaunchExample

/-- SHA-256 of two nodes as well. -/
def digest (bytes : Bytes) : Vector UInt8 32 :=
  if bytes = (⟨"listener_node", "std_msgs/msg/String", TopicExample.cert⟩ : TopicFields).fed then
    #v[45, 219, 242, 96, 233, 116, 58, 160, 111, 59, 156, 190, 203, 72, 69, 91, 8, 221, 16, 51, 64,
      57, 56, 253, 167, 89, 196, 140, 230, 201, 196, 57]
  else if bytes = (⟨"talker_node", "std_msgs/msg/String", TopicExample.cert⟩ : TopicFields).fed then
    #v[37, 143, 155, 43, 166, 170, 173, 19, 61, 61, 93, 224, 243, 166, 97, 219, 150, 25, 141, 160,
      77, 229, 250, 228, 249, 103, 131, 244, 23, 169, 41, 27]
  else TopicExample.digest bytes

def sha : Sha256 Bytes := ⟨.transcript, digest⟩

/-- One client with one subscriber. -/
def launch : Launch Unit where
  topics
    | none => []
    | some () => [⟨"sub", "tcp", "listener_node", "/chatter", "std_msgs/msg/String"⟩]
  certificate _ := TopicExample.cert
  protocols := by simp

def threadName : launch.Socket → GDPName
  | (⟨(), none⟩, false) => .ofBytes 1 1 1 1
  | (⟨(), none⟩, true) => .ofBytes 2 1 1 1
  | (⟨(), some _⟩, false) => .ofBytes 3 1 1 1
  | (⟨(), some _⟩, true) => .ofBytes 4 1 1 1

def index : Fin (launch.tasks (some ())).length := ⟨0, by decide⟩

def task : launch.Task := ⟨some (), index⟩

def net : Network (Option Unit) launch.Socket launch.Task :=
  launch.network sha threadName

def names : List GDPName := [net.topicName task, .ofBytes 1 1 1 1]

/-- The client advertises its topic, and its message comes back to it. -/
def labels : List (NetLabel (Option Unit) launch.Socket launch.Task) :=
  [.connStart (launch.advertised ()), .connStart (launch.advertising ()),
    .connStart (launch.direct index), .connStart (⟨(), some index⟩, true), .rosAdvertise task,
    .ribChannel (some ()), .ribChannel (some ()), .flush (some ()), .ribStatus (some ()) names,
    .connSend (launch.advertising ()), .connSend (launch.advertising ()),
    .connRecv (launch.advertised ()), .connRecv (launch.advertised ()), .ribChannel none,
    .ribChannel none, .rosForward task [7], .connSend (launch.direct index),
    .connRecv (⟨(), some index⟩, true), .ribPacket none names, .connSend (launch.advertised ()),
    .connRecv (launch.advertising ()), .ribPacket (some ()) names]

/-- The message, as it is when the client has it again. -/
def heard : Copy (Option Unit) launch.Socket launch.Task :=
  ⟨constructGdpForwardFromBytes (net.topicName task) (.ofBytes 1 1 1 1) [7],
    some (launch.advertising ()), ⟨1, some task, [some (), none, some ()]⟩⟩

end LaunchExample

end GdpRouter
