import Mathlib.Data.List.AList
import Mathlib.Data.List.Infix
import GdpRouter.Semantics.Run
import GdpRouter.TopicNames

/-! The task that starts ROS tasks: first those of the configuration, then one for
each topic that ROS reports and that it has not met before. What ROS and its command
line report enters with the labels. -/
namespace GdpRouter

open Transition

/-- An entry of `ros` in the configuration, or what the manager makes of a topic. -/
structure RosTopic where
  action : String
  protocol : String
  nodeName : String
  topicName : String
  topicType : String
  deriving DecidableEq, Repr

inductive RosFunction where
  | rosPublisher
  | rosPublisherImage
  | rosSubscriber
  | rosSubscriberImage
  deriving DecidableEq, Repr

/-- Who reads what is sent on `m_tx`. -/
inductive NextHop where
  | rib
  | tcpToPeerDirect
  | dtlsToPeerDirect
  /-- The receiving half was dropped. -/
  | nobody
  deriving DecidableEq, Repr

structure RosTask where
  function : RosFunction
  mTx : NextHop
  nodeName : String
  topicName : String
  topicType : String
  deriving DecidableEq, Repr

inductive TopicEvent where
  | scanned (topics : List (String × List String))
  /-- What `ros2 topic info` said. -/
  | asked (topicName info : String)
  | created (topic : RosTopic)
  | connected (hop : NextHop)
  | spawned (task : RosTask)
  | panicked
  deriving DecidableEq, Repr

/-- With an unknown protocol `m_rx` goes nowhere, and is dropped on return. -/
def nextHop (peerWithGateway : Bool) (protocol : String) : NextHop :=
  if peerWithGateway then
    if protocol = "dtls" then .dtlsToPeerDirect
    else if protocol = "tcp" then .tcpToPeerDirect
    else .nobody
  else .rib

/-- The direct connection, if there is to be one. -/
def NextHop.connection : NextHop → List TopicEvent
  | .tcpToPeerDirect => [.connected .tcpToPeerDirect]
  | .dtlsToPeerDirect => [.connected .dtlsToPeerDirect]
  | .rib | .nobody => []

/-- Images go to tasks of their own. -/
def rosFunction (action topicType : String) : Option RosFunction :=
  if action = "sub" then
    some (if topicType = "sensor_msgs/msg/CompressedImage" then .rosSubscriberImage
      else .rosSubscriber)
  else if action = "pub" then
    some (if topicType = "sensor_msgs/msg/CompressedImage" then .rosPublisherImage
      else .rosPublisher)
  else none

def topicCreator (peerWithGateway : Bool) (topic : RosTopic) : List TopicEvent :=
  if topic.action = "noop" then []
  else
    let mTx := nextHop peerWithGateway topic.protocol
    mTx.connection ++
      match rosFunction topic.action topic.topicType with
      | some function =>
          [.spawned ⟨function, mTx, topic.nodeName, topic.topicName, topic.topicType⟩]
      | none => [.panicked]

/-- `output_str.contains` -/
def outputContains (info text : String) : Bool := decide (text.toList <:+: info.toList)

def determineTopicAction (info : String) : String :=
  if outputContains info "Publisher count: 0" then "pub"
  else if outputContains info "Subscription count: 0" then "sub"
  else "noop"

/-- The entries that are not read yet, `topic_status`, and what is left of
`current_topics`. -/
structure TopicManager where
  config : List RosTopic
  topicStatus : AList fun _ : String => String
  currentTopics : List (String × List String)
  stopped : Bool

inductive TopicLabel where
  | configure
  | scan (topics : List (String × List String))
  /-- `info` is what the command line prints, if it runs and prints text. -/
  | examine (info : Option String) (random : UInt32)
  deriving DecidableEq, Repr

/-- What the manager reads of the configuration. -/
structure ManagerConfig where
  peerWithGateway : Bool
  rosProtocol : String
  automaticTopicDiscovery : Bool
  ros : List RosTopic

namespace TopicManager

def initial (config : ManagerConfig) : TopicManager := ⟨config.ros, ∅, [], false⟩

/-- `topic_creator`, and the entry of the topic if it returns. -/
def create (state : TopicManager) (peerWithGateway : Bool) (topic : RosTopic) :
    TopicManager × List TopicEvent :=
  let out := topicCreator peerWithGateway topic
  if .panicked ∈ out then ({ state with stopped := true }, .created topic :: out)
  else ({ state with topicStatus := state.topicStatus.insert topic.topicName topic.action },
    .created topic :: out)

/-- A topic without a type, or a command line that fails, is a panic as well. -/
def next (config : ManagerConfig) (state : TopicManager) :
    TopicLabel → Option (TopicManager × List TopicEvent)
  | .configure =>
      match state.stopped, state.config with
      | false, topic :: rest =>
          some ({ state with config := rest }.create config.peerWithGateway topic)
      | _, _ => none
  | .scan topics =>
      match state.stopped, state.config, state.currentTopics with
      | false, [], [] =>
          if config.automaticTopicDiscovery then
            some ({ state with currentTopics := topics }, [.scanned topics])
          else none
      | _, _, _ => none
  | .examine info random =>
      match state.stopped, state.currentTopics with
      | false, (topicName, topicTypes) :: rest =>
          let taken : TopicManager := { state with currentTopics := rest }
          if topicName ∈ state.topicStatus then some (taken, [])
          else
            match info, topicTypes with
            | some info, topicType :: _ =>
                let topic : RosTopic := ⟨determineTopicAction info, config.rosProtocol,
                  "ros_manager_node_" ++ toString random, topicName, topicType⟩
                let (next, seen) := taken.create config.peerWithGateway topic
                some (next, .asked topicName info :: seen)
            | some info, [] =>
                some ({ taken with stopped := true }, [.asked topicName info, .panicked])
            | none, _ => some ({ taken with stopped := true }, [.panicked])
      | _, _ => none

end TopicManager

def TopicManaging (config : ManagerConfig) : Step TopicManager TopicLabel TopicEvent :=
  OfOption (TopicManager.next config)

/-- What one step can do. -/
inductive TopicMove (config : ManagerConfig) :
    TopicManager → TopicLabel → TopicManager → List TopicEvent → Prop where
  | configure {state : TopicManager} {topic : RosTopic} {rest : List RosTopic}
      (hRunning : state.stopped = false) (hConfig : state.config = topic :: rest) :
      TopicMove config state .configure
        (TopicManager.create { state with config := rest } config.peerWithGateway topic).1
        (TopicManager.create { state with config := rest } config.peerWithGateway topic).2
  | scan {state : TopicManager} (topics : List (String × List String))
      (hRunning : state.stopped = false) (hConfig : state.config = [])
      (hCurrent : state.currentTopics = []) :
      TopicMove config state (.scan topics) { state with currentTopics := topics }
        [.scanned topics]
  | pass {state : TopicManager} {topic : String × List String}
      {rest : List (String × List String)} (info : Option String) (random : UInt32)
      (hRunning : state.stopped = false) (hCurrent : state.currentTopics = topic :: rest)
      (hKnown : topic.1 ∈ state.topicStatus) :
      TopicMove config state (.examine info random) { state with currentTopics := rest } []
  | discover {state : TopicManager} {topic : RosTopic} {types : List String}
      {rest : List (String × List String)} (info : String) (random : UInt32)
      (hRunning : state.stopped = false)
      (hCurrent : state.currentTopics = (topic.topicName, topic.topicType :: types) :: rest)
      (hNew : topic.topicName ∉ state.topicStatus)
      (hAction : topic.action = determineTopicAction info)
      (hProtocol : topic.protocol = config.rosProtocol) :
      TopicMove config state (.examine (some info) random)
        (TopicManager.create { state with currentTopics := rest } config.peerWithGateway topic).1
        (.asked topic.topicName info ::
          (TopicManager.create { state with currentTopics := rest } config.peerWithGateway
            topic).2)
  | fail {state : TopicManager} {topic : String × List String}
      {rest : List (String × List String)} {info : Option String} (random : UInt32)
      (asked : List TopicEvent) (hRunning : state.stopped = false)
      (hCurrent : state.currentTopics = topic :: rest) (hNew : topic.1 ∉ state.topicStatus)
      (hFail : info = none ∨ topic.2 = []) :
      TopicMove config state (.examine info random)
        { state with currentTopics := rest, stopped := true } (asked ++ [.panicked])

/-- Every step of the manager is one of these moves. -/
theorem TopicManaging.move {config : ManagerConfig} {state next : TopicManager}
    {label : TopicLabel} {seen : List TopicEvent}
    (h : TopicManaging config state label next seen) : TopicMove config state label next seen := by
  unfold TopicManaging OfOption at h
  cases label with
  | configure =>
      simp only [TopicManager.next] at h
      split at h
      · rename_i topic rest hRunning hConfig
        obtain ⟨rfl, rfl⟩ := Prod.mk.inj (Option.some.inj h)
        exact .configure hRunning hConfig
      · cases h
  | scan topics =>
      simp only [TopicManager.next] at h
      split at h
      · rename_i hRunning hConfig hCurrent
        split at h
        · cases h
          exact .scan topics hRunning hConfig hCurrent
        · cases h
      · cases h
  | examine info random =>
      simp only [TopicManager.next] at h
      split at h
      · rename_i topicName topicTypes rest hRunning hCurrent
        split at h
        · rename_i hKnown
          cases h
          exact .pass info random hRunning hCurrent hKnown
        · rename_i hNew
          split at h
          · rename_i info topicType types
            obtain ⟨rfl, rfl⟩ := Prod.mk.inj (Option.some.inj h)
            exact .discover info random hRunning hCurrent hNew rfl rfl
          · rename_i info
            cases h
            exact .fail random [.asked topicName info] hRunning hCurrent hNew (.inr rfl)
          · cases h
            exact .fail random [] hRunning hCurrent hNew (.inl rfl)
      · cases h

/-- The first occurrences of what is not known. -/
def firstSights {α : Type} [DecidableEq α] (known items : List α) : List α :=
  (items.filter (· ∉ known)).eraseDups

section FirstSights

variable {α : Type} [DecidableEq α] (known items : List α)

theorem mem_firstSights {item : α} :
    item ∈ firstSights known items ↔ item ∈ items ∧ item ∉ known := by
  simp [firstSights]

/-- The last item is a first sight when it neither was known nor came before. -/
theorem firstSights_snoc (item : α) :
    firstSights known (items ++ [item]) =
      firstSights known items ++ if item ∈ known ∨ item ∈ items then [] else [item] := by
  unfold firstSights
  rw [List.filter_append, List.eraseDups_append]
  congr 1
  by_cases hKnown : item ∈ known
  · simp [hKnown, List.removeAll]
  · by_cases hItems : item ∈ items <;> simp [hKnown, hItems, List.removeAll, List.eraseDups_cons]

end FirstSights

section History

def TopicEvent.scannedTopics : TopicEvent → List (String × List String)
  | .scanned topics => topics
  | _ => []

def TopicEvent.askedAbout : TopicEvent → List String
  | .asked topicName _ => [topicName]
  | _ => []

def TopicEvent.createdTopic : TopicEvent → List RosTopic
  | .created topic => [topic]
  | _ => []

def TopicEvent.spawnedTask : TopicEvent → List RosTask
  | .spawned task => [task]
  | _ => []

/-- The task of a topic, if its action is one of the two. -/
def RosTopic.task (peerWithGateway : Bool) (topic : RosTopic) : Option RosTask :=
  (rosFunction topic.action topic.topicType).map fun function =>
    ⟨function, nextHop peerWithGateway topic.protocol, topic.nodeName, topic.topicName,
      topic.topicType⟩

/-- What a call of `topic_creator` starts, when it returns. It creates nothing else. -/
theorem topicCreator_events {peerWithGateway : Bool} {topic : RosTopic}
    (h : .panicked ∉ topicCreator peerWithGateway topic) :
    (topicCreator peerWithGateway topic).flatMap TopicEvent.spawnedTask =
        (topic.task peerWithGateway).toList ∧
      (topicCreator peerWithGateway topic).flatMap TopicEvent.scannedTopics = [] ∧
      (topicCreator peerWithGateway topic).flatMap TopicEvent.askedAbout = [] ∧
      (topicCreator peerWithGateway topic).flatMap TopicEvent.createdTopic = [] := by
  unfold topicCreator at h ⊢
  by_cases hNoop : topic.action = "noop"
  · simp [hNoop, RosTopic.task, rosFunction]
  · rw [if_neg hNoop] at h ⊢
    cases hFunction : rosFunction topic.action topic.topicType with
    | none => simp [hFunction] at h
    | some function =>
        cases hHop : nextHop peerWithGateway topic.protocol <;>
          simp [RosTopic.task, hFunction, hHop, NextHop.connection, TopicEvent.spawnedTask,
            TopicEvent.scannedTopics, TopicEvent.askedAbout, TopicEvent.createdTopic]

theorem TopicManager.create_stopped_iff (state : TopicManager) (peerWithGateway : Bool)
    (topic : RosTopic) (hRunning : state.stopped = false) :
    (state.create peerWithGateway topic).1.stopped = true ↔
      .panicked ∈ (state.create peerWithGateway topic).2 := by
  unfold TopicManager.create
  by_cases hPanic : .panicked ∈ topicCreator peerWithGateway topic <;> simp [hPanic, hRunning]

/-- A call that does not stop the manager. -/
theorem TopicManager.create_running {state : TopicManager} {peerWithGateway : Bool}
    {topic : RosTopic} (h : (state.create peerWithGateway topic).1.stopped = false) :
    .panicked ∉ topicCreator peerWithGateway topic ∧
      state.create peerWithGateway topic =
        ({ state with topicStatus := state.topicStatus.insert topic.topicName topic.action },
          .created topic :: topicCreator peerWithGateway topic) := by
  unfold TopicManager.create at h ⊢
  by_cases hPanic : .panicked ∈ topicCreator peerWithGateway topic
  · simp [hPanic] at h
  · simp [hPanic]

end History

/-- ROS reported the topic, and the command line was asked about it. -/
def RosTopic.Found (topic : RosTopic) (config : ManagerConfig) (seen : List TopicEvent) : Prop :=
  topic.protocol = config.rosProtocol ∧
    (∃ info, .asked topic.topicName info ∈ seen ∧ topic.action = determineTopicAction info) ∧
    ∃ types, (topic.topicName, topic.topicType :: types) ∈ seen.flatMap TopicEvent.scannedTopics

/-- What a manager that runs has done: it has read `configured`, it has looked at `past`,
and it made `discovered` of that. -/
structure TopicManager.Managed (config : ManagerConfig) (state : TopicManager)
    (seen : List TopicEvent) (configured discovered : List RosTopic)
    (past : List (String × List String)) : Prop where
  read : config.ros = configured ++ state.config
  waiting : state.config ≠ [] → past = [] ∧ state.currentTopics = []
  scanned : seen.flatMap TopicEvent.scannedTopics = past ++ state.currentTopics
  created : seen.flatMap TopicEvent.createdTopic = configured ++ discovered
  names : discovered.map RosTopic.topicName =
    firstSights (configured.map RosTopic.topicName) (past.map Prod.fst)
  asked : seen.flatMap TopicEvent.askedAbout = discovered.map RosTopic.topicName
  found : ∀ topic ∈ discovered, topic.Found config seen
  status : ∀ name, name ∈ state.topicStatus ↔
    name ∈ (configured ++ discovered).map RosTopic.topicName
  tasks : seen.flatMap TopicEvent.spawnedTask =
    (configured ++ discovered).filterMap (RosTopic.task config.peerWithGateway)

namespace TopicManager.Managed

variable {config : ManagerConfig} {state : TopicManager} {seen : List TopicEvent}
  {configured discovered : List RosTopic} {past : List (String × List String)}

/-- At the start nothing was created, and nothing known. -/
theorem initial (config : ManagerConfig) : (TopicManager.initial config).Managed config [] [] [] []
    where
  read := rfl
  waiting _ := ⟨rfl, rfl⟩
  scanned := rfl
  created := rfl
  names := rfl
  asked := rfl
  found := by simp
  status name := by simp [TopicManager.initial]
  tasks := rfl

/-- While there are entries to read, nothing was discovered. -/
theorem discovered_eq_nil (h : state.Managed config seen configured discovered past)
    (hConfig : state.config ≠ []) : discovered = [] := by
  have hNames := h.names
  rw [(h.waiting hConfig).1] at hNames
  simpa [firstSights] using hNames

/-- A configured topic is created when its turn comes. -/
theorem configure {topic : RosTopic} {rest : List RosTopic}
    (h : state.Managed config seen configured discovered past)
    (hConfig : state.config = topic :: rest)
    (hReturns : .panicked ∉ topicCreator config.peerWithGateway topic) :
    TopicManager.Managed config { state with
        config := rest
        topicStatus := state.topicStatus.insert topic.topicName topic.action }
      (seen ++ .created topic :: topicCreator config.peerWithGateway topic)
      (configured ++ [topic]) discovered past := by
  have hSome : state.config ≠ [] := by simp [hConfig]
  obtain rfl := h.discovered_eq_nil hSome
  obtain ⟨rfl, hCurrent⟩ := h.waiting hSome
  obtain ⟨hSpawned, hScanned, hAsked, hCreated⟩ := topicCreator_events hReturns
  constructor
  case read => rw [h.read, hConfig, List.append_assoc]; rfl
  case waiting => exact fun _ => ⟨rfl, hCurrent⟩
  case scanned => simp [h.scanned, hScanned, TopicEvent.scannedTopics]
  case created => simp [h.created, hCreated, TopicEvent.createdTopic]
  case names => rfl
  case asked => simp [h.asked, hAsked, TopicEvent.askedAbout]
  case found => simp
  case status =>
    intro name
    simp [AList.mem_insert, h.status, or_comm]
  case tasks =>
    have hTasks := h.tasks
    rw [List.append_nil] at hTasks
    rw [List.flatMap_append, hTasks, List.flatMap_cons, hSpawned]
    cases hTask : topic.task config.peerWithGateway <;> simp [TopicEvent.spawnedTask, hTask]

/-- A new scan is begun when the last one is done. -/
theorem scan (h : state.Managed config seen configured discovered past)
    (hConfig : state.config = []) (hCurrent : state.currentTopics = [])
    (topics : List (String × List String)) :
    TopicManager.Managed config { state with currentTopics := topics } (seen ++ [.scanned topics])
      configured discovered past where
  read := h.read
  waiting hSome := absurd hConfig hSome
  scanned := by simp [h.scanned, hCurrent, TopicEvent.scannedTopics]
  created := by simp [h.created, TopicEvent.createdTopic]
  names := h.names
  asked := by simp [h.asked, TopicEvent.askedAbout]
  found topic hTopic := by
    obtain ⟨hProtocol, ⟨info, hInfo, hAction⟩, types, hTypes⟩ := h.found topic hTopic
    refine ⟨hProtocol, ⟨info, List.mem_append_left _ hInfo, hAction⟩, types, ?_⟩
    rw [List.flatMap_append]
    exact List.mem_append_left _ hTypes
  status := h.status
  tasks := by simp [h.tasks, TopicEvent.spawnedTask]

/-- Looking at one more topic makes a name of it, if the manager does not know it. -/
theorem names_snoc (h : state.Managed config seen configured discovered past)
    (topic : String × List String) :
    firstSights (configured.map RosTopic.topicName) ((past ++ [topic]).map Prod.fst) =
      discovered.map RosTopic.topicName ++
        if topic.1 ∈ state.topicStatus then [] else [topic.1] := by
  have hStatus : topic.1 ∈ state.topicStatus ↔
      topic.1 ∈ configured.map RosTopic.topicName ∨ topic.1 ∈ past.map Prod.fst := by
    rw [h.status, List.map_append, List.mem_append, h.names, mem_firstSights]
    tauto
  rw [List.map_append, List.map_singleton, firstSights_snoc, h.names]
  simp only [hStatus]

/-- The manager knows the topic. -/
theorem pass {topic : String × List String} {rest : List (String × List String)}
    (h : state.Managed config seen configured discovered past)
    (hCurrent : state.currentTopics = topic :: rest) (hKnown : topic.1 ∈ state.topicStatus) :
    TopicManager.Managed config { state with currentTopics := rest } seen configured discovered
      (past ++ [topic]) where
  read := h.read
  waiting hSome := by simp [(h.waiting hSome).2] at hCurrent
  scanned := by simp [h.scanned, hCurrent]
  created := h.created
  names := by rw [h.names_snoc, if_pos hKnown, List.append_nil]
  asked := h.asked
  found := h.found
  status := h.status
  tasks := h.tasks

/-- The manager makes something of the topic. -/
theorem discover {topic : RosTopic} {types : List String} {info : String}
    {rest : List (String × List String)}
    (h : state.Managed config seen configured discovered past)
    (hCurrent : state.currentTopics = (topic.topicName, topic.topicType :: types) :: rest)
    (hNew : topic.topicName ∉ state.topicStatus)
    (hAction : topic.action = determineTopicAction info)
    (hProtocol : topic.protocol = config.rosProtocol)
    (hReturns : .panicked ∉ topicCreator config.peerWithGateway topic) :
    TopicManager.Managed config { state with
        currentTopics := rest
        topicStatus := state.topicStatus.insert topic.topicName topic.action }
      (seen ++ .asked topic.topicName info :: .created topic ::
        topicCreator config.peerWithGateway topic)
      configured (discovered ++ [topic])
      (past ++ [(topic.topicName, topic.topicType :: types)]) := by
  obtain ⟨hSpawned, hScanned, hAsked, hCreated⟩ := topicCreator_events hReturns
  have hTopics : (seen ++ .asked topic.topicName info :: .created topic ::
      topicCreator config.peerWithGateway topic).flatMap TopicEvent.scannedTopics =
        seen.flatMap TopicEvent.scannedTopics := by
    simp [hScanned, TopicEvent.scannedTopics]
  constructor
  case read => exact h.read
  case waiting =>
    intro hSome
    simp [(h.waiting hSome).2] at hCurrent
  case scanned => rw [hTopics, h.scanned, hCurrent, List.append_assoc]; rfl
  case created => simp [h.created, hCreated, TopicEvent.createdTopic]
  case names => rw [h.names_snoc, if_neg hNew, List.map_append]; rfl
  case asked => simp [h.asked, hAsked, TopicEvent.askedAbout]
  case found =>
    intro other hOther
    unfold RosTopic.Found
    rw [hTopics]
    rcases List.mem_append.mp hOther with hOld | hLast
    · obtain ⟨hProtocol, ⟨info, hInfo, hAction⟩, hTypes⟩ := h.found other hOld
      exact ⟨hProtocol, ⟨info, List.mem_append_left _ hInfo, hAction⟩, hTypes⟩
    · obtain rfl := List.mem_singleton.mp hLast
      refine ⟨hProtocol, ⟨info, by simp, hAction⟩, types, ?_⟩
      rw [h.scanned, hCurrent]
      simp
  case status =>
    intro name
    simp only [AList.mem_insert, h.status, List.map_append, List.mem_append, List.map_cons,
      List.map_nil, List.mem_singleton]
    tauto
  case tasks =>
    rw [List.flatMap_append, h.tasks, List.flatMap_cons, List.flatMap_cons, hSpawned]
    cases hTask : topic.task config.peerWithGateway <;> simp [TopicEvent.spawnedTask, hTask]

/-- One step of a manager that still runs after it. -/
theorem step {label : TopicLabel} {next : TopicManager} {more : List TopicEvent}
    (h : state.Managed config seen configured discovered past)
    (move : TopicMove config state label next more) (hRuns : next.stopped = false) :
    ∃ configured discovered past,
      next.Managed config (seen ++ more) configured discovered past := by
  cases move with
  | configure hRunning hConfig =>
      obtain ⟨hReturns, hEq⟩ := TopicManager.create_running hRuns
      rw [hEq]
      exact ⟨_, _, _, h.configure hConfig hReturns⟩
  | scan topics hRunning hConfig hCurrent => exact ⟨_, _, _, h.scan hConfig hCurrent topics⟩
  | pass info random hRunning hCurrent hKnown =>
      rw [List.append_nil]
      exact ⟨_, _, _, h.pass hCurrent hKnown⟩
  | discover info random hRunning hCurrent hNew hAction hProtocol =>
      obtain ⟨hReturns, hEq⟩ := TopicManager.create_running hRuns
      rw [hEq]
      exact ⟨_, _, _, h.discover hCurrent hNew hAction hProtocol hReturns⟩
  | fail => cases hRuns

/-- Every created topic has a protocol that the configuration names. -/
theorem protocol (h : state.Managed config seen configured discovered past) {topic : RosTopic}
    (hTopic : topic ∈ seen.flatMap TopicEvent.createdTopic) :
    topic.protocol = config.rosProtocol ∨
      ∃ other ∈ config.ros, other.protocol = topic.protocol := by
  rw [h.created] at hTopic
  rcases List.mem_append.mp hTopic with hConfigured | hDiscovered
  · exact .inr ⟨topic, h.read ▸ List.mem_append_left _ hConfigured, rfl⟩
  · exact .inl (h.found topic hDiscovered).1

end TopicManager.Managed

/-- A step is one of a manager that runs, and stops it exactly when it panics. -/
theorem TopicMove.stopped_iff {config : ManagerConfig} {state next : TopicManager}
    {label : TopicLabel} {seen : List TopicEvent}
    (move : TopicMove config state label next seen) :
    state.stopped = false ∧ (next.stopped = true ↔ .panicked ∈ seen) := by
  cases move with
  | configure hRunning => exact ⟨hRunning, TopicManager.create_stopped_iff _ _ _ hRunning⟩
  | @discover topic types rest info random hRunning =>
      have hStops := TopicManager.create_stopped_iff { state with currentTopics := rest }
        config.peerWithGateway topic hRunning
      exact ⟨hRunning, hStops.trans (by simp)⟩
  | scan _ hRunning | pass _ _ hRunning => exact ⟨hRunning, by simp [hRunning]⟩
  | fail _ _ hRunning => exact ⟨hRunning, by simp⟩

/-- The manager stops in the step in which it panics, and only then. -/
theorem TopicManager.stopped_iff {config : ManagerConfig} {labels : List TopicLabel}
    {finish : TopicManager} {seen : List TopicEvent}
    (run : Run (TopicManaging config) (.initial config) labels finish seen) :
    finish.stopped = true ↔ .panicked ∈ seen := by
  apply run.history_invariant fun state _ seen => state.stopped = true ↔ .panicked ∈ seen
  · simp [TopicManager.initial]
  · intro state _ seen label next last _ ih hStep
    obtain ⟨hRunning, hNext⟩ := hStep.move.stopped_iff
    have hNone : .panicked ∉ seen := ih.not.mp (by simp [hRunning])
    rw [hNext, List.mem_append, or_iff_right hNone]

/-- The invariant holds as long as the manager has not panicked. -/
theorem TopicManager.managed_of_run {config : ManagerConfig} {labels : List TopicLabel}
    {finish : TopicManager} {seen : List TopicEvent}
    (run : Run (TopicManaging config) (.initial config) labels finish seen)
    (hRunning : .panicked ∉ seen) :
    ∃ configured discovered past, finish.Managed config seen configured discovered past := by
  have hStopped : finish.stopped = false := by
    simpa using (TopicManager.stopped_iff run).not.mpr hRunning
  revert hStopped
  apply run.history_invariant fun state _ seen => state.stopped = false →
    ∃ configured discovered past, state.Managed config seen configured discovered past
  · exact fun _ => ⟨[], [], [], .initial config⟩
  · intro state _ seen label next last _ ih hStep hRuns
    obtain ⟨configured, discovered, past, h⟩ := ih hStep.move.stopped_iff.1
    exact h.step hStep.move hRuns

/-- As long as the manager has not panicked: it has created the topics of the
configuration that it has read, in order, and behind them one topic for each name that
ROS reported and that is not configured, in the order in which the names were first
looked at. Each was asked about once, and it has the action that came of this for good.
Every topic with an action other than `noop` has one task. -/
theorem topics_created_once (config : ManagerConfig) {labels : List TopicLabel}
    {finish : TopicManager} {seen : List TopicEvent}
    (run : Run (TopicManaging config) (.initial config) labels finish seen)
    (hRunning : .panicked ∉ seen) :
    ∃ configured discovered past,
      config.ros = configured ++ finish.config ∧
      seen.flatMap TopicEvent.scannedTopics = past ++ finish.currentTopics ∧
      seen.flatMap TopicEvent.createdTopic = configured ++ discovered ∧
      discovered.map RosTopic.topicName =
        firstSights (configured.map RosTopic.topicName) (past.map Prod.fst) ∧
      seen.flatMap TopicEvent.askedAbout = discovered.map RosTopic.topicName ∧
      (∀ topic ∈ discovered, topic.Found config seen) ∧
      seen.flatMap TopicEvent.spawnedTask =
        (configured ++ discovered).filterMap (RosTopic.task config.peerWithGateway) := by
  obtain ⟨configured, discovered, past, h⟩ := TopicManager.managed_of_run run hRunning
  exact ⟨configured, discovered, past, h.read, h.scanned, h.created, h.names, h.asked, h.found,
    h.tasks⟩

namespace ManagerExample

def config : ManagerConfig :=
  ⟨true, "tcp", true, [⟨"pub", "tcp", "talker_node", "/chatter", "std_msgs/msg/String"⟩]⟩

/-- The second scan reports a known topic, a configured one and a new one. -/
def labels : List TopicLabel :=
  [.configure, .scan [("/image", ["sensor_msgs/msg/CompressedImage"])],
    .examine (some "Publisher count: 1\nSubscription count: 0\n") 7,
    .scan [("/image", []), ("/chatter", ["std_msgs/msg/String"]), ("/rosout", ["Log"])],
    .examine none 0, .examine none 0, .examine (some "Publisher count: 0\n") 9]

end ManagerExample

open ManagerExample in
/-- The second scan reports a known topic, the configured one and a new one.
Only the last is created. -/
theorem topics_created_once_example : ∃ finish seen,
    Run (TopicManaging config) (.initial config) labels finish seen ∧
    (seen.flatMap TopicEvent.createdTopic).map RosTopic.topicName =
      ["/chatter", "/image", "/rosout"] ∧
    ∃ configured discovered past,
      config.ros = configured ++ finish.config ∧
      seen.flatMap TopicEvent.scannedTopics = past ++ finish.currentTopics ∧
      seen.flatMap TopicEvent.createdTopic = configured ++ discovered ∧
      discovered.map RosTopic.topicName =
        firstSights (configured.map RosTopic.topicName) (past.map Prod.fst) ∧
      seen.flatMap TopicEvent.askedAbout = discovered.map RosTopic.topicName ∧
      (∀ topic ∈ discovered, topic.Found config seen) ∧
      seen.flatMap TopicEvent.spawnedTask =
        (configured ++ discovered).filterMap (RosTopic.task config.peerWithGateway) := by
  have hRun : (runOption (TopicManager.next config) (.initial config) labels).any (fun result =>
      .panicked ∉ result.2 ∧ (result.2.flatMap TopicEvent.createdTopic).map RosTopic.topicName =
        ["/chatter", "/image", "/rosout"]) = true := by
    decide +kernel
  obtain ⟨⟨finish, seen⟩, hResult, hSeen⟩ := (Option.any_eq_true _ _).mp hRun
  obtain ⟨hRunning, hNames⟩ := of_decide_eq_true hSeen
  have run := runOption_eq_some_iff.mp hResult
  exact ⟨finish, seen, run, hNames, topics_created_once config run hRunning⟩

end GdpRouter
