import GdpRouter.Deployment.Delivery
import GdpRouter.Semantics.Simulation

/-! ROS publishers and the payloads they are given. A payload that does not decode makes
the task panic, and nothing starts it again. Its registration stays, so that the RIB goes
on to pick it for the packets of its topic. -/
namespace GdpRouter

open Multimap Transition

variable {R E T : Type}

/-- The publisher takes the packet for one to publish. -/
def Network.Wants (net : Network R E T) (task : T) (copy : Copy R E T) : Prop :=
  copy.packet.action = .forward ∧ copy.packet.gdpname = net.topicName task

instance (net : Network R E T) (task : T) : DecidablePred (net.Wants task) :=
  fun _ => inferInstanceAs (Decidable (_ ∧ _))

/-- There is a payload, it decodes, and ROS takes it. -/
def Copy.Sound (copy : Copy R E T) (publishes : Bytes → Bool) : Prop :=
  copy.packet.payload.any publishes = true

instance (publishes : Bytes → Bool) : DecidablePred fun copy : Copy R E T => copy.Sound publishes :=
  fun _ => inferInstanceAs (Decidable (_ = _))

variable [DecidableEq R] [DecidableEq E] [DecidableEq T]

/-- One step, with the panics of publishers. A task that panics drops its `m_rx`. -/
def Network.publisherNext (net : Network R E T) (publishes : T → Bytes → Bool)
    (state : NetState R E T) :
    NetLabel R E T → Option (NetState R E T × List (Observation R E T))
  | .rosRecv task =>
      match state.running (.ros task), net.rosKind task, state.queue (.ros task) with
      | true, .publisher, copy :: _ =>
          if net.Wants task copy ∧ ¬copy.Sound (publishes task) then
            net.next state (.close (.ros task))
          else net.next state (.rosRecv task)
      | _, _, _ => none
  | label => net.next state label

def Network.Publishes (net : Network R E T) (publishes : T → Bytes → Bool) :
    Step (NetState R E T) (NetLabel R E T) (Observation R E T) :=
  OfOption (net.publisherNext publishes)

section Panic

variable {net : Network R E T} {publishes : T → Bytes → Bool} {state after : NetState R E T}
  {label : NetLabel R E T} {observed : List (Observation R E T)}

/-- A step is one of the network, or the panic of a publisher. -/
theorem publishes_cases (h : net.Publishes publishes state label after observed) :
    (net.Steps state label after observed ∧ ∀ task copy rest, label = .rosRecv task →
      state.queue (.ros task) = copy :: rest → net.Wants task copy →
        copy.Sound (publishes task)) ∨
    ∃ task copy rest, label = .rosRecv task ∧ state.running (.ros task) = true ∧
      state.queue (.ros task) = copy :: rest ∧ net.Wants task copy ∧
      ¬copy.Sound (publishes task) ∧ net.Steps state (.close (.ros task)) after observed := by
  unfold Network.Publishes OfOption at h
  cases label with
  | rosRecv task =>
      simp only [Network.publisherNext] at h
      split at h
      · rename_i copy rest hRunning hKind hQueue
        split at h
        · rename_i hPoison
          exact .inr ⟨task, copy, rest, rfl, hRunning, hQueue, hPoison.1, hPoison.2, h⟩
        · rename_i hSound
          refine .inl ⟨h, ?_⟩
          rintro other taken left ⟨⟩ hTaken hWants
          rw [hQueue] at hTaken
          obtain ⟨rfl, rfl⟩ := List.cons.inj hTaken
          by_contra hNot
          exact hSound ⟨hWants, hNot⟩
      · cases h
  | _ => exact .inl ⟨h, by rintro _ _ _ ⟨⟩⟩

/-- Without the payloads a panic is an end like any other. -/
theorem publishes_simulation : Simulation (net.Publishes publishes) net.Steps Eq
    (fun _ => ([] : List Empty)) (fun _ => []) (fun seen => [seen]) fun seen => [seen] where
  step := by
    rintro state next _ label out rfl hStep
    rcases publishes_cases hStep with ⟨hSame, -⟩ | ⟨task, copy, rest, -, -, -, -, -, hClose⟩
    · exact ⟨[label], next, out, .single hSame, rfl, rfl, rfl⟩
    · exact ⟨[.close (.ros task)], next, out, .single hClose, rfl, rfl, rfl⟩

/-- What is put on the queue of a ROS task goes behind, if the step neither takes from
the queue nor ends the task. -/
theorem Move.ros_queue (hMove : Move net state label after observed) {task : T}
    (hRecv : label ≠ .rosRecv task) (hClose : label ≠ .close (.ros task)) :
    after.queue (.ros task) =
        state.queue (.ros task) ++ observed.flatMap (Observation.putOn (.ros task)) ∧
      after.closed (.ros task) = state.closed (.ros task) := by
  cases hMove with
  | ribPacket hQueue hOrder => simp [NetState.put]
  | ribStatus hQueue hOrder => simp [NetState.put]
  | rosForwardDirect payload hRunning hKind hTx => simp [NetState.put]
  | @rosRecv other copy rest hRunning hKind hQueue =>
      have hNe : task ≠ other := fun hSame => hRecv (hSame ▸ rfl)
      refine ⟨?_, rfl⟩
      split <;> simp [hNe]
  | close handle =>
      have hNe : .ros task ≠ handle := fun hSame => hClose (hSame ▸ rfl)
      simp [hNe]
  | ribChannel | connStart | connSend | connSendOut | connRecv | wire | lose => simp
  | rosAdvertise | rosForward | flush => simp

end Panic

/-- What a publisher has published. -/
def Observation.publishedBy (task : T) : Observation R E T → List (Copy R E T)
  | .published other copy => if other = task then [copy] else []
  | .put _ _ | .delivered _ _ | .handled _ _ => []

section Published

variable {net : Network R E T} {publishes : T → Bytes → Bool} {state after : NetState R E T}
  {label : NetLabel R E T} {observed seen : List (Observation R E T)} {task : T}

/-- Only its own steps let a publisher publish. -/
theorem Move.published_nil (hMove : Move net state label after seen)
    (hRecv : label ≠ .rosRecv task) : seen.flatMap (Observation.publishedBy task) = [] := by
  have hNothing : ∀ sent : List (Handle E T × Copy R E T),
      (putAll sent).flatMap (Observation.publishedBy task) = [] := fun sent =>
    putAll_flatMap_nil fun _ _ => rfl
  cases hMove with
  | ribPacket | ribStatus | rosForwardDirect => simp [hNothing, Observation.publishedBy]
  | @rosRecv other copy rest hRunning hKind hQueue =>
      have hNe : other ≠ task := fun hSame => hRecv (hSame ▸ rfl)
      split <;> simp [Observation.publishedBy, hNe]
  | connRecv => simp [Observation.publishedBy]
  | ribChannel | connStart | connSend | connSendOut | wire | lose => rfl
  | rosAdvertise | rosForward | flush | close => rfl

/-- What a publisher was to publish: the packets for its topic, as they were put on its
queue. Those before the first that does not decode were published or wait. -/
structure Network.Published (net : Network R E T) (publishes : Bytes → Bool) (task : T)
    (state : NetState R E T) (observed : List (Observation R E T)) : Prop where
  sound : ∀ copy ∈ observed.flatMap (Observation.publishedBy task), copy.Sound publishes
  alive : state.closed (.ros task) = false →
    (observed.flatMap (Observation.putOn (.ros task))).filter (net.Wants task) =
      observed.flatMap (Observation.publishedBy task) ++
        (state.queue (.ros task)).filter (net.Wants task)
  dead : state.closed (.ros task) = true → ∃ poison rest, ¬poison.Sound publishes ∧
    (observed.flatMap (Observation.putOn (.ros task))).filter (net.Wants task) =
      observed.flatMap (Observation.publishedBy task) ++ poison :: rest

/-- A step that the publisher has no part in. -/
theorem Network.Published.other (h : net.Published (publishes task) task state observed)
    (hMove : Move net state label after seen) (hRecv : label ≠ .rosRecv task)
    (hClose : label ≠ .close (.ros task)) :
    net.Published (publishes task) task after (observed ++ seen) := by
  obtain ⟨hQueue, hClosed⟩ := hMove.ros_queue hRecv hClose
  have hNone := hMove.published_nil hRecv
  constructor
  case sound =>
    rw [List.flatMap_append, hNone, List.append_nil]
    exact h.sound
  case alive =>
    intro hOpen
    rw [hClosed] at hOpen
    rw [List.flatMap_append, List.flatMap_append, List.filter_append, h.alive hOpen, hNone, hQueue,
      List.filter_append, List.append_nil, List.append_assoc]
  case dead =>
    intro hEnded
    rw [hClosed] at hEnded
    obtain ⟨poison, rest, hPoison, hSplit⟩ := h.dead hEnded
    refine ⟨poison, rest ++ (seen.flatMap (Observation.putOn (.ros task))).filter (net.Wants task),
      hPoison, ?_⟩
    rw [List.flatMap_append, List.flatMap_append, List.filter_append, hSplit, hNone,
      List.append_nil, List.append_assoc, List.cons_append]

/-- The publisher takes a packet that is sound or that it does not want. -/
theorem Network.Published.recv (h : net.Published (publishes task) task state observed)
    (hMove : Move net state (.rosRecv task) after seen)
    (hSound : ∀ copy rest, state.queue (.ros task) = copy :: rest → net.Wants task copy →
      copy.Sound (publishes task)) :
    net.Published (publishes task) task after (observed ++ seen) := by
  cases hMove with
  | @rosRecv _ copy rest hRunning hKind hQueue =>
      have hOpen : state.closed (.ros task) = false := by
        simpa using (Bool.and_eq_true_iff.mp hRunning).2
      have hBefore := h.alive hOpen
      rw [hQueue] at hBefore
      by_cases hWants : net.Wants task copy
      · have hBoth : copy.packet.action = .forward ∧ copy.packet.gdpname = net.topicName task :=
          hWants
        rw [if_pos hBoth]
        constructor
        case sound =>
          rw [List.flatMap_append]
          have hCopy := hSound copy rest hQueue hWants
          simpa [Observation.publishedBy, or_imp, forall_and, hCopy] using h.sound
        case alive =>
          intro _
          rw [List.filter_cons_of_pos (by simpa using hWants)] at hBefore
          simp [hBefore, Observation.publishedBy, Observation.putOn]
        case dead =>
          intro hClosed
          cases hOpen.symm.trans hClosed
      · have hNot : ¬(copy.packet.action = .forward ∧ copy.packet.gdpname = net.topicName task) :=
          hWants
        rw [if_neg hNot, List.append_nil]
        constructor
        case sound => exact h.sound
        case alive =>
          intro _
          rw [List.filter_cons_of_neg (by simpa using hWants)] at hBefore
          simpa using hBefore
        case dead =>
          intro hClosed
          cases hOpen.symm.trans hClosed

/-- The publisher panics. -/
theorem Network.Published.panic (h : net.Published (publishes task) task state observed)
    {copy : Copy R E T} {rest : List (Copy R E T)} (hRunning : state.running (.ros task) = true)
    (hQueue : state.queue (.ros task) = copy :: rest) (hWants : net.Wants task copy)
    (hPoison : ¬copy.Sound (publishes task))
    (hMove : Move net state (.close (.ros task)) after seen) :
    net.Published (publishes task) task after (observed ++ seen) := by
  have hOpen : state.closed (.ros task) = false := by
    simpa using (Bool.and_eq_true_iff.mp hRunning).2
  have hBefore := h.alive hOpen
  rw [hQueue, List.filter_cons_of_pos (by simpa using hWants)] at hBefore
  cases hMove with
  | close handle =>
      rw [List.append_nil]
      constructor
      case sound => exact h.sound
      case alive => intro hStill; simp at hStill
      case dead => exact fun _ => ⟨copy, _, hPoison, hBefore⟩

/-- Every step keeps the account of what was published. -/
theorem Network.Published.step (h : net.Published (publishes task) task state observed)
    (hStep : net.Publishes publishes state label after seen) (hClose : label ≠ .close (.ros task)) :
    net.Published (publishes task) task after (observed ++ seen) := by
  rcases publishes_cases hStep with ⟨hSame, hSound⟩ |
    ⟨other, copy, rest, rfl, hRunning, hQueue, hWants, hPoison, hEnd⟩
  · by_cases hRecv : label = .rosRecv task
    · subst hRecv
      exact h.recv (next_move hSame) fun copy rest hQueue => hSound task copy rest rfl hQueue
    · exact h.other (next_move hSame) hRecv hClose
  · obtain rfl | hNe := eq_or_ne task other
    · exact h.panic hRunning hQueue hWants hPoison (next_move hEnd)
    · exact h.other (next_move hEnd) (by simp) (by simpa using hNe.symm)

end Published

/-- The account is right in every run that does not end the task from outside. -/
theorem published_of_run {net : Network R E T} {publishes : T → Bytes → Bool} {task : T}
    {labels : List (NetLabel R E T)} {state : NetState R E T}
    {observed : List (Observation R E T)}
    (run : Run (net.Publishes publishes) (.initial fun _ => ∅) labels state observed)
    (hEnds : .close (.ros task) ∉ labels) :
    net.Published (publishes task) task state observed := by
  revert hEnds
  apply run.history_invariant fun state labels observed => .close (.ros task) ∉ labels →
    net.Published (publishes task) task state observed
  · exact fun _ => ⟨by simp, fun _ => rfl, fun hClosed => by cases hClosed⟩
  · intro state labels observed label next last _ ih hStep hEnds
    simp only [List.mem_append, List.mem_singleton, not_or] at hEnds
    exact (ih hEnds.1).step hStep (Ne.symm hEnds.2)

/-- In every run: a publisher publishes the packets for its topic in the order in which
they were put on its queue, up to the first with a payload that does not decode. Until it
takes that one, the others wait. After it the task is gone, and publishes nothing more. -/
theorem publishes_until_panic (net : Network R E T) (publishes : T → Bytes → Bool) (task : T)
    {labels : List (NetLabel R E T)} {state : NetState R E T}
    {observed : List (Observation R E T)}
    (run : Run (net.Publishes publishes) (.initial fun _ => ∅) labels state observed)
    (hEnds : .close (.ros task) ∉ labels) :
    let wanted := (observed.flatMap (Observation.putOn (.ros task))).filter (net.Wants task)
    let published := observed.flatMap (Observation.publishedBy task)
    (state.closed (.ros task) = false → (∀ copy ∈ published, copy.Sound (publishes task)) ∧
      wanted = published ++ (state.queue (.ros task)).filter (net.Wants task)) ∧
    (state.closed (.ros task) = true →
      published = wanted.takeWhile (fun copy => copy.Sound (publishes task)) ∧
      ∃ poison ∈ wanted, ¬poison.Sound (publishes task)) := by
  have hPublished := published_of_run run hEnds
  refine ⟨fun hOpen => ⟨hPublished.sound, hPublished.alive hOpen⟩, fun hClosed => ?_⟩
  obtain ⟨poison, rest, hPoison, hSplit⟩ := hPublished.dead hClosed
  rw [hSplit]
  constructor
  · rw [List.takeWhile_append_of_pos fun copy hIn => decide_eq_true (hPublished.sound copy hIn),
      List.takeWhile_cons_of_neg (by simpa using hPoison), List.append_nil]
  · exact ⟨poison, by simp, hPoison⟩

namespace PublisherExample

def topic : GDPName := .ofBytes 1 0 0 0

def other : GDPName := .ofBytes 2 0 0 0

inductive Link where
  | peer
  deriving DecidableEq

/-- A router with one publisher, and a peer. -/
def net : Network Unit Link Unit where
  home _ := ()
  peer _ := none
  kind _ := .listener
  threadName _ := .ofBytes 9 9 9 9
  gateway _ := none
  rosHome _ := ()
  rosKind _ := .publisher
  nodeName _ := .ofBytes 3 3 3 3
  topicName _ := topic
  ribTx _ := none
  peer_symm := by simp
  gateway_home := by simp
  ribTx_home := by simp

/-- `{}`, which is the whole message of the empty type. -/
def sound : Bytes := [123, 125]

def publishes (_ : Unit) (payload : Bytes) : Bool := payload = sound

/-- The peer sends a packet for the topic, which is routed. -/
def packet (payload : Bytes) : List (NetLabel Unit Link Unit) :=
  [.wire .peer (.announcing .forward topic payload) payload,
    .connRecv .peer, .ribPacket () [topic, other]]

/-- Both sides advertise. Of three packets the second is not UTF-8. -/
def poisoned : List (NetLabel Unit Link Unit) :=
  [.connStart .peer, .rosAdvertise (), .ribChannel (),
    .wire .peer (.announcing .advertise other []) [], .connRecv .peer, .ribChannel ()] ++
  packet sound ++ packet [255] ++ packet sound ++ [.rosRecv (), .rosRecv ()]

def copy (id : Nat) (payload : Bytes) : Copy Unit Link Unit :=
  ⟨constructGdpForwardFromBytes topic (net.threadName .peer) payload, some .peer, ⟨id, none, [()]⟩⟩

/-- One more packet comes in. -/
def later : List (NetLabel Unit Link Unit) :=
  [.wire .peer (.announcing .forward topic sound) sound, .connRecv .peer]

end PublisherExample

open PublisherExample in
/-- The first of the three packets is published, and the second ends the publisher. -/
theorem publishes_until_panic_example : ∃ state observed,
    Run (net.Publishes publishes) (.initial fun _ => ∅) poisoned state observed ∧
      state.closed (.ros ()) = true ∧
      observed.flatMap (Observation.publishedBy ()) = [copy 1 sound] ∧
      observed.flatMap (Observation.publishedBy ()) =
        ((observed.flatMap (Observation.putOn (.ros ()))).filter (net.Wants ())).takeWhile
          fun copy => copy.Sound (publishes ()) := by
  have hRun : (runOption (net.publisherNext publishes) (.initial fun _ => ∅) poisoned).any
      (fun result => result.1.closed (.ros ()) = true ∧
        result.2.flatMap (Observation.publishedBy ()) = [copy 1 sound]) = true := by
    decide +kernel
  obtain ⟨⟨state, observed⟩, hResult, hSeen⟩ := (Option.any_eq_true _ _).mp hRun
  obtain ⟨hClosed, hPublished⟩ := of_decide_eq_true hSeen
  have run := runOption_eq_some_iff.mp hResult
  have hAll := publishes_until_panic net publishes () run (by decide)
  exact ⟨state, observed, run, hClosed, hPublished, (hAll.2 hClosed).1⟩

/-- Nobody who registered the name at the router is there any more. -/
def NetState.DeadEnd (state : NetState R E T) (router : R) (name : GDPName) : Prop :=
  ∀ channel ∈ ((state.table router).lookup name).getD [], state.closed channel.channel = true

instance (state : NetState R E T) (router : R) (name : GDPName) :
    Decidable (state.DeadEnd router name) :=
  inferInstanceAs (Decidable (∀ _ ∈ _, _))

/-- The router is about to register somebody for the name who is still there. -/
def NetState.Revives (state : NetState R E T) (router : R) (name : GDPName) :
    NetLabel R E T → Prop
  | .ribChannel other => other = router ∧ ∃ channel ∈ (state.channelRx router).head?,
      channel.gdpname = name ∧ state.closed channel.channel = false
  | .ribPacket _ _ | .ribStatus _ _ | .connStart _ | .connSend _ | .connRecv _ | .wire _ _ _
  | .lose _ | .rosAdvertise _ | .rosForward _ _ | .rosRecv _ | .flush _ | .close _ => False

instance (state : NetState R E T) (router : R) (name : GDPName) :
    DecidablePred (state.Revives router name)
  | .ribChannel _ => inferInstanceAs (Decidable (_ ∧ ∃ _ ∈ _, _))
  | .ribPacket _ _ | .ribStatus _ _ | .connStart _ | .connSend _ | .connRecv _ | .wire _ _ _
  | .lose _ | .rosAdvertise _ | .rosForward _ _ | .rosRecv _ | .flush _ | .close _ =>
      inferInstanceAs (Decidable False)

section BlackHole

variable {net : Network R E T} {publishes : T → Bytes → Bool} {state after : NetState R E T}
  {label : NetLabel R E T} {observed seen : List (Observation R E T)} {router : R} {name : GDPName}

/-- Only a registration of the kind revives a name. -/
theorem Move.deadEnd (hMove : Move net state label after seen) (h : state.DeadEnd router name)
    (hLabel : ¬state.Revives router name label) : after.DeadEnd router name := by
  intro channel hChannel
  by_cases hOld : channel ∈ ((state.table router).lookup name).getD []
  · exact hMove.closed_grows (h channel hOld)
  · cases hMove with
    | @ribChannel other registered rest hQueue =>
        obtain rfl | hRouter := eq_or_ne router other
        · simp only [Function.update_self, registerChannel, lookup_push, List.mem_append, hOld,
            false_or, List.mem_ite_nil_right, List.mem_singleton] at hChannel
          obtain ⟨hName, rfl⟩ := hChannel
          by_contra hOpen
          exact hLabel ⟨rfl, channel, by simp [hQueue], hName.symm, by simpa using hOpen⟩
        · exact absurd (by simpa [hRouter] using hChannel) hOld
    | ribPacket | ribStatus | rosForwardDirect => exact absurd hChannel hOld
    | connSend | connSendOut | wire | lose | rosRecv | flush | close => exact absurd hChannel hOld
    | connStart | connRecv | rosAdvertise | rosForward =>
        exact absurd (by simpa using hChannel) hOld

omit [DecidableEq R] [DecidableEq E] [DecidableEq T] in
/-- A packet for a name that is known goes to nobody else. -/
theorem routed_deadEnd {order : List GDPName} {copy : Copy R E T}
    (hKnown : copy.packet.gdpname ∈ state.table router)
    (h : state.DeadEnd router copy.packet.gdpname) : state.routed router order copy = [] := by
  obtain ⟨destinations, hLookup⟩ := Option.isSome_iff_exists.mp (AList.lookup_isSome.mpr hKnown)
  rw [routed_of_lookup hLookup, List.map_eq_nil_iff, List.filter_eq_nil_iff]
  intro dst hDst
  have hClosed := h dst (by rwa [hLookup])
  simp [hClosed]

/-- Publishers are registered at home, and for their topics. -/
def Network.topics (net : Network R E T) : Local R E T where
  inRib _ _ := True
  queued _ _ := True
  flying _ _ := True
  registered router channel := ∀ task, channel.channel = .ros task →
    router = net.rosHome task ∧ channel.gdpname = net.topicName task

omit [DecidableEq R] [DecidableEq E] [DecidableEq T] in
/-- A handle of a task is registered under its topic only. -/
theorem Network.topics_preserved (net : Network R E T) :
    net.topics.Preserved net fun _ => True where
  routed := fun _ _ _ => trivial
  announced := fun _ _ _ => trivial
  carried := fun _ _ => trivial
  forwarded := fun _ _ => trivial
  advertised := by
    intro endpoint frame _ _ task hSame
    cases hSame
  self := by
    intro endpoint _ task hSame
    cases hSame
  node := by
    intro task other hSame
    obtain rfl := Handle.ros.inj hSame
    exact ⟨rfl, rfl⟩
  wired := fun _ _ _ => trivial
  spoken := fun _ _ _ => trivial
  injected := fun _ _ _ => trivial

/-- Tables are keyed by name. -/
def NetState.KeyedTables (state : NetState R E T) : Prop :=
  ∀ router, Keyed GDPChannel.gdpname (state.table router)

/-- Every step keeps registrations under their own names. -/
theorem Move.keyedTables (hMove : Move net state label after seen) (h : state.KeyedTables) :
    after.KeyedTables := by
  intro router
  rcases hMove.table_cases router with hSame | ⟨channel, hChannel⟩
  · rw [hSame]
    exact h router
  · rw [hChannel]
    exact (h router).push channel

/-- The registration of a ROS task is in the table of its router, under its topic. -/
def Network.Registers (net : Network R E T) (task : T) (state : NetState R E T) : Prop :=
  ∃ channel ∈ ((state.table (net.rosHome task)).lookup (net.topicName task)).getD [],
    channel.channel = .ros task

omit [DecidableEq R] [DecidableEq E] [DecidableEq T] in
/-- A task that is registered makes its topic known. -/
theorem Network.Registers.known {task : T} (h : net.Registers task state) :
    net.topicName task ∈ state.table (net.rosHome task) := by
  obtain ⟨channel, hChannel, -⟩ := h
  exact mem_of_mem_lookup hChannel

theorem Network.Registers.step {task : T} (h : net.Registers task state)
    (hMove : Move net state label after seen) : net.Registers task after := by
  obtain ⟨channel, hChannel, hTask⟩ := h
  exact ⟨channel, hMove.table_grows hChannel, hTask⟩

/-- What a ROS task gets comes by way of its registration. -/
theorem Move.topic_of_put (hMove : Move net state label after seen)
    (hState : net.topics.Everywhere net state) (hKeyed : state.KeyedTables) {task : T}
    {copy : Copy R E T} (hPut : .put (.ros task) copy ∈ seen) : net.Registers task state := by
  rcases hMove.put_cases hPut with ⟨router, order, -, -, taken, -, hOut⟩ |
    ⟨router, order, -, update, hUpdate, hOut⟩ | ⟨_, _, _, -, -, hOut⟩
  · obtain ⟨name, dst, hDst, -, -, hSame⟩ := mem_routed hOut
    obtain ⟨hChannel, -⟩ := Prod.mk.inj hSame
    obtain ⟨rfl, hName⟩ := hState.table router name dst hDst task hChannel.symm
    rw [Network.Registers, ← hName, hKeyed _ name dst hDst]
    exact ⟨dst, hDst, hChannel.symm⟩
  · obtain ⟨endpoint, -, hSink⟩ := hState.sinks router update hUpdate
    obtain ⟨name, -, hSame⟩ := mem_announced hOut
    rw [hSink] at hSame
    cases hSame
  · cases mem_injected hOut

/-- A task that was sent a packet is registered. -/
theorem topic_of_run {labels : List (NetLabel R E T)} {task : T}
    (run : Run net.Steps (.initial fun _ => ∅) labels state observed) {copy : Copy R E T}
    (hPut : .put (.ros task) copy ∈ observed) : net.Registers task state := by
  have hRun : (net.topics.Everywhere net state ∧ state.KeyedTables) ∧
      ∀ copy, .put (.ros task) copy ∈ observed → net.Registers task state := by
    apply run.history_invariant fun state _ observed =>
      (net.topics.Everywhere net state ∧ state.KeyedTables) ∧ ∀ copy,
        .put (.ros task) copy ∈ observed → net.Registers task state
    · refine ⟨⟨.initial (by simp), fun router name item hItem => ?_⟩, by simp⟩
      simp [NetState.initial] at hItem
    · intro state labels observed label next last _ ih hStep
      have hMove := next_move hStep
      obtain ⟨⟨hState, hKeyed⟩, hOld⟩ := ih
      refine ⟨⟨(hState.step net.topics_preserved trivial hMove).1, hMove.keyedTables hKeyed⟩, ?_⟩
      intro copy hCopy
      refine Network.Registers.step ?_ hMove
      exact (List.mem_append.mp hCopy).elim (hOld copy) (hMove.topic_of_put hState hKeyed)
  exact hRun.2 copy hPut

/-- A dead end remains one as long as nothing revives it. -/
theorem publishes_deadEnd (hStep : net.Publishes publishes state label after seen)
    (h : state.DeadEnd router name) (hLabel : ¬state.Revives router name label) :
    after.DeadEnd router name := by
  rcases publishes_cases hStep with ⟨hSame, -⟩ | ⟨_, _, _, -, -, -, -, -, hClose⟩
  · exact (next_move hSame).deadEnd h hLabel
  · exact (next_move hClose).deadEnd h (by simp [NetState.Revives])

/-- A publisher that is gone stays so, and publishes nothing. -/
theorem publishes_gone {task : T} (hStep : net.Publishes publishes state label after seen)
    (h : state.closed (.ros task) = true) :
    after.closed (.ros task) = true ∧ ∀ copy, .published task copy ∉ seen := by
  have hNever : ∀ {label}, net.Steps state label after seen → label ≠ .rosRecv task →
      ∀ copy, .published task copy ∉ seen := by
    intro label hSame hRecv copy hCopy
    have hNil := List.flatMap_eq_nil_iff.mp ((next_move hSame).published_nil hRecv) _ hCopy
    simp [Observation.publishedBy] at hNil
  rcases publishes_cases hStep with ⟨hSame, -⟩ | ⟨_, _, _, -, -, -, -, -, hClose⟩
  · refine ⟨(next_move hSame).closed_grows h, hNever hSame ?_⟩
    rintro rfl
    cases next_move hSame with
    | rosRecv hRunning => simp [NetState.running, h] at hRunning
  · exact ⟨(next_move hClose).closed_grows h, hNever hClose (by simp)⟩

end BlackHole

/-- A publisher that panicked stays registered for its topic. If nobody else is, then until
somebody registers for it, the RIB sends the packets of the topic nowhere: not even to
the gateway, to which it sends those of names that it does not know. -/
theorem panicked_publisher_black_hole (net : Network R E T) (publishes : T → Bytes → Bool)
    (task : T) {early late : List (NetLabel R E T)} {state later : NetState R E T}
    {before after : List (Observation R E T)}
    (prior : Run (net.Publishes publishes) (.initial fun _ => ∅) early state before)
    (hEnds : .close (.ros task) ∉ early) (hPanicked : state.closed (.ros task) = true)
    (hAlone : state.DeadEnd (net.rosHome task) (net.topicName task))
    (run : Run (Guarded (net.Publishes publishes) fun state label =>
      ¬state.Revives (net.rosHome task) (net.topicName task) label) state late later after) :
    net.Registers task later ∧ (∀ copy, .published task copy ∉ after) ∧
    ∀ {order : List GDPName} {copy : Copy R E T} {next : NetState R E T}
      {seen : List (Observation R E T)},
      net.Publishes publishes later (.ribPacket (net.rosHome task) order) next seen →
        .handled (net.rosHome task) copy ∈ seen → copy.packet.gdpname = net.topicName task →
          seen = [.handled (net.rosHome task) copy] ∧ next.queue = later.queue := by
  have hKnown : net.Registers task state := by
    obtain ⟨poison, rest, -, hSplit⟩ := (published_of_run prior hEnds).dead hPanicked
    have hWanted : poison ∈ (before.flatMap (Observation.putOn (.ros task))).filter
        (net.Wants task) := by
      rw [hSplit]
      exact List.mem_append_right _ List.mem_cons_self
    have hPoison := (List.mem_filter.mp hWanted).1
    obtain ⟨labels, _, observed, hRun, rfl, -, hSeen⟩ := publishes_simulation.run rfl prior
    rw [List.flatMap_singleton', List.flatMap_singleton'] at hSeen
    exact topic_of_run hRun (hSeen ▸ mem_putOn.mp hPoison)
  have hLater : (net.Registers task later ∧
      later.DeadEnd (net.rosHome task) (net.topicName task) ∧
      later.closed (.ros task) = true) ∧ ∀ copy, .published task copy ∉ after := by
    apply run.history_invariant fun later _ after => (net.Registers task later ∧
      later.DeadEnd (net.rosHome task) (net.topicName task) ∧
      later.closed (.ros task) = true) ∧ ∀ copy, .published task copy ∉ after
    · exact ⟨⟨hKnown, hAlone, hPanicked⟩, by simp⟩
    · rintro state labels observed label next last _ ⟨⟨hIn, hDead, hGone⟩, hOld⟩ ⟨hStep, hLabel⟩
      obtain ⟨hStill, hNew⟩ := publishes_gone hStep hGone
      refine ⟨⟨?_, publishes_deadEnd hStep hDead hLabel, hStill⟩, fun copy hCopy => ?_⟩
      · rcases publishes_cases hStep with ⟨hSame, -⟩ | ⟨_, _, _, -, -, -, -, -, hClose⟩
        · exact hIn.step (next_move hSame)
        · exact hIn.step (next_move hClose)
      · exact (List.mem_append.mp hCopy).elim (hOld copy) (hNew copy)
  obtain ⟨⟨hIn, hDead, -⟩, hNothing⟩ := hLater
  refine ⟨hIn, hNothing, ?_⟩
  intro order copy next seen hStep hHandled hName
  rcases publishes_cases hStep with ⟨hSame, -⟩ | ⟨_, _, _, hLabel, -⟩
  · have hRouted : later.routed (net.rosHome task) order copy = [] := by
      have hTable := hIn.known
      apply routed_deadEnd <;> rwa [hName]
    have hSeen := (eq_of_handled hSame hHandled).2
    rw [hRouted] at hSeen
    refine ⟨hSeen, ?_⟩
    cases next_move hSame with
    | @ribPacket _ _ taken rest hQueue hOrder =>
        obtain ⟨hTaken, -⟩ := List.cons.inj hSeen
        obtain ⟨-, rfl⟩ := Observation.handled.inj hTaken
        funext handle
        rw [hRouted]
        exact List.append_nil _
  · cases hLabel

open PublisherExample in
/-- The next packet of the topic is dropped, although the peer is there. -/
theorem panicked_publisher_black_hole_example : ∃ state before last after next seen,
    Run (net.Publishes publishes) (.initial fun _ => ∅) poisoned state before ∧
      Run (Guarded (net.Publishes publishes) fun state label => ¬state.Revives () topic label)
        state later last after ∧
      net.Registers () last ∧ last.closed (.conn .peer) = false ∧
      net.Publishes publishes last (.ribPacket () [topic, other]) next seen ∧
      seen = [.handled () (copy 4 sound)] ∧ next.queue = last.queue := by
  have hRun : (runOption (net.publisherNext publishes) (.initial fun _ => ∅) poisoned).any
      (fun first => first.1.closed (.ros ()) = true ∧ first.1.DeadEnd () topic ∧
        (runGuarded (net.publisherNext publishes) (fun state label => ¬state.Revives () topic label)
          first.1 later).any fun second => second.1.closed (.conn .peer) = false ∧
        (net.publisherNext publishes second.1 (.ribPacket () [topic, other])).any fun third =>
          .handled () (copy 4 sound) ∈ third.2) = true := by decide +kernel
  simp only [Option.any_eq_true, decide_eq_true_eq] at hRun
  obtain ⟨⟨state, before⟩, hPrior, hPanicked, hAlone, ⟨last, after⟩, hLater, hOpen,
    ⟨next, seen⟩, hStep, hHandled⟩ := hRun
  have prior := runOption_eq_some_iff.mp hPrior
  have run := runGuarded_eq_some_iff.mp hLater
  obtain ⟨hRegistered, -, hDropped⟩ := panicked_publisher_black_hole net publishes () prior
    (by decide) hPanicked hAlone run
  obtain ⟨hSeen, hQueue⟩ := hDropped hStep hHandled rfl
  exact ⟨state, before, last, after, next, seen, prior, run, hRegistered, hOpen, hStep,
    hSeen, hQueue⟩

end GdpRouter
