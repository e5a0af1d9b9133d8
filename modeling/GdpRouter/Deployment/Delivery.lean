import GdpRouter.Deployment.Advertising
import GdpRouter.Deployment.SplitHorizon

/-! Between a gateway and a client: once the gateway has registered what the client
flushed, packets for these names go over the connection, each once, and the client
hands each to all who registered for it. -/
namespace GdpRouter

open Multimap Transition

variable {R E T : Type}

/-- The client end is the advertising connection of its router, and the other end
was accepted by a listener. -/
structure Network.JoinedTo (net : Network R E T) (clientEnd gatewayEnd : E) : Prop where
  gateway : net.gateway (net.home clientEnd) = some clientEnd
  peer : net.peer clientEnd = some gatewayEnd
  listener : net.kind gatewayEnd = .listener

/-- The step does not break the connection or end one of its tasks. -/
def NetLabel.Keeps (first second : E) (label : NetLabel R E T) : Prop :=
  label ≠ .lose first ∧ label ≠ .lose second ∧ label ≠ .close (.conn first) ∧
    label ≠ .close (.conn second)

/-- No advertisement of the name is on its way to the table of the gateway. -/
structure NetState.Settled (state : NetState R E T) (net : Network R E T)
    (clientEnd gatewayEnd : E) (name : GDPName) : Prop where
  inFlight : ∀ frame ∈ state.inFlight clientEnd gatewayEnd, ¬frame.Advertises name
  waiting : ∀ channel ∈ state.channelRx (net.home gatewayEnd),
    channel.channel = .conn gatewayEnd → channel.gdpname ≠ name

variable [DecidableEq R] [DecidableEq E] [DecidableEq T]

instance (first second : E) (label : NetLabel R E T) : Decidable (label.Keeps first second) :=
  inferInstanceAs (Decidable (_ ∧ _))

/-- A run from the start, over a connection that is kept, in which the client flushed
when it knew the name. -/
inductive Network.Flushed (net : Network R E T) (clientEnd gatewayEnd : E) (name : GDPName)
    (state : NetState R E T) (observed : List (Observation R E T)) : Prop where
  | intro {early late : List (NetLabel R E T)} {order : List GDPName}
      {flushing flushed : NetState R E T} {before announced after : List (Observation R E T)}
      (prior : Run net.Steps (.initial fun _ => ∅) early flushing before)
      (hFlush : net.Steps flushing (.ribStatus (net.home clientEnd) order) flushed announced)
      (later : Run net.Steps flushed late state after)
      (hKept : ∀ label ∈ early ++ late, label.Keeps clientEnd gatewayEnd)
      (hName : name ∈ flushing.table (net.home clientEnd))
      (hObserved : observed = before ++ announced ++ after)

section Routed

variable {state : NetState R E T} {router : R} {order : List GDPName} {copy : Copy R E T}
  {destinations : List (GDPChannel (Handle E T))}

omit [DecidableEq R] [DecidableEq E] [DecidableEq T] in
/-- A packet for a known name goes to every registration of it that may get it. -/
theorem routed_of_lookup
    (hLookup : (state.table router).lookup copy.packet.gdpname = some destinations) :
    state.routed router order copy = (destinations.filter fun dst =>
      state.closed dst.channel = false ∧ dst.advertisement.source ≠ copy.packet.source).map
        fun dst => (dst.channel, copy) := by
  rw [NetState.routed, routePacket_eq, hLookup, Option.getD_some, sendToDestination_eq,
    List.map_map]
  rfl

omit [DecidableEq R] in
/-- On a hit, a handle gets one copy for each of its registrations, save those
of the source. -/
theorem enqueuedOn_routed {handle : Handle E T}
    (hLookup : (state.table router).lookup copy.packet.gdpname = some destinations)
    (hOpen : state.closed handle = false) :
    enqueuedOn handle (state.routed router order copy) =
      List.replicate (destinations.countP fun channel =>
        channel.channel = handle ∧ channel.advertisement.source ≠ copy.packet.source) copy := by
  rw [NetState.routed, routePacket_eq, hLookup, Option.getD_some,
    enqueuedOn_map fun packet => (⟨packet, copy.heard, copy.trace⟩ : Copy R E T),
    enqueuedOn_sendToDestination hOpen, List.map_replicate]

/-- A RIB handles one copy at a time. -/
theorem eq_of_handled {net : Network R E T} {next : NetState R E T}
    {seen : List (Observation R E T)}
    (hStep : net.Steps state (.ribPacket router order) next seen)
    (hHandled : .handled router copy ∈ seen) :
    copy ∈ state.ribRx router ∧
      seen = .handled router copy :: putAll (state.routed router order copy) := by
  cases next_move hStep with
  | @ribPacket _ _ taken rest hQueue hOrder =>
      rcases List.mem_cons.mp hHandled with hSame | hPut
      · obtain ⟨-, rfl⟩ := Observation.handled.inj hSame
        exact ⟨hQueue ▸ List.mem_cons_self, rfl⟩
      · obtain ⟨out, -, hOut⟩ := List.mem_map.mp hPut
        cases hOut

omit [DecidableEq R] in
/-- A flush puts each known name on its open sink once. -/
theorem enqueuedOn_announced {update : GDPStatus (Handle E T)}
    (hOpen : state.closed update.sink = false) :
    enqueuedOn update.sink (state.announced router order update) = order.map fun name =>
      ⟨constructGdpAdvertisementFromBytes name name, none, ⟨state.fresh, none, [router]⟩⟩ := by
  rw [NetState.announced, enqueuedOn_map fun packet =>
    (⟨packet, none, ⟨state.fresh, none, [router]⟩⟩ : Copy R E T),
    enqueuedOn_flushAdvertisements hOpen, if_pos rfl, List.map_map]
  rfl

end Routed

section Adverts

variable {net : Network R E T} {endpoint : E} {name : GDPName}
  {observed : List (Observation R E T)}

omit [DecidableEq R] in
/-- What is put on a handle is what is observed as put there. -/
theorem mem_putOn {handle : Handle E T} {copy : Copy R E T} :
    copy ∈ observed.flatMap (Observation.putOn handle) ↔ .put handle copy ∈ observed := by
  rw [List.mem_flatMap]
  constructor
  · rintro ⟨seen, hSeen, hCopy⟩
    cases seen with
    | put other item =>
        simp only [Observation.putOn, List.mem_ite_nil_right, List.mem_singleton] at hCopy
        obtain ⟨rfl, rfl⟩ := hCopy
        exact hSeen
    | delivered | handled | published => cases hCopy
  · exact fun h => ⟨_, h, by simp [Observation.putOn]⟩

/-- How often a name was advertised on the connection of an endpoint. -/
def advertisedOn (endpoint : E) (name : GDPName) (observed : List (Observation R E T)) : Nat :=
  ((observed.flatMap (Observation.putOn (.conn endpoint))).map Copy.frame).countP fun frame =>
    frame.Advertises name

omit [DecidableEq R] in
theorem advertisedOn_append (first second : List (Observation R E T)) :
    advertisedOn endpoint name (first ++ second) =
      advertisedOn endpoint name first + advertisedOn endpoint name second := by
  simp [advertisedOn]

omit [DecidableEq R] in
/-- Packets are no advertisements. -/
theorem advertisedOn_forwards
    (h : ∀ copy, .put (.conn endpoint) copy ∈ observed → copy.packet.action = .forward) :
    advertisedOn endpoint name observed = 0 := by
  rw [advertisedOn, List.countP_eq_zero]
  intro frame hFrame
  obtain ⟨copy, hCopy, rfl⟩ := List.mem_map.mp hFrame
  have hAction := h copy (mem_putOn.mp hCopy)
  simp [InTransit.Advertises, Copy.frame, hAction]

/-- A flush advertises every name of the table, each once. -/
theorem advertisedOn_flush {state after : NetState R E T} {order : List GDPName}
    (hState : net.forwarding.Everywhere net state)
    (hGateway : net.gateway (net.home endpoint) = some endpoint)
    (hOpen : state.closed (.conn endpoint) = false)
    (hName : name ∈ state.table (net.home endpoint))
    (hMove : Move net state (.ribStatus (net.home endpoint) order) after observed) :
    advertisedOn endpoint name observed = 1 := by
  cases hMove with
  | @ribStatus _ _ update rest hQueue hOrder =>
      obtain ⟨gateway, hSame, hSink⟩ := hState.sinks _ update (hQueue ▸ List.mem_cons_self)
      obtain rfl := Option.some.inj (hSame.symm.trans hGateway)
      have hOnce : order.count name = 1 :=
        List.count_eq_one_of_mem (hOrder.nodup_iff.mpr (AList.keys_nodup _))
          (hOrder.mem_iff.mpr hName)
      rw [← hSink] at hOpen
      rw [advertisedOn, putAll_putOn, ← hSink, enqueuedOn_announced hOpen, List.map_map,
        List.countP_map, ← hOnce]
      apply List.countP_congr
      intro other _
      simp [InTransit.Advertises, Copy.frame, constructGdpAdvertisementFromBytes]

end Adverts

section Flushed

variable {net : Network R E T} {clientEnd gatewayEnd : E} {name : GDPName}
  {state later : NetState R E T} {observed after : List (Observation R E T)}
  {labels : List (NetLabel R E T)}

namespace Network.Flushed

/-- Such a state is reached by a run from the start. -/
theorem run (h : net.Flushed clientEnd gatewayEnd name state observed) :
    ∃ labels, (∀ label ∈ labels, label.Keeps clientEnd gatewayEnd) ∧
      Run net.Steps (.initial fun _ => ∅) labels state observed := by
  obtain ⟨prior, hFlush, later, hKept, hName, rfl⟩ := h
  refine ⟨_, fun label hLabel => ?_, (prior.snoc hFlush).append later⟩
  rcases List.mem_append.mp hLabel with hEarly | hLate
  · rcases List.mem_append.mp hEarly with hEarly | hNow
    · exact hKept label (List.mem_append_left _ hEarly)
    · rw [List.mem_singleton.mp hNow]
      simp [NetLabel.Keeps]
  · exact hKept label (List.mem_append_right _ hLate)

/-- Such a state stays so while both ends are kept. -/
theorem append (h : net.Flushed clientEnd gatewayEnd name state observed)
    (rest : Run net.Steps state labels later after)
    (hLabels : ∀ label ∈ labels, label.Keeps clientEnd gatewayEnd) :
    net.Flushed clientEnd gatewayEnd name later (observed ++ after) := by
  obtain ⟨prior, hFlush, middle, hKept, hName, rfl⟩ := h
  refine ⟨prior, hFlush, middle.append rest, fun label hLabel => ?_, hName,
    List.append_assoc ..⟩
  rw [← List.append_assoc] at hLabel
  exact (List.mem_append.mp hLabel).elim (hKept label) (hLabels label)

/-- What was flushed is still known. -/
theorem known (h : net.Flushed clientEnd gatewayEnd name state observed) :
    name ∈ state.table (net.home clientEnd) := by
  obtain ⟨prior, hFlush, later, hKept, hName, -⟩ := h
  exact table_mem_of_run later ((next_move hFlush).table_mem hName)

theorem is_open (h : net.Flushed clientEnd gatewayEnd name state observed) :
    state.closed (.conn gatewayEnd) = false := by
  obtain ⟨labels, hKept, run⟩ := h.run
  exact open_of_run run (fun label hLabel => (hKept label hLabel).2.2.2) rfl

/-- There is one flush, so the name was advertised once. -/
theorem advertised_once (h : net.Flushed clientEnd gatewayEnd name state observed)
    (joined : net.JoinedTo clientEnd gatewayEnd) : advertisedOn clientEnd name observed = 1 := by
  obtain ⟨prior, hFlush, later, hKept, hName, rfl⟩ := h
  have hMove := next_move hFlush
  have hInitial : net.forwarding.Everywhere net (.initial fun _ => ∅) :=
    .initial (by simp)
  obtain ⟨hFlushing, -⟩ := Local.everywhere_of_run net.forwarding_preserved
    (by simp) (fun _ _ => trivial) prior
  obtain ⟨hFlushed, -⟩ := hFlushing.step net.forwarding_preserved trivial hMove
  obtain ⟨hBefore, hQuietBefore⟩ := forwards_only clientEnd prior hInitial
  obtain ⟨hAfter, hQuietAfter⟩ := forwards_only clientEnd later hFlushed
  have hUsed := hMove.flushesLeft_of_ribStatus
  have hOne : (NetState.initial fun _ : R => ∅ : NetState R E T).flushesLeft
      (net.home clientEnd) = 1 := rfl
  have hOpen := open_of_run prior
    (fun label hLabel => (hKept label (List.mem_append_left _ hLabel)).2.2.1) rfl
  rw [advertisedOn_append, advertisedOn_append,
    advertisedOn_forwards (hQuietBefore (by omega)),
    advertisedOn_forwards (hQuietAfter (by omega)),
    advertisedOn_flush hFlushing joined.gateway hOpen hName hMove]

/-- The advertisement is read at the gateway or on its way there. -/
theorem advertised_there (h : net.Flushed clientEnd gatewayEnd name state observed)
    (joined : net.JoinedTo clientEnd gatewayEnd) :
    ((observed.flatMap (Observation.deliveredAt gatewayEnd)).countP fun frame =>
        frame.Advertises name) +
      ((state.inFlight clientEnd gatewayEnd).countP fun frame => frame.Advertises name) = 1 := by
  obtain ⟨labels, hKept, run⟩ := h.run
  have hCarried := carried_in_order joined.peer
    (fun label hLabel => ⟨(hKept label hLabel).2.1, (hKept label hLabel).2.2.1⟩) run
  rw [← h.advertised_once joined, advertisedOn, hCarried, List.countP_append]

/-- So there is at most one registration of it, waiting or made. -/
theorem registeredFor (h : net.Flushed clientEnd gatewayEnd name state observed)
    (joined : net.JoinedTo clientEnd gatewayEnd) :
    state.registeredFor (net.home gatewayEnd) gatewayEnd name =
      List.replicate (1 - (state.inFlight clientEnd gatewayEnd).countP fun frame =>
        frame.Advertises name) (net.registration gatewayEnd name) := by
  obtain ⟨labels, -, run⟩ := h.run
  have hKind : net.kind gatewayEnd ≠ .toPeer := by
    rw [joined.listener]
    decide
  rw [registered_in_order hKind name run, ← h.advertised_there joined, Nat.add_sub_cancel]

/-- When it has settled, it is registered. -/
theorem registered (h : net.Flushed clientEnd gatewayEnd name state observed)
    (joined : net.JoinedTo clientEnd gatewayEnd)
    (hSettled : state.Settled net clientEnd gatewayEnd name) :
    net.registration gatewayEnd name ∈
      ((state.table (net.home gatewayEnd)).lookup name).getD [] := by
  have hAll := h.registeredFor joined
  have hNone : ((state.inFlight clientEnd gatewayEnd).countP fun frame =>
      frame.Advertises name) = 0 := by
    simpa [List.countP_eq_zero] using hSettled.inFlight
  have hWaiting : (state.channelRx (net.home gatewayEnd)).filter (fun channel =>
      channel.channel = .conn gatewayEnd ∧ channel.gdpname = name) = [] := by
    simpa [List.filter_eq_nil_iff] using hSettled.waiting
  rw [hNone, NetState.registeredFor, hWaiting, List.append_nil] at hAll
  have hMem : net.registration gatewayEnd name ∈ List.replicate (1 - 0)
      (net.registration gatewayEnd name) := by simp
  rw [← hAll] at hMem
  exact List.mem_of_mem_filter hMem

/-- Once it is registered there is nothing else for this connection. -/
theorem registered_once (h : net.Flushed clientEnd gatewayEnd name state observed)
    (joined : net.JoinedTo clientEnd gatewayEnd)
    (hRegistered : net.registration gatewayEnd name ∈
      ((state.table (net.home gatewayEnd)).lookup name).getD []) :
    ((((state.table (net.home gatewayEnd)).lookup name).getD []).filter fun channel =>
      channel.channel = .conn gatewayEnd) = [net.registration gatewayEnd name] := by
  let made := (((state.table (net.home gatewayEnd)).lookup name).getD []).filter fun channel =>
    channel.channel = .conn gatewayEnd
  have hMade : net.registration gatewayEnd name ∈ made :=
    List.mem_filter.mpr ⟨hRegistered, by simp [registration]⟩
  have hPrefix : made <+: List.replicate (1 - (state.inFlight clientEnd gatewayEnd).countP
      fun frame => frame.Advertises name) (net.registration gatewayEnd name) := by
    rw [← h.registeredFor joined]
    exact List.prefix_append _ _
  have hLength : made.length = 1 := by
    have hAtMost := hPrefix.length_le
    have hSome := List.length_pos_of_mem hMade
    rw [List.length_replicate] at hAtMost
    omega
  obtain ⟨channel, hOne⟩ := List.length_eq_one_iff.mp hLength
  rw [hOne, List.mem_singleton] at hMade
  exact hMade ▸ hOne

/-- Packets from the gateway come to the RIB of the client in order, each once. -/
theorem arrives_in_order (h : net.Flushed clientEnd gatewayEnd name state observed)
    (joined : net.JoinedTo clientEnd gatewayEnd) :
    (observed.flatMap (Observation.putOn (.conn gatewayEnd))).map
        (fun copy => net.arrival clientEnd copy.frame) =
      observed.flatMap (Observation.handledFrom (net.home clientEnd) clientEnd) ++
        state.unhandled (net.home clientEnd) clientEnd ++
        (state.inFlight gatewayEnd clientEnd).map (net.arrival clientEnd) := by
  obtain ⟨labels, hKept, run⟩ := h.run
  have hCarried := carried_in_order (net.peer_symm joined.peer)
    (fun label hLabel => ⟨(hKept label hLabel).1, (hKept label hLabel).2.2.2⟩) run
  obtain ⟨-, hSeen⟩ := Local.everywhere_of_run net.forwarding_preserved
    (by simp) (fun _ _ => trivial) run
  have hForward : ∀ frame ∈ (observed.flatMap (Observation.putOn (.conn gatewayEnd))).map
      Copy.frame, frame.header.action = .forward := by
    intro frame hFrame
    obtain ⟨copy, hCopy, rfl⟩ := List.mem_map.mp hFrame
    refine (GDPPacket.getHeader_action _).trans ?_
    rcases hSeen.put _ copy (mem_putOn.mp hCopy) with
      hAction | ⟨-, router, endpoint, hGateway, hSame⟩
    · exact hAction
    · have hKind := (net.gateway_home hGateway).2
      rw [← Handle.conn.inj hSame, joined.listener] at hKind
      cases hKind
  have hReceived : ∀ frames : List (InTransit R T), (∀ frame ∈ frames,
      frame.header.action = .forward) →
        frames.flatMap (net.received clientEnd) = frames.map (net.arrival clientEnd) := by
    intro frames hFrames
    rw [← List.flatMap_pure_eq_map]
    exact List.flatMap_congr fun frame hFrame => if_pos (hFrames frame hFrame)
  have hLate : ∀ frame ∈ state.inFlight gatewayEnd clientEnd, frame.header.action = .forward :=
    fun frame hFrame => hForward frame (hCarried ▸ List.mem_append_right _ hFrame)
  rw [← handled_in_order run, ← hReceived _ hLate, ← List.flatMap_append, ← hCarried,
    hReceived _ hForward, List.map_map]
  rfl

end Network.Flushed

/-- Once the client has flushed the name and the gateway has registered it: the gateway
puts each packet for the name, unless it is from there, once on the connection, the
packets come to the RIB of the client in order and each once, and the RIB puts one
copy on each open handle that is registered for the name, but not by the connection. -/
theorem gateway_delivery (net : Network R E T) (joined : net.JoinedTo clientEnd gatewayEnd)
    {settled : NetState R E T} {before : List (Observation R E T)}
    (flushed : net.Flushed clientEnd gatewayEnd name settled before)
    (hSettled : settled.Settled net clientEnd gatewayEnd name)
    (rest : Run net.Steps settled labels state after)
    (hLabels : ∀ label ∈ labels, label.Keeps clientEnd gatewayEnd) :
    (∀ order copy next seen,
      net.Steps state (.ribPacket (net.home gatewayEnd) order) next seen →
      .handled (net.home gatewayEnd) copy ∈ seen → copy.packet.gdpname = name →
      copy.packet.source ≠ net.threadName gatewayEnd →
      seen.flatMap (Observation.putOn (.conn gatewayEnd)) = [copy]) ∧
    ((before ++ after).flatMap (Observation.putOn (.conn gatewayEnd))).map
        (fun copy => net.arrival clientEnd copy.frame) =
      (before ++ after).flatMap (Observation.handledFrom (net.home clientEnd) clientEnd) ++
        state.unhandled (net.home clientEnd) clientEnd ++
        (state.inFlight gatewayEnd clientEnd).map (net.arrival clientEnd) ∧
    (∀ copy : Copy R E T, (net.arrival clientEnd copy.frame).packet.gdpname = copy.packet.gdpname ∧
      (net.arrival clientEnd copy.frame).packet.body = copy.packet.body) ∧
    ∀ order copy next seen,
      net.Steps state (.ribPacket (net.home clientEnd) order) next seen →
      .handled (net.home clientEnd) copy ∈ seen → copy.heard = some clientEnd →
      copy.packet.gdpname = name →
      ∃ destinations, (state.table (net.home clientEnd)).lookup name = some destinations ∧
        seen = .handled (net.home clientEnd) copy :: putAll ((destinations.filter fun dst =>
          state.closed dst.channel = false ∧
            dst.advertisement.source ≠ net.threadName clientEnd).map
              fun dst => (dst.channel, copy)) := by
  have now := flushed.append rest hLabels
  refine ⟨?_, now.arrives_in_order joined, fun copy => ⟨GDPPacket.getHeader_destination _, rfl⟩, ?_⟩
  · rintro order copy next seen hStep hHandled rfl hSource
    have hOnce := now.registered_once joined
      (table_grows_of_run rest (flushed.registered joined hSettled))
    obtain ⟨-, rfl⟩ := eq_of_handled hStep hHandled
    cases hLookup : (state.table (net.home gatewayEnd)).lookup copy.packet.gdpname with
    | none => simp [hLookup] at hOnce
    | some destinations =>
        rw [hLookup, Option.getD_some] at hOnce
        have hCount : (destinations.countP fun channel => channel.channel = .conn gatewayEnd ∧
            channel.advertisement.source ≠ copy.packet.source) = 1 := by
          calc
            _ = (destinations.filter fun channel => channel.channel = .conn gatewayEnd).countP
                  fun channel => channel.advertisement.source ≠ copy.packet.source := by
              rw [List.countP_filter]
              simp [and_comm]
            _ = 1 := by
              rw [hOnce]
              simpa [Network.registration, constructGdpAdvertisementFromBytes] using hSource.symm
        rw [List.flatMap_cons, Observation.putOn_handled, List.nil_append, putAll_putOn,
          enqueuedOn_routed hLookup now.is_open, hCount, List.replicate_one]
  · rintro order copy next seen hStep hHandled hHeard rfl
    obtain ⟨hQueued, rfl⟩ := eq_of_handled hStep hHandled
    obtain ⟨destinations, hLookup⟩ :=
      Option.isSome_iff_exists.mp (AList.lookup_isSome.mpr now.known)
    obtain ⟨allLabels, -, run⟩ := now.run
    obtain ⟨hSourced, -⟩ :=
      Local.everywhere_of_run net.sourced_preserved (by simp) (fun _ _ => trivial) run
    have hThread := (hSourced.inRib _ copy hQueued clientEnd hHeard).2
    exact ⟨destinations, hLookup, by rw [routed_of_lookup hLookup, hThread]⟩

end Flushed

namespace DeliveryExample

def topic : GDPName := .ofBytes 1 0 0 0

inductive Socket where
  | outside
  | atGateway
  | atClient
  deriving DecidableEq

/-- A publisher at the client, and a program outside that sends to the gateway. -/
def net : Network Bool Socket Unit where
  home
    | .outside | .atGateway => false
    | .atClient => true
  peer
    | .outside => none
    | .atGateway => some .atClient
    | .atClient => some .atGateway
  kind
    | .outside | .atGateway => .listener
    | .atClient => .toPeer
  threadName
    | .outside => .ofBytes 0 1 1 1
    | .atGateway => .ofBytes 1 1 1 1
    | .atClient => .ofBytes 2 1 1 1
  gateway
    | true => some .atClient
    | false => none
  rosHome _ := true
  rosKind _ := .publisher
  nodeName _ := .ofBytes 9 9 9 9
  topicName _ := topic
  ribTx _ := none
  peer_symm := by rintro (_ | _ | _) there ⟨⟩ <;> rfl
  gateway_home := by
    rintro (_ | _) endpoint ⟨⟩
    exact ⟨rfl, rfl⟩
  ribTx_home := by simp

def names : List GDPName := [topic, net.threadName .atClient]

def early : List (NetLabel Bool Socket Unit) :=
  [.connStart .outside, .connStart .atGateway, .connStart .atClient, .rosAdvertise (),
    .ribChannel true, .ribChannel true, .flush true]

def settling : List (NetLabel Bool Socket Unit) :=
  [.connSend .atClient, .connSend .atClient, .connRecv .atGateway, .connRecv .atGateway,
    .ribChannel false, .ribChannel false]

/-- Of two packets for the topic the first is at the client, the second at the gateway. -/
def packets : List (NetLabel Bool Socket Unit) :=
  [.wire .outside (.announcing .forward topic [5]) [5], .connRecv .outside, .ribPacket false names,
    .connSend .atGateway, .connRecv .atClient,
    .wire .outside (.announcing .forward topic [6]) [6], .connRecv .outside]

def first : Copy Bool Socket Unit :=
  ⟨constructGdpForwardFromBytes topic (net.threadName .atClient) [5], some .atClient,
    ⟨1, none, [false, true]⟩⟩

def second : Copy Bool Socket Unit :=
  ⟨constructGdpForwardFromBytes topic (net.threadName .outside) [6], some .outside,
    ⟨2, none, [false]⟩⟩

end DeliveryExample

open DeliveryExample in
/-- Of two packets for the topic one is handled at the gateway and the other at
the client. -/
theorem gateway_delivery_example : ∃ state next seen next' seen',
    net.Steps state (.ribPacket false names) next seen ∧
    .handled false second ∈ seen ∧
    seen.flatMap (Observation.putOn (.conn .atGateway)) = [second] ∧
    net.Steps state (.ribPacket true names) next' seen' ∧
    .handled true first ∈ seen' ∧
    ∃ destinations, (state.table true).lookup topic = some destinations ∧
      seen' = .handled true first :: putAll ((destinations.filter fun dst =>
        state.closed dst.channel = false ∧
          dst.advertisement.source ≠ net.threadName .atClient).map
            fun dst => (dst.channel, first)) := by
  have joined : net.JoinedTo .atClient .atGateway := ⟨rfl, rfl, rfl⟩
  have hRun : (runOption net.next (.initial fun _ => ∅) early).any (fun flushing =>
      topic ∈ flushing.1.table true ∧
      (net.next flushing.1 (.ribStatus true names)).any fun flushed =>
      (runOption net.next flushed.1 settling).any fun settled =>
      (∀ frame ∈ settled.1.inFlight .atClient .atGateway, ¬frame.Advertises topic) ∧
      (∀ channel ∈ settled.1.channelRx false,
        channel.channel = .conn .atGateway → channel.gdpname ≠ topic) ∧
      (runOption net.next settled.1 packets).any fun last =>
      (net.next last.1 (.ribPacket false names)).any (fun step =>
        .handled false second ∈ step.2) ∧
      (net.next last.1 (.ribPacket true names)).any (fun step =>
        .handled true first ∈ step.2)) = true := by decide +kernel
  simp only [Option.any_eq_true, decide_eq_true_eq] at hRun
  obtain ⟨⟨flushing, before⟩, prior, hName, ⟨flushed, announced⟩, hFlush, ⟨settled, settlingSeen⟩,
    hSettling, hInFlight, hWaiting, ⟨state, after⟩, rest, ⟨⟨next, seen⟩, hNext, hSecond⟩,
    ⟨next', seen'⟩, hNext', hFirst⟩ := hRun
  have hFlushed : net.Flushed .atClient .atGateway topic settled
      (before ++ announced ++ settlingSeen) :=
    ⟨runOption_eq_some_iff.mp prior, hFlush, runOption_eq_some_iff.mp hSettling, by decide, hName,
      rfl⟩
  obtain ⟨hOnce, -, -, hEach⟩ := gateway_delivery net joined hFlushed ⟨hInFlight, hWaiting⟩
    (runOption_eq_some_iff.mp rest) (by decide)
  exact ⟨state, next, seen, next', seen', hNext, hSecond,
    hOnce _ _ _ _ hNext hSecond rfl (by decide), hNext', hFirst,
    hEach _ _ _ _ hNext' hFirst rfl rfl⟩

end GdpRouter
