import GdpRouter.Deployment.Delivery

/-! The packets of a subscriber leave its router over a direct connection, but their
topic is advertised over another one. The gateway takes the two for different peers:
it sends the packets back once it knows of the advertisement. -/
namespace GdpRouter

open Multimap Transition

variable {R E T : Type}

/-- All connections between the two routers were opened by the client: `tcp_to_peer`
or `dtls_to_peer` opened one, the direct ones belong to its topics. -/
structure Network.Deployed (net : Network R E T) (clientEnd gatewayEnd : E) : Prop
    extends net.JoinedTo clientEnd gatewayEnd where
  accepted : ∀ {endpoint other}, net.peer endpoint = some other →
    net.home endpoint = net.home gatewayEnd → net.home other = net.home clientEnd →
    net.kind endpoint = .listener

/-- A subscriber of the router put the packet on its direct connection. -/
def Network.FromDirect (net : Network R E T) (router : R) (trace : Trace R T) : Prop :=
  ∃ task ∈ trace.origin, net.rosHome task = router ∧ (net.ribTx task).isSome

/-- The gateway sends such a packet to the client again. -/
def Network.Echo (net : Network R E T) (clientEnd gatewayEnd : E) : Observation R E T → Prop
  | .put (.conn endpoint) copy => net.home endpoint = net.home gatewayEnd ∧
      (net.peer endpoint).map net.home = some (net.home clientEnd) ∧
        net.FromDirect (net.home clientEnd) copy.trace
  | .put (.ros _) _ | .delivered _ _ | .handled _ _ | .published _ _ => False

instance (net : Network R E T) (router : R) (trace : Trace R T) [DecidableEq R] :
    Decidable (net.FromDirect router trace) :=
  inferInstanceAs (Decidable (∃ task ∈ trace.origin, _))

instance (net : Network R E T) (clientEnd gatewayEnd : E) [DecidableEq R] :
    DecidablePred (net.Echo clientEnd gatewayEnd)
  | .put (.conn _) _ => inferInstanceAs (Decidable (_ ∧ _ ∧ _))
  | .put (.ros _) _ | .delivered _ _ | .handled _ _ | .published _ _ =>
      inferInstanceAs (Decidable False)

/-- The RIB of the gateway knows no registration that the client advertised, among
those it picks for the packet. Otherwise the packet has to be from there itself, or
the connection has to be closed. -/
def NetState.NoWayBack (state : NetState R E T) [DecidableEq R] (net : Network R E T)
    (gatewayEnd : E) (copy : Copy R E T) : Prop :=
  state.closed (.conn gatewayEnd) = true ∨ copy.packet.source = net.threadName gatewayEnd ∨
    ∀ dst, Picks (state.table (net.home gatewayEnd)) copy.packet.gdpname dst →
      dst.channel ≠ .conn gatewayEnd

/-- The step does not make the RIB of the gateway handle a packet of a subscriber of
the client when there is a way back. -/
def Network.EchoGuard (net : Network R E T) [DecidableEq R] (clientEnd gatewayEnd : E)
    (state : NetState R E T) : NetLabel R E T → Prop
  | .ribPacket router _ => router = net.home gatewayEnd → ∀ copy ∈ (state.ribRx router).head?,
      net.FromDirect (net.home clientEnd) copy.trace → state.NoWayBack net gatewayEnd copy
  | _ => True

namespace Network.Deployed

variable {net : Network R E T} {clientEnd gatewayEnd : E}

theorem home_ne (deployed : net.Deployed clientEnd gatewayEnd) :
    net.home clientEnd ≠ net.home gatewayEnd := by
  intro hSame
  have hKind := deployed.accepted deployed.peer hSame hSame.symm
  rw [(net.gateway_home deployed.gateway).2] at hKind
  cases hKind

/-- The client is only registered at the gateway for its advertising connection. -/
theorem way_back (deployed : net.Deployed clientEnd gatewayEnd) {endpoint : E}
    {channel : GDPChannel (Handle E T)}
    (hChannel : net.forwarding.registered (net.home gatewayEnd) channel)
    (hSame : channel.channel = .conn endpoint) (hHome : net.home endpoint = net.home gatewayEnd)
    (hPeer : (net.peer endpoint).map net.home = some (net.home clientEnd)) :
    endpoint = gatewayEnd := by
  obtain ⟨other, hOther, hClient⟩ := Option.map_eq_some_iff.mp hPeer
  rcases hChannel endpoint other hSame hOther with hKind | hGateway
  · rw [deployed.accepted hOther hHome hClient] at hKind
    cases hKind
  · rw [hClient, deployed.gateway] at hGateway
    obtain rfl := Option.some.inj hGateway
    exact Option.some.inj ((net.peer_symm hOther).symm.trans deployed.peer)

end Network.Deployed

variable [DecidableEq R] [DecidableEq E] [DecidableEq T]

section EchoFree

variable {net : Network R E T} {clientEnd gatewayEnd : E} {state after : NetState R E T}
  {label : NetLabel R E T} {observed : List (Observation R E T)}

omit [DecidableEq E] [DecidableEq T] in
/-- A RIB echoes a packet exactly when it is the gateway's and there is a way back. -/
theorem routed_echo_free_iff (deployed : net.Deployed clientEnd gatewayEnd)
    (hSourced : net.sourced.Everywhere net state)
    (hForwarding : net.forwarding.Everywhere net state) {router : R} {order : List GDPName}
    {copy : Copy R E T} (hOrder : order.Perm (state.table router).keys) :
    (∀ out ∈ state.routed router order copy,
        ¬net.Echo clientEnd gatewayEnd (.put out.1 out.2)) ↔
      (router = net.home gatewayEnd → net.FromDirect (net.home clientEnd) copy.trace →
        state.NoWayBack net gatewayEnd copy) := by
  constructor
  · rintro hFree rfl hDirect
    by_contra hBack
    unfold NetState.NoWayBack at hBack
    push Not at hBack
    obtain ⟨hOpen, hSource, dst, hPicked, hChannel⟩ := hBack
    have hThread := (hSourced.picked hPicked).2 gatewayEnd hChannel
    have hOut : (dst.channel, copy) ∈ state.routed (net.home gatewayEnd) order copy :=
      (mem_routed_iff hOrder).mpr ⟨dst, hPicked, by rw [hThread]; exact hSource.symm,
        by rw [hChannel]; simpa using hOpen, rfl⟩
    apply hFree _ hOut
    rw [hChannel]
    exact ⟨rfl, by rw [net.peer_symm deployed.peer]; rfl, hDirect⟩
  · intro hGuard out hOut hEcho
    obtain ⟨dst, hPicked, hSource, hOpen, rfl⟩ := (mem_routed_iff hOrder).mp hOut
    cases hChannel : dst.channel with
    | ros task => simp [Network.Echo, hChannel] at hEcho
    | conn endpoint =>
        rw [hChannel] at hEcho
        obtain ⟨hHome, hPeer, hDirect⟩ := hEcho
        have hRouter : net.home endpoint = router := by
          have hOwner := (hSourced.picked hPicked).1
          rwa [hChannel] at hOwner
        obtain rfl := hRouter.symm.trans hHome
        obtain rfl := deployed.way_back (hForwarding.picked hPicked) hChannel hHome hPeer
        rcases hGuard rfl hDirect with hClosed | hSame | hNone
        · rw [hChannel, hClosed] at hOpen
          cases hOpen
        · exact hSource (((hSourced.picked hPicked).2 endpoint hChannel).trans hSame.symm)
        · exact hNone dst hPicked hChannel

/-- Nothing but the RIB of the gateway echoes. -/
theorem Move.no_echo_iff (deployed : net.Deployed clientEnd gatewayEnd)
    (hSourced : net.sourced.Everywhere net state)
    (hForwarding : net.forwarding.Everywhere net state)
    (hMove : Move net state label after observed) :
    (∀ seen ∈ observed, ¬net.Echo clientEnd gatewayEnd seen) ↔
      net.EchoGuard clientEnd gatewayEnd state label := by
  constructor
  · intro hFree
    cases hMove with
    | @ribPacket router order copy rest hQueue hOrder =>
        have hRouted : ∀ out ∈ state.routed router order copy,
            ¬net.Echo clientEnd gatewayEnd (.put out.1 out.2) := fun out hOut =>
          hFree _ (List.mem_cons_of_mem _ (mem_putAll.mpr hOut))
        have hNoWay := (routed_echo_free_iff deployed hSourced hForwarding hOrder).mp hRouted
        simpa [Network.EchoGuard, hQueue] using hNoWay
    | _ => trivial
  · intro hGuard seen hSeen hEcho
    cases seen with
    | put handle copy =>
        rcases hMove.put_cases hSeen with ⟨router, order, rfl, hOrder, taken, hTaken, hOut⟩ |
          ⟨_, _, -, update, -, hOut⟩ | ⟨task, other, payload, -, hTx, hOut⟩
        · obtain ⟨_, dst, -, -, -, hSame⟩ := mem_routed hOut
          obtain ⟨-, rfl⟩ := Prod.mk.inj hSame
          exact (routed_echo_free_iff deployed hSourced hForwarding hOrder).mpr
            (fun hRouter => hGuard hRouter copy hTaken) _ hOut hEcho
        · -- An announcement has no origin.
          obtain ⟨name, -, hSame⟩ := mem_announced hOut
          obtain ⟨-, rfl⟩ := Prod.mk.inj hSame
          cases handle with
          | ros task => exact hEcho
          | conn endpoint => simp [Network.Echo, Network.FromDirect] at hEcho
        · -- A direct connection of the client is not one of the gateway.
          cases mem_injected hOut
          obtain ⟨hHome, -, origin, hOrigin, hClient, -⟩ := hEcho
          obtain rfl := Option.some.inj hOrigin
          exact deployed.home_ne (hClient.symm.trans ((net.ribTx_home hTx).1.symm.trans hHome))
    | delivered | handled | published => exact hEcho

/-- In every run of the deployment: no packet that a subscriber of the client put on
its direct connection is sent back, exactly when there is no way back whenever the
RIB of the gateway handles one. -/
theorem echo_free_iff (net : Network R E T) (deployed : net.Deployed clientEnd gatewayEnd)
    {labels : List (NetLabel R E T)}
    (run : Run net.Steps (.initial fun _ => ∅) labels state observed) :
    (∀ seen ∈ observed, ¬net.Echo clientEnd gatewayEnd seen) ↔
      Run (Guarded net.Steps (net.EchoGuard clientEnd gatewayEnd)) (.initial fun _ => ∅) labels
        state observed := by
  refine run.free_iff_guarded
    (fun state => net.sourced.Everywhere net state ∧ net.forwarding.Everywhere net state)
    ⟨.initial (by simp), .initial (by simp)⟩ ?keep ?step
  case keep =>
    intro state label next last hState hStep
    have hMove := next_move hStep
    exact ⟨(hState.1.step net.sourced_preserved trivial hMove).1,
      (hState.2.step net.forwarding_preserved trivial hMove).1⟩
  case step =>
    intro state label next last hState hStep
    exact (next_move hStep).no_echo_iff deployed hState.1 hState.2

end EchoFree

namespace EchoExample

def topic : GDPName := .ofBytes 1 0 0 0

inductive Socket where
  | gatewayEnd
  | clientEnd
  | gatewayDirect
  | clientDirect
  deriving DecidableEq

/-- A client with one subscriber, and its two connections to the gateway. -/
def net : Network Bool Socket Unit where
  home
    | .gatewayEnd | .gatewayDirect => false
    | .clientEnd | .clientDirect => true
  peer
    | .gatewayEnd => some .clientEnd
    | .clientEnd => some .gatewayEnd
    | .gatewayDirect => some .clientDirect
    | .clientDirect => some .gatewayDirect
  kind
    | .gatewayEnd | .gatewayDirect => .listener
    | .clientEnd => .toPeer
    | .clientDirect => .direct
  threadName
    | .gatewayEnd => .ofBytes 0 1 1 1
    | .clientEnd => .ofBytes 1 1 1 1
    | .gatewayDirect => .ofBytes 2 1 1 1
    | .clientDirect => .ofBytes 3 1 1 1
  gateway
    | true => some .clientEnd
    | false => none
  rosHome _ := true
  rosKind _ := .subscriber
  nodeName _ := .ofBytes 9 9 9 9
  topicName _ := topic
  ribTx _ := some .clientDirect
  peer_symm := by rintro (_ | _ | _ | _) there ⟨⟩ <;> rfl
  gateway_home := by
    rintro (_ | _) endpoint ⟨⟩
    exact ⟨rfl, rfl⟩
  ribTx_home := by
    rintro task endpoint ⟨⟩
    exact ⟨rfl, rfl⟩

theorem deployed : net.Deployed .clientEnd .gatewayEnd where
  gateway := rfl
  peer := rfl
  listener := rfl
  accepted := by
    rintro (_ | _ | _ | _) other ⟨⟩ hHome _
    · rfl
    · cases hHome
    · rfl
    · cases hHome

def names : List GDPName := [topic, net.threadName .clientEnd]

def starting : List (NetLabel Bool Socket Unit) :=
  [.connStart .gatewayEnd, .connStart .clientEnd, .connStart .gatewayDirect,
    .connStart .clientDirect, .rosAdvertise ()]

/-- The client registers its subscriber and flushes, and the gateway registers that. -/
def flushing : List (NetLabel Bool Socket Unit) :=
  [.ribChannel true, .ribChannel true, .flush true, .ribStatus true names, .connSend .clientEnd,
    .connSend .clientEnd, .connRecv .gatewayEnd, .connRecv .gatewayEnd, .ribChannel false,
    .ribChannel false]

/-- The subscriber gets a message, and the gateway handles it. -/
def speaking (known : List GDPName) : List (NetLabel Bool Socket Unit) :=
  [.rosForward () [7], .connSend .clientDirect, .connRecv .gatewayDirect, .ribPacket false known]

/-- After the flush it goes back to the client. -/
def echoing : List (NetLabel Bool Socket Unit) :=
  starting ++ flushing ++ speaking names ++ [.connSend .gatewayEnd, .connRecv .clientEnd]

/-- The packet of the subscriber, as the gateway has it. -/
def spoken (id : Nat) : Copy Bool Socket Unit :=
  ⟨constructGdpForwardFromBytes topic (net.threadName .gatewayDirect) [7], some .gatewayDirect,
    ⟨id, some (), [true, false]⟩⟩

end EchoExample

open EchoExample in
/-- After the flush, the packet is put on the advertising connection and read again. -/
theorem subscriber_hears_itself : net.Deployed .clientEnd .gatewayEnd ∧
    ∃ state observed, Run net.Steps (.initial fun _ => ∅) echoing state observed ∧
      (∃ seen ∈ observed, net.Echo .clientEnd .gatewayEnd seen) ∧
      .delivered .clientEnd (spoken 1).frame ∈ observed := by
  have hRun : (runOption net.next (.initial fun _ => ∅) echoing).any (fun result =>
      (∃ seen ∈ result.2, net.Echo .clientEnd .gatewayEnd seen) ∧
        .delivered .clientEnd (spoken 1).frame ∈ result.2) = true := by decide +kernel
  obtain ⟨⟨state, observed⟩, hResult, hSeen⟩ := (Option.any_eq_true _ _).mp hRun
  exact ⟨deployed, state, observed, runOption_eq_some_iff.mp hResult, of_decide_eq_true hSeen⟩

open EchoExample in
/-- The same message before the flush: the gateway knows no one. -/
theorem echo_free_example : ∃ state observed,
    Run net.Steps (.initial fun _ => ∅) (starting ++ speaking []) state observed ∧
      .handled false (spoken 0) ∈ observed ∧
      Run (Guarded net.Steps (net.EchoGuard .clientEnd .gatewayEnd)) (.initial fun _ => ∅)
        (starting ++ speaking []) state observed := by
  have hRun : (runOption net.next (.initial fun _ => ∅) (starting ++ speaking [])).any
      (fun result => .handled false (spoken 0) ∈ result.2 ∧
        ∀ seen ∈ result.2, ¬net.Echo .clientEnd .gatewayEnd seen) = true := by decide +kernel
  obtain ⟨⟨state, observed⟩, hResult, hSeen⟩ := (Option.any_eq_true _ _).mp hRun
  obtain ⟨hHandled, hFree⟩ := of_decide_eq_true hSeen
  have run := runOption_eq_some_iff.mp hResult
  exact ⟨state, observed, run, hHandled, (echo_free_iff net deployed run).mp hFree⟩

end GdpRouter
