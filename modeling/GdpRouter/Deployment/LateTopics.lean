import GdpRouter.Deployment.Delivery

/-! Names that a client has only known since its flush. The gateway never hears of them.
What it does with their packets depends on what else it knows. -/
namespace GdpRouter

open Multimap Transition

variable {R E T : Type} [DecidableEq R] [DecidableEq E] [DecidableEq T]

/-- A flush of the client misses the name. -/
def Network.Misses (net : Network R E T) (endpoint : E) (name : GDPName)
    (state : NetState R E T) : NetLabel R E T → Prop
  | .ribStatus router _ => router = net.home endpoint → name ∉ state.table router
  | .ribPacket _ _ | .ribChannel _ | .connStart _ | .connSend _ | .connRecv _ | .wire _ _ _
  | .lose _ | .rosAdvertise _ | .rosForward _ _ | .rosRecv _ | .flush _ | .close _ => True

instance (net : Network R E T) (endpoint : E) (name : GDPName) (state : NetState R E T) :
    DecidablePred (net.Misses endpoint name state)
  | .ribStatus _ _ => inferInstanceAs (Decidable (_ → _))
  | .ribPacket _ _ | .ribChannel _ | .connStart _ | .connSend _ | .connRecv _ | .wire _ _ _
  | .lose _ | .rosAdvertise _ | .rosForward _ _ | .rosRecv _ | .flush _ | .close _ =>
      inferInstanceAs (Decidable True)

/-- By how many names the gateway knows the client. -/
def NetState.namesOf (state : NetState R E T) (net : Network R E T) (gatewayEnd : E) : Nat :=
  (state.table (net.home gatewayEnd)).keys.countP fun name =>
    net.registration gatewayEnd name ∈
      ((state.table (net.home gatewayEnd)).lookup name).getD []

section Advertised

variable {net : Network R E T} {here there endpoint : E} {name : GDPName}
  {state after : NetState R E T} {label : NetLabel R E T} {labels : List (NetLabel R E T)}
  {observed : List (Observation R E T)}

/-- Frames may be lost on the way, but none is made there. -/
theorem Move.carries_le (hPeer : net.peer here = some there)
    (hMove : Move net state label after observed) (p : InTransit R T → Bool) :
    (observed.flatMap (Observation.deliveredAt there)).countP p +
        (after.inFlight here there).countP p ≤
      (state.inFlight here there).countP p +
        (observed.flatMap fun seen => (seen.putOn (.conn here)).map Copy.frame).countP p := by
  by_cases hLose : label = .lose there
  · subst hLose
    cases hMove with
    | lose hLink =>
        simp only [NetState.inFlight, hLink, Function.update_self, List.cons_append,
          List.countP_cons, List.flatMap_nil, List.countP_nil]
        omega
  · by_cases hClose : label = .close (.conn here)
    · subst hClose
      cases hMove with
      | close => simp [NetState.inFlight]
    · have hSame := congrArg (List.countP p) (hMove.carries hPeer hLose hClose)
      rw [List.countP_append, List.countP_append] at hSame
      exact hSame.ge

/-- A flush advertises each name of the table, at most once each. -/
theorem Move.advertisedOn_le {order : List GDPName}
    (hMove : Move net state (.ribStatus (net.home endpoint) order) after observed)
    (name : GDPName) :
    advertisedOn endpoint name observed ≤ order.count name ∧
      order.Perm (state.table (net.home endpoint)).keys := by
  cases hMove with
  | @ribStatus _ _ update rest hQueue hOrder =>
      refine ⟨?_, hOrder⟩
      rw [advertisedOn, putAll_putOn]
      cases hOpen : state.closed update.sink with
      | true =>
          have hNone : flushAdvertisements state.closed order update = [] := by
            apply List.eq_nil_iff_forall_not_mem.mpr
            intro sent hSent
            cases hOpen.symm.trans (mem_flushAdvertisements.mp hSent).1
          simp [NetState.announced, hNone, enqueuedOn]
      | false =>
          by_cases hSink : update.sink = .conn endpoint
          · rw [← hSink, enqueuedOn_announced hOpen, List.map_map, List.countP_map]
            refine List.countP_mono_left fun other _ hOther => ?_
            simpa [InTransit.Advertises, Copy.frame, constructGdpAdvertisementFromBytes]
              using hOther
          · have hNone : enqueuedOn (.conn endpoint)
                (state.announced (net.home endpoint) order update) = [] := by
              apply List.eq_nil_iff_forall_not_mem.mpr
              intro copy hCopy
              obtain ⟨_, -, hSame⟩ := mem_announced (mem_enqueuedOn.mp hCopy)
              exact hSink (congrArg Prod.fst hSame).symm
            simp [hNone]

theorem Move.advertises_le (endpoint : E) (name : GDPName)
    (hState : net.forwarding.Everywhere net state) (hMove : Move net state label after observed) :
    advertisedOn endpoint name observed + after.flushesLeft (net.home endpoint) ≤
      state.flushesLeft (net.home endpoint) := by
  by_cases hLabel : ∀ order, label ≠ .ribStatus (net.home endpoint) order
  · rw [advertisedOn_forwards fun copy => hMove.puts_forward hState hLabel,
      hMove.flushesLeft_of_ne hLabel, Nat.zero_add]
  · obtain ⟨order, rfl⟩ := not_forall_not.mp hLabel
    obtain ⟨hCount, hOrder⟩ := hMove.advertisedOn_le name
    have hOnce := List.nodup_iff_count_le_one.mp (hOrder.nodup_iff.mpr (AList.keys_nodup _)) name
    have hUsed := hMove.flushesLeft_of_ribStatus
    omega

theorem Move.advertises_none (hState : net.forwarding.Everywhere net state)
    (hMove : Move net state label after observed)
    (hMisses : net.Misses endpoint name state label) : advertisedOn endpoint name observed = 0 := by
  by_cases hLabel : ∀ order, label ≠ .ribStatus (net.home endpoint) order
  · exact advertisedOn_forwards fun copy => hMove.puts_forward hState hLabel
  · obtain ⟨order, rfl⟩ := not_forall_not.mp hLabel
    obtain ⟨hCount, hOrder⟩ := hMove.advertisedOn_le name
    have hFresh : name ∉ order := fun hIn => hMisses rfl (hOrder.mem_iff.mp hIn)
    rw [List.count_eq_zero_of_not_mem hFresh] at hCount
    exact Nat.le_zero.mp hCount

/-- A client advertises each name at most once. -/
theorem advertised_le (endpoint : E) (name : GDPName)
    (run : Run net.Steps (.initial fun _ => ∅) labels state observed) :
    advertisedOn endpoint name observed ≤ 1 := by
  have hAll : net.forwarding.Everywhere net state ∧
      advertisedOn endpoint name observed + state.flushesLeft (net.home endpoint) ≤ 1 := by
    apply run.history_invariant fun state _ observed => net.forwarding.Everywhere net state ∧
      advertisedOn endpoint name observed + state.flushesLeft (net.home endpoint) ≤ 1
    · exact ⟨.initial (by simp), Nat.le_refl _⟩
    · rintro state labels observed label next last - ⟨hState, hLeft⟩ hStep
      have hMove := next_move hStep
      have hStepLeft := hMove.advertises_le endpoint name hState
      rw [advertisedOn_append]
      exact ⟨(hState.step net.forwarding_preserved trivial hMove).1, by omega⟩
  exact (Nat.le_add_right _ _).trans hAll.2

/-- A name that every flush misses is not advertised at all. -/
theorem advertised_none (run : Run (Guarded net.Steps (net.Misses endpoint name))
      (.initial fun _ => ∅) labels state observed) : advertisedOn endpoint name observed = 0 := by
  have hAll : net.forwarding.Everywhere net state ∧ advertisedOn endpoint name observed = 0 := by
    apply run.history_invariant fun state _ observed =>
      net.forwarding.Everywhere net state ∧ advertisedOn endpoint name observed = 0
    · exact ⟨.initial (by simp), rfl⟩
    · rintro state labels observed label next last - ⟨hState, hNone⟩ ⟨hStep, hMisses⟩
      have hMove := next_move hStep
      rw [advertisedOn_append, hNone, hMove.advertises_none hState hMisses]
      exact ⟨(hState.step net.forwarding_preserved trivial hMove).1, rfl⟩
  exact hAll.2

end Advertised

section Registered

variable {net : Network R E T} {clientEnd gatewayEnd : E} {name : GDPName}
  {state : NetState R E T} {labels : List (NetLabel R E T)} {observed : List (Observation R E T)}

/-- The gateway registers no more than the client has advertised. -/
theorem registered_le (name : GDPName) (joined : net.JoinedTo clientEnd gatewayEnd)
    (run : Run net.Steps (.initial fun _ => ∅) labels state observed) :
    ∃ count ≤ advertisedOn clientEnd name observed,
      ((((state.table (net.home gatewayEnd)).lookup name).getD []).filter fun channel =>
        channel.channel = .conn gatewayEnd) =
          List.replicate count (net.registration gatewayEnd name) := by
  have hKind : net.kind gatewayEnd ≠ .toPeer := by
    rw [joined.listener]
    decide
  have hCarried := run.countP_le (p := fun frame => decide (frame.Advertises name))
    (fun state => state.inFlight clientEnd gatewayEnd)
    (fun seen => (seen.putOn (.conn clientEnd)).map Copy.frame)
    (Observation.deliveredAt gatewayEnd)
    fun _ _ _ _ hStep => (next_move hStep).carries_le joined.peer _
  have hAdvertised : (observed.flatMap fun seen => (seen.putOn (.conn clientEnd)).map
      Copy.frame).countP (fun frame => decide (frame.Advertises name)) =
        advertisedOn clientEnd name observed := by
    rw [advertisedOn, List.map_flatMap]
  have hStart : (NetState.initial fun _ : R => ∅ : NetState R E T).inFlight clientEnd gatewayEnd =
      [] := rfl
  rw [hAdvertised, hStart, List.countP_nil, Nat.zero_add] at hCarried
  have hPrefix := List.prefix_append ((((state.table (net.home gatewayEnd)).lookup name).getD
    []).filter fun channel => channel.channel = .conn gatewayEnd)
      ((state.channelRx (net.home gatewayEnd)).filter fun channel =>
        channel.channel = .conn gatewayEnd ∧ channel.gdpname = name)
  have hRegistered := registered_in_order hKind name run
  rw [NetState.registeredFor] at hRegistered
  rw [hRegistered] at hPrefix
  obtain ⟨hCount, hSame⟩ := List.prefix_replicate_iff.mp hPrefix
  exact ⟨_, by omega, hSame⟩

/-- Of those registered under a name, as many are for the client as the gateway has
heard of it, that is, one or none. -/
theorem countP_registered (name : GDPName) (joined : net.JoinedTo clientEnd gatewayEnd)
    (run : Run net.Steps (.initial fun _ => ∅) labels state observed) {source : GDPName}
    (hSource : source ≠ net.threadName gatewayEnd) :
    (((state.table (net.home gatewayEnd)).lookup name).getD []).countP (fun channel =>
        channel.channel = .conn gatewayEnd ∧ channel.advertisement.source ≠ source) =
      if net.registration gatewayEnd name ∈
        ((state.table (net.home gatewayEnd)).lookup name).getD [] then 1 else 0 := by
  obtain ⟨count, hCount, hSame⟩ := registered_le name joined run
  have hAtMost := hCount.trans (advertised_le clientEnd name run)
  have hThread : (net.registration gatewayEnd name).advertisement.source =
      net.threadName gatewayEnd := rfl
  have hAll : (((state.table (net.home gatewayEnd)).lookup name).getD []).countP (fun channel =>
      channel.channel = .conn gatewayEnd ∧ channel.advertisement.source ≠ source) = count := by
    calc
      _ = ((((state.table (net.home gatewayEnd)).lookup name).getD []).filter fun channel =>
            channel.channel = .conn gatewayEnd).countP fun channel =>
              channel.advertisement.source ≠ source := by
        rw [List.countP_filter]
        simp [and_comm]
      _ = count := by
        rw [hSame, List.countP_replicate, hThread]
        simp [hSource.symm]
  rw [hAll]
  split
  · rename_i hIn
    have hMem : net.registration gatewayEnd name ∈
        List.replicate count (net.registration gatewayEnd name) := by
      rw [← hSame]
      exact List.mem_filter.mpr ⟨hIn, by simp [Network.registration]⟩
    have hSome := List.length_pos_of_mem hMem
    rw [List.length_replicate] at hSome
    omega
  · rename_i hOut
    by_contra hSome
    have hMem : net.registration gatewayEnd name ∈
        List.replicate count (net.registration gatewayEnd name) :=
      List.mem_replicate.mpr ⟨hSome, rfl⟩
    rw [← hSame] at hMem
    exact hOut (List.mem_of_mem_filter hMem)

end Registered

/-- In every run in which the client does not know a name when it flushes: the gateway
sends it nothing of this name once it knows the name from elsewhere, though the client
may know it by now. Until then it sends each packet of the name to the client as often as
it knows names of the client. -/
theorem unflushed_name_delivery (net : Network R E T) {clientEnd gatewayEnd : E}
    (joined : net.JoinedTo clientEnd gatewayEnd) {name : GDPName}
    {labels : List (NetLabel R E T)} {state next : NetState R E T}
    {observed seen : List (Observation R E T)}
    (run : Run (Guarded net.Steps (net.Misses clientEnd name)) (.initial fun _ => ∅) labels state
      observed) {order : List GDPName} {copy : Copy R E T}
    (hStep : net.Steps state (.ribPacket (net.home gatewayEnd) order) next seen)
    (hHandled : .handled (net.home gatewayEnd) copy ∈ seen) (hName : copy.packet.gdpname = name) :
    seen.flatMap (Observation.putOn (.conn gatewayEnd)) = List.replicate
      (if name ∈ state.table (net.home gatewayEnd) ∨ state.closed (.conn gatewayEnd) = true ∨
          copy.packet.source = net.threadName gatewayEnd then 0
        else state.namesOf net gatewayEnd) copy := by
  subst hName
  have hAll := run.of_guarded
  have hUnheard : ∀ dst ∈ ((state.table (net.home gatewayEnd)).lookup copy.packet.gdpname).getD
      [], dst.channel ≠ .conn gatewayEnd := by
    obtain ⟨count, hCount, hSame⟩ := registered_le copy.packet.gdpname joined hAll
    rw [advertised_none run, Nat.le_zero] at hCount
    rw [hCount, List.replicate_zero, List.filter_eq_nil_iff] at hSame
    exact fun dst hDst hChannel => hSame dst hDst (decide_eq_true hChannel)
  have hOrder : order.Perm (state.table (net.home gatewayEnd)).keys := by
    cases next_move hStep with
    | ribPacket _ hOrder => exact hOrder
  obtain ⟨-, rfl⟩ := eq_of_handled hStep hHandled
  rw [List.flatMap_cons, Observation.putOn_handled, List.nil_append, putAll_putOn]
  split
  · rename_i hSilent
    rw [List.replicate_zero]
    apply List.eq_nil_iff_forall_not_mem.mpr
    intro sent hSent
    have hOut := mem_enqueuedOn.mp hSent
    obtain ⟨other, dst, hDst, hSource, hOpen, hSame⟩ := mem_routed hOut
    have hChannel : .conn gatewayEnd = dst.channel := congrArg Prod.fst hSame
    rcases hSilent with hKnown | hClosed | hThread
    · obtain ⟨destinations, hLookup⟩ :=
        Option.isSome_iff_exists.mp (AList.lookup_isSome.mpr hKnown)
      rw [routed_of_lookup hLookup] at hOut
      obtain ⟨picked, hPicked, hPair⟩ := List.mem_map.mp hOut
      rw [hLookup, Option.getD_some] at hUnheard
      exact hUnheard picked (List.mem_of_mem_filter hPicked) (congrArg Prod.fst hPair)
    · rw [← hChannel, hClosed] at hOpen
      cases hOpen
    · obtain ⟨count, -, hRegistered⟩ := registered_le other joined hAll
      have hMine : dst ∈ List.replicate count (net.registration gatewayEnd other) := by
        rw [← hRegistered]
        exact List.mem_filter.mpr ⟨hDst, decide_eq_true hChannel.symm⟩
      rw [List.eq_of_mem_replicate hMine] at hSource
      exact hSource hThread.symm
  · rename_i hFlood
    push Not at hFlood
    obtain ⟨hUnknown, hNotClosed, hSource⟩ := hFlood
    have hOpen : state.closed (.conn gatewayEnd) = false := by simpa using hNotClosed
    have hCount : (valuesIn (state.table (net.home gatewayEnd)) order).flatten.countP
        (fun channel => channel.channel = .conn gatewayEnd ∧
          channel.advertisement.source ≠ copy.packet.source) = state.namesOf net gatewayEnd := by
      have hEach : ∀ other, (((state.table (net.home gatewayEnd)).lookup other).getD []).countP
          (fun channel => channel.channel = .conn gatewayEnd ∧
            channel.advertisement.source ≠ copy.packet.source) =
          if decide (net.registration gatewayEnd other ∈
            ((state.table (net.home gatewayEnd)).lookup other).getD []) then 1 else 0 := by
        intro other
        rw [countP_registered other joined hAll hSource]
        simp
      rw [countP_flatten_valuesIn hEach, hOrder.countP_eq]
      rfl
    rw [NetState.routed, routePacket_eq, AList.lookup_eq_none.mpr hUnknown, Option.getD_none,
      enqueuedOn_map fun packet => (⟨packet, copy.heard, copy.trace⟩ : Copy R E T),
      enqueuedOn_sendToDestination hOpen, List.map_replicate, hCount]

namespace LateExample

inductive Socket where
  | outside
  | atGateway
  | atClient
  deriving DecidableEq

def early : GDPName := .ofBytes 1 0 0 0

def late : GDPName := .ofBytes 2 0 0 0

/-- A client with a publisher from before its flush and one from after it, and a program
outside that is connected to the gateway. -/
def net : Network Bool Socket Bool where
  home
    | .outside | .atGateway => false
    | .atClient => true
  peer
    | .outside => none
    | .atGateway => some .atClient
    | .atClient => some .atGateway
  kind
    | .outside | .atGateway => .listener
    | .atClient => .toPeer
  threadName
    | .outside => .ofBytes 0 1 1 1
    | .atGateway => .ofBytes 1 1 1 1
    | .atClient => .ofBytes 2 1 1 1
  gateway
    | true => some .atClient
    | false => none
  rosHome _ := true
  rosKind _ := .publisher
  nodeName _ := .ofBytes 9 9 9 9
  topicName task := if task then late else early
  ribTx _ := none
  peer_symm := by rintro (_ | _ | _) there ⟨⟩ <;> rfl
  gateway_home := by
    rintro (_ | _) endpoint ⟨⟩
    exact ⟨rfl, rfl⟩
  ribTx_home := by simp

def names : List GDPName := [early, net.threadName .atClient]

/-- The client flushes, and registers the late topic. Then a packet for it comes in. -/
def flooding : List (NetLabel Bool Socket Bool) :=
  [.connStart .outside, .connStart .atGateway, .connStart .atClient, .rosAdvertise false,
    .ribChannel true, .ribChannel true, .flush true, .ribStatus true names, .connSend .atClient,
    .connSend .atClient, .connRecv .atGateway, .connRecv .atGateway, .ribChannel false,
    .ribChannel false, .rosAdvertise true, .ribChannel true,
    .wire .outside (.announcing .forward late [7]) [7], .connRecv .outside]

/-- Before the gateway handles it, it hears of the topic from outside. -/
def starving : List (NetLabel Bool Socket Bool) :=
  flooding ++ [.wire .outside (.announcing .advertise late []) [], .connRecv .outside,
    .ribChannel false]

def packet : Copy Bool Socket Bool :=
  ⟨constructGdpForwardFromBytes late (net.threadName .outside) [7], some .outside,
    ⟨1, none, [false]⟩⟩

end LateExample

open LateExample in
/-- The client gets the packet twice, by two names of its own, or not at all. -/
theorem unflushed_name_delivery_example :
    (∃ state observed next seen,
      Run (Guarded net.Steps (net.Misses .atClient late)) (.initial fun _ => ∅) flooding state
        observed ∧
      net.Steps state (.ribPacket false names) next seen ∧ .handled false packet ∈ seen ∧
      seen.flatMap (Observation.putOn (.conn .atGateway)) = [packet, packet]) ∧
    ∃ state observed next seen,
      Run (Guarded net.Steps (net.Misses .atClient late)) (.initial fun _ => ∅) starving state
        observed ∧ late ∈ state.table true ∧
      net.Steps state (.ribPacket false (late :: names)) next seen ∧
      .handled false packet ∈ seen ∧ seen.flatMap (Observation.putOn (.conn .atGateway)) = [] := by
  have joined : net.JoinedTo .atClient .atGateway := ⟨rfl, rfl, rfl⟩
  constructor
  · have hRun : (runGuarded net.next (net.Misses .atClient late) (.initial fun _ => ∅)
        flooding).any (fun flooded => late ∉ flooded.1.table false ∧
          flooded.1.closed (.conn .atGateway) = false ∧ flooded.1.namesOf net .atGateway = 2 ∧
          (net.next flooded.1 (.ribPacket false names)).any fun step =>
            .handled false packet ∈ step.2) = true := by decide +kernel
    simp only [Option.any_eq_true, decide_eq_true_eq] at hRun
    obtain ⟨⟨state, observed⟩, hResult, hUnknown, hOpen, hTwo, ⟨next, seen⟩, hStep, hHandled⟩ :=
      hRun
    have run := runGuarded_eq_some_iff.mp hResult
    have hCopies := unflushed_name_delivery net joined run hStep hHandled rfl
    have hFlood : ¬(late ∈ state.table false ∨ state.closed (.conn .atGateway) = true ∨
        packet.packet.source = net.threadName .atGateway) := by
      rintro (hKnown | hClosed | hThread)
      · exact hUnknown hKnown
      · cases hOpen.symm.trans hClosed
      · exact absurd hThread (by decide)
    have hHome : net.home .atGateway = false := rfl
    rw [hHome, if_neg hFlood, hTwo] at hCopies
    exact ⟨state, observed, next, seen, run, hStep, hHandled, hCopies⟩
  · have hRun : (runGuarded net.next (net.Misses .atClient late) (.initial fun _ => ∅)
        starving).any (fun starved => late ∈ starved.1.table false ∧ late ∈ starved.1.table true ∧
          (net.next starved.1 (.ribPacket false (late :: names))).any fun step =>
            .handled false packet ∈ step.2) = true := by decide +kernel
    simp only [Option.any_eq_true, decide_eq_true_eq] at hRun
    obtain ⟨⟨state, observed⟩, hResult, hKnown, hOwn, ⟨next, seen⟩, hStep, hHandled⟩ := hRun
    have run := runGuarded_eq_some_iff.mp hResult
    have hCopies := unflushed_name_delivery net joined run hStep hHandled rfl
    rw [if_pos (.inl hKnown)] at hCopies
    exact ⟨state, observed, next, seen, run, hOwn, hStep, hHandled, hCopies⟩

end GdpRouter
