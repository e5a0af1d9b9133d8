import GdpRouter.Deployment.Conservation
import GdpRouter.Deployment.Refinement

/-! Delivery over bytes. Nothing gets lost, repeated or out of order on a TCP
connection on which no frame is dropped or torn, whatever the other connections do. -/
namespace GdpRouter

open Framing Multimap Transition

variable {R E T : Type}

/-- What the other RIB gets of these packets. -/
def forwardsReceived (threadName : GDPName) (packets : List GDPPacket) : List GDPPacket :=
  (packets.map (·.receivedBy threadName)).filter fun packet => packet.action = .forward

/-- What can be seen of the tasks. -/
def StreamObservation.tasks : StreamObservation R E T → List (Observation R E T)
  | .task _ seen => [seen]
  | .framed _ _ => []

/-- No frame is torn or given up on the connection of this endpoint. -/
def StreamNetwork.WholeFrom (here : E) (serde : SerdeJson) (state : StreamState R E T) :
    StreamLabel R E T → Prop
  | .write endpoint event => endpoint = here →
      ¬(state.arm here).Tears serde event ∧ ¬(state.arm here).Drops event
  | .task _ | .read _ _ => True

instance [DecidableEq E] (here : E) (serde : SerdeJson) (state : StreamState R E T) :
    DecidablePred (StreamNetwork.WholeFrom here serde state)
  | .write _ _ => inferInstanceAs (Decidable (_ → ¬_ ∧ ¬_))
  | .task _ | .read _ _ => inferInstanceAs (Decidable True)

theorem forwardsReceived_append {threadName : GDPName} (first second : List GDPPacket) :
    forwardsReceived threadName (first ++ second) =
      forwardsReceived threadName first ++ forwardsReceived threadName second := by
  rw [forwardsReceived, List.map_append, List.filter_append]
  rfl

variable [DecidableEq R] [DecidableEq E] [DecidableEq T]

/-- The packets put on the queue of an endpoint. -/
def putFrom (here : E) (observed : List (StreamObservation R E T)) : List GDPPacket :=
  ((observed.flatMap StreamObservation.tasks).flatMap (Observation.putOn (.conn here))).map
    Copy.packet

/-- The packets from an endpoint that its RIB has handled. -/
def handledOf (router : R) (there : E) (observed : List (StreamObservation R E T)) :
    List GDPPacket :=
  ((observed.flatMap StreamObservation.tasks).flatMap
    (Observation.handledFrom router there)).map Copy.packet

/-! ### The tasks -/

section Task

variable {net : Network R E T} {state after : NetState R E T} {label : NetLabel R E T}
  {seen : List (Observation R E T)}

/-- A step that moves no frame delivers none. -/
theorem Move.delivered_nil (hMove : Move net state label after seen)
    (hFrame : label.movesFrame = false) (endpoint : E) :
    seen.flatMap (Observation.deliveredAt endpoint) = [] := by
  cases hMove with
  | ribPacket | ribStatus | rosForwardDirect =>
      simp [putAll_flatMap_nil fun _ _ => Observation.deliveredAt_put ..]
  | rosRecv => split <;> simp
  | connSend | connSendOut | connRecv | wire | lose => cases hFrame
  | ribChannel | connStart | rosAdvertise | rosForward | flush | close => rfl

/-- What is put on the queue of a connection goes behind, and nothing else changes it. -/
theorem Move.queued (hMove : Move net state label after seen) (hFrame : label.movesFrame = false)
    {here : E} (hClose : label ≠ .close (.conn here)) :
    after.queue (.conn here) =
      state.queue (.conn here) ++ seen.flatMap (Observation.putOn (.conn here)) := by
  cases hMove with
  | ribPacket | ribStatus | rosForwardDirect => simp [NetState.put]
  | rosRecv => split <;> simp
  | close handle =>
      have hNe : .conn here ≠ handle := fun hSame => hClose (hSame ▸ rfl)
      simp [hNe]
  | connSend | connSendOut | connRecv | wire | lose => cases hFrame
  | ribChannel | connStart | rosAdvertise | rosForward | flush => simp

/-- A step that moves no frame handles packets that waited, and adds none. -/
theorem Move.unhandled_split (hMove : Move net state label after seen)
    (hFrame : label.movesFrame = false) (there : E) :
    state.unhandled (net.home there) there =
      seen.flatMap (Observation.handledFrom (net.home there) there) ++
        after.unhandled (net.home there) there := by
  have hHandles := @Move.handles _ _ _ _ _ _ net there _ _ _ _ hMove
  rwa [← List.flatMap_assoc, hMove.delivered_nil hFrame, List.flatMap_nil, List.append_nil]
    at hHandles

end Task

section HandOver

variable (net : Network R E T) (tasks : NetState R E T) (packets : List GDPPacket)

omit [DecidableEq R] [DecidableEq E] [DecidableEq T] in
/-- Of what is handed to `proc_gdp_packet` the forwards go to the RIB. -/
theorem messageCopies_proc (endpoint : E) (packet : GDPPacket) :
    messageCopies (some endpoint) (⟨0, none, []⟩ : Trace R T)
        (procGdpPacket packet (.conn endpoint)) =
      if packet.action = .forward then [⟨packet, some endpoint, ⟨0, none, []⟩⟩] else [] := by
  unfold procGdpPacket
  split <;> rename_i hAction <;> rw [hAction] <;> rfl

omit [DecidableEq T] in
/-- The forwards of one read wait for the RIB, in order. -/
theorem Network.handOver_unhandled (there : E) :
    ((net.handOver there tasks packets).unhandled (net.home there) there).map Copy.packet =
      (tasks.unhandled (net.home there) there).map Copy.packet ++
        packets.filter fun packet => packet.action = .forward := by
  induction packets generalizing tasks with
  | nil => simp [Network.handOver]
  | cons packet packets ih =>
      rw [Network.handOver, List.foldl_cons]
      refine (ih _).trans ?_
      rw [NetState.unhandled, NetState.submit_ribRx, if_pos rfl, messageCopies_proc,
        List.filter_cons]
      by_cases hAction : packet.action = .forward <;> simp [NetState.unhandled, hAction]

omit [DecidableEq T] in
/-- What another connection receives does not join these packets. -/
theorem Network.handOver_unhandled_of_ne {endpoint there : E} (hNe : endpoint ≠ there)
    (router : R) :
    (net.handOver endpoint tasks packets).unhandled router there =
      tasks.unhandled router there := by
  induction packets generalizing tasks with
  | nil => rfl
  | cons packet packets ih =>
      rw [Network.handOver, List.foldl_cons]
      refine (ih _).trans ?_
      rw [NetState.unhandled, NetState.submit_ribRx, messageCopies_proc]
      by_cases hAction : packet.action = .forward <;>
        by_cases hRouter : router = net.home endpoint <;>
          simp [NetState.unhandled, hAction, hRouter, hNe]

end HandOver

/-! ### A joint -/

/-- Without a tear and without a drop, every packet taken is kept. -/
theorem Framed.write_whole {serde : SerdeJson} {arm next : SendArm} {recv : RecvState}
    {wire : Bytes} {kept : List GDPPacket} {event : SendEvent} {out : Bytes}
    (h : Framed serde arm recv wire kept) (hMove : SendMove serde arm event next out)
    (hTears : ¬arm.Tears serde event) (hDrops : ¬arm.Drops event)
    (hTaken : ∀ packet ∈ event.taken, packet.Sendable) :
    ∃ kept', Framed serde next recv (wire ++ out) kept' ∧
      kept' ++ next.current = kept ++ arm.current ++ event.taken := by
  rcases h.write hMove hTears hTaken with ⟨hNext, hAfter⟩ | ⟨hNext, hNothing, hAfter⟩ |
    ⟨-, -, hDropped, -⟩
  · exact ⟨kept, hAfter, by rw [hNext, List.append_assoc]⟩
  · exact ⟨_, hAfter, by rw [hNext, hNothing]⟩
  · exact absurd hDropped hDrops

/-- The packets whose frames are on the stream, the one in hand, and those on the queue. -/
def StreamState.onTheWay (here : E) (kept : List GDPPacket) (state : StreamState R E T) :
    List GDPPacket :=
  kept ++ (state.arm here).current ++ (state.tasks.queue (.conn here)).map Copy.packet

/-- The packets from an endpoint that wait for its RIB. -/
def StreamState.waiting (router : R) (there : E) (state : StreamState R E T) : List GDPPacket :=
  (state.tasks.unhandled router there).map Copy.packet

section Joint

variable {net : StreamNetwork R E T} {serde : SerdeJson} {here there : E}
  {state after : StreamState R E T} {label : StreamLabel R E T} {kept : List GDPPacket}
  {seen : List (StreamObservation R E T)}

omit [DecidableEq R] [DecidableEq E] [DecidableEq T] in
theorem flatMap_tasks (label : NetLabel R E T) (seen : List (Observation R E T)) :
    (seen.map (StreamObservation.task label)).flatMap StreamObservation.tasks = seen := by
  rw [List.flatMap_map]
  exact List.flatMap_singleton' seen

omit [DecidableEq R] [DecidableEq E] [DecidableEq T] in
theorem flatMap_tasks_framed (endpoint : E) (packets : List GDPPacket) :
    (packets.map (StreamObservation.framed endpoint)).flatMap StreamObservation.tasks =
      ([] : List (Observation R E T)) := by
  rw [List.flatMap_map]
  exact List.flatMap_eq_nil_iff.mpr fun _ _ => rfl

omit [DecidableEq R] in
theorem putFrom_append (first second : List (StreamObservation R E T)) :
    putFrom here (first ++ second) = putFrom here first ++ putFrom here second := by
  simp [putFrom]

omit [DecidableEq T] in
theorem handledOf_append (router : R) (first second : List (StreamObservation R E T)) :
    handledOf router there (first ++ second) =
      handledOf router there first ++ handledOf router there second := by
  simp [handledOf]

/-- One step of a task: what it puts on the queue is on the way, and what its RIB handles
has waited. -/
theorem Move.onTheWay {label : NetLabel R E T} {tasks : NetState R E T}
    {out : List (Observation R E T)} (hMove : Move net.cut state.tasks label tasks out)
    (hFrame : label.movesFrame = false) (hClose : label ≠ .close (.conn here)) :
    state.onTheWay here kept ++ putFrom here (out.map (.task label)) =
        StreamState.onTheWay here kept { state with tasks := tasks } ∧
      state.waiting (net.home there) there =
        handledOf (net.home there) there (out.map (.task label)) ++
          StreamState.waiting (net.home there) there { state with tasks := tasks } := by
  have hUnhandled := congrArg (List.map Copy.packet) (hMove.unhandled_split hFrame there)
  rw [List.map_append] at hUnhandled
  constructor
  · simp only [StreamState.onTheWay, putFrom, flatMap_tasks, hMove.queued hFrame hClose,
      List.map_append, List.append_assoc]
  · rw [handledOf, flatMap_tasks]
    exact hUnhandled

omit [DecidableEq R] [DecidableEq E] [DecidableEq T] in
/-- One event of the send arm, which neither tears nor drops the frame. -/
theorem Framed.onTheWay {event : SendEvent} {rest : List (Copy R E T)} {arm : SendArm}
    {accepted : Bytes} {recv : RecvState} {wire : Bytes}
    (hQueue : unqueue event (state.tasks.queue (.conn here)) = some rest)
    (hMove : SendMove serde (state.arm here) event arm accepted)
    (hFramed : Framed serde (state.arm here) recv wire kept)
    (hTears : ¬(state.arm here).Tears serde event) (hDrops : ¬(state.arm here).Drops event)
    (hTaken : ∀ packet ∈ event.taken, packet.Sendable) :
    ∃ kept', Framed serde arm recv (wire ++ accepted) kept' ∧
      state.onTheWay here kept = kept' ++ arm.current ++ rest.map Copy.packet := by
  obtain ⟨taken, hSplit, hEvent⟩ := unqueue_eq_some hQueue
  obtain ⟨kept', hAfter, hSame⟩ := hFramed.write_whole hMove hTears hDrops hTaken
  refine ⟨kept', hAfter, ?_⟩
  rw [StreamState.onTheWay, hSplit, List.map_append, hEvent, hSame, List.append_assoc _ event.taken]

/-- What a step does to a joint: packets go on their way, some arrive to wait for the
RIB, and some of those that wait are handled. -/
theorem StreamMove.delivers (hSerde : serde.Lawful) (hPeer : net.peer here = some there)
    (hTasks : (Local.messages fun _ _ => True).Everywhere net.cut state.tasks)
    (hFramed : Framed serde (state.arm here) (state.recv there).recv (state.wire there) kept)
    (hWhole : StreamNetwork.WholeFrom here serde state label)
    (hClose : label ≠ .task (.close (.conn here)))
    (hMove : StreamMove net serde state label after seen) :
    ∃ kept' done,
      Framed serde (after.arm here) (after.recv there).recv (after.wire there) kept' ∧
      state.onTheWay here kept ++ putFrom here seen = done ++ after.onTheWay here kept' ∧
      state.waiting (net.home there) there ++ forwardsReceived (net.threadName there) done =
        handledOf (net.home there) there seen ++ after.waiting (net.home there) there := by
  have hTaken : ∀ packet, .framed here packet ∈ seen → packet.Sendable :=
    fun packet hSeen => sendable_of_says (hMove.framed hTasks hSeen)
  cases hMove with
  | @task label tasks out hFrame hMove =>
      have hNotClose : label ≠ .close (.conn here) := fun hSame => hClose (hSame ▸ rfl)
      obtain ⟨hWay, hWaiting⟩ := @Move.onTheWay _ _ _ _ _ _ _ here there _ kept _ _ _ hMove hFrame
        hNotClose
      exact ⟨kept, [], hFramed, hWay, (List.append_nil _).trans hWaiting⟩
  | @write endpoint event rest arm accepted hQueue hWrite =>
      have hPut : putFrom here (event.taken.map (.framed endpoint) :
          List (StreamObservation R E T)) = [] := by
        rw [putFrom, flatMap_tasks_framed]
        rfl
      have hHandled : handledOf (net.home there) there (event.taken.map (.framed endpoint) :
          List (StreamObservation R E T)) = [] := by
        rw [handledOf, flatMap_tasks_framed]
        rfl
      rw [hPut, hHandled]
      by_cases hHere : endpoint = here
      · subst hHere
        rw [net.tcp_of_peer hPeer, Protocol.write] at hWrite
        obtain ⟨hTears, hDrops⟩ := hWhole rfl
        obtain ⟨kept', hAfter, hWay⟩ := hFramed.onTheWay hQueue (sendStep_move hWrite) hTears hDrops
          fun packet hPacket => hTaken packet (List.mem_map_of_mem hPacket)
        refine ⟨kept', [], ?_, ?_, List.append_nil _⟩
        · simpa [StreamNetwork.carry, hPeer] using hAfter
        · simpa [StreamState.onTheWay] using hWay
      · -- Another connection, which has another peer.
        have hWire : net.carry state.wire endpoint accepted there = state.wire there := by
          cases hOther : net.peer endpoint with
          | none => simp [StreamNetwork.carry, hOther]
          | some other =>
              have hThere : there ≠ other := by
                rintro rfl
                exact hHere
                  (Option.some.inj ((net.peer_symm hOther).symm.trans (net.peer_symm hPeer)))
              simp [StreamNetwork.carry, hOther, Function.update_of_ne hThere]
        refine ⟨kept, [], ?_, ?_, List.append_nil _⟩
        · simpa [Function.update_of_ne (Ne.symm hHere), hWire] using hFramed
        · simp [StreamState.onTheWay, Ne.symm hHere]
  | @read endpoint receivingBuf wire recv packets hWire hRead =>
      have hQueue : (net.cut.handOver endpoint state.tasks packets).queue = state.tasks.queue :=
        net.cut.handOver_queue endpoint state.tasks packets
      by_cases hThere : endpoint = there
      · subst hThere
        obtain ⟨rest, hRest, rfl⟩ := deliver_of_peer (net.peer_symm hPeer) hWire
        rw [hRest] at hFramed
        rw [net.tcp_of_peer (net.peer_symm hPeer)] at hRead
        obtain ⟨done, left, rfl, rfl, hAfter⟩ := hFramed.read hSerde (Protocol.read_tcp hRead)
        refine ⟨left, done, by simpa using hAfter, ?_, ?_⟩
        · simp [StreamState.onTheWay, hQueue, putFrom]
        · exact (net.cut.handOver_unhandled state.tasks _ endpoint).symm
      · have hStill : wire there = state.wire there := by
          cases hOther : net.peer endpoint with
          | none =>
              simp only [StreamNetwork.deliver, hOther, Option.some.injEq] at hWire
              rw [hWire]
          | some other =>
              obtain ⟨rest, -, rfl⟩ := deliver_of_peer hOther hWire
              exact Function.update_of_ne (Ne.symm hThere) ..
        refine ⟨kept, [], ?_, ?_, ?_⟩
        · simpa [Function.update_of_ne (Ne.symm hThere), hStill] using hFramed
        · simp [StreamState.onTheWay, hQueue, putFrom]
        · refine (List.append_nil _).trans (congrArg (List.map Copy.packet) ?_)
          exact (net.cut.handOver_unhandled_of_ne state.tasks packets hThere _).symm

/-- What was put on the queue of one end has been handled at the other, or waits there,
or is on its way. -/
structure StreamState.Delivers (net : StreamNetwork R E T) (serde : SerdeJson) (here there : E)
    (state : StreamState R E T) (observed : List (StreamObservation R E T)) : Prop where
  shaped : (Local.messages fun _ _ => True).Everywhere net.cut state.tasks
  joint : ∃ kept, Framed serde (state.arm here) (state.recv there).recv (state.wire there) kept ∧
    forwardsReceived (net.threadName there) (putFrom here observed) =
      handledOf (net.home there) there observed ++ state.waiting (net.home there) there ++
        forwardsReceived (net.threadName there) (state.onTheWay here kept)

/-- At the start nothing was put, and nothing is on its way. -/
theorem StreamState.Delivers.initial :
    (StreamState.initial : StreamState R E T).Delivers net serde here there [] where
  shaped := .initial (by simp)
  joint := ⟨[], framed_initial, rfl⟩

/-- Every step keeps the account, if the send arm of this end neither tears a
frame nor gives one up. -/
theorem StreamState.Delivers.step {observed : List (StreamObservation R E T)}
    (h : state.Delivers net serde here there observed) (hSerde : serde.Lawful)
    (hPeer : net.peer here = some there) (hWhole : StreamNetwork.WholeFrom here serde state label)
    (hClose : label ≠ .task (.close (.conn here)))
    (hMove : StreamMove net serde state label after seen) :
    after.Delivers net serde here there (observed ++ seen) := by
  obtain ⟨hTasks, kept, hFramed, hJoint⟩ := h
  obtain ⟨kept', done, hAfter, hWay, hRib⟩ :=
    hMove.delivers hSerde hPeer hTasks hFramed hWhole hClose
  refine ⟨hMove.shaped hTasks, kept', hAfter, ?_⟩
  have hArrivals := congrArg (forwardsReceived (net.threadName there)) hWay
  rw [forwardsReceived_append, forwardsReceived_append] at hArrivals
  rw [putFrom_append, handledOf_append, forwardsReceived_append, hJoint, List.append_assoc,
    hArrivals, ← List.append_assoc, List.append_assoc _ _ (forwardsReceived _ done), hRib,
    ← List.append_assoc]

end Joint

/-- In every run over bytes: what is put on a TCP connection between two routers comes to
the RIB at the other end, in order and each packet once, as long as the connection stays
open at this end and its send arm neither tears a frame nor gives one up. It has been
handled there, or it waits there, or it is among the bytes on the way, in the hand of
the send arm or on its queue. Frames on other connections may be torn or lost. -/
theorem streams_in_order (net : StreamNetwork R E T) {serde : SerdeJson} (hSerde : serde.Lawful)
    {here there : E} (hPeer : net.peer here = some there) {labels : List (StreamLabel R E T)}
    {state : StreamState R E T} {observed : List (StreamObservation R E T)}
    (run : Run (Guarded (net.Streams serde) (StreamNetwork.WholeFrom here serde)) .initial labels
      state observed) (hOpen : .task (.close (.conn here)) ∉ labels) :
    ∃ kept, Framed serde (state.arm here) (state.recv there).recv (state.wire there) kept ∧
      forwardsReceived (net.threadName there) (putFrom here observed) =
        handledOf (net.home there) there observed ++ state.waiting (net.home there) there ++
          forwardsReceived (net.threadName there) (state.onTheWay here kept) := by
  have hRun : .task (.close (.conn here)) ∉ labels →
      state.Delivers net serde here there observed := by
    apply run.history_invariant fun state labels observed =>
      .task (.close (.conn here)) ∉ labels → state.Delivers net serde here there observed
    · exact fun _ => .initial
    · intro state labels observed label after seen _ ih hStep hOpen
      rw [List.mem_append, List.mem_singleton, not_or] at hOpen
      exact (ih hOpen.1).step hSerde hPeer hStep.2 (Ne.symm hOpen.2) (streams_move hStep.1)
  exact (hRun hOpen).joint

namespace StreamDeliveryExample

open IntegrityExample

def secondAdvertisement : GDPPacket :=
  constructGdpAdvertisementFromBytes (net.threadName true) (net.threadName true)

/-- The other direction of the connection ends up with a torn frame. -/
def torn : List (StreamLabel Bool Bool Task) :=
  [.write true (.take secondAdvertisement), .write true .writable, .write true (.wrote (.ok 5)),
    .read false ((headerString compactJson secondAdvertisement).take 5)]

end StreamDeliveryExample

open IntegrityExample StreamDeliveryExample in
/-- The message has come to the client whole: nothing is left on the way. -/
theorem streams_in_order_example : ∃ state observed,
    Run (Guarded (net.Streams compactJson) (StreamNetwork.WholeFrom false compactJson)) .initial
      (labels ++ torn) state observed ∧
    handledOf true true observed = [heard.packet] ∧
    ∃ kept, Framed compactJson (state.arm false) (state.recv true).recv (state.wire true) kept ∧
      [heard.packet] = [heard.packet] ++ state.waiting true true ++
        forwardsReceived (net.threadName true) (state.onTheWay false kept) := by
  have hRun : (runGuarded (net.next compactJson) (StreamNetwork.WholeFrom false compactJson)
      .initial (labels ++ torn)).any (fun result =>
        forwardsReceived (net.threadName true) (putFrom false result.2) = [heard.packet] ∧
        handledOf true true result.2 = [heard.packet]) = true := by
    decide +kernel
  obtain ⟨⟨state, observed⟩, hResult, hSeen⟩ := (Option.any_eq_true _ _).mp hRun
  obtain ⟨hPut, hHandled⟩ := of_decide_eq_true hSeen
  have run := runGuarded_eq_some_iff.mp hResult
  have hPeer : net.peer false = some true := rfl
  obtain ⟨kept, hFramed, hInOrder⟩ := streams_in_order net compactJson_lawful hPeer run (by decide)
  exact ⟨state, observed, run, hHandled, kept, hFramed, (hPut.symm.trans hInOrder).trans
    (congrArg (fun handled => handled ++ _ ++ _) hHandled)⟩

end GdpRouter
