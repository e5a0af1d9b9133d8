import GdpRouter.Deployment.Bare
import GdpRouter.Deployment.Integrity
import GdpRouter.Semantics.Simulation

/-! The network over bytes refines the network of whole frames. A packet counts as
sent when its send arm takes it, and as received when its last byte is read. So a
run over bytes is a run with whole frames, as far as the tasks can tell. -/
namespace GdpRouter

open Framing Multimap Transition

variable {R E T : Type} [DecidableEq R] [DecidableEq E] [DecidableEq T]

/-! ### Joints -/

/-- What a frame is made of. -/
def GDPPacket.content (packet : GDPPacket) : GDPPacketInTransit × Bytes :=
  (packet.getHeader, packet.body)

def InTransit.content (frame : InTransit R T) : GDPPacketInTransit × Bytes :=
  (frame.header, frame.payload)

/-- The header is given up before its first byte is accepted. -/
def SendArm.Drops : SendArm → SendEvent → Prop
  | .tryHeader _, .wrote .wouldBlock | .tryHeader _, .wrote .error => True
  | _, _ => False

instance : ∀ (arm : SendArm) (event : SendEvent), Decidable (arm.Drops event)
  | .tryHeader _, .wrote .wouldBlock | .tryHeader _, .wrote .error => .isTrue trivial
  | .tryHeader _, .take _ | .tryHeader _, .writable | .tryHeader _, .wrote (.ok _)
  | .select, _ | .awaitHeader _, _ | .tryPayload .., _ | .awaitPayload .., _ => .isFalse id

/-- The frames of `kept` and the packet in hand are what the reader carries and what
is on the wire. -/
structure Framed (serde : SerdeJson) (arm : SendArm) (recv : RecvState) (wire : Bytes)
    (kept : List GDPPacket) : Prop where
  sendable : ∀ packet ∈ kept ++ arm.current, packet.Sendable
  bytes : ∃ carried, Carries serde recv carried ∧
    carried ++ wire = wireBytes serde kept ++ arm.written serde

section Framed

variable {serde : SerdeJson} {arm next : SendArm} {recv : RecvState} {wire : Bytes}
  {kept : List GDPPacket} {event : SendEvent} {out : Bytes}

/-- Only `m_rx.recv()` takes a packet, and it does not end in `select!`. -/
theorem SendMove.taken_eq_nil (h : SendMove serde arm event next out) (hNext : next = .select) :
    event.taken = [] := by
  cases h with
  | take packet => cases hNext
  | wakeHeader | header | dropped | payload | blocked | abandoned | wakePayload => rfl

/-- Nothing was written of a packet that is dropped. -/
theorem SendMove.drops (h : SendMove serde arm event next out) (hTears : ¬arm.Tears serde event)
    (hNext : next = .select) (hNothing : arm.written serde ++ out = []) : arm.Drops event := by
  cases h with
  | take | wakeHeader | blocked | wakePayload => cases hNext
  | header packet hPos hLe =>
      have hOut := (List.append_eq_nil_iff.mp hNothing).2
      rw [List.take_eq_nil_iff] at hOut
      rcases hOut with rfl | hHeader
      · cases hPos
      · exact absurd hHeader (List.ne_nil_of_length_pos (headerString_length_pos packet))
  | @dropped packet result hResult =>
      cases result with
      | ok n => exact absurd rfl (hResult n)
      | wouldBlock | error => trivial
  | payload packet hMore hPos hLe =>
      have hWritten := (List.append_eq_nil_iff.mp hNothing).1
      rw [SendArm.written, List.append_eq_nil_iff] at hWritten
      exact absurd hWritten.1 (List.ne_nil_of_length_pos (headerString_length_pos packet))
  | abandoned packet hMore => exact absurd trivial hTears

theorem framed_initial : Framed serde .select .initial [] [] :=
  ⟨List.forall_mem_nil _, [], carries_initial, rfl⟩

/-- An event of the send arm that tears nothing: the packet in hand changes, or its
frame is complete, or it is dropped. -/
theorem Framed.write (h : Framed serde arm recv wire kept)
    (hMove : SendMove serde arm event next out) (hTears : ¬arm.Tears serde event)
    (hTaken : ∀ packet ∈ event.taken, packet.Sendable) :
    (next.current = arm.current ++ event.taken ∧ Framed serde next recv (wire ++ out) kept) ∨
      (next.current = [] ∧ event.taken = [] ∧
        Framed serde next recv (wire ++ out) (kept ++ arm.current)) ∨
      (next.current = [] ∧ event.taken = [] ∧ arm.Drops event ∧
        Framed serde next recv (wire ++ out) kept) := by
  obtain ⟨hSendable, carried, hCarries, hBytes⟩ := h
  obtain ⟨hKept, hCurrent⟩ := List.forall_mem_append.mp hSendable
  rcases hMove.written_append hTears with ⟨hNext, hWritten⟩ | ⟨hNext, hWhole⟩ | ⟨hNext, hNothing⟩
  · refine .inl ⟨hNext, ?_, carried, hCarries, ?_⟩
    · rw [hNext, List.forall_mem_append, List.forall_mem_append]
      exact ⟨hKept, hCurrent, hTaken⟩
    · rw [hWritten, ← List.append_assoc, hBytes, List.append_assoc]
  · refine .inr (.inl ⟨congrArg SendArm.current hNext, hMove.taken_eq_nil hNext, ?_, carried,
      hCarries, ?_⟩)
    · rw [hNext, SendArm.current_select, List.append_nil]
      exact hSendable
    · rw [← List.append_assoc, hBytes, List.append_assoc, hWhole, wireBytes_append, hNext,
        SendArm.written_select, List.append_nil]
  · refine .inr (.inr ⟨congrArg SendArm.current hNext, hMove.taken_eq_nil hNext,
      hMove.drops hTears hNext hNothing, ?_, carried, hCarries, ?_⟩)
    · rw [hNext, SendArm.current_select, List.append_nil]
      exact hKept
    · rw [← List.append_assoc, hBytes, List.append_assoc, hNothing, hNext, SendArm.written_select]

/-- A read takes whole frames off the stream, and hands their packets on. -/
theorem Framed.read (hSerde : serde.Lawful) {receivingBuf rest : Bytes} {threadName : GDPName}
    {after : RecvState} {packets : List GDPPacket}
    (h : Framed serde arm recv (receivingBuf ++ rest) kept)
    (hRead : handleTcpStreamRead serde threadName recv receivingBuf = .ok (after, packets)) :
    ∃ done left, kept = done ++ left ∧ packets = done.map (·.receivedBy threadName) ∧
      Framed serde arm after rest left := by
  obtain ⟨hSendable, carried, hCarries, hBytes⟩ := h
  have hWritten : carried ++ receivingBuf <+: wireBytes serde kept ++ arm.written serde := by
    rw [← hBytes, ← List.append_assoc]
    exact List.prefix_append _ _
  have hPrefix : carried ++ receivingBuf <+: wireBytes serde (kept ++ arm.current) := by
    rw [wireBytes_append]
    exact hWritten.trans ((List.prefix_append_right_inj _).mpr arm.written_within)
  obtain ⟨hPackets, carried', hCarries', hStream⟩ :=
    handleTcpStreamRead_packets hSerde hCarries hSendable hPrefix hRead
  obtain ⟨left, hLeft⟩ := completePackets_prefix hWritten.length_le
  refine ⟨_, left, hLeft.symm, hPackets, ?_, carried', hCarries', ?_⟩
  · rw [← hLeft, List.append_assoc] at hSendable
    exact (List.forall_mem_append.mp hSendable).2
  · -- What is left of the stream behind the frames that are done.
    apply List.append_cancel_left
    rw [← List.append_assoc, ← hStream, List.append_assoc, hBytes, ← List.append_assoc,
      ← wireBytes_append, hLeft]

end Framed

/-- The items are among the others, in order. If nothing may be lost they are all of them. -/
def Among {α : Type} (lossless : Prop) (items others : List α) : Prop :=
  items.Sublist others ∧ (lossless → items = others)

/-- A joint and the link that stands for it: the link may still hold frames of
packets that were dropped, and ends with that of the packet in hand. -/
structure Conveys (serde : SerdeJson) (lossless : Prop) (arm : SendArm) (recv : RecvState)
    (wire : Bytes) (kept : List GDPPacket) (link : List (InTransit R T)) : Prop where
  framed : Framed serde arm recv wire kept
  frames : ∃ front back, link = front ++ back ∧
    back.map InTransit.content = arm.current.map GDPPacket.content ∧
    Among lossless (kept.map GDPPacket.content) (front.map InTransit.content)

/-- The frames of these packets are read off a link, and others are lost. -/
inductive Drains (lossless : Prop) :
    List (InTransit R T) → List GDPPacket → List (InTransit R T) → Prop where
  | done (link : List (InTransit R T)) : Drains lossless link [] link
  | lost {frame : InTransit R T} {link rest : List (InTransit R T)} {packets : List GDPPacket}
      (hLossy : ¬lossless) (tail : Drains lossless link packets rest) :
      Drains lossless (frame :: link) packets rest
  | read {frame : InTransit R T} {link rest : List (InTransit R T)} {packet : GDPPacket}
      {packets : List GDPPacket} (hFrame : frame.content = packet.content)
      (tail : Drains lossless link packets rest) :
      Drains lossless (frame :: link) (packet :: packets) rest

section Conveys

variable {serde : SerdeJson} {lossless : Prop} {arm next : SendArm} {recv : RecvState}
  {wire : Bytes} {kept : List GDPPacket} {link : List (InTransit R T)}

omit [DecidableEq R] [DecidableEq E] [DecidableEq T] in
theorem conveys_initial :
    Conveys serde lossless .select .initial [] [] ([] : List (InTransit R T)) :=
  ⟨framed_initial, [], [], rfl, rfl, List.Sublist.refl _, fun _ => rfl⟩

omit [DecidableEq R] [DecidableEq E] [DecidableEq T] in
/-- The frames of a taken packet go behind those on the link. -/
theorem Conveys.write (h : Conveys serde lossless arm recv wire kept link) {event : SendEvent}
    {out : Bytes} (hMove : SendMove serde arm event next out) (hTears : ¬arm.Tears serde event)
    (hDrops : lossless → ¬arm.Drops event) {new : List (InTransit R T)}
    (hNew : new.map InTransit.content = event.taken.map GDPPacket.content)
    (hTaken : ∀ packet ∈ event.taken, packet.Sendable) :
    ∃ kept', Conveys serde lossless next recv (wire ++ out) kept' (link ++ new) := by
  obtain ⟨hFramed, front, back, rfl, hBack, hSublist, hAll⟩ := h
  rcases hFramed.write hMove hTears hTaken with ⟨hNext, hAfter⟩ | ⟨hNext, hNothing, hAfter⟩ |
    ⟨hNext, hNothing, hDropped, hAfter⟩
  · refine ⟨kept, hAfter, front, back ++ new, List.append_assoc .., ?_, hSublist, hAll⟩
    rw [hNext, List.map_append, List.map_append, hBack, hNew]
  · rw [hNothing, List.map_nil, List.map_eq_nil_iff] at hNew
    subst hNew
    refine ⟨_, hAfter, front ++ back, [], rfl, by rw [hNext]; rfl, ?_, fun hLossless => ?_⟩
    · rw [List.map_append, List.map_append, hBack]
      exact hSublist.append (List.Sublist.refl _)
    · rw [List.map_append, List.map_append, hBack, hAll hLossless]
  · rw [hNothing, List.map_nil, List.map_eq_nil_iff] at hNew
    subst hNew
    refine ⟨_, hAfter, front ++ back, [], rfl, by rw [hNext]; rfl, ?_, fun hLossless => ?_⟩
    · rw [List.map_append]
      exact hSublist.trans (List.sublist_append_left _ _)
    · exact absurd hDropped (hDrops hLossless)

omit [DecidableEq R] [DecidableEq E] [DecidableEq T] in
/-- Packets whose frames are on a link can be read off it. -/
theorem exists_drains {done left : List GDPPacket} {front : List (InTransit R T)}
    (back : List (InTransit R T))
    (h : Among lossless ((done ++ left).map GDPPacket.content) (front.map InTransit.content)) :
    ∃ rest, Drains lossless (front ++ back) done (rest ++ back) ∧
      Among lossless (left.map GDPPacket.content) (rest.map InTransit.content) := by
  induction front generalizing done with
  | nil =>
      have hNone := List.map_eq_nil_iff.mp (List.sublist_nil.mp h.1)
      obtain ⟨rfl, rfl⟩ := List.append_eq_nil_iff.mp hNone
      exact ⟨[], .done _, h⟩
  | cons frame front ih =>
      cases done with
      | nil => exact ⟨frame :: front, .done _, h⟩
      | cons packet done =>
          by_cases hFrame : frame.content = packet.content
          · simp only [List.cons_append, List.map_cons, hFrame] at h
            have hLater : Among lossless ((done ++ left).map GDPPacket.content)
                (front.map InTransit.content) :=
              ⟨List.cons_sublist_cons.mp h.1, fun hLossless => (List.cons.inj (h.2 hLossless)).2⟩
            obtain ⟨rest, hDrains, hRest⟩ := ih hLater
            exact ⟨rest, .read hFrame hDrains, hRest⟩
          · -- The frame belongs to a packet that was dropped.
            have hLossy : ¬lossless := fun hLossless =>
              hFrame (List.cons.inj (h.2 hLossless)).1.symm
            have hLater : Among lossless ((packet :: done ++ left).map GDPPacket.content)
                (front.map InTransit.content) := by
              refine ⟨?_, fun hLossless => absurd hLossless hLossy⟩
              rcases List.sublist_cons_iff.mp h.1 with hLater | ⟨_, hSame, -⟩
              · exact hLater
              · exact absurd (List.cons.inj hSame).1.symm hFrame
            obtain ⟨rest, hDrains, hRest⟩ := ih hLater
            exact ⟨rest, .lost hLossy hDrains, hRest⟩

omit [DecidableEq R] [DecidableEq E] [DecidableEq T] in
theorem Conveys.read (hSerde : serde.Lawful) {receivingBuf rest : Bytes} {threadName : GDPName}
    {after : RecvState} {packets : List GDPPacket}
    (h : Conveys serde lossless arm recv (receivingBuf ++ rest) kept link)
    (hRead : handleTcpStreamRead serde threadName recv receivingBuf = .ok (after, packets)) :
    ∃ done left link', packets = done.map (·.receivedBy threadName) ∧
      (∀ packet ∈ done, packet.Sendable) ∧ Drains lossless link done link' ∧
      Conveys serde lossless arm after rest left link' := by
  obtain ⟨hFramed, front, back, rfl, hBack, hFront⟩ := h
  obtain ⟨done, left, rfl, hPackets, hAfter⟩ := hFramed.read hSerde hRead
  obtain ⟨front', hDrains, hLeft⟩ := exists_drains back hFront
  refine ⟨done, left, front' ++ back, hPackets, ?_, hDrains, hAfter, front', back, rfl, hBack,
    hLeft⟩
  intro packet hPacket
  exact hFramed.sendable packet (List.mem_append_left _ (List.mem_append_left _ hPacket))

end Conveys

/-! ### Both networks -/

/-- The steps that both networks can be compared by. Frames that may be lost do not
count. -/
def NetLabel.shown (lossless : E → Bool) : NetLabel R E T → List (NetLabel R E T)
  | .connSend _ | .connRecv _ => []
  | .lose endpoint => if lossless endpoint then [.lose endpoint] else []
  | label => [label]

def StreamLabel.shown : StreamLabel R E T → List (NetLabel R E T)
  | .task label => [label]
  | .write _ _ | .read _ _ => []

/-- No frame is left on a stream in part, and none to a lossless endpoint is dropped. -/
def StreamNetwork.Faithful (net : StreamNetwork R E T) (serde : SerdeJson) (lossless : E → Bool)
    (state : StreamState R E T) : StreamLabel R E T → Prop
  | .write endpoint event => ¬(state.arm endpoint).Tears serde event ∧
      ((net.peer endpoint).any lossless = true → ¬(state.arm endpoint).Drops event)
  | .task _ | .read _ _ => True

instance (net : StreamNetwork R E T) (serde : SerdeJson) (lossless : E → Bool)
    (state : StreamState R E T) : DecidablePred (net.Faithful serde lossless state)
  | .write _ _ => inferInstanceAs (Decidable (¬_ ∧ (_ → ¬_)))
  | .task _ | .read _ _ => inferInstanceAs (Decidable True)

/-- A state over bytes, and one with whole frames that stands for it. -/
structure StreamState.Refines (net : StreamNetwork R E T) (serde : SerdeJson) (lossless : E → Bool)
    (state : StreamState R E T) (abs : NetState R E T) : Prop where
  tasks : abs.bare = state.tasks.bare
  shaped : (Local.messages fun _ _ => True).Everywhere net.cut state.tasks
  joined : ∀ {here there}, net.peer here = some there → ∃ kept,
    Conveys serde (lossless there = true) (state.arm here) (state.recv there).recv
      (state.wire there) kept (abs.link there)

section Simulated

variable {net : StreamNetwork R E T} {serde : SerdeJson} {lossless : E → Bool}

omit [DecidableEq R] [DecidableEq E] [DecidableEq T] in
theorem StreamState.Refines.initial :
    (StreamState.initial : StreamState R E T).Refines net serde lossless (.initial fun _ => ∅) where
  tasks := rfl
  shaped := .initial (by simp)
  joined := fun _ => ⟨[], conveys_initial⟩

omit [DecidableEq R] [DecidableEq E] [DecidableEq T] in
/-- What is read of a packet's frame is the packet. -/
theorem receive_of_content {net : Network R E T} {endpoint : E}
    {frame : InTransit R T} {packet : GDPPacket} (hFrame : frame.content = packet.content)
    (hSendable : packet.Sendable) : net.receive endpoint frame =
      procGdpPacket (packet.receivedBy (net.threadName endpoint)) (.conn endpoint) := by
  obtain ⟨hHeader, hPayload⟩ := Prod.mk.inj hFrame
  have hDispatch : dispatch (net.threadName endpoint) packet.getHeader packet.body =
      some (packet.receivedBy (net.threadName endpoint)) :=
    dispatch_packetFrame _ hSendable
  rw [Network.receive, hHeader, hPayload, hDispatch]
  rfl

/-- Draining a link is a run. The packets that are read are handed over. -/
theorem Drains.run {net : Network R E T} {endpoint : E}
    {link rest : List (InTransit R T)} {done : List GDPPacket}
    (h : Drains (lossless endpoint = true) link done rest) {abs tasks : NetState R E T}
    (hRunning : abs.running (.conn endpoint) = true) (hLink : abs.link endpoint = link)
    (hSame : abs.bare = tasks.bare) (hSendable : ∀ packet ∈ done, packet.Sendable) :
    ∃ labels abs' out, Run net.Steps abs labels abs' out ∧
      abs'.link = Function.update abs.link endpoint rest ∧
      abs'.bare = (net.handOver endpoint tasks
        (done.map (·.receivedBy (net.threadName endpoint)))).bare ∧
      labels.flatMap (NetLabel.shown lossless) = [] ∧ out.flatMap Observation.bare = [] := by
  induction h generalizing abs tasks with
  | done link =>
      refine ⟨[], abs, [], .nil abs, ?_, hSame, rfl, rfl⟩
      rw [← hLink, Function.update_eq_self]
  | @lost frame link rest packets hLossy _ ih =>
      let next : NetState R E T := { abs with link := Function.update abs.link endpoint link }
      have hStep : net.Steps abs (.lose endpoint) next [] := by
        simp [Network.Steps, OfOption, Network.next, hLink, next]
      have hStill : next.running (.conn endpoint) = true := hRunning
      obtain ⟨labels, abs', out, hRun, hRest, hBare, hShown, hOut⟩ :=
        ih hStill (Function.update_self ..) hSame hSendable
      refine ⟨_, abs', _, .cons hStep hRun, ?_, hBare, ?_, hOut⟩
      · rw [hRest, Function.update_idem]
      · rw [List.flatMap_cons, hShown, NetLabel.shown, if_neg hLossy, List.nil_append]
  | @read frame link rest packet packets hFrame _ ih =>
      obtain ⟨hPacket, hPackets⟩ := List.forall_mem_cons.mp hSendable
      let taken : NetState R E T := { abs with link := Function.update abs.link endpoint link }
      let message : Option (RibMessage (Handle E T)) :=
        procGdpPacket (packet.receivedBy (net.threadName endpoint)) (.conn endpoint)
      let next := taken.submit (net.home endpoint) (some endpoint) (net.arrive endpoint frame)
        message
      have hStep : net.Steps abs (.connRecv endpoint) next [.delivered endpoint frame] := by
        simp [Network.Steps, OfOption, Network.next, hLink, hRunning, next, taken, message,
          receive_of_content hFrame hPacket]
      have hNext : next.bare = (tasks.submit (net.home endpoint) (some endpoint) ⟨0, none, []⟩
          message).bare := by
        have hTaken : taken.bare = tasks.bare := hSame
        rw [NetState.submit_bare, NetState.submit_bare, hTaken]
      have hStill : next.running (.conn endpoint) = true := by
        simp only [next, NetState.submit_eq]
        exact hRunning
      obtain ⟨labels, abs', out, hRun, hRest, hBare, hShown, hOut⟩ :=
        ih hStill (by simp [next, taken]) hNext hPackets
      refine ⟨_, abs', _, .cons hStep hRun, ?_, ?_, ?_, ?_⟩
      · rw [hRest]
        simp [next, taken]
      · rw [hBare]
        rfl
      · rw [List.flatMap_cons, hShown]
        rfl
      · rw [List.flatMap_append, hOut]
        rfl

/-- Only a running task writes or reads. -/
theorem streams_running {state after : StreamState R E T} {label : StreamLabel R E T}
    {seen : List (StreamObservation R E T)} (h : net.Streams serde state label after seen) :
    (∀ endpoint event, label = .write endpoint event →
      state.tasks.running (.conn endpoint) = true) ∧
    ∀ endpoint receivingBuf, label = .read endpoint receivingBuf →
      state.tasks.running (.conn endpoint) = true := by
  unfold StreamNetwork.Streams OfOption at h
  constructor
  · rintro endpoint event rfl
    simp only [StreamNetwork.next, Option.ite_none_right_eq_some] at h
    exact h.1
  · rintro endpoint receivingBuf rfl
    simp only [StreamNetwork.next, Option.ite_none_right_eq_some] at h
    exact h.1.1

/-- A step of a task touches nothing of the connections. -/
theorem streams_task {state after : StreamState R E T} {label : NetLabel R E T}
    {seen : List (StreamObservation R E T)} (h : net.Streams serde state (.task label) after seen) :
    label.movesFrame = false ∧ ∃ tasks out, net.cut.next state.tasks label = some (tasks, out) ∧
      after = { state with tasks := tasks } ∧ seen = out.map (.task label) := by
  unfold StreamNetwork.Streams OfOption at h
  simp only [StreamNetwork.next, Option.ite_none_left_eq_some, Option.map_eq_some_iff,
    Prod.mk.injEq] at h
  obtain ⟨hFrame, ⟨tasks, out⟩, hNext, rfl, rfl⟩ := h
  exact ⟨by simpa using hFrame, tasks, out, hNext, rfl, rfl⟩

/-- What a send arm takes, the other network sends. -/
theorem exists_send {net : Network R E T} {abs : NetState R E T} {endpoint other : E}
    {event : SendEvent} {taken rest : List (Copy R E T)} (lossless : E → Bool)
    (hRunning : abs.running (.conn endpoint) = true) (hPeer : net.peer endpoint = some other)
    (hQueue : abs.queue (.conn endpoint) = taken ++ rest)
    (hTaken : taken.map Copy.packet = event.taken) :
    ∃ labels, Run net.Steps abs labels { abs with
        queue := Function.update abs.queue (.conn endpoint) rest
        link := Function.update abs.link other (abs.link other ++ taken.map Copy.frame) } [] ∧
      labels.flatMap (NetLabel.shown lossless) = [] := by
  cases event with
  | take packet =>
      obtain ⟨copy, rfl, -⟩ := List.map_eq_singleton_iff.mp hTaken
      refine ⟨[.connSend endpoint], .single ?_, rfl⟩
      simp [Network.Steps, OfOption, Network.next, hRunning, hPeer, hQueue]
  | writable | wrote result =>
      obtain rfl := List.map_eq_nil_iff.mp hTaken
      rw [List.nil_append] at hQueue
      refine ⟨[], ?_, rfl⟩
      rw [← hQueue, List.map_nil, List.append_nil, Function.update_eq_self, Function.update_eq_self]
      exact .nil abs

/-- A step over bytes, as a run with whole frames. -/
theorem StreamState.Refines.step (hSerde : serde.Lawful) (hJoined : net.Joined)
    {state after : StreamState R E T} {abs : NetState R E T} {label : StreamLabel R E T}
    {seen : List (StreamObservation R E T)} (h : state.Refines net serde lossless abs)
    (hStep : net.Streams serde state label after seen)
    (hFaithful : net.Faithful serde lossless state label) :
    ∃ labels abs' out, Run net.toNetwork.Steps abs labels abs' out ∧
      after.Refines net serde lossless abs' ∧
      labels.flatMap (NetLabel.shown lossless) = label.shown ∧
      out.flatMap Observation.bare = seen.flatMap StreamObservation.bare := by
  have hMove := streams_move hStep
  have hRunning := streams_running hStep
  have hSameRunning : ∀ handle, abs.running handle = state.tasks.running handle := by
    intro handle
    rw [← NetState.bare_running, h.tasks, NetState.bare_running]
  have hShaped := hMove.shaped h.shaped
  have hFramed : ∀ endpoint packet, .framed endpoint packet ∈ seen → packet.Sendable :=
    fun endpoint packet hSeen => sendable_of_says (hMove.framed h.shaped hSeen)
  cases hMove with
  | @task label tasks out hFrame hMove =>
      obtain ⟨-, tasks', out', hNext, hAfter, hSeen⟩ := streams_task hStep
      have hTasks : tasks = tasks' := congrArg StreamState.tasks hAfter
      subst hTasks
      obtain ⟨abs', seen', hAbs, hSame, hShown⟩ := next_alike net hFrame h.tasks hNext
      refine ⟨[label], abs', seen', .single hAbs, ⟨hSame, hShaped, ?_⟩, ?_, ?_⟩
      · intro here there hPeer
        rw [(next_move hAbs).link_eq hFrame]
        exact h.joined hPeer
      · cases label with
        | connSend | connRecv | wire | lose => cases hFrame
        | ribPacket | ribChannel | ribStatus | connStart | rosAdvertise => rfl
        | rosForward | rosRecv | flush | close => rfl
      · rw [hShown, hSeen, List.flatMap_map]
        rfl
  | @write endpoint event rest arm accepted hQueue hWrite =>
      obtain ⟨other, hPeer⟩ := hJoined endpoint
      rw [net.tcp_of_peer hPeer, Protocol.write] at hWrite
      obtain ⟨taken, hTaken, hEvent⟩ := unqueue_eq_some hQueue
      -- The same packets are at the head of the other queue.
      obtain ⟨-, -, -, -, -, -, -, hRib, hQueues⟩ := NetState.bare_eq_iff.mp h.tasks
      have hSplit := hQueues (.conn endpoint)
      rw [hTaken, List.map_append] at hSplit
      obtain ⟨taken', rest', hQueue', hTaken', hRest'⟩ := List.map_eq_append_iff.mp hSplit
      have hEvent' : taken'.map Copy.packet = event.taken := by
        have hPackets := congrArg (List.map Copy.packet) hTaken'
        rw [List.map_map, List.map_map] at hPackets
        exact hPackets.trans hEvent
      obtain ⟨labels, hRun, hLabels⟩ := exists_send lossless
        ((hSameRunning _).trans (hRunning.1 endpoint event rfl)) hPeer hQueue' hEvent'
      refine ⟨labels, _, [], hRun, ⟨?_, hShaped, ?_⟩, hLabels, ?_⟩
      · simp only [NetState.bare, bare_update, hRest']
        exact congrArg (fun tasks : NetState R E T => { tasks with
          queue := Function.update tasks.queue (.conn endpoint) (rest.map Copy.bare) }) h.tasks
      · intro here there hJoint
        by_cases hHere : here = endpoint
        · subst hHere
          obtain rfl := Option.some.inj (hJoint.symm.trans hPeer)
          obtain ⟨kept, hConveys⟩ := h.joined hPeer
          obtain ⟨hTears, hDrops⟩ := hFaithful
          rw [hPeer] at hDrops
          simp only [StreamNetwork.carry, hPeer, Function.update_self]
          refine hConveys.write (sendStep_move hWrite) hTears hDrops ?_ ?_
          · rw [← hEvent', List.map_map, List.map_map]
            rfl
          · intro packet hPacket
            exact hFramed here packet (List.mem_map_of_mem hPacket)
        · have hThere : there ≠ other := by
            rintro rfl
            exact hHere (Option.some.inj ((net.peer_symm hJoint).symm.trans (net.peer_symm hPeer)))
          simp only [StreamNetwork.carry, hPeer, Function.update_of_ne hHere,
            Function.update_of_ne hThere]
          exact h.joined hJoint
      · rw [List.flatMap_map]
        exact (List.flatMap_eq_nil_iff.mpr fun _ _ => rfl).symm
  | @read endpoint receivingBuf wire recv packets hWire hRead =>
      obtain ⟨other, hPeer⟩ := hJoined endpoint
      obtain ⟨rest, hRest, rfl⟩ := deliver_of_peer hPeer hWire
      obtain ⟨kept, hConveys⟩ := h.joined (net.peer_symm hPeer)
      rw [hRest] at hConveys
      rw [net.tcp_of_peer hPeer] at hRead
      obtain ⟨done, left, link, rfl, hSendable, hDrains, hLeft⟩ :=
        hConveys.read hSerde (Protocol.read_tcp hRead)
      obtain ⟨labels, abs', out, hRun, hLink, hBare, hLabels, hOut⟩ := hDrains.run
        ((hSameRunning _).trans (hRunning.2 endpoint receivingBuf rfl)) rfl h.tasks hSendable
      refine ⟨labels, abs', out, hRun, ⟨hBare, hShaped, ?_⟩, hLabels, hOut⟩
      intro here there hJoint
      rw [hLink]
      by_cases hThere : there = endpoint
      · subst hThere
        obtain rfl := Option.some.inj ((net.peer_symm hJoint).symm.trans hPeer)
        simp only [Function.update_self]
        exact ⟨left, hLeft⟩
      · simp only [Function.update_of_ne hThere]
        exact h.joined hJoint

/-- The frame network simulates the byte network. -/
theorem streams_simulation (hSerde : serde.Lawful) (hJoined : net.Joined) :
    Simulation (Guarded (net.Streams serde) (net.Faithful serde lossless)) net.toNetwork.Steps
      (StreamState.Refines net serde lossless) StreamLabel.shown (NetLabel.shown lossless)
      StreamObservation.bare Observation.bare where
  step := fun hRefines hStep => hRefines.step hSerde hJoined hStep.1 hStep.2

end Simulated

/-- Every run over bytes in which no frame is written in part is a run with whole frames:
the tasks take the same steps, they see the same, and they end with the same tables
and queues. On a lossless connection the frames in flight are those of the packets
that are on their way, and none is lost. -/
theorem streams_refine_network (net : StreamNetwork R E T) (hJoined : net.Joined)
    {serde : SerdeJson} (hSerde : serde.Lawful) (lossless : E → Bool)
    {labels : List (StreamLabel R E T)} {state : StreamState R E T}
    {observed : List (StreamObservation R E T)}
    (run : Run (Guarded (net.Streams serde) (net.Faithful serde lossless)) .initial labels state
      observed) :
    ∃ netLabels netState netObserved,
      Run net.toNetwork.Steps (.initial fun _ => ∅) netLabels netState netObserved ∧
      netState.bare = state.tasks.bare ∧
      netLabels.flatMap (NetLabel.shown lossless) = labels.flatMap StreamLabel.shown ∧
      netObserved.flatMap Observation.bare = observed.flatMap StreamObservation.bare ∧
      ∀ here there, net.peer here = some there → ∃ kept,
        Framed serde (state.arm here) (state.recv there).recv (state.wire there) kept ∧
        (lossless there = true → (netState.link there).map InTransit.content =
          (kept ++ (state.arm here).current).map GDPPacket.content) := by
  have hInitial : StreamState.initial.Refines net serde lossless (.initial fun _ => ∅) := .initial
  obtain ⟨netLabels, netState, netObserved, hRun, hRefines, hLabels, hObserved⟩ :=
    (streams_simulation hSerde hJoined).run hInitial run
  refine ⟨netLabels, netState, netObserved, hRun, hRefines.tasks, hLabels, hObserved, ?_⟩
  intro here there hPeer
  obtain ⟨kept, hFramed, front, back, hLink, hBack, hAmong⟩ := hRefines.joined hPeer
  refine ⟨kept, hFramed, fun hLossless => ?_⟩
  rw [hLink, List.map_append, List.map_append, hBack, hAmong.2 hLossless]

open IntegrityExample in
/-- The message that the gateway's RIB handles in the end is handled in the run with
whole frames too. -/
theorem streams_refine_network_example : ∃ state observed netLabels netState netObserved,
    Run (Guarded (net.Streams compactJson) (net.Faithful compactJson fun _ => true)) .initial labels
      state observed ∧
    Run net.toNetwork.Steps (.initial fun _ => ∅) netLabels netState netObserved ∧
    netState.bare = state.tasks.bare ∧
    .handled true heard ∈ netObserved.flatMap Observation.bare := by
  have hRun : (runGuarded (net.next compactJson) (net.Faithful compactJson fun _ => true) .initial
      labels).any (fun result => .handled true heard ∈ result.2.flatMap StreamObservation.bare) =
        true := by
    decide +kernel
  obtain ⟨⟨state, observed⟩, hResult, hSeen⟩ := (Option.any_eq_true _ _).mp hRun
  have run := runGuarded_eq_some_iff.mp hResult
  have hJoined : net.Joined := fun endpoint => ⟨!endpoint, rfl⟩
  obtain ⟨netLabels, netState, netObserved, hNet, hBare, -, hObserved, -⟩ :=
    streams_refine_network net hJoined compactJson_lawful (fun _ => true) run
  exact ⟨state, observed, netLabels, netState, netObserved, run, hNet, hBare,
    hObserved ▸ of_decide_eq_true hSeen⟩

end GdpRouter
