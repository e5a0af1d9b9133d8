import GdpRouter.Network.Receive
import GdpRouter.Network.SendFraming

/-! Two connection tasks on the ends of one TCP connection with bounded buffers.
A task in its send arm does not read. So both can wait for room that only the
other one could make, and this happens exactly when each has enough to send. -/
namespace GdpRouter

open Transition

/-- One end: its task, the packets still on its `m_rx`, and the bytes that its
socket has accepted and the peer has not read. -/
structure Endpoint where
  arm : SendArm
  queue : List GDPPacket
  outgoing : Bytes
  deriving DecidableEq, Repr

/-- Only `m_rx.recv()` takes a packet off the queue. -/
def dequeue : SendEvent → List GDPPacket → Option (List GDPPacket)
  | .take packet, head :: rest => if head = packet then some rest else none
  | .take _, [] => none
  | .writable, queue => some queue
  | .wrote _, queue => some queue

/-- One event of the send arm. Bytes are accepted as far as there is room. A
wake-up or `WouldBlock` may come at any time, as a false positive. -/
def endpointStep (serde : SerdeJson) (capacity : Nat) (endpoint : Endpoint) (event : SendEvent) :
    Option (Endpoint × List Empty) := do
  let queue ← dequeue event endpoint.queue
  let (arm, accepted) ← sendStep serde endpoint.arm event
  if endpoint.outgoing.length + accepted.length ≤ capacity then
    some (⟨arm, queue, endpoint.outgoing ++ accepted⟩, [])
  else none

inductive Side where
  | left
  | right
  deriving DecidableEq, Repr

def Side.other : Side → Side
  | .left => .right
  | .right => .left

inductive ConnectionEvent where
  | send (side : Side) (event : SendEvent)
  | read (side : Side) (n : Nat)
  deriving DecidableEq, Repr

/-- A read takes bytes from the peer, and only in `select!`. -/
def connectionStep (serde : SerdeJson) (capacity : Nat) (ends : Side → Endpoint) :
    ConnectionEvent → Option ((Side → Endpoint) × List Empty)
  | .send side event =>
      (endpointStep serde capacity (ends side) event).map fun next =>
        (Function.update ends side next.1, [])
  | .read side n =>
      let peer := ends side.other
      if (ends side).arm = .select ∧ 0 < n ∧ n ≤ peer.outgoing.length ∧ n ≤ udpBufferSize then
        some (Function.update ends side.other { peer with outgoing := peer.outgoing.drop n }, [])
      else none

def Connected (serde : SerdeJson) (capacity : Nat) :
    Step (Side → Endpoint) ConnectionEvent Empty := OfOption (connectionStep serde capacity)

def EndpointSends (serde : SerdeJson) (capacity : Nat) : Step Endpoint SendEvent Empty :=
  OfOption (endpointStep serde capacity)

/-- Both tasks in `select!`, nothing on the wire, and these packets to come. -/
def initialEnds (packets : Side → List GDPPacket) : Side → Endpoint :=
  fun side => ⟨.select, packets side, []⟩

/-- The task is at one of its two `stream.writable().await`. -/
def SendArm.Suspended : SendArm → Prop
  | .awaitHeader _ | .awaitPayload _ _ _ => True
  | .select | .tryHeader _ | .tryPayload _ _ _ => False

instance : DecidablePred SendArm.Suspended
  | .awaitHeader _ | .awaitPayload _ _ _ => inferInstanceAs (Decidable True)
  | .select | .tryHeader _ | .tryPayload _ _ _ => inferInstanceAs (Decidable False)

def Endpoint.Blocked (capacity : Nat) (endpoint : Endpoint) : Prop :=
  endpoint.arm.Suspended ∧ endpoint.outgoing.length = capacity

def Deadlocked (capacity : Nat) (ends : Side → Endpoint) : Prop :=
  ∀ side, (ends side).Blocked capacity

/-- The most that can have been written of a packet while the arm is suspended
on it: nothing before the header, and all but one byte in the payload loop. -/
def suspendedBytes (serde : SerdeJson) (packet : GDPPacket) : Nat :=
  if packet.body = [] then 0 else (frameBytes serde packet).length - 1

/-- These packets can fill a buffer and leave the arm suspended. -/
def Fills (serde : SerdeJson) (capacity : Nat) (packets : List GDPPacket) : Prop :=
  ∃ before packet after, packets = before ++ packet :: after ∧
    capacity ≤ (wireBytes serde before).length + suspendedBytes serde packet

section Bound

variable {serde : SerdeJson} {capacity : Nat}

/-- A step of one end moves its arm, and what it writes goes into the send buffer. -/
theorem endpointStep_eq_some_iff {endpoint next : Endpoint} {event : SendEvent}
    {out : List Empty} :
    endpointStep serde capacity endpoint event = some (next, out) ↔
      ∃ accepted, dequeue event endpoint.queue = some next.queue ∧
        sendStep serde endpoint.arm event = some (next.arm, accepted) ∧
        endpoint.outgoing.length + accepted.length ≤ capacity ∧
        next.outgoing = endpoint.outgoing ++ accepted := by
  obtain rfl : out = [] := by
    cases out with
    | nil => rfl
    | cons impossible _ => cases impossible
  obtain ⟨arm, queue, outgoing⟩ := next
  simp only [endpointStep, Option.bind_eq_bind, Option.bind_eq_some_iff,
    Option.ite_none_right_eq_some, Option.some.injEq, Prod.mk.injEq, Endpoint.mk.injEq, and_true]
  constructor
  · rintro ⟨_, hQueue, ⟨_, accepted⟩, hMove, hRoom, rfl, rfl, rfl⟩
    exact ⟨accepted, hQueue, hMove, hRoom, rfl⟩
  · rintro ⟨accepted, hQueue, hMove, hRoom, rfl⟩
    exact ⟨queue, hQueue, (arm, accepted), hMove, hRoom, rfl, rfl, rfl⟩

theorem dequeue_take (packet : GDPPacket) (queue : List GDPPacket) :
    dequeue (.take packet) (packet :: queue) = some queue := if_pos rfl

/-- Only a take shortens the queue, from its front. -/
theorem dequeue_eq_some {event : SendEvent} {queue rest : List GDPPacket}
    (h : dequeue event queue = some rest) : queue = event.taken ++ rest := by
  unfold dequeue at h
  split at h
  · simp only [Option.ite_none_right_eq_some, Option.some.injEq] at h
    obtain ⟨rfl, rfl⟩ := h
    rfl
  · cases h
  · cases h; rfl
  · cases h; rfl

/-- The packets of an end stay accounted for, and it has not written more than
they allow. -/
def Endpoint.Within (serde : SerdeJson) (packets : List GDPPacket) (endpoint : Endpoint) : Prop :=
  ∃ before, packets = before ++ endpoint.arm.current ++ endpoint.queue ∧
    endpoint.outgoing.length ≤
      (wireBytes serde before).length + (endpoint.arm.written serde).length

/-- A move never writes more than it should have, torn or not. -/
theorem SendMove.length_le {arm next : SendArm} {event : SendEvent} {out : Bytes}
    (h : SendMove serde arm event next out) :
    (next.current = arm.current ++ event.taken ∧
      (arm.written serde).length + out.length ≤ (next.written serde).length) ∨
    (next = .select ∧ event.taken = []) := by
  cases h with
  | take packet | wakeHeader packet => exact .inl ⟨rfl, le_rfl⟩
  | @header packet n hPos hLe =>
      rcases whileBytesLeft_cases packet 0 with ⟨hMore, hNext⟩ | ⟨hNext, hAll⟩
      · left
        simp [hNext, SendArm.current, SendArm.written, SendEvent.taken]
      · exact .inr ⟨hNext, rfl⟩
  | dropped packet hResult => exact .inr ⟨rfl, rfl⟩
  | @payload packet bytesWritten n hMore hPos hLe =>
      rcases whileBytesLeft_cases packet (bytesWritten + n) with ⟨hLeft, hNext⟩ | ⟨hNext, hAll⟩
      · left
        simp only [hNext, SendArm.current, SendArm.written, SendEvent.taken, List.append_nil,
          List.length_append, List.length_take, List.length_drop, true_and]
        omega
      · exact .inr ⟨hNext, rfl⟩
  | blocked packet hMore | wakePayload packet hMore => exact .inl ⟨rfl, le_rfl⟩
  | abandoned packet hMore => exact .inr ⟨rfl, rfl⟩

/-- A step of one end keeps it within its packets. -/
theorem Endpoint.Within.step {packets : List GDPPacket} {endpoint next : Endpoint}
    {event : SendEvent} {out : List Empty} (h : endpoint.Within serde packets)
    (hStep : endpointStep serde capacity endpoint event = some (next, out)) :
    next.Within serde packets := by
  obtain ⟨before, hPackets, hLength⟩ := h
  obtain ⟨accepted, hQueue, hMove, -, hOutgoing⟩ := endpointStep_eq_some_iff.mp hStep
  have hQueue := dequeue_eq_some hQueue
  have hMove := sendStep_move hMove
  unfold Endpoint.Within
  rw [hOutgoing, List.length_append]
  rcases hMove.length_le with ⟨hCurrent, hWritten⟩ | ⟨hNext, hTaken⟩
  · refine ⟨before, ?_, by omega⟩
    rw [hPackets, hQueue, hCurrent]
    simp
  · refine ⟨before ++ endpoint.arm.current, ?_, ?_⟩
    · rw [hPackets, hQueue, hTaken, hNext]
      simp
    · have hFrame := hMove.written_within.length_le
      rw [hNext]
      simp only [List.length_append, wireBytes_append, SendArm.written_select,
        List.length_nil] at hFrame ⊢
      omega

/-- An end that is suspended on a full buffer had enough to send. -/
theorem Endpoint.Within.fills {packets : List GDPPacket} {endpoint : Endpoint}
    (h : endpoint.Within serde packets) (hBlocked : endpoint.Blocked capacity) :
    Fills serde capacity packets := by
  obtain ⟨before, hPackets, hLength⟩ := h
  obtain ⟨arm, queue, outgoing⟩ := endpoint
  obtain ⟨hSuspended, hFull⟩ := hBlocked
  simp only at hPackets hLength hSuspended hFull
  rw [List.append_assoc] at hPackets
  cases arm with
  | select | tryHeader | tryPayload => cases hSuspended
  | awaitHeader packet =>
      refine ⟨before, packet, queue, hPackets, ?_⟩
      simp only [SendArm.written, List.length_nil] at hLength
      omega
  | awaitPayload packet bytesWritten hMore =>
      refine ⟨before, packet, queue, hPackets, ?_⟩
      have hBody : packet.body ≠ [] := List.ne_nil_of_length_pos (by omega)
      have hFrame := @frameBytes_length serde packet
      simp only [SendArm.written, List.length_append, List.length_take] at hLength
      rw [suspendedBytes, if_neg hBody]
      omega

end Bound

section Block

variable {serde : SerdeJson} {capacity : Nat}

/-- This end can get itself suspended on a full buffer without any read. -/
def CanBlock (serde : SerdeJson) (capacity : Nat) (endpoint : Endpoint) : Prop :=
  ∃ events finish, Run (EndpointSends serde capacity) endpoint events finish [] ∧
    finish.Blocked capacity

/-- An end that can get there by one step more can get there. -/
theorem CanBlock.of_step {arm next : SendArm} {queue rest : List GDPPacket}
    {outgoing accepted : Bytes} (event : SendEvent) (hQueue : dequeue event queue = some rest)
    (hMove : sendStep serde arm event = some (next, accepted))
    (hRoom : outgoing.length + accepted.length ≤ capacity)
    (h : CanBlock serde capacity ⟨next, rest, outgoing ++ accepted⟩) :
    CanBlock serde capacity ⟨arm, queue, outgoing⟩ := by
  obtain ⟨events, finish, run, hBlocked⟩ := h
  have hStep : EndpointSends serde capacity ⟨arm, queue, outgoing⟩ event
      ⟨next, rest, outgoing ++ accepted⟩ [] :=
    endpointStep_eq_some_iff.mpr ⟨accepted, hQueue, hMove, hRoom, rfl⟩
  exact ⟨event :: events, finish, .cons hStep run, hBlocked⟩

variable {packet : GDPPacket} {queue : List GDPPacket} {outgoing : Bytes}

/-- On a full buffer the arm takes a packet and waits. -/
theorem canBlock_take (hFull : outgoing.length = capacity) :
    CanBlock serde capacity ⟨.select, packet :: queue, outgoing⟩ := by
  have hBlocked : CanBlock serde capacity ⟨.awaitHeader packet, queue, outgoing ++ []⟩ :=
    ⟨[], _, .nil _, trivial, by simpa using hFull⟩
  exact .of_step (.take packet) (dequeue_take _ _) rfl (by simp [hFull]) hBlocked

/-- On a full buffer the arm waits inside the payload. -/
theorem canBlock_wouldBlock {bytesWritten : Nat} (hMore : bytesWritten < packet.body.length)
    (hFull : outgoing.length = capacity) :
    CanBlock serde capacity ⟨.tryPayload packet bytesWritten hMore, queue, outgoing⟩ := by
  have hBlocked : CanBlock serde capacity
      ⟨.awaitPayload packet bytesWritten hMore, queue, outgoing ++ []⟩ :=
    ⟨[], _, .nil _, trivial, by simpa using hFull⟩
  exact .of_step (.wrote .wouldBlock) rfl rfl (by simp [hFull]) hBlocked

/-- A header, or the part of it for which there is room, is written first. -/
theorem canBlock_header {n : Nat} (hPos : 0 < n) (hLe : n ≤ (headerString serde packet).length)
    (hRoom : outgoing.length + n ≤ capacity)
    (h : CanBlock serde capacity
      ⟨whileBytesLeft packet 0, queue, outgoing ++ (headerString serde packet).take n⟩) :
    CanBlock serde capacity ⟨.select, packet :: queue, outgoing⟩ := by
  have hHeader : CanBlock serde capacity ⟨.tryHeader packet, queue, outgoing⟩ := by
    refine .of_step (.wrote (.ok n)) rfl (by simp [sendStep, hPos, hLe]) ?_ h
    simp only [List.length_take]
    omega
  have hAwait : CanBlock serde capacity ⟨.awaitHeader packet, queue, outgoing⟩ := by
    apply CanBlock.of_step .writable rfl rfl (by simp; omega)
    simpa using hHeader
  apply CanBlock.of_step (.take packet) (dequeue_take _ _) rfl (by simp; omega)
  simpa using hAwait

/-- As much of the payload is written as there is room for. -/
theorem canBlock_payload {bytesWritten n : Nat} (hMore : bytesWritten < packet.body.length)
    (hPos : 0 < n) (hLe : n ≤ packet.body.length - bytesWritten)
    (hRoom : outgoing.length + n ≤ capacity)
    (h : CanBlock serde capacity ⟨whileBytesLeft packet (bytesWritten + n), queue,
      outgoing ++ (packet.body.drop bytesWritten).take n⟩) :
    CanBlock serde capacity ⟨.tryPayload packet bytesWritten hMore, queue, outgoing⟩ := by
  refine .of_step (.wrote (.ok n)) rfl (by simp [sendStep, hPos, hLe]) ?_ h
  simp only [List.length_take]
  omega

/-- The payload loop is entered with less room than payload. -/
theorem canBlock_loop (hRoom : outgoing.length ≤ capacity)
    (hMore : capacity < outgoing.length + packet.body.length) :
    CanBlock serde capacity ⟨whileBytesLeft packet 0, queue, outgoing⟩ := by
  rw [whileBytesLeft, dif_pos (by omega)]
  by_cases hFull : outgoing.length = capacity
  · exact canBlock_wouldBlock _ hFull
  · apply canBlock_payload (n := capacity - outgoing.length) <;> try omega
    rw [Nat.zero_add, whileBytesLeft, dif_pos (by omega)]
    apply canBlock_wouldBlock
    simp only [List.drop_zero, List.length_append, List.length_take]
    omega

/-- The next frame does not fit. If it has no payload and its header is cut, the
task is suspended on the packet after it. -/
theorem canBlock_cut (hRoom : outgoing.length ≤ capacity)
    (hCut : capacity < outgoing.length + (frameBytes serde packet).length)
    (hMore : packet.body ≠ [] ∨ queue ≠ []) :
    CanBlock serde capacity ⟨.select, packet :: queue, outgoing⟩ := by
  rw [frameBytes_length] at hCut
  have hHeader := @headerString_length_pos serde packet
  by_cases hFull : outgoing.length = capacity
  · exact canBlock_take hFull
  by_cases hShort : capacity - outgoing.length < (headerString serde packet).length
  · apply canBlock_header (n := capacity - outgoing.length) (by omega) (by omega) (by omega)
    have hNow : (outgoing ++ (headerString serde packet).take
        (capacity - outgoing.length)).length = capacity := by
      simp only [List.length_append, List.length_take]
      omega
    by_cases hBody : packet.body = []
    · obtain ⟨next, rest, rfl⟩ :=
        List.exists_cons_of_ne_nil (hMore.resolve_left (not_not.mpr hBody))
      have hDone : whileBytesLeft packet 0 = .select := by simp [whileBytesLeft, hBody]
      rw [hDone]
      exact canBlock_take hNow
    · have hLeft := List.length_pos_iff.mpr hBody
      exact canBlock_loop hNow.le (by omega)
  · apply canBlock_header (n := (headerString serde packet).length) hHeader le_rfl (by omega)
    apply canBlock_loop
    all_goals
      simp only [List.take_length, List.length_append]
      omega

/-- The next frame fits and is written whole. -/
theorem canBlock_frame
    (hRoom : outgoing.length + (frameBytes serde packet).length ≤ capacity)
    (h : CanBlock serde capacity ⟨.select, queue, outgoing ++ frameBytes serde packet⟩) :
    CanBlock serde capacity ⟨.select, packet :: queue, outgoing⟩ := by
  rw [frameBytes_length] at hRoom
  have hHeader := @headerString_length_pos serde packet
  apply canBlock_header (n := (headerString serde packet).length) hHeader le_rfl (by omega)
  rw [List.take_length]
  unfold frameBytes at h
  by_cases hBody : packet.body = []
  · have hDone : whileBytesLeft packet 0 = .select := by simp [whileBytesLeft, hBody]
    simpa [hDone, hBody] using h
  · have hLeft := List.length_pos_iff.mpr hBody
    rw [whileBytesLeft, dif_pos hLeft]
    apply canBlock_payload hLeft (n := packet.body.length) hLeft (by omega)
    · simp only [List.length_append]
      omega
    · have hDone : whileBytesLeft packet packet.body.length = .select := by simp [whileBytesLeft]
      simpa [hDone] using h

/-- Enough to send leads to a suspended end with a full buffer. -/
theorem canBlock_of_fills {packets : List GDPPacket} (hRoom : outgoing.length ≤ capacity)
    (h : ∃ before packet after, packets = before ++ packet :: after ∧
      capacity ≤ outgoing.length + (wireBytes serde before).length + suspendedBytes serde packet) :
    CanBlock serde capacity ⟨.select, packets, outgoing⟩ := by
  obtain ⟨before, packet, after, rfl, hEnough⟩ := h
  induction before generalizing outgoing with
  | nil =>
      rw [suspendedBytes] at hEnough
      split at hEnough
      · exact canBlock_take (by simp only [wireBytes_nil, List.length_nil] at hEnough; omega)
      · rename_i hBody
        have hFrame := @headerString_length_pos serde packet
        have hLength := @frameBytes_length serde packet
        exact canBlock_cut hRoom (by simp only [wireBytes_nil, List.length_nil] at hEnough; omega)
          (.inl hBody)
  | cons first before ih =>
      rw [List.cons_append]
      by_cases hFits : outgoing.length + (frameBytes serde first).length ≤ capacity
      · apply canBlock_frame hFits
        apply ih
        · simpa using hFits
        · simp only [wireBytes, List.flatMap_cons, List.length_append] at hEnough ⊢
          omega
      · exact canBlock_cut hRoom (by omega) (.inr (by simp))

/-- What one end does on its own is also a run of the pair. -/
theorem connected_run_of_endpoint {ends : Side → Endpoint} {side : Side} {finish : Endpoint}
    {events : List SendEvent} {out : List Empty}
    (run : Run (EndpointSends serde capacity) (ends side) events finish out) :
    Run (Connected serde capacity) ends (events.map (.send side))
      (Function.update ends side finish) out := by
  generalize hStart : ends side = start at run
  induction run generalizing ends with
  | nil =>
      subst hStart
      rw [Function.update_eq_self]
      exact .nil ends
  | @cons start middle finish event events first rest hFirst _ ih =>
      subst hStart
      have hStep : Connected serde capacity ends (.send side event)
          (Function.update ends side middle) [] := by
        unfold EndpointSends OfOption at hFirst
        simp [Connected, OfOption, connectionStep, hFirst]
      have hRest := @ih (Function.update ends side middle) (Function.update_self ..)
      rw [Function.update_idem] at hRest
      obtain rfl : first = [] := Subsingleton.elim _ _
      exact .cons hStep hRest

end Block

section Deadlock

variable {serde : SerdeJson} {capacity : Nat} {packets : Side → List GDPPacket}

/-- A step of the connection keeps both ends within their packets. -/
theorem connectionStep_within {ends next : Side → Endpoint} {event : ConnectionEvent}
    {out : List Empty} (h : ∀ side, (ends side).Within serde (packets side))
    (hStep : Connected serde capacity ends event next out) (side : Side) :
    (next side).Within serde (packets side) := by
  unfold Connected OfOption at hStep
  cases event with
  | send sender event =>
      simp only [connectionStep, Option.map_eq_some_iff, Prod.mk.injEq] at hStep
      obtain ⟨⟨moved, _⟩, hMove, rfl, -⟩ := hStep
      by_cases hSide : side = sender
      · subst hSide
        rw [Function.update_self]
        exact (h side).step hMove
      · rw [Function.update_of_ne hSide]
        exact h side
  | read reader n =>
      simp only [connectionStep, Option.ite_none_right_eq_some, Option.some.injEq,
        Prod.mk.injEq] at hStep
      obtain ⟨-, rfl, -⟩ := hStep
      by_cases hSide : side = reader.other
      · subst hSide
        obtain ⟨before, hPackets, hLength⟩ := h reader.other
        rw [Function.update_self]
        refine ⟨before, hPackets, ?_⟩
        simp only [List.length_drop]
        omega
      · rw [Function.update_of_ne hSide]
        exact h side

theorem initialEnds_within (side : Side) :
    (initialEnds packets side).Within serde (packets side) :=
  ⟨[], by simp [initialEnds], by simp [initialEnds]⟩

/-- In a deadlocked state nobody reads or writes. All that can still happen is
that `writable()` returns although there is no room. -/
theorem Deadlocked.stuck {ends next : Side → Endpoint} {event : ConnectionEvent}
    {out : List Empty} (h : Deadlocked capacity ends)
    (hStep : Connected serde capacity ends event next out) :
    ∃ side, event = .send side .writable := by
  unfold Connected OfOption at hStep
  cases event with
  | send side event =>
      simp only [connectionStep, Option.map_eq_some_iff] at hStep
      obtain ⟨⟨moved, _⟩, hMove, -⟩ := hStep
      obtain ⟨accepted, -, hMove, -⟩ := endpointStep_eq_some_iff.mp hMove
      have hSuspended := (h side).1
      have hMove := sendStep_move hMove
      generalize (ends side).arm = arm at hMove hSuspended
      generalize moved.arm = next at hMove
      cases hMove with
      | wakeHeader | wakePayload => exact ⟨side, rfl⟩
      | take | header | dropped | payload | blocked | abandoned => cases hSuspended
  | read side n =>
      simp only [connectionStep, Option.ite_none_right_eq_some] at hStep
      obtain ⟨⟨hSelect, -⟩, -⟩ := hStep
      have hSuspended := (h side).1
      rw [hSelect] at hSuspended
      cases hSuspended

/-- Two ends with these packets can never block each other exactly when one of
them has too little to send. -/
theorem deadlock_free_iff (serde : SerdeJson) (capacity : Nat) (packets : Side → List GDPPacket) :
    (∀ ends, Reachable (Connected serde capacity) (· = initialEnds packets) ends →
      ¬ Deadlocked capacity ends) ↔ ¬ ∀ side, Fills serde capacity (packets side) := by
  constructor
  · intro hFree hFills
    have hBlock : ∀ side, CanBlock serde capacity (initialEnds packets side) := fun side =>
      canBlock_of_fills (by simp) (by simpa [Fills] using hFills side)
    obtain ⟨leftEvents, leftEnd, leftRun, hLeft⟩ := hBlock .left
    obtain ⟨rightEvents, rightEnd, rightRun, hRight⟩ := hBlock .right
    have first := connected_run_of_endpoint leftRun
    have hApart : Function.update (initialEnds packets) .left leftEnd .right =
        initialEnds packets .right := Function.update_of_ne (by decide) ..
    rw [← hApart] at rightRun
    have second := connected_run_of_endpoint rightRun
    refine hFree _ ⟨_, _, _, rfl, first.append second⟩ ?_
    rintro (_ | _)
    · simpa using hLeft
    · simpa using hRight
  · intro hFills ends hReachable hDeadlocked
    have hWithin : ∀ side, (ends side).Within serde (packets side) := by
      refine hReachable.invariant (fun ends => ∀ side, (ends side).Within serde (packets side))
        ?_ fun _ _ _ _ h hStep => connectionStep_within h hStep
      rintro ends rfl
      exact initialEnds_within
    exact hFills fun side => (hWithin side).fills (hDeadlocked side)

end Deadlock

namespace DeadlockExample

def packet : GDPPacket :=
  ⟨.forward, .ofBytes 1 2 3 4, some [1, 2, 3, 4, 5, 6, 7, 8, 9, 10], .ofBytes 9 9 9 9⟩

/-- The header of 57 bytes goes out, then the payload as far as 64 bytes allow. -/
def sends (side : Side) : List ConnectionEvent :=
  [.send side (.take packet), .send side .writable, .send side (.wrote (.ok 57)),
    .send side (.wrote (.ok 7)), .send side (.wrote .wouldBlock)]

end DeadlockExample

open DeadlockExample in
/-- One packet at each end, too long for the buffers, stops both tasks. -/
theorem both_ends_deadlock :
    ∃ ends, Reachable (Connected compactJson 64) (· = initialEnds fun _ => [packet]) ends ∧
      Deadlocked 64 ends := by
  have hRun : (runOption (connectionStep compactJson 64) (initialEnds fun _ => [packet])
      (sends .left ++ sends .right)).any (fun result =>
        decide ((result.1 .left).arm.Suspended ∧ (result.1 .left).outgoing.length = 64 ∧
          (result.1 .right).arm.Suspended ∧ (result.1 .right).outgoing.length = 64)) = true := by
    decide +kernel
  obtain ⟨⟨ends, out⟩, hEnds, hBlocked⟩ := (Option.any_eq_true _ _).mp hRun
  obtain ⟨hLeft, hLeftFull, hRight, hRightFull⟩ := of_decide_eq_true hBlocked
  refine ⟨ends, ⟨_, _, _, rfl, runOption_eq_some_iff.mp hEnds⟩, ?_⟩
  rintro (_ | _)
  · exact ⟨hLeft, hLeftFull⟩
  · exact ⟨hRight, hRightFull⟩

end GdpRouter
