import GdpRouter.SerdeJson
import GdpRouter.Semantics.Run
import Mathlib.Data.List.Sublists

/-! The send arm of `handle_tcp_stream`. It is a small machine between two
events of its surroundings: a packet from `m_rx`, a wake-up of `writable()`, or
the result of one `try_write`. Its outputs are the bytes that the socket
accepts. -/
namespace GdpRouter

open Transition

/-- The header text and the NUL that is pushed to it. -/
def headerString (serde : SerdeJson) (packet : GDPPacket) : Bytes :=
  serde.toString packet.getHeader ++ [0]

/-- The bytes that the send arm defines for one packet. -/
def frameBytes (serde : SerdeJson) (packet : GDPPacket) : Bytes :=
  headerString serde packet ++ packet.body

def wireBytes (serde : SerdeJson) (packets : List GDPPacket) : Bytes :=
  packets.flatMap (frameBytes serde)

/-- Where the task stands. In the payload loop some bytes are always left. -/
inductive SendArm where
  /-- `select!` -/
  | select
  /-- `stream.writable()` before the header -/
  | awaitHeader (packet : GDPPacket)
  | tryHeader (packet : GDPPacket)
  | tryPayload (packet : GDPPacket) (bytesWritten : Nat) (hMore : bytesWritten < packet.body.length)
  /-- `stream.writable()` in the payload loop -/
  | awaitPayload (packet : GDPPacket) (bytesWritten : Nat)
      (hMore : bytesWritten < packet.body.length)
  deriving DecidableEq, Repr

/-- The result of `try_write`. -/
inductive WriteResult where
  | ok (n : Nat)
  | wouldBlock
  | error
  deriving DecidableEq, Repr

inductive SendEvent where
  | take (packet : GDPPacket)
  | writable
  | wrote (result : WriteResult)
  deriving DecidableEq, Repr

/-- The test of `while bytes_written < bytes_read`. -/
def whileBytesLeft (packet : GDPPacket) (bytesWritten : Nat) : SendArm :=
  if hMore : bytesWritten < packet.body.length then .tryPayload packet bytesWritten hMore
  else .select

/-- One event. A packet without a payload skips the loop, as an empty one does.
An accepted write takes at least one byte and at most the bytes offered. -/
def sendStep (serde : SerdeJson) : SendArm → SendEvent → Option (SendArm × Bytes)
  | .select, .take packet => some (.awaitHeader packet, [])
  | .awaitHeader packet, .writable => some (.tryHeader packet, [])
  | .tryHeader packet, .wrote (.ok n) =>
      if 0 < n ∧ n ≤ (headerString serde packet).length then
        some (whileBytesLeft packet 0, (headerString serde packet).take n)
      else none
  | .tryHeader _, .wrote .wouldBlock => some (.select, [])
  | .tryHeader _, .wrote .error => some (.select, [])
  | .tryPayload packet bytesWritten _, .wrote (.ok n) =>
      if 0 < n ∧ n ≤ packet.body.length - bytesWritten then
        some (whileBytesLeft packet (bytesWritten + n), (packet.body.drop bytesWritten).take n)
      else none
  | .tryPayload packet bytesWritten hMore, .wrote .wouldBlock =>
      some (.awaitPayload packet bytesWritten hMore, [])
  | .tryPayload _ _ _, .wrote .error => some (.select, [])
  | .awaitPayload packet bytesWritten hMore, .writable =>
      some (.tryPayload packet bytesWritten hMore, [])
  | _, _ => none

def Sending (serde : SerdeJson) : Step SendArm SendEvent UInt8 := OfOption (sendStep serde)

/-- The packet in hand. -/
def SendArm.current : SendArm → List GDPPacket
  | .select => []
  | .awaitHeader packet | .tryHeader packet | .tryPayload packet _ _
  | .awaitPayload packet _ _ => [packet]

/-- What should have been written of the packet in hand. -/
def SendArm.written (serde : SerdeJson) : SendArm → Bytes
  | .select | .awaitHeader _ | .tryHeader _ => []
  | .tryPayload packet bytesWritten _ | .awaitPayload packet bytesWritten _ =>
      headerString serde packet ++ packet.body.take bytesWritten

def SendEvent.taken : SendEvent → List GDPPacket
  | .take packet => [packet]
  | .writable | .wrote _ => []

/-- The packets taken from `m_rx`, in order. -/
def takenPackets (events : List SendEvent) : List GDPPacket := events.flatMap SendEvent.taken

/-- This event leaves a frame on the wire in part: the header is accepted in
part, or the payload loop is left by an error. -/
def SendArm.Tears (serde : SerdeJson) : SendArm → SendEvent → Prop
  | .tryHeader packet, .wrote (.ok n) => n < (headerString serde packet).length
  | .tryPayload _ _ _, .wrote .error => True
  | _, _ => False

section Step

variable {serde : SerdeJson}

@[simp] theorem wireBytes_nil : wireBytes serde [] = [] := rfl

@[simp] theorem wireBytes_append (first second : List GDPPacket) :
    wireBytes serde (first ++ second) = wireBytes serde first ++ wireBytes serde second :=
  List.flatMap_append

@[simp] theorem wireBytes_singleton (packet : GDPPacket) :
    wireBytes serde [packet] = frameBytes serde packet := by
  simp [wireBytes]

theorem frameBytes_eq (packet : GDPPacket) :
    frameBytes serde packet = serde.toString packet.getHeader ++ 0 :: packet.body := by
  simp [frameBytes, headerString]

@[simp] theorem SendArm.current_select : SendArm.select.current = [] := rfl

@[simp] theorem SendArm.written_select : SendArm.select.written serde = [] := rfl

theorem headerString_length_pos (packet : GDPPacket) : 0 < (headerString serde packet).length := by
  simp [headerString]

theorem frameBytes_length (packet : GDPPacket) : (frameBytes serde packet).length =
    (headerString serde packet).length + packet.body.length := List.length_append

/-- The packet in hand is never written to its end. -/
theorem SendArm.written_lt (arm : SendArm) :
    (arm.current = [] ∧ arm.written serde = []) ∨ ∃ packet, arm.current = [packet] ∧
      (arm.written serde).length < (frameBytes serde packet).length := by
  cases arm with
  | select => exact .inl ⟨rfl, rfl⟩
  | awaitHeader packet | tryHeader packet =>
      refine .inr ⟨packet, rfl, ?_⟩
      have hHeader : 0 < (headerString serde packet).length := headerString_length_pos packet
      rw [frameBytes_length]
      exact Nat.add_pos_left hHeader _
  | tryPayload packet bytesWritten hMore | awaitPayload packet bytesWritten hMore =>
      refine .inr ⟨packet, rfl, ?_⟩
      rw [SendArm.written, List.length_append, List.length_take, frameBytes_length]
      omega

/-- The loop goes on, or nothing is left of the payload. -/
theorem whileBytesLeft_cases (packet : GDPPacket) (bytesWritten : Nat) :
    (∃ hMore, whileBytesLeft packet bytesWritten = .tryPayload packet bytesWritten hMore) ∨
      (whileBytesLeft packet bytesWritten = .select ∧ packet.body.length ≤ bytesWritten) := by
  unfold whileBytesLeft
  split
  · rename_i hMore
    exact .inl ⟨hMore, rfl⟩
  · exact .inr ⟨rfl, by omega⟩

/-- Everything that one event can do. -/
inductive SendMove (serde : SerdeJson) : SendArm → SendEvent → SendArm → Bytes → Prop where
  | take (packet : GDPPacket) : SendMove serde .select (.take packet) (.awaitHeader packet) []
  | wakeHeader (packet : GDPPacket) :
      SendMove serde (.awaitHeader packet) .writable (.tryHeader packet) []
  | header (packet : GDPPacket) {n : Nat} (hPos : 0 < n)
      (hLe : n ≤ (headerString serde packet).length) :
      SendMove serde (.tryHeader packet) (.wrote (.ok n)) (whileBytesLeft packet 0)
        ((headerString serde packet).take n)
  | dropped (packet : GDPPacket) {result : WriteResult} (hResult : ∀ n, result ≠ .ok n) :
      SendMove serde (.tryHeader packet) (.wrote result) .select []
  | payload (packet : GDPPacket) {bytesWritten n : Nat} (hMore : bytesWritten < packet.body.length)
      (hPos : 0 < n) (hLe : bytesWritten + n ≤ packet.body.length) :
      SendMove serde (.tryPayload packet bytesWritten hMore) (.wrote (.ok n))
        (whileBytesLeft packet (bytesWritten + n)) ((packet.body.drop bytesWritten).take n)
  | blocked (packet : GDPPacket) {bytesWritten : Nat} (hMore : bytesWritten < packet.body.length) :
      SendMove serde (.tryPayload packet bytesWritten hMore) (.wrote .wouldBlock)
        (.awaitPayload packet bytesWritten hMore) []
  | abandoned (packet : GDPPacket) {bytesWritten : Nat}
      (hMore : bytesWritten < packet.body.length) :
      SendMove serde (.tryPayload packet bytesWritten hMore) (.wrote .error) .select []
  | wakePayload (packet : GDPPacket) {bytesWritten : Nat}
      (hMore : bytesWritten < packet.body.length) :
      SendMove serde (.awaitPayload packet bytesWritten hMore) .writable
        (.tryPayload packet bytesWritten hMore) []

/-- Every step of the send arm is one of these moves. -/
theorem sendStep_move {arm next : SendArm} {event : SendEvent} {out : Bytes}
    (h : sendStep serde arm event = some (next, out)) : SendMove serde arm event next out := by
  unfold sendStep at h
  split at h
  case h_3 =>
    simp only [Option.ite_none_right_eq_some, Option.some.injEq, Prod.mk.injEq] at h
    obtain ⟨⟨hPos, hLe⟩, rfl, rfl⟩ := h
    exact .header _ hPos hLe
  case h_6 =>
    simp only [Option.ite_none_right_eq_some, Option.some.injEq, Prod.mk.injEq] at h
    obtain ⟨⟨hPos, hLe⟩, rfl, rfl⟩ := h
    exact .payload _ _ hPos (by omega)
  all_goals
    cases h
    try constructor
    try simp

/-- A move that does not tear leaves what should have been written. -/
theorem SendMove.written_append {arm next : SendArm} {event : SendEvent} {out : Bytes}
    (h : SendMove serde arm event next out) (hTears : ¬ arm.Tears serde event) :
    (next.current = arm.current ++ event.taken ∧
        next.written serde = arm.written serde ++ out) ∨
      (next = .select ∧ arm.written serde ++ out = wireBytes serde arm.current) ∨
      (next = .select ∧ arm.written serde ++ out = []) := by
  cases h with
  | take packet => exact .inl ⟨rfl, rfl⟩
  | wakeHeader packet => exact .inl ⟨rfl, rfl⟩
  | @header packet n hPos hLe =>
      have hWhole : n = (headerString serde packet).length :=
        le_antisymm hLe (not_lt.mp hTears)
      subst hWhole
      rw [List.take_length]
      rcases whileBytesLeft_cases packet 0 with ⟨hMore, hNext⟩ | ⟨hNext, hAll⟩
      · exact .inl (by simp [hNext, SendArm.current, SendArm.written, SendEvent.taken])
      · refine .inr (.inl ⟨hNext, ?_⟩)
        have hEmpty : packet.body = [] := List.length_eq_zero_iff.mp (Nat.le_zero.mp hAll)
        simp [SendArm.current, SendArm.written, frameBytes, hEmpty]
  | dropped packet hResult => exact .inr (.inr ⟨rfl, rfl⟩)
  | @payload packet bytesWritten n hMore hPos hLe =>
      have hTaken : packet.body.take bytesWritten ++ (packet.body.drop bytesWritten).take n =
          packet.body.take (bytesWritten + n) := by
        rw [List.take_add]
      rcases whileBytesLeft_cases packet (bytesWritten + n) with ⟨hLeft, hNext⟩ | ⟨hNext, hAll⟩
      · left
        simp [hNext, SendArm.current, SendArm.written, SendEvent.taken, List.append_assoc, hTaken]
      · refine .inr (.inl ⟨hNext, ?_⟩)
        rw [List.take_of_length_le hAll] at hTaken
        simp only [SendArm.written, SendArm.current, List.append_assoc, hTaken, frameBytes,
          wireBytes_singleton]
  | blocked packet hMore => exact .inl ⟨rfl, by simp [SendArm.written]⟩
  | abandoned packet hMore => exact absurd trivial hTears
  | wakePayload packet hMore => exact .inl ⟨rfl, by simp [SendArm.written]⟩

/-- One packet is in hand, before or after it is taken, and what the socket accepts
is of its frame. -/
theorem SendMove.in_hand {arm next : SendArm} {event : SendEvent} {out : Bytes}
    (h : SendMove serde arm event next out) :
    ∃ packet, arm.current ++ event.taken = [packet] ∧ next.current ⊆ [packet] ∧
      out <:+: frameBytes serde packet := by
  have hLoop (packet : GDPPacket) (bytesWritten : Nat) :
      (whileBytesLeft packet bytesWritten).current ⊆ [packet] := by
    rcases whileBytesLeft_cases packet bytesWritten with ⟨hMore, hNext⟩ | ⟨hNext, -⟩
    · rw [hNext, SendArm.current]
      exact List.Subset.refl _
    · simp [hNext]
  cases h with
  | @header packet n hPos hLe =>
      have hHeader : (headerString serde packet).take n <:+: frameBytes serde packet :=
        (List.take_prefix n _).isInfix.trans (List.prefix_append _ _).isInfix
      exact ⟨packet, rfl, hLoop packet 0, hHeader⟩
  | @payload packet bytesWritten n hMore hPos hLe =>
      have hBody : (packet.body.drop bytesWritten).take n <:+: packet.body :=
        (List.take_prefix n _).isInfix.trans (List.drop_suffix bytesWritten _).isInfix
      exact ⟨packet, rfl, hLoop packet _, hBody.trans (List.suffix_append _ _).isInfix⟩
  | take packet | wakeHeader packet | blocked packet | wakePayload packet =>
      exact ⟨packet, rfl, List.Subset.refl _, List.nil_infix⟩
  | dropped packet | abandoned packet =>
      exact ⟨packet, rfl, List.nil_subset _, List.nil_infix⟩

end Step

end GdpRouter
