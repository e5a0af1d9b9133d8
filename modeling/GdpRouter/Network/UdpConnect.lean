import GdpRouter.Network.UdpListener

/-! The stream that `connect` makes. A task of its own takes the datagrams off the
socket. The future of `socket.connect` is never awaited, so that the socket has no
peer, and the task does not look at who sent a datagram. -/
namespace GdpRouter

open Transition

/-- The task is at `recv_from`, at `child_tx.send`, or over. -/
inductive UdpReader where
  | receiving
  | sending (payload : Bytes)
  | ended
  deriving DecidableEq, Repr

/-- What the task holds while it waits. -/
def UdpReader.pending : UdpReader → List Bytes
  | .sending payload => [payload]
  | _ => []

/-- `held` until the stream is dropped. What is in its channel then stays unread. -/
structure UdpConnection (A : Type) where
  peerAddr : A
  handler : UdpReader
  receiver : List Bytes
  held : Bool
  drop : Bool
  deriving DecidableEq, Repr

inductive UdpConnectionLabel (A : Type) where
  | recv (addr : A) (datagram : Bytes)
  | recvFailed
  | resume
  | abort
  | read (capacity : Nat)
  | write (payload : Bytes) (sent : Bool)
  | shutdown
  | drop
  deriving DecidableEq, Repr

inductive UdpConnectionEvent (A : Type) where
  | arrived (addr : A) (payload : Bytes)
  | lost (payload : Bytes)
  | delivered (payload : Bytes)
  | panicked
  | broken
  | wrote (addr : A) (payload : Bytes)
  deriving DecidableEq, Repr

namespace UdpConnection

variable {A : Type}

def connect (addr : A) : UdpConnection A := ⟨addr, .receiving, [], true, false⟩

/-- `child_tx.send`: it fails on a dropped stream, and the loop is left. -/
def send (state : UdpConnection A) (payload : Bytes) :
    UdpConnection A × List (UdpConnectionEvent A) :=
  if state.held then
    if state.receiver.length < channelLen then
      ({ state with handler := .receiving, receiver := state.receiver ++ [payload] }, [])
    else ({ state with handler := .sending payload }, [])
  else ({ state with handler := .ended }, [.lost payload])

theorem send_handler (state : UdpConnection A) (handler : UdpReader) (payload : Bytes) :
    send { state with handler := handler } payload = state.send payload := rfl

/-- Both `shutdown` and a failed write raise a flag that nobody reads here. -/
def shutdown (state : UdpConnection A) : UdpConnection A := { state with drop := true }

def dropped (state : UdpConnection A) : UdpConnection A :=
  { state with held := false, drop := true }

/-- A drop aborts the task, which may first get on to its next `await`. The sender goes
with the task, and a channel without one is a broken pipe. -/
def next (state : UdpConnection A) :
    UdpConnectionLabel A → Option (UdpConnection A × List (UdpConnectionEvent A))
  | .recv addr datagram =>
      match state.handler with
      | .receiving =>
          let payload := datagram.take udpBufferSize
          let (next, seen) := state.send payload
          some (next, .arrived addr payload :: seen)
      | _ => none
  | .recvFailed =>
      match state.handler with
      | .receiving => some ({ state with handler := .ended }, [])
      | _ => none
  | .resume =>
      match state.handler with
      | .sending payload => some (state.send payload)
      | _ => none
  | .abort =>
      if state.held then none
      else some ({ state with handler := .ended }, state.handler.pending.map .lost)
  | .read capacity =>
      if state.held then
        match state.receiver with
        | payload :: rest =>
            if payload.length ≤ capacity then
              some ({ state with receiver := rest }, [.delivered payload])
            else some (state.dropped, [.panicked])
        | [] => if state.handler = .ended then some (state, [.broken]) else none
      else none
  | .write payload sent =>
      if state.held then
        if sent then some (state, [.wrote state.peerAddr payload]) else some (state.shutdown, [])
      else none
  | .shutdown => if state.held then some (state.shutdown, []) else none
  | .drop => if state.held then some (state.dropped, []) else none

end UdpConnection

def UdpConnecting (A : Type) :
    Step (UdpConnection A) (UdpConnectionLabel A) (UdpConnectionEvent A) :=
  OfOption UdpConnection.next

section History

variable {A : Type}

/-- A datagram, from whomever, as far as the buffer of the task goes. -/
def UdpConnectionLabel.datagram : UdpConnectionLabel A → List Bytes
  | .recv _ datagram => [datagram.take udpBufferSize]
  | _ => []

def UdpConnectionEvent.reading : UdpConnectionEvent A → List Bytes
  | .delivered payload => [payload]
  | _ => []

def UdpConnectionEvent.loss : UdpConnectionEvent A → List Bytes
  | .lost payload => [payload]
  | _ => []

namespace UdpConnection

/-- All that came in at the socket. -/
def received (labels : List (UdpConnectionLabel A)) : List Bytes :=
  labels.flatMap UdpConnectionLabel.datagram

def readings (seen : List (UdpConnectionEvent A)) : List Bytes :=
  seen.flatMap UdpConnectionEvent.reading

def losses (seen : List (UdpConnectionEvent A)) : List Bytes :=
  seen.flatMap UdpConnectionEvent.loss

variable (label : UdpConnectionLabel A) (event : UdpConnectionEvent A)

@[simp] theorem received_append (labels more : List (UdpConnectionLabel A)) :
    received (labels ++ more) = received labels ++ received more := List.flatMap_append

@[simp] theorem received_singleton : received [label] = label.datagram := List.flatMap_singleton ..

@[simp] theorem readings_nil : readings ([] : List (UdpConnectionEvent A)) = [] := rfl

@[simp] theorem readings_cons (seen : List (UdpConnectionEvent A)) :
    readings (event :: seen) = event.reading ++ readings seen := List.flatMap_cons

@[simp] theorem readings_append (seen more : List (UdpConnectionEvent A)) :
    readings (seen ++ more) = readings seen ++ readings more := List.flatMap_append

@[simp] theorem losses_nil : losses ([] : List (UdpConnectionEvent A)) = [] := rfl

@[simp] theorem losses_cons (seen : List (UdpConnectionEvent A)) :
    losses (event :: seen) = event.loss ++ losses seen := List.flatMap_cons

@[simp] theorem losses_append (seen more : List (UdpConnectionEvent A)) :
    losses (seen ++ more) = losses seen ++ losses more := List.flatMap_append

end UdpConnection

end History

section Move

variable {A : Type}

/-- What one step can do. -/
inductive UdpConnectionMove : UdpConnection A → UdpConnectionLabel A → UdpConnection A →
    List (UdpConnectionEvent A) → Prop where
  | recv {state : UdpConnection A} {addr : A} {datagram : Bytes}
      (hHandler : state.handler = .receiving) :
      UdpConnectionMove state (.recv addr datagram) (state.send (datagram.take udpBufferSize)).1
        (.arrived addr (datagram.take udpBufferSize) ::
          (state.send (datagram.take udpBufferSize)).2)
  | recvFailed {state : UdpConnection A} (hHandler : state.handler = .receiving) :
      UdpConnectionMove state .recvFailed { state with handler := .ended } []
  | resume {state : UdpConnection A} {payload : Bytes}
      (hHandler : state.handler = .sending payload) :
      UdpConnectionMove state .resume (state.send payload).1 (state.send payload).2
  | abort {state : UdpConnection A} (hHeld : state.held = false) :
      UdpConnectionMove state .abort { state with handler := .ended }
        (state.handler.pending.map .lost)
  | read {state : UdpConnection A} {capacity : Nat} {payload : Bytes} {rest : List Bytes}
      (hHeld : state.held = true) (hReceiver : state.receiver = payload :: rest) :
      UdpConnectionMove state (.read capacity) { state with receiver := rest } [.delivered payload]
  | panic {state : UdpConnection A} {capacity : Nat} (hHeld : state.held = true) :
      UdpConnectionMove state (.read capacity) state.dropped [.panicked]
  | broken {state : UdpConnection A} {capacity : Nat} (hHeld : state.held = true)
      (hReceiver : state.receiver = []) (hHandler : state.handler = .ended) :
      UdpConnectionMove state (.read capacity) state [.broken]
  | write {state : UdpConnection A} {payload : Bytes} (hHeld : state.held = true) :
      UdpConnectionMove state (.write payload true) state [.wrote state.peerAddr payload]
  | writeFailed {state : UdpConnection A} {payload : Bytes} (hHeld : state.held = true) :
      UdpConnectionMove state (.write payload false) state.shutdown []
  | shutdown {state : UdpConnection A} (hHeld : state.held = true) :
      UdpConnectionMove state .shutdown state.shutdown []
  | drop {state : UdpConnection A} (hHeld : state.held = true) :
      UdpConnectionMove state .drop state.dropped []

/-- Every step of a connected stream is one of these moves. -/
theorem UdpConnecting.move {state next : UdpConnection A} {label : UdpConnectionLabel A}
    {seen : List (UdpConnectionEvent A)} (h : UdpConnecting A state label next seen) :
    UdpConnectionMove state label next seen := by
  unfold UdpConnecting OfOption at h
  cases label with
  | recv addr datagram =>
      simp only [UdpConnection.next] at h
      split at h
      · rename_i hHandler
        cases h
        exact .recv hHandler
      · cases h
  | recvFailed =>
      simp only [UdpConnection.next] at h
      split at h
      · rename_i hHandler
        cases h
        exact .recvFailed hHandler
      · cases h
  | resume =>
      simp only [UdpConnection.next] at h
      split at h
      · rename_i payload hHandler
        obtain ⟨rfl, rfl⟩ := Prod.mk.inj (Option.some.inj h)
        exact .resume hHandler
      · cases h
  | abort =>
      obtain ⟨hHeld, hNext⟩ := Option.ite_none_left_eq_some.mp h
      cases hNext
      exact .abort (by simpa using hHeld)
  | read capacity =>
      obtain ⟨hHeld, hNext⟩ := Option.ite_none_right_eq_some.mp h
      split at hNext
      · rename_i payload rest hReceiver
        split at hNext
        · cases hNext
          exact .read hHeld hReceiver
        · cases hNext
          exact .panic hHeld
      · rename_i hReceiver
        obtain ⟨hHandler, hNext⟩ := Option.ite_none_right_eq_some.mp hNext
        cases hNext
        exact .broken hHeld hReceiver hHandler
  | write payload sent =>
      obtain ⟨hHeld, hNext⟩ := Option.ite_none_right_eq_some.mp h
      cases sent with
      | true => cases hNext; exact .write hHeld
      | false => cases hNext; exact .writeFailed hHeld
  | shutdown =>
      obtain ⟨hHeld, hNext⟩ := Option.ite_none_right_eq_some.mp h
      cases hNext
      exact .shutdown hHeld
  | drop =>
      obtain ⟨hHeld, hNext⟩ := Option.ite_none_right_eq_some.mp h
      cases hNext
      exact .drop hHeld

end Move

section Account

variable {A : Type}

/-- The books of the stream. A datagram is lost only when the task finds the stream
dropped, and the task is over with that. -/
structure UdpConnection.Account (state : UdpConnection A) (labels : List (UdpConnectionLabel A))
    (seen : List (UdpConnectionEvent A)) : Prop where
  filed : received labels =
    readings seen ++ state.receiver ++ state.handler.pending ++ losses seen
  lossless : state.handler ≠ .ended ∨ state.held = true → losses seen = []
  once : (losses seen).length ≤ 1
  fits : state.receiver.length ≤ channelLen
  broken : .broken ∈ seen → state.handler = .ended ∧ state.receiver = [] ∧ losses seen = []

namespace UdpConnection.Account

variable {state : UdpConnection A} {labels : List (UdpConnectionLabel A)}
  {seen : List (UdpConnectionEvent A)}

/-- The books of a new stream are empty. -/
theorem initial (peer : A) : (UdpConnection.connect peer).Account [] [] where
  filed := rfl
  lossless _ := rfl
  once := Nat.zero_le 1
  fits := Nat.zero_le _
  broken h := by cases h

attribute [local simp] UdpConnectionLabel.datagram UdpConnectionEvent.reading
  UdpConnectionEvent.loss UdpReader.pending

/-- Labels and events that no book records. -/
theorem silent (h : state.Account labels seen) {label : UdpConnectionLabel A}
    {more : List (UdpConnectionEvent A)} (hLabel : label.datagram = []) (hRead : readings more = [])
    (hLost : losses more = []) (hBroken : .broken ∉ more) :
    state.Account (labels ++ [label]) (seen ++ more) where
  filed := by rw [received_append, received_singleton, hLabel, readings_append, hRead,
    losses_append, hLost, List.append_nil, List.append_nil, List.append_nil, h.filed]
  lossless := by simpa [hLost] using h.lossless
  once := by simpa [hLost] using h.once
  fits := h.fits
  broken := by simpa [hLost, hBroken] using h.broken

/-- The task has taken a datagram, and has not sent it yet. -/
theorem arrived (h : state.Account labels seen) (hHandler : state.handler = .receiving) (addr : A)
    (datagram : Bytes) :
    UdpConnection.Account { state with handler := .sending (datagram.take udpBufferSize) }
      (labels ++ [.recv addr datagram])
      (seen ++ [.arrived addr (datagram.take udpBufferSize)]) := by
  have hNone := h.lossless (.inl (by simp [hHandler]))
  have hFiled := h.filed
  exact
    { filed := by simp [hFiled, hHandler, hNone]
      lossless := by simp [hNone]
      once := by simp [hNone]
      fits := h.fits
      broken := fun hMem => by
        have hEnded := (h.broken (by simpa using hMem)).1
        cases hHandler.symm.trans hEnded }

/-- Giving up the datagram in hand files it, or it stays in hand. -/
theorem send (h : state.Account labels seen) {payload : Bytes}
    (hHandler : state.handler = .sending payload) :
    (state.send payload).1.Account labels (seen ++ (state.send payload).2) := by
  have hNone := h.lossless (.inl (by simp [hHandler]))
  have hFiled := h.filed
  have hOpen : .broken ∉ seen := by
    intro hMem
    cases hHandler.symm.trans (h.broken hMem).1
  unfold UdpConnection.send
  split
  · split
    · rename_i hRoom
      exact
        { filed := by simpa [hHandler, hNone] using hFiled
          lossless := by simp [hNone]
          once := by simp [hNone]
          fits := by simpa using hRoom
          broken := fun hMem => absurd (by simpa using hMem) hOpen }
    · rw [← hHandler]
      simpa using h
  · rename_i hHeld
    exact
      { filed := by simpa [hHandler, hNone] using hFiled
        lossless := fun hKept => by simp [hHeld] at hKept
        once := by simp [hNone]
        fits := h.fits
        broken := fun hMem => absurd (by simpa using hMem) hOpen }

/-- The task is over, with or without a datagram. -/
theorem ended (h : state.Account labels seen)
    (hPending : state.handler.pending = [] ∨ state.held = false) :
    UdpConnection.Account { state with handler := .ended } labels
      (seen ++ state.handler.pending.map .lost) := by
  have hFiled := h.filed
  cases hHandler : state.handler with
  | receiving =>
      have hNone := h.lossless (.inl (by simp [hHandler]))
      exact
        { filed := by simpa [hHandler] using hFiled
          lossless := by simp [hNone]
          once := by simp [hNone]
          fits := h.fits
          broken := fun hMem => by
            have hEnded := (h.broken (by simpa using hMem)).1
            cases hHandler.symm.trans hEnded }
  | sending payload =>
      have hNone := h.lossless (.inl (by simp [hHandler]))
      have hHeld : state.held = false := hPending.resolve_left (by simp [hHandler])
      exact
        { filed := by simpa [hHandler, hNone] using hFiled
          lossless := fun hKept => by simp [hHeld] at hKept
          once := by simp [hNone]
          fits := h.fits
          broken := fun hMem => by
            have hEnded := (h.broken (by simpa using hMem)).1
            cases hHandler.symm.trans hEnded }
  | ended => simpa [← hHandler] using h

theorem shutdown (h : state.Account labels seen) : state.shutdown.Account labels seen :=
  { h with }

/-- Dropping the stream is not what loses a datagram. -/
theorem dropped (h : state.Account labels seen) : state.dropped.Account labels seen :=
  { h with
    lossless := fun hKept =>
      h.lossless (.inl (hKept.resolve_right (by simp [UdpConnection.dropped]))) }

/-- Every move keeps the books. -/
theorem step (h : state.Account labels seen) {label : UdpConnectionLabel A}
    {next : UdpConnection A} {more : List (UdpConnectionEvent A)}
    (move : UdpConnectionMove state label next more) :
    next.Account (labels ++ [label]) (seen ++ more) := by
  cases move with
  | @recv addr datagram hHandler =>
      have hTaken := (h.arrived hHandler addr datagram).send rfl
      simpa [UdpConnection.send_handler] using hTaken
  | recvFailed hHandler =>
      have hEnded : UdpConnection.Account { state with handler := .ended } labels seen := by
        simpa [hHandler] using h.ended (.inl (by simp [hHandler]))
      exact hEnded.silent rfl rfl rfl List.not_mem_nil
  | resume hHandler => simpa using (h.send hHandler).silent rfl rfl rfl List.not_mem_nil
  | abort hHeld => simpa using (h.ended (.inr hHeld)).silent rfl rfl rfl List.not_mem_nil
  | @read capacity payload rest hHeld hReceiver =>
      have hNone := h.lossless (.inr hHeld)
      have hFiled := h.filed
      have hFits := h.fits
      rw [hReceiver, List.length_cons] at hFits
      exact
        { filed := by simpa [hReceiver] using hFiled
          lossless := by simp [hNone]
          once := by simp [hNone]
          fits := Nat.le_of_succ_le hFits
          broken := fun hMem => by
            have hEmpty := (h.broken (by simpa using hMem)).2.1
            cases hReceiver.symm.trans hEmpty }
  | panic => exact h.dropped.silent rfl rfl rfl (by simp)
  | broken hHeld hReceiver hHandler =>
      have hNone := h.lossless (.inr hHeld)
      exact
        { filed := by simpa using h.filed
          lossless := by simp [hNone]
          once := by simp [hNone]
          fits := h.fits
          broken := fun _ => ⟨hHandler, hReceiver, by simp [hNone]⟩ }
  | write => exact h.silent rfl rfl rfl (by simp)
  | writeFailed | shutdown => exact h.shutdown.silent rfl rfl rfl List.not_mem_nil
  | drop => exact h.dropped.silent rfl rfl rfl List.not_mem_nil

theorem run {peer : A} {finish : UdpConnection A}
    (hRun : Run (UdpConnecting A) (.connect peer) labels finish seen) :
    finish.Account labels seen :=
  hRun.history_invariant UdpConnection.Account (initial peer)
    fun _ _ _ _ _ _ _ h hStep => h.step hStep.move

end UdpConnection.Account

/-- The task does not start again. -/
theorem UdpConnecting.ended {state next : UdpConnection A} {label : UdpConnectionLabel A}
    {seen : List (UdpConnectionEvent A)} (h : UdpConnecting A state label next seen)
    (hEnded : state.handler = .ended) : next.handler = .ended ∧ label.datagram = [] := by
  cases h.move with
  | recv hHandler | recvFailed hHandler | resume hHandler => cases hHandler.symm.trans hEnded
  | abort => exact ⟨rfl, rfl⟩
  | read | panic | broken | write | writeFailed | shutdown | drop => exact ⟨hEnded, rfl⟩

/-- When the task is over, no datagram is received any more. -/
theorem UdpConnecting.run_ended {start finish : UdpConnection A}
    {labels : List (UdpConnectionLabel A)} {seen : List (UdpConnectionEvent A)}
    (hRun : Run (UdpConnecting A) start labels finish seen) (hEnded : start.handler = .ended) :
    UdpConnection.received labels = [] := by
  induction hRun with
  | nil => rfl
  | cons first _ ih =>
      obtain ⟨hNext, hLabel⟩ := first.ended hEnded
      simpa [UdpConnection.received, hLabel] using ih hNext

end Account

end GdpRouter
