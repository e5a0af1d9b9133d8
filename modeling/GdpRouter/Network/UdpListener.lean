import Mathlib.Logic.Function.Basic
import GdpRouter.Semantics.Run
import GdpRouter.Network.Receive

/-! The listener that makes a stream of every UDP peer. One task takes the
datagrams off the socket and waits wherever a channel is full. The channel of a
peer ends when its stream is dropped, and the next datagram starts another one. -/
namespace GdpRouter

open Transition

def channelLen : Nat := 100

/-- A stream that is still in somebody's hands, with what it has to read. -/
structure UdpStream (A : Type) where
  peerAddr : A
  receiver : List Bytes
  accepted : Bool
  deriving DecidableEq, Repr

/-- The handler is at `recv_from`, at `child_tx.send` or at `tx.send`. -/
inductive UdpHandler (A : Type) where
  | receiving
  | sending (addr : A) (payload : Bytes) (id : Nat)
  | offering (addr : A) (id : Nat)
  deriving DecidableEq, Repr

/-- Streams are numbered as they are made. The handler shares the `drop` flag of
a stream, which therefore outlives it. -/
structure UdpListener (A : Type) where
  handler : UdpHandler A
  streams : A → Option Nat
  created : Nat
  stream : Nat → Option (UdpStream A)
  drop : Nat → Bool
  accepting : List Nat

/-- `missed` are the entries whose flag is taken when the handler tries it. -/
inductive UdpLabel (A : Type) where
  | recv (addr : A) (datagram : Bytes) (missed : List A)
  | resume
  | accept
  | read (id capacity : Nat)
  | write (id : Nat) (payload : Bytes) (sent : Bool)
  | shutdown (id : Nat)
  | drop (id : Nat)
  deriving DecidableEq, Repr

inductive UdpEvent (A : Type) where
  | arrived (addr : A) (payload : Bytes)
  | made (addr : A) (id : Nat)
  | queued (id : Nat) (payload : Bytes)
  | lost (id : Nat) (payload : Bytes)
  | accepted (addr : A) (id : Nat)
  | delivered (id : Nat) (payload : Bytes)
  | panicked (id : Nat)
  | broken (id : Nat)
  | wrote (addr : A) (payload : Bytes)
  deriving DecidableEq, Repr

section Listener

variable {A : Type}

def UdpListener.bind : UdpListener A :=
  ⟨.receiving, fun _ => none, 0, fun _ => none, fun _ => false, []⟩

variable [DecidableEq A]

/-- An entry whose flag is up goes, unless the flag could not be read. -/
def UdpListener.sweep (state : UdpListener A) (missed : List A) : UdpListener A :=
  { state with
    streams := fun addr =>
      (state.streams addr).filter fun id => !state.drop id || decide (addr ∈ missed) }

/-- `child_tx.send`: it fails on a dropped stream, and the datagram is gone. -/
def UdpListener.send (state : UdpListener A) (addr : A) (payload : Bytes) (id : Nat) :
    UdpListener A × List (UdpEvent A) :=
  match state.stream id with
  | none =>
      ({ state with
        handler := .receiving
        streams := Function.update state.streams addr none }, [.lost id payload])
  | some stream =>
      if stream.receiver.length < channelLen then
        ({ state with
          handler := .receiving
          stream := Function.update state.stream id
            (some { stream with receiver := stream.receiver ++ [payload] }) }, [.queued id payload])
      else ({ state with handler := .sending addr payload id }, [])

/-- A stream whose channel holds the datagram that it was made for. -/
def UdpListener.make (state : UdpListener A) (addr : A) (payload : Bytes) : UdpListener A :=
  { state with
    created := state.created + 1
    stream := Function.update state.stream state.created (some ⟨addr, [payload], false⟩)
    drop := Function.update state.drop state.created false }

/-- `tx.send`. The entry is made only after it. -/
def UdpListener.offer (state : UdpListener A) (addr : A) (id : Nat) : UdpListener A :=
  if state.accepting.length < channelLen then
    { state with
      handler := .receiving
      streams := Function.update state.streams addr (some id)
      accepting := state.accepting ++ [id] }
  else { state with handler := .offering addr id }

section Send

variable {state : UdpListener A} {addr : A} {payload : Bytes} {id : Nat} {stream : UdpStream A}

theorem UdpListener.send_of_none (hStream : state.stream id = none) :
    state.send addr payload id =
      ({ state with
        handler := .receiving
        streams := Function.update state.streams addr none }, [.lost id payload]) := by
  simp [UdpListener.send, hStream]

/-- A channel with room takes the datagram. -/
theorem UdpListener.send_of_room (hStream : state.stream id = some stream)
    (hRoom : stream.receiver.length < channelLen) :
    state.send addr payload id =
      ({ state with
        handler := .receiving
        stream := Function.update state.stream id
          (some { stream with receiver := stream.receiver ++ [payload] }) },
        [.queued id payload]) := by
  simp [UdpListener.send, hStream, hRoom]

/-- On a full channel the handler waits, datagram in hand. -/
theorem UdpListener.send_of_full (hStream : state.stream id = some stream)
    (hRoom : ¬stream.receiver.length < channelLen) :
    state.send addr payload id = ({ state with handler := .sending addr payload id }, []) := by
  simp [UdpListener.send, hStream, hRoom]

end Send

/-- Where the handler was does not matter for what it does next. -/
theorem UdpListener.send_handler (state : UdpListener A) (handler : UdpHandler A) (addr : A)
    (payload : Bytes) (id : Nat) :
    UdpListener.send { state with handler := handler } addr payload id =
      state.send addr payload id := by
  cases hStream : state.stream id with
  | none => simp [UdpListener.send, hStream]
  | some stream => simp [UdpListener.send, hStream]

/-- The stream, if `accept` has handed it over and it was not dropped. -/
def UdpListener.held (state : UdpListener A) (id : Nat) : Option (UdpStream A) :=
  (state.stream id).filter (·.accepted)

/-- Both `shutdown` and a failed write raise the flag. The stream stays. -/
def UdpListener.shutdown (state : UdpListener A) (id : Nat) : UdpListener A :=
  { state with drop := Function.update state.drop id true }

def UdpListener.dropped (state : UdpListener A) (id : Nat) : UdpListener A :=
  { state with
    stream := Function.update state.stream id none
    drop := Function.update state.drop id true }

/-- A buffer with too little room for a datagram makes the reader panic, and so
drop its stream. A channel without a sender is a broken pipe. -/
def UdpListener.next (state : UdpListener A) :
    UdpLabel A → Option (UdpListener A × List (UdpEvent A))
  | .recv addr datagram missed =>
      match state.handler with
      | .receiving =>
          let payload := datagram.take udpBufferSize
          let swept := state.sweep missed
          match swept.streams addr with
          | some id =>
              let (next, seen) := swept.send addr payload id
              some (next, .arrived addr payload :: seen)
          | none =>
              let id := swept.created
              some ((swept.make addr payload).offer addr id,
                [.arrived addr payload, .made addr id, .queued id payload])
      | _ => none
  | .resume =>
      match state.handler with
      | .receiving => none
      | .sending addr payload id => some (state.send addr payload id)
      | .offering addr id => some (state.offer addr id, [])
  | .accept =>
      match state.accepting with
      | [] => none
      | id :: rest => (state.stream id).map fun stream =>
          ({ state with
            stream := Function.update state.stream id (some { stream with accepted := true })
            accepting := rest }, [.accepted stream.peerAddr id])
  | .read id capacity => do
      let stream ← state.held id
      match stream.receiver with
      | payload :: rest =>
          if payload.length ≤ capacity then
            some ({ state with
              stream := Function.update state.stream id (some { stream with receiver := rest }) },
              [.delivered id payload])
          else some (state.dropped id, [.panicked id])
      | [] => if state.streams stream.peerAddr = some id then none else some (state, [.broken id])
  | .write id payload sent => do
      let stream ← state.held id
      if sent then some (state, [.wrote stream.peerAddr payload])
      else some (state.shutdown id, [])
  | .shutdown id => (state.held id).map fun _ => (state.shutdown id, [])
  | .drop id => (state.held id).map fun _ => (state.dropped id, [])

end Listener

def UdpListening (A : Type) [DecidableEq A] : Step (UdpListener A) (UdpLabel A) (UdpEvent A) :=
  OfOption UdpListener.next

section History

variable {A : Type} [DecidableEq A]

def UdpEvent.arrivedFrom (addr : A) : UdpEvent A → List Bytes
  | .arrived peer payload => if peer = addr then [payload] else []
  | _ => []

def UdpEvent.madeFor (addr : A) : UdpEvent A → List Nat
  | .made peer id => if peer = addr then [id] else []
  | _ => []

def UdpEvent.queuedTo (id : Nat) : UdpEvent A → List Bytes
  | .queued stream payload => if stream = id then [payload] else []
  | _ => []

def UdpEvent.lostAt (id : Nat) : UdpEvent A → List Bytes
  | .lost stream payload => if stream = id then [payload] else []
  | _ => []

def UdpEvent.readFrom (id : Nat) : UdpEvent A → List Bytes
  | .delivered stream payload => if stream = id then [payload] else []
  | _ => []

def collected {β : Type} (pick : UdpEvent A → List β) (seen : List (UdpEvent A)) : List β :=
  seen.flatMap pick

/-- The datagrams of one peer. -/
abbrev arrivals (addr : A) (seen : List (UdpEvent A)) : List Bytes :=
  collected (UdpEvent.arrivedFrom addr) seen

/-- The streams made for one peer, oldest first. -/
abbrev streamsOf (addr : A) (seen : List (UdpEvent A)) : List Nat :=
  collected (UdpEvent.madeFor addr) seen

/-- What the channel of a stream has taken. -/
abbrev intake (id : Nat) (seen : List (UdpEvent A)) : List Bytes :=
  collected (UdpEvent.queuedTo id) seen

/-- What was thrown away because a stream was gone. -/
abbrev losses (id : Nat) (seen : List (UdpEvent A)) : List Bytes :=
  collected (UdpEvent.lostAt id) seen

abbrev readings (id : Nat) (seen : List (UdpEvent A)) : List Bytes :=
  collected (UdpEvent.readFrom id) seen

section Collected

variable {β : Type} (pick : UdpEvent A → List β)

omit [DecidableEq A] in
@[simp] theorem collected_nil : collected pick [] = [] := rfl

omit [DecidableEq A] in
@[simp] theorem collected_cons (event : UdpEvent A) (seen : List (UdpEvent A)) :
    collected pick (event :: seen) = pick event ++ collected pick seen := rfl

omit [DecidableEq A] in
@[simp] theorem collected_append (seen more : List (UdpEvent A)) :
    collected pick (seen ++ more) = collected pick seen ++ collected pick more :=
  List.flatMap_append

end Collected

/-- What the handler holds while it waits. -/
def UdpHandler.pending (addr : A) : UdpHandler A → List Bytes
  | .sending peer payload _ => if peer = addr then [payload] else []
  | _ => []

end History

section Move

variable {A : Type} [DecidableEq A]

/-- What one step can do. A datagram that is received is sent or makes a stream. -/
inductive UdpMove : UdpListener A → UdpLabel A → UdpListener A → List (UdpEvent A) → Prop where
  | recvSend {state : UdpListener A} {addr : A} {datagram : Bytes} {missed : List A} {id : Nat}
      (hHandler : state.handler = .receiving)
      (hEntry : (state.sweep missed).streams addr = some id) :
      UdpMove state (.recv addr datagram missed)
        ((state.sweep missed).send addr (datagram.take udpBufferSize) id).1
        (.arrived addr (datagram.take udpBufferSize) ::
          ((state.sweep missed).send addr (datagram.take udpBufferSize) id).2)
  | recvMake {state : UdpListener A} {addr : A} {datagram : Bytes} {missed : List A}
      (hHandler : state.handler = .receiving) (hEntry : (state.sweep missed).streams addr = none) :
      UdpMove state (.recv addr datagram missed)
        (((state.sweep missed).make addr (datagram.take udpBufferSize)).offer addr state.created)
        [.arrived addr (datagram.take udpBufferSize), .made addr state.created,
          .queued state.created (datagram.take udpBufferSize)]
  | resumeSend {state : UdpListener A} {addr : A} {payload : Bytes} {id : Nat}
      (hHandler : state.handler = .sending addr payload id) :
      UdpMove state .resume (state.send addr payload id).1 (state.send addr payload id).2
  | resumeOffer {state : UdpListener A} {addr : A} {id : Nat}
      (hHandler : state.handler = .offering addr id) :
      UdpMove state .resume (state.offer addr id) []
  | accept {state : UdpListener A} {id : Nat} {rest : List Nat} {stream : UdpStream A}
      (hAccepting : state.accepting = id :: rest) (hStream : state.stream id = some stream) :
      UdpMove state .accept
        { state with
          stream := Function.update state.stream id (some { stream with accepted := true })
          accepting := rest } [.accepted stream.peerAddr id]
  | read {state : UdpListener A} {id capacity : Nat} {stream : UdpStream A} {payload : Bytes}
      {rest : List Bytes} (hStream : state.stream id = some stream) (hHeld : stream.accepted = true)
      (hReceiver : stream.receiver = payload :: rest) (hRoom : payload.length ≤ capacity) :
      UdpMove state (.read id capacity)
        { state with
          stream := Function.update state.stream id (some { stream with receiver := rest }) }
        [.delivered id payload]
  | panic {state : UdpListener A} {id capacity : Nat} {stream : UdpStream A} {payload : Bytes}
      {rest : List Bytes} (hStream : state.stream id = some stream) (hHeld : stream.accepted = true)
      (hReceiver : stream.receiver = payload :: rest) (hRoom : capacity < payload.length) :
      UdpMove state (.read id capacity) (state.dropped id) [.panicked id]
  | broken {state : UdpListener A} {id capacity : Nat} {stream : UdpStream A}
      (hStream : state.stream id = some stream) (hHeld : stream.accepted = true)
      (hReceiver : stream.receiver = []) (hEntry : state.streams stream.peerAddr ≠ some id) :
      UdpMove state (.read id capacity) state [.broken id]
  | write {state : UdpListener A} {id : Nat} {payload : Bytes} {stream : UdpStream A}
      (hStream : state.stream id = some stream) (hHeld : stream.accepted = true) :
      UdpMove state (.write id payload true) state [.wrote stream.peerAddr payload]
  | writeFailed {state : UdpListener A} {id : Nat} {payload : Bytes} {stream : UdpStream A}
      (hStream : state.stream id = some stream) (hHeld : stream.accepted = true) :
      UdpMove state (.write id payload false) (state.shutdown id) []
  | shutdown {state : UdpListener A} {id : Nat} {stream : UdpStream A}
      (hStream : state.stream id = some stream) (hHeld : stream.accepted = true) :
      UdpMove state (.shutdown id) (state.shutdown id) []
  | drop {state : UdpListener A} {id : Nat} {stream : UdpStream A}
      (hStream : state.stream id = some stream) (hHeld : stream.accepted = true) :
      UdpMove state (.drop id) (state.dropped id) []

omit [DecidableEq A] in
theorem UdpListener.held_eq_some_iff {state : UdpListener A} {id : Nat} {stream : UdpStream A} :
    state.held id = some stream ↔ state.stream id = some stream ∧ stream.accepted = true := by
  simp [UdpListener.held, Option.filter_eq_some_iff]

/-- Every step of the listener is one of these moves. -/
theorem UdpListening.move {state next : UdpListener A} {label : UdpLabel A}
    {seen : List (UdpEvent A)} (h : UdpListening A state label next seen) :
    UdpMove state label next seen := by
  unfold UdpListening OfOption at h
  cases label with
  | recv addr datagram missed =>
      simp only [UdpListener.next] at h
      split at h
      · rename_i hHandler
        split at h
        · rename_i id hEntry
          cases h
          exact .recvSend hHandler hEntry
        · rename_i hEntry
          cases h
          exact .recvMake hHandler hEntry
      · cases h
  | resume =>
      simp only [UdpListener.next] at h
      split at h
      · cases h
      · rename_i addr payload id hHandler
        obtain ⟨rfl, rfl⟩ := Prod.mk.inj (Option.some.inj h)
        exact .resumeSend hHandler
      · rename_i addr id hHandler
        cases h
        exact .resumeOffer hHandler
  | accept =>
      simp only [UdpListener.next] at h
      split at h
      · cases h
      · rename_i id rest hAccepting
        obtain ⟨stream, hStream, hNext⟩ := Option.map_eq_some_iff.mp h
        cases hNext
        exact .accept hAccepting hStream
  | read id capacity =>
      simp only [UdpListener.next, Option.bind_eq_bind, Option.bind_eq_some_iff] at h
      obtain ⟨stream, hHeld, hNext⟩ := h
      obtain ⟨hStream, hHeld⟩ := UdpListener.held_eq_some_iff.mp hHeld
      split at hNext
      · rename_i payload rest hReceiver
        split at hNext
        · rename_i hRoom
          cases hNext
          exact .read hStream hHeld hReceiver hRoom
        · rename_i hRoom
          cases hNext
          exact .panic hStream hHeld hReceiver (Nat.lt_of_not_le hRoom)
      · rename_i hReceiver
        split at hNext
        · cases hNext
        · rename_i hEntry
          cases hNext
          exact .broken hStream hHeld hReceiver hEntry
  | write id payload sent =>
      simp only [UdpListener.next, Option.bind_eq_bind, Option.bind_eq_some_iff] at h
      obtain ⟨stream, hHeld, hNext⟩ := h
      obtain ⟨hStream, hHeld⟩ := UdpListener.held_eq_some_iff.mp hHeld
      cases sent with
      | true => cases hNext; exact .write hStream hHeld
      | false => cases hNext; exact .writeFailed hStream hHeld
  | shutdown id =>
      obtain ⟨stream, hHeld, hNext⟩ := Option.map_eq_some_iff.mp h
      obtain ⟨hStream, hHeld⟩ := UdpListener.held_eq_some_iff.mp hHeld
      cases hNext
      exact .shutdown hStream hHeld
  | drop id =>
      obtain ⟨stream, hHeld, hNext⟩ := Option.map_eq_some_iff.mp h
      obtain ⟨hStream, hHeld⟩ := UdpListener.held_eq_some_iff.mp hHeld
      cases hNext
      exact .drop hStream hHeld

end Move

end GdpRouter
