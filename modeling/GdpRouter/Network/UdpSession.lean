import GdpRouter.Semantics.Simulation
import GdpRouter.Network.UdpConnect
import GdpRouter.Network.UdpStreams

/-! A listener, the stream that a client has connected to it, and the network between
them. The network loses, repeats and reorders datagrams, and everybody else uses it
as well. Nobody sends in the name of another. -/
namespace GdpRouter

open Transition

/-- The addresses of the listener and of the connected stream. -/
structure UdpSession (A : Type) where
  here : A
  mine : A
  distinct : mine ≠ here

/-- Datagrams fly from one address to another, oldest first. -/
structure UdpSessionState (A : Type) where
  listener : UdpListener A
  connection : UdpConnection A
  flying : A → A → List Bytes

/-- `disturb` leaves some of what flies, in any order and any number. -/
inductive UdpSessionLabel (A : Type) where
  | listener (label : UdpLabel A)
  | connection (label : UdpConnectionLabel A)
  | stranger (sender receiver : A) (payload : Bytes)
  | disturb (sender receiver : A) (left : List Bytes)
  deriving DecidableEq, Repr

inductive UdpSessionEvent (A : Type) where
  | listener (event : UdpEvent A)
  | connection (event : UdpConnectionEvent A)
  | stranger (sender receiver : A) (payload : Bytes)
  deriving DecidableEq, Repr

section Ends

variable {A : Type}

/-- What a socket takes, with its sender. -/
def UdpLabel.datagram : UdpLabel A → Option (A × Bytes)
  | .recv addr datagram _ => some (addr, datagram)
  | _ => none

def UdpConnectionLabel.taken : UdpConnectionLabel A → Option (A × Bytes)
  | .recv addr datagram => some (addr, datagram)
  | _ => none

/-- What a socket sends, with its receiver. -/
def UdpEvent.written : UdpEvent A → List (A × Bytes)
  | .wrote addr payload => [(addr, payload)]
  | _ => []

def UdpConnectionEvent.written : UdpConnectionEvent A → List (A × Bytes)
  | .wrote addr payload => [(addr, payload)]
  | _ => []

variable [DecidableEq A]

def UdpConnectionEvent.arrivedFrom (addr : A) : UdpConnectionEvent A → List Bytes
  | .arrived peer payload => if peer = addr then [payload] else []
  | _ => []

/-- What of it goes to one address. -/
def addressed (receiver : A) (written : List (A × Bytes)) : List Bytes :=
  (written.filter (·.1 = receiver)).map Prod.snd

end Ends

namespace UdpSession

variable {A : Type} [DecidableEq A] (session : UdpSession A)

def initial : UdpSessionState A :=
  ⟨.bind, .connect session.here, fun _ _ => []⟩

/-- A socket takes the oldest datagram of one sender. -/
def collect (flying : A → A → List Bytes) (receiver : A) :
    Option (A × Bytes) → Option (A → A → List Bytes)
  | none => some flying
  | some (sender, datagram) =>
      match flying sender receiver with
      | first :: rest =>
          if first = datagram then
            some (Function.update flying sender (Function.update (flying sender) receiver rest))
          else none
      | [] => none

def post (flying : A → A → List Bytes) (sender : A) (written : List (A × Bytes)) :
    A → A → List Bytes :=
  Function.update flying sender fun receiver =>
    flying sender receiver ++ addressed receiver written

def next (state : UdpSessionState A) :
    UdpSessionLabel A → Option (UdpSessionState A × List (UdpSessionEvent A))
  | .listener label => do
      let flying ← collect state.flying session.here label.datagram
      let (listener, seen) ← state.listener.next label
      some ({ state with
        listener := listener
        flying := post flying session.here (seen.flatMap UdpEvent.written) }, seen.map .listener)
  | .connection label => do
      let flying ← collect state.flying session.mine label.taken
      let (connection, seen) ← state.connection.next label
      some ({ state with
        connection := connection
        flying := post flying session.mine (seen.flatMap UdpConnectionEvent.written) },
        seen.map .connection)
  | .stranger sender receiver payload =>
      if sender = session.here ∨ sender = session.mine then none
      else some ({ state with flying := post state.flying sender [(receiver, payload)] },
        [.stranger sender receiver payload])
  | .disturb sender receiver left =>
      if left ⊆ state.flying sender receiver then
        some ({ state with
          flying := Function.update state.flying sender
            (Function.update (state.flying sender) receiver left) }, [])
      else none

def Steps : Step (UdpSessionState A) (UdpSessionLabel A) (UdpSessionEvent A) :=
  OfOption session.next

/-- What is left of a datagram in the buffer of its reader. -/
def clip (datagram : Bytes) : Bytes := datagram.take udpBufferSize

/-- What one event sends from one address to another. -/
def sent (sender receiver : A) : UdpSessionEvent A → List Bytes
  | .listener event =>
      if sender = session.here then addressed receiver event.written else []
  | .connection event =>
      if sender = session.mine then addressed receiver event.written else []
  | .stranger peer addr payload => if peer = sender ∧ addr = receiver then [payload] else []

/-- What one event takes in. -/
def taken (sender receiver : A) : UdpSessionEvent A → List Bytes
  | .listener event => if receiver = session.here then event.arrivedFrom sender else []
  | .connection event => if receiver = session.mine then event.arrivedFrom sender else []
  | .stranger .. => []

end UdpSession

def UdpSessionLabel.Disturbs {A : Type} (sender receiver : A) : UdpSessionLabel A → Prop
  | .disturb peer addr _ => peer = sender ∧ addr = receiver
  | _ => False

section Carried

variable {A : Type} [DecidableEq A]

@[simp] theorem addressed_nil (receiver : A) : addressed receiver [] = [] := rfl

theorem addressed_flatMap {E : Type} (receiver : A) (written : E → List (A × Bytes))
    (seen : List E) :
    addressed receiver (seen.flatMap written) =
      seen.flatMap fun event => addressed receiver (written event) := by
  simp [addressed, List.filter_flatMap, List.map_flatMap]

/-- What reaches a socket that takes a datagram. -/
def reaching (sender : A) : Option (A × Bytes) → List Bytes
  | some (peer, datagram) => if peer = sender then [UdpSession.clip datagram] else []
  | none => []

/-- Passing a datagram on takes no new one in. -/
theorem UdpListener.send_arrivals (state : UdpListener A) (addr sender : A) (payload : Bytes)
    (id : Nat) : arrivals sender (state.send addr payload id).2 = [] := by
  unfold UdpListener.send
  split
  · rfl
  · split <;> rfl

/-- The listener takes in what its label says. -/
theorem UdpMove.reaches {state next : UdpListener A} {label : UdpLabel A}
    {seen : List (UdpEvent A)} (move : UdpMove state label next seen) (sender : A) :
    arrivals sender seen = reaching sender label.datagram := by
  cases move with
  | recvSend | recvMake =>
      simp [UdpListener.send_arrivals, UdpEvent.arrivedFrom, UdpLabel.datagram, reaching,
        UdpSession.clip]
  | resumeSend => exact UdpListener.send_arrivals ..
  | resumeOffer | accept | read | panic | broken | write | writeFailed | shutdown | drop => rfl

/-- What a connected stream has taken in from one sender. -/
abbrev arrivalsFrom (sender : A) (seen : List (UdpConnectionEvent A)) : List Bytes :=
  seen.flatMap (UdpConnectionEvent.arrivedFrom sender)

/-- Passing a datagram on takes no new one in, on the connecting side too. -/
theorem UdpConnection.send_arrivals (state : UdpConnection A) (payload : Bytes) (sender : A) :
    arrivalsFrom sender (state.send payload).2 = [] := by
  unfold UdpConnection.send
  split
  · split <;> rfl
  · rfl

/-- The connected stream takes in what its label says. -/
theorem UdpConnectionMove.reaches {state next : UdpConnection A} {label : UdpConnectionLabel A}
    {seen : List (UdpConnectionEvent A)} (move : UdpConnectionMove state label next seen)
    (sender : A) : arrivalsFrom sender seen = reaching sender label.taken := by
  cases move with
  | recv =>
      simp [UdpConnection.send_arrivals, UdpConnectionEvent.arrivedFrom, UdpConnectionLabel.taken,
        reaching, UdpSession.clip]
  | resume => exact UdpConnection.send_arrivals ..
  | abort => cases state.handler <;> rfl
  | recvFailed | read | panic | broken | write | writeFailed | shutdown | drop => rfl

namespace UdpSession

/-- A socket that writes adds to what is on its way from it, and to nothing else. -/
theorem post_apply (flying : A → A → List Bytes) (poster sender receiver : A)
    (written : List (A × Bytes)) :
    post flying poster written sender receiver =
      flying sender receiver ++ if sender = poster then addressed receiver written else [] := by
  by_cases hSame : sender = poster
  · simp [post, hSame]
  · simp [post, hSame]

/-- Nothing but what a socket takes leaves the network. -/
theorem collect_apply {flying left : A → A → List Bytes} {addr : A} {item : Option (A × Bytes)}
    (h : collect flying addr item = some left) (sender receiver : A) :
    (flying sender receiver).map clip =
      (if receiver = addr then reaching sender item else []) ++
        (left sender receiver).map clip := by
  match item with
  | none =>
      obtain rfl := Option.some.inj h
      simp [reaching]
  | some (peer, datagram) =>
      simp only [collect] at h
      split at h
      · rename_i first rest hFlying
        obtain ⟨rfl, hLeft⟩ := Option.ite_none_right_eq_some.mp h
        obtain rfl := Option.some.inj hLeft
        by_cases hSender : sender = peer
        · subst hSender
          by_cases hReceiver : receiver = addr
          · subst hReceiver
            simp [hFlying, reaching]
          · simp [hReceiver]
        · simp [hSender, Ne.symm hSender, reaching]
      · cases h

variable (session : UdpSession A) (sender receiver : A)

/-- The datagrams that a step of the listener sends. -/
theorem sent_listener (seen : List (UdpEvent A)) :
    (seen.map UdpSessionEvent.listener).flatMap (session.sent sender receiver) =
      if sender = session.here then addressed receiver (seen.flatMap UdpEvent.written) else [] := by
  rw [List.flatMap_map]
  by_cases hSame : sender = session.here
  · simp [sent, hSame, addressed_flatMap]
  · simp [sent, hSame]

/-- The datagrams that a step of the connected stream sends. -/
theorem sent_connection (seen : List (UdpConnectionEvent A)) :
    (seen.map UdpSessionEvent.connection).flatMap (session.sent sender receiver) =
      if sender = session.mine then addressed receiver (seen.flatMap UdpConnectionEvent.written)
      else [] := by
  rw [List.flatMap_map]
  by_cases hSame : sender = session.mine
  · simp [sent, hSame, addressed_flatMap]
  · simp [sent, hSame]

/-- The datagrams that a step of the listener takes in. -/
theorem taken_listener (seen : List (UdpEvent A)) :
    (seen.map UdpSessionEvent.listener).flatMap (session.taken sender receiver) =
      if receiver = session.here then arrivals sender seen else [] := by
  rw [List.flatMap_map]
  by_cases hSame : receiver = session.here
  · simp [taken, hSame, arrivals, collected]
  · simp [taken, hSame]

/-- The datagrams that a step of the connected stream takes in. -/
theorem taken_connection (seen : List (UdpConnectionEvent A)) :
    (seen.map UdpSessionEvent.connection).flatMap (session.taken sender receiver) =
      if receiver = session.mine then arrivalsFrom sender seen else [] := by
  rw [List.flatMap_map]
  by_cases hSame : receiver = session.mine
  · simp [taken, hSame]
  · simp [taken, hSame]

/-- What one step can do: an end takes or writes, a stranger writes, or the network
disturbs what flies. -/
inductive Move : UdpSessionState A → UdpSessionLabel A → UdpSessionState A →
    List (UdpSessionEvent A) → Prop where
  | listener {state : UdpSessionState A} {label : UdpLabel A} {left : A → A → List Bytes}
      {next : UdpListener A} {seen : List (UdpEvent A)}
      (hTaken : collect state.flying session.here label.datagram = some left)
      (hNext : UdpListening A state.listener label next seen) :
      Move state (.listener label)
        { state with
          listener := next
          flying := post left session.here (seen.flatMap UdpEvent.written) } (seen.map .listener)
  | connection {state : UdpSessionState A} {label : UdpConnectionLabel A}
      {left : A → A → List Bytes} {next : UdpConnection A} {seen : List (UdpConnectionEvent A)}
      (hTaken : collect state.flying session.mine label.taken = some left)
      (hNext : UdpConnecting A state.connection label next seen) :
      Move state (.connection label)
        { state with
          connection := next
          flying := post left session.mine (seen.flatMap UdpConnectionEvent.written) }
        (seen.map .connection)
  | stranger {state : UdpSessionState A} {peer addr : A} {payload : Bytes}
      (hHere : peer ≠ session.here) (hMine : peer ≠ session.mine) :
      Move state (.stranger peer addr payload)
        { state with flying := post state.flying peer [(addr, payload)] }
        [.stranger peer addr payload]
  | disturb {state : UdpSessionState A} {peer addr : A} {left : List Bytes}
      (hLeft : left ⊆ state.flying peer addr) :
      Move state (.disturb peer addr left)
        { state with
          flying := Function.update state.flying peer
            (Function.update (state.flying peer) addr left) } []

variable {session} {sender receiver} {state state' : UdpSessionState A}
  {label : UdpSessionLabel A} {seen : List (UdpSessionEvent A)}

/-- Every step of a session is one of these moves. -/
theorem Steps.move (h : session.Steps state label state' seen) :
    session.Move state label state' seen := by
  unfold Steps OfOption at h
  cases label with
  | listener label =>
      simp only [next, Option.bind_eq_bind, Option.bind_eq_some_iff] at h
      obtain ⟨left, hTaken, ⟨listener, seen⟩, hNext, hState⟩ := h
      cases hState
      exact .listener hTaken hNext
  | connection label =>
      simp only [next, Option.bind_eq_bind, Option.bind_eq_some_iff] at h
      obtain ⟨left, hTaken, ⟨connection, seen⟩, hNext, hState⟩ := h
      cases hState
      exact .connection hTaken hNext
  | stranger peer addr payload =>
      obtain ⟨hOther, hState⟩ := Option.ite_none_left_eq_some.mp h
      cases hState
      exact .stranger (fun hHere => hOther (.inl hHere)) fun hMine => hOther (.inr hMine)
  | disturb peer addr left =>
      obtain ⟨hLeft, hState⟩ := Option.ite_none_right_eq_some.mp h
      cases hState
      exact .disturb hLeft

/-- On a pair of addresses that is left alone, the network is a queue. -/
theorem Move.conserves (move : session.Move state label state' seen)
    (hCalm : ¬label.Disturbs sender receiver) :
    (state.flying sender receiver).map clip ++
        (seen.flatMap (session.sent sender receiver)).map clip =
      seen.flatMap (session.taken sender receiver) ++
        (state'.flying sender receiver).map clip := by
  cases move with
  | listener hTaken hNext =>
      rw [sent_listener, taken_listener, hNext.move.reaches, collect_apply hTaken sender receiver]
      simp only [post_apply, List.map_append, List.append_assoc]
  | connection hTaken hNext =>
      rw [sent_connection, taken_connection, hNext.move.reaches,
        collect_apply hTaken sender receiver]
      simp only [post_apply, List.map_append, List.append_assoc]
  | @stranger peer addr payload =>
      by_cases hSender : peer = sender
      · by_cases hReceiver : addr = receiver <;>
          simp [post_apply, sent, taken, addressed, hSender, hReceiver]
      · simp [post_apply, sent, taken, hSender, Ne.symm hSender]
  | @disturb peer addr left =>
      by_cases hSender : sender = peer
      · subst hSender
        have hReceiver : receiver ≠ addr := fun hSame => hCalm ⟨rfl, hSame.symm⟩
        simp [hReceiver]
      · simp [hSender]

/-- Whatever happens to it, the network makes no datagram. -/
theorem Move.subset (move : session.Move state label state' seen) (sender receiver : A) :
    seen.flatMap (session.taken sender receiver) ++ (state'.flying sender receiver).map clip ⊆
      (state.flying sender receiver).map clip ++
        (seen.flatMap (session.sent sender receiver)).map clip := by
  by_cases hDisturbs : label.Disturbs sender receiver
  · cases move with
    | listener | connection | stranger => cases hDisturbs
    | disturb hLeft =>
        obtain ⟨rfl, rfl⟩ := hDisturbs
        simpa using List.map_subset clip hLeft
  · rw [move.conserves hDisturbs]
    exact List.Subset.refl _

variable {labels : List (UdpSessionLabel A)} {start finish : UdpSessionState A}

/-- Between two addresses that nobody disturbs, what was sent is taken in, or
still on its way, in order and clipped to the buffer of the reader. -/
theorem run_conserves (hRun : Run session.Steps start labels finish seen)
    (hCalm : ∀ label ∈ labels, ¬label.Disturbs sender receiver) :
    (start.flying sender receiver).map clip ++
        (seen.flatMap (session.sent sender receiver)).map clip =
      seen.flatMap (session.taken sender receiver) ++
        (finish.flying sender receiver).map clip := by
  have hRule := hRun.conserves
    (fun state => (state.flying sender receiver).map clip)
    (fun event => (session.sent sender receiver event).map clip)
    (session.taken sender receiver)
    (fun _ _ _ _ hAllowed hStep => by
      have hStep := (Steps.move hStep).conserves hAllowed
      rwa [List.map_flatMap] at hStep)
    hCalm
  rwa [List.map_flatMap]

/-- Whatever happens on the way, only what was sent is taken in. -/
theorem run_subset (hRun : Run session.Steps start labels finish seen) (sender receiver : A) :
    seen.flatMap (session.taken sender receiver) ++ (finish.flying sender receiver).map clip ⊆
      (start.flying sender receiver).map clip ++
        (seen.flatMap (session.sent sender receiver)).map clip := by
  have hRule := hRun.subset (fun state => (state.flying sender receiver).map clip)
    (fun event => (session.sent sender receiver event).map clip) (session.taken sender receiver)
    (fun _ _ _ _ hStep => by
      have hStep := (Steps.move hStep).subset sender receiver
      rwa [List.map_flatMap] at hStep)
  rwa [List.map_flatMap]

end UdpSession

end Carried

section Ends

variable {A : Type} [DecidableEq A]

theorem addressed_sublist (sender : A) (items : List (A × Bytes)) :
    (addressed sender items).Sublist (items.map Prod.snd) :=
  List.filter_sublist.map _

theorem exists_addressed {items : List (A × Bytes)} {payload : Bytes}
    (h : payload ∈ items.map Prod.snd) : ∃ sender, payload ∈ addressed sender items := by
  obtain ⟨⟨sender, payload⟩, hMem, rfl⟩ := List.mem_map.mp h
  exact ⟨sender, List.mem_map.mpr ⟨_, List.mem_filter.mpr ⟨hMem, by simp⟩, rfl⟩⟩

/-- When nobody else sends, what comes from one address is all that comes. -/
theorem addressed_eq {sender : A} {items : List (A × Bytes)}
    (h : ∀ other ≠ sender, addressed other items = []) :
    addressed sender items = items.map Prod.snd := by
  have hAll : ∀ item ∈ items, decide (item.1 = sender) = true := by
    intro item hMem
    by_contra hOther
    have hFound : item.2 ∈ addressed item.1 items :=
      List.mem_map.mpr ⟨item, List.mem_filter.mpr ⟨hMem, by simp⟩, rfl⟩
    rw [h item.1 (by simpa using hOther)] at hFound
    cases hFound
  rw [addressed, List.filter_eq_self.mpr hAll]

/-- A received datagram with its sender. -/
def UdpConnectionLabel.tagged : UdpConnectionLabel A → List (A × Bytes)
  | .recv addr datagram => [(addr, UdpSession.clip datagram)]
  | _ => []

omit [DecidableEq A] in
/-- The payloads received, with the senders forgotten. -/
theorem UdpConnection.received_eq (labels : List (UdpConnectionLabel A)) :
    received labels = (labels.flatMap UdpConnectionLabel.tagged).map Prod.snd := by
  rw [received, List.map_flatMap]
  refine List.flatMap_congr fun label _ => ?_
  cases label <;> rfl

/-- What a connected stream takes in from one sender, read off its labels. -/
theorem UdpConnecting.run_arrivals {start finish : UdpConnection A}
    {labels : List (UdpConnectionLabel A)} {seen : List (UdpConnectionEvent A)}
    (hRun : Run (UdpConnecting A) start labels finish seen) (sender : A) :
    arrivalsFrom sender seen = addressed sender (labels.flatMap UdpConnectionLabel.tagged) := by
  rw [addressed_flatMap]
  induction hRun with
  | nil => rfl
  | @cons start middle finish label labels out rest first _ ih =>
      have hFirst : arrivalsFrom sender out = addressed sender label.tagged := by
        rw [first.move.reaches]
        cases label with
        | recv addr datagram =>
            by_cases hSame : addr = sender <;>
              simp [UdpConnectionLabel.taken, reaching, addressed, UdpConnectionLabel.tagged, hSame]
        | _ => rfl
      rw [List.flatMap_cons, ← hFirst, ← ih]
      exact List.flatMap_append

end Ends

/-- The events of either end. -/
def UdpSessionEvent.ofListener {A : Type} : UdpSessionEvent A → List (UdpEvent A)
  | .listener event => [event]
  | _ => []

def UdpSessionEvent.ofConnection {A : Type} : UdpSessionEvent A → List (UdpConnectionEvent A)
  | .connection event => [event]
  | _ => []

namespace UdpSession

/-- What happens at the listener, and at the connected stream. -/
abbrev heard {A : Type} (seen : List (UdpSessionEvent A)) : List (UdpEvent A) :=
  seen.flatMap UdpSessionEvent.ofListener

abbrev noted {A : Type} (seen : List (UdpSessionEvent A)) : List (UdpConnectionEvent A) :=
  seen.flatMap UdpSessionEvent.ofConnection

/-- What is sent from one address to another, as it can be read there. -/
abbrev sendings {A : Type} [DecidableEq A] (session : UdpSession A) (sender receiver : A)
    (seen : List (UdpSessionEvent A)) : List Bytes :=
  (seen.flatMap (session.sent sender receiver)).map clip

section Run

variable {A : Type} [DecidableEq A] {session : UdpSession A} {labels : List (UdpSessionLabel A)}
  {finish : UdpSessionState A} {seen : List (UdpSessionEvent A)}

/-- The listener of a session is a listener on its own. -/
theorem simulates_listener : Simulation session.Steps (UdpListening A)
    (fun state listener => state.listener = listener) (fun _ => ([] : List Empty)) (fun _ => [])
    UdpSessionEvent.ofListener fun event => [event] where
  step := by
    rintro state next _ label out rfl hStep
    cases Steps.move hStep with
    | @listener label left listener seen hTaken hNext =>
        refine ⟨[label], listener, seen, .single hNext, rfl, rfl, ?_⟩
        rw [List.flatMap_map]
        rfl
    | connection =>
        refine ⟨[], _, [], .nil _, rfl, rfl, ?_⟩
        simp [List.flatMap_map, UdpSessionEvent.ofListener]
    | stranger | disturb => exact ⟨[], _, [], .nil _, rfl, rfl, rfl⟩

/-- The connected stream of a session is a connected stream on its own. -/
theorem simulates_connection : Simulation session.Steps (UdpConnecting A)
    (fun state connection => state.connection = connection) (fun _ => ([] : List Empty))
    (fun _ => []) UdpSessionEvent.ofConnection fun event => [event] where
  step := by
    rintro state next _ label out rfl hStep
    cases Steps.move hStep with
    | listener =>
        refine ⟨[], _, [], .nil _, rfl, rfl, ?_⟩
        simp [List.flatMap_map, UdpSessionEvent.ofConnection]
    | @connection label left connection seen hTaken hNext =>
        refine ⟨[label], connection, seen, .single hNext, rfl, rfl, ?_⟩
        rw [List.flatMap_map]
        rfl
    | stranger | disturb => exact ⟨[], _, [], .nil _, rfl, rfl, rfl⟩

/-- Each end runs on its own. -/
theorem run_listener (hRun : Run session.Steps session.initial labels finish seen) :
    ∃ labels, Run (UdpListening A) .bind labels finish.listener (heard seen) := by
  obtain ⟨labels, _, out, hListener, rfl, -, hOut⟩ := simulates_listener.run rfl hRun
  rw [List.flatMap_singleton'] at hOut
  rw [heard, ← hOut]
  exact ⟨labels, hListener⟩

/-- A run of a session holds a run of its connected stream. -/
theorem run_connection (hRun : Run session.Steps session.initial labels finish seen) :
    ∃ labels, Run (UdpConnecting A) (.connect session.here) labels finish.connection
      (noted seen) := by
  obtain ⟨labels, _, out, hConnection, rfl, -, hOut⟩ := simulates_connection.run rfl hRun
  rw [List.flatMap_singleton'] at hOut
  rw [noted, ← hOut]
  exact ⟨labels, hConnection⟩

/-- What the listener takes in, read off its own events. -/
theorem taken_here (sender : A) (seen : List (UdpSessionEvent A)) :
    seen.flatMap (session.taken sender session.here) = arrivals sender (heard seen) := by
  rw [arrivals, collected, List.flatMap_assoc]
  refine List.flatMap_congr fun event _ => ?_
  cases event <;> simp [taken, UdpSessionEvent.ofListener, session.distinct.symm]

/-- What the connected stream takes in, read off its own events. -/
theorem taken_mine (sender : A) (seen : List (UdpSessionEvent A)) :
    seen.flatMap (session.taken sender session.mine) = arrivalsFrom sender (noted seen) := by
  rw [arrivalsFrom, List.flatMap_assoc]
  refine List.flatMap_congr fun event _ => ?_
  cases event <;> simp [taken, UdpSessionEvent.ofConnection, session.distinct]

/-- From the start of a session, all that is taken was sent. -/
theorem taken_subset (hRun : Run session.Steps session.initial labels finish seen)
    (sender receiver : A) :
    seen.flatMap (session.taken sender receiver) ⊆ session.sendings sender receiver seen :=
  (List.append_subset.mp (run_subset hRun sender receiver)).1

end Run

end UdpSession

section Results

open UdpSession

variable {A : Type} [DecidableEq A] {session : UdpSession A} {labels : List (UdpSessionLabel A)}
  {finish : UdpSessionState A} {seen : List (UdpSessionEvent A)}

/-- Whatever the network loses, repeats or reorders and whoever else uses it, the
streams that the listener makes for the address of the client read nothing that the
client did not write, while the stream of the client reads what anybody sent to it. -/
theorem udp_session_genuine (hRun : Run session.Steps session.initial labels finish seen) :
    (∀ id ∈ streamsOf session.mine (heard seen),
      readings id (heard seen) ⊆ session.sendings session.mine session.here seen) ∧
      ∀ payload ∈ UdpConnection.readings (noted seen), ∃ sender,
        payload ∈ session.sendings sender session.mine seen := by
  constructor
  · intro id hStream
    obtain ⟨_, hListener⟩ := run_listener hRun
    have hAccount := UdpListener.Account.run hListener
    have hTaken := taken_subset hRun session.mine session.here
    rw [taken_here, hAccount.filed session.mine] at hTaken
    refine List.Subset.trans ?_ hTaken
    intro payload hRead
    have hIntake := (hAccount.read id).subset hRead
    exact List.mem_append_left _
      (List.mem_flatMap.mpr ⟨id, hStream, List.mem_append_left _ hIntake⟩)
  · intro payload hRead
    obtain ⟨received, hConnection⟩ := run_connection hRun
    have hReceived : payload ∈ UdpConnection.received received := by
      rw [(UdpConnection.Account.run hConnection).filed]
      simp [hRead]
    rw [UdpConnection.received_eq] at hReceived
    obtain ⟨sender, hSender⟩ := exists_addressed hReceived
    rw [← UdpConnecting.run_arrivals hConnection, ← taken_mine] at hSender
    exact ⟨sender, taken_subset hRun sender session.mine hSender⟩

namespace SessionExample

def ends : UdpSession Nat := ⟨0, 1, by decide⟩

/-- The client `1` writes two datagrams. The second is repeated and comes first. `2`
writes to the client as well. -/
def disturbed : List (UdpSessionLabel Nat) :=
  [.connection (.write [5] true), .connection (.write [6] true), .disturb 1 0 [[6], [5], [6]],
    .listener (.recv 1 [6] []), .listener .accept, .listener (.read 0 10),
    .stranger 2 1 [9], .connection (.recv 2 [9]), .connection (.read 10)]

/-- One datagram goes up and one comes down, behind one of `2`. -/
def calm : List (UdpSessionLabel Nat) :=
  [.connection (.write [5] true), .listener (.recv 1 [5] []), .listener .accept,
    .listener (.write 0 [7] true), .stranger 2 1 [9], .connection (.recv 2 [9]),
    .connection (.recv 0 [7]), .connection (.read 10), .connection (.read 10)]

end SessionExample

open SessionExample in
/-- One datagram is repeated and overtakes another, and a stranger writes as
well. All that is read was sent. -/
theorem udp_session_genuine_example : ∃ finish seen,
    Run ends.Steps ends.initial disturbed finish seen ∧
    readings 0 (heard seen) = [[6]] ∧ UdpConnection.readings (noted seen) = [[9]] ∧
    (∀ id ∈ streamsOf 1 (heard seen),
      readings id (heard seen) ⊆ ends.sendings 1 0 seen) ∧
    ∀ payload ∈ UdpConnection.readings (noted seen), ∃ sender,
      payload ∈ ends.sendings sender 1 seen := by
  have hRun : (runOption ends.next ends.initial
      disturbed).any (fun result => readings 0 (heard result.2) = [[6]] ∧
        UdpConnection.readings (noted result.2) = [[9]]) = true := by
    decide +kernel
  obtain ⟨⟨finish, seen⟩, hResult, hSeen⟩ := (Option.any_eq_true _ _).mp hRun
  obtain ⟨hRead, hNoted⟩ := of_decide_eq_true hSeen
  have run := runOption_eq_some_iff.mp hResult
  obtain ⟨hGenuine, hAnybody⟩ := udp_session_genuine run
  exact ⟨finish, seen, run, hRead, hNoted, hGenuine, hAnybody⟩

end Results

end GdpRouter
