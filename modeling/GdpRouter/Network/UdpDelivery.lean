import GdpRouter.Network.UdpListener

/-! Where the datagrams of a peer go. Its streams take them in turn, each one an
unbroken stretch, and between two streams at most one datagram is lost. -/
namespace GdpRouter

open Transition

variable {A : Type} [DecidableEq A]

/-- Only the last stream of a list takes more. -/
theorem flatMap_of_getLast {α : Type} {ids : List Nat} {before after : Nat → List α}
    {last : Nat} {more : List α} (hNodup : ids.Nodup) (hLast : ids.getLast? = some last)
    (hSame : ∀ other ≠ last, after other = before other)
    (hMore : after last = before last ++ more) :
    ids.flatMap after = ids.flatMap before ++ more := by
  obtain ⟨front, rfl⟩ := List.getLast?_eq_some_iff.mp hLast
  have hFront : ∀ other ∈ front, after other = before other := by
    intro other hMem
    apply hSame
    rintro rfl
    exact (List.nodup_append.mp hNodup).2.2 _ hMem _ List.mem_cons_self rfl
  simp [List.flatMap_congr hFront, hMore]

/-- The books of the listener. `distinct` and `owner` number the streams, `entry`
and `offering` say which one takes the next datagram of a peer. -/
structure UdpListener.Account (state : UdpListener A) (seen : List (UdpEvent A)) : Prop where
  unmade : ∀ id, state.created ≤ id → intake id seen = [] ∧ losses id seen = [] ∧
    readings id seen = [] ∧ ∀ addr, id ∉ streamsOf addr seen
  distinct : ∀ addr, (streamsOf addr seen).Nodup
  owner : ∀ addr peer id, id ∈ streamsOf addr seen → id ∈ streamsOf peer seen → addr = peer
  entry : ∀ addr id, state.streams addr = some id →
    (streamsOf addr seen).getLast? = some id ∧ losses id seen = []
  sending : ∀ addr payload id, state.handler = .sending addr payload id →
    state.streams addr = some id
  offering : ∀ addr id, state.handler = .offering addr id →
    (streamsOf addr seen).getLast? = some id ∧ losses id seen = []
  alive : ∀ id stream, state.stream id = some stream →
    id ∈ streamsOf stream.peerAddr seen ∧ losses id seen = [] ∧
      intake id seen = readings id seen ++ stream.receiver
  read : ∀ id, readings id seen <+: intake id seen
  once : ∀ id, (losses id seen).length ≤ 1
  filed : ∀ addr, arrivals addr seen =
    (streamsOf addr seen).flatMap (fun id => intake id seen ++ losses id seen) ++
      state.handler.pending addr

namespace UdpListener.Account

variable {state : UdpListener A} {seen : List (UdpEvent A)}

/-- The books of a new listener are empty. -/
theorem initial : (UdpListener.bind : UdpListener A).Account [] where
  unmade id _ := ⟨rfl, rfl, rfl, fun _ => List.not_mem_nil⟩
  distinct _ := List.nodup_nil
  owner _ _ _ h := by cases h
  entry _ _ h := by cases h
  sending _ _ _ h := by cases h
  offering _ _ h := by cases h
  alive _ _ h := by cases h
  read _ := List.prefix_rfl
  once _ := Nat.zero_le 1
  filed _ := rfl

/-- A stream that a peer has was made before. -/
theorem lt_created (h : state.Account seen) {addr : A} {id : Nat}
    (hMem : id ∈ streamsOf addr seen) : id < state.created := by
  by_contra hFresh
  exact (h.unmade id (Nat.le_of_not_lt hFresh)).2.2.2 addr hMem

/-- Removing dropped streams from the map touches no book. -/
theorem sweep (h : state.Account seen) (hHandler : state.handler = .receiving) (missed : List A) :
    (state.sweep missed).Account seen :=
  { h with
    entry := fun addr id hEntry => h.entry addr id (Option.filter_eq_some_iff.mp hEntry).1
    sending := fun addr payload id hSending => by cases hHandler.symm.trans hSending }

theorem shutdown (h : state.Account seen) (id : Nat) : (state.shutdown id).Account seen :=
  { h with }

/-- Dropping a stream is not what loses a datagram. -/
theorem dropped (h : state.Account seen) (id : Nat) : (state.dropped id).Account seen :=
  { h with
    alive := fun other stream hStream => by
      by_cases hSame : other = id
      · subst hSame
        simp [UdpListener.dropped] at hStream
      · exact h.alive other stream (by simpa [UdpListener.dropped, hSame] using hStream) }

/-- Handing a stream to the program moves no datagram. -/
theorem accept (h : state.Account seen) {id : Nat} {rest : List Nat} {stream : UdpStream A}
    (hStream : state.stream id = some stream) :
    UdpListener.Account { state with
      stream := Function.update state.stream id (some { stream with accepted := true })
      accepting := rest } seen :=
  { h with
    alive := fun other last hLast => by
      by_cases hSame : other = id
      · subst hSame
        simp only [Function.update_self, Option.some.injEq] at hLast
        subst hLast
        exact h.alive other stream hStream
      · exact h.alive other last (by simpa [hSame] using hLast) }

/-- Events that no book records. -/
theorem silent (h : state.Account seen) {event : UdpEvent A}
    (hArrived : ∀ addr, event.arrivedFrom addr = []) (hMade : ∀ addr, event.madeFor addr = [])
    (hQueued : ∀ id, event.queuedTo id = []) (hLost : ∀ id, event.lostAt id = [])
    (hRead : ∀ id, event.readFrom id = []) : state.Account (seen ++ [event]) where
  unmade := by simpa [hQueued, hLost, hRead, hMade] using h.unmade
  distinct := by simpa [hMade] using h.distinct
  owner := by simpa [hMade] using h.owner
  entry := by simpa [hMade, hLost] using h.entry
  sending := h.sending
  offering := by simpa [hMade, hLost] using h.offering
  alive := by simpa [hQueued, hLost, hRead, hMade] using h.alive
  read := by simpa [hQueued, hRead] using h.read
  once := by simpa [hLost] using h.once
  filed := by simpa [hArrived, hMade, hQueued, hLost] using h.filed

attribute [local simp] UdpEvent.arrivedFrom UdpEvent.madeFor UdpEvent.queuedTo UdpEvent.lostAt
  UdpEvent.readFrom

/-- The handler has taken a datagram for a stream that it knows. -/
theorem arrived (h : state.Account seen) (hHandler : state.handler = .receiving) {addr : A}
    {id : Nat} (hEntry : state.streams addr = some id) (payload : Bytes) :
    UdpListener.Account { state with handler := .sending addr payload id }
      (seen ++ [.arrived addr payload]) where
  unmade := by simpa using h.unmade
  distinct := by simpa using h.distinct
  owner := by simpa using h.owner
  entry := by simpa using h.entry
  sending peer more other hSending := by
    obtain ⟨rfl, -, rfl⟩ := UdpHandler.sending.inj hSending
    exact hEntry
  offering peer other hOffering := by cases hOffering
  alive := by simpa using h.alive
  read := by simpa using h.read
  once := by simpa using h.once
  filed peer := by
    have hBefore := h.filed peer
    rw [hHandler] at hBefore
    by_cases hSame : addr = peer <;> simp [hBefore, UdpHandler.pending, hSame]

/-- The datagram that the handler holds goes to the last stream of its peer. -/
theorem filed_of_sending (h : state.Account seen) {addr : A} {payload : Bytes} {id : Nat}
    (hHandler : state.handler = .sending addr payload id) {after : Nat → List Bytes}
    (hSame : ∀ other ≠ id, after other = intake other seen ++ losses other seen)
    (hMore : after id = intake id seen ++ losses id seen ++ [payload]) (peer : A) :
    arrivals peer seen = (streamsOf peer seen).flatMap after := by
  have hLast := (h.entry addr id (h.sending addr payload id hHandler)).1
  have hBefore := h.filed peer
  rw [hHandler] at hBefore
  obtain rfl | hNe := eq_or_ne addr peer
  · rw [hBefore, flatMap_of_getLast (h.distinct addr) hLast hSame hMore]
    simp [UdpHandler.pending]
  · have hOther : ∀ other ∈ streamsOf peer seen,
        after other = intake other seen ++ losses other seen := by
      intro other hMem
      apply hSame
      rintro rfl
      exact hNe (h.owner addr peer other (List.mem_of_getLast? hLast) hMem)
    rw [hBefore, List.flatMap_congr hOther]
    simp [UdpHandler.pending, hNe]

/-- The channel takes the datagram. -/
theorem queued (h : state.Account seen) {addr : A} {payload : Bytes} {id : Nat}
    (hHandler : state.handler = .sending addr payload id) {stream : UdpStream A}
    (hStream : state.stream id = some stream) :
    UdpListener.Account { state with
      handler := .receiving
      stream := Function.update state.stream id
        (some { stream with receiver := stream.receiver ++ [payload] }) }
      (seen ++ [.queued id payload]) := by
  obtain ⟨-, hLosses⟩ := h.entry addr id (h.sending addr payload id hHandler)
  obtain ⟨hMem, -, hIntake⟩ := h.alive id stream hStream
  constructor
  case unmade =>
    intro other hOther
    have hNe : id ≠ other := ((h.lt_created hMem).trans_le hOther).ne
    simpa [hNe] using h.unmade other hOther
  case distinct => simpa using h.distinct
  case owner => simpa using h.owner
  case entry => simpa using h.entry
  case sending => intro _ _ _ hSending; cases hSending
  case offering => intro _ _ hOffering; cases hOffering
  case alive =>
    intro other last hOther
    obtain rfl | hNe := eq_or_ne other id
    · simp only [Function.update_self, Option.some.injEq] at hOther
      subst hOther
      simp [hMem, hLosses, hIntake]
    · simpa [hNe.symm] using h.alive other last (by simpa [hNe] using hOther)
  case read =>
    intro other
    simpa using (h.read other).trans (List.prefix_append _ _)
  case once => simpa using h.once
  case filed =>
    intro peer
    simp only [collected_append, collected_cons, collected_nil, UdpEvent.arrivedFrom,
      UdpEvent.madeFor, List.append_nil, UdpHandler.pending]
    apply h.filed_of_sending hHandler
    · intro other hNe
      simp [hNe.symm]
    · simp [hLosses]

/-- The stream is gone, and so is its entry. -/
theorem lost (h : state.Account seen) {addr : A} {payload : Bytes} {id : Nat}
    (hHandler : state.handler = .sending addr payload id) (hStream : state.stream id = none) :
    UdpListener.Account { state with
      handler := .receiving
      streams := Function.update state.streams addr none } (seen ++ [.lost id payload]) := by
  obtain ⟨hLast, hLosses⟩ := h.entry addr id (h.sending addr payload id hHandler)
  have hMem := List.mem_of_getLast? hLast
  constructor
  case unmade =>
    intro other hOther
    have hNe : id ≠ other := ((h.lt_created hMem).trans_le hOther).ne
    simpa [hNe] using h.unmade other hOther
  case distinct => simpa using h.distinct
  case owner => simpa using h.owner
  case entry =>
    intro peer other hEntry
    obtain rfl | hNe := eq_or_ne peer addr
    · simp at hEntry
    · obtain ⟨hOther, hNone⟩ := h.entry peer other (by simpa [hNe] using hEntry)
      have hDiffers : id ≠ other := by
        rintro rfl
        exact hNe (h.owner peer addr id (List.mem_of_getLast? hOther) hMem)
      simp [hOther, hNone, hDiffers]
  case sending => intro _ _ _ hSending; cases hSending
  case offering => intro _ _ hOffering; cases hOffering
  case alive =>
    intro other stream hOther
    have hNe : id ≠ other := by
      rintro rfl
      cases hStream.symm.trans hOther
    simpa [hNe] using h.alive other stream hOther
  case read => simpa using h.read
  case once =>
    intro other
    obtain rfl | hNe := eq_or_ne id other
    · simp [hLosses]
    · simpa [hNe] using h.once other
  case filed =>
    intro peer
    simp only [collected_append, collected_cons, collected_nil, UdpEvent.arrivedFrom,
      UdpEvent.madeFor, List.append_nil, UdpHandler.pending]
    apply h.filed_of_sending hHandler
    · intro other hNe
      simp [hNe.symm]
    · simp

/-- The datagram in hand is filed under the stream, queued or lost, or it stays
in hand. -/
theorem send (h : state.Account seen) {addr : A} {payload : Bytes} {id : Nat}
    (hHandler : state.handler = .sending addr payload id) :
    (state.send addr payload id).1.Account (seen ++ (state.send addr payload id).2) := by
  unfold UdpListener.send
  split
  · rename_i hStream
    exact h.lost hHandler hStream
  · rename_i stream hStream
    split
    · exact h.queued hHandler hStream
    · rw [← hHandler]
      simpa using h

/-- A datagram of a peer without an entry makes a stream, and is the first in it. -/
theorem make (h : state.Account seen) (hHandler : state.handler = .receiving) {addr : A}
    (hNone : state.streams addr = none) (payload : Bytes) :
    UdpListener.Account { state.make addr payload with handler := .offering addr state.created }
      (seen ++ [.arrived addr payload, .made addr state.created,
        .queued state.created payload]) := by
  obtain ⟨hIntake, hLosses, hReadings, -⟩ := h.unmade state.created le_rfl
  have hOld : ∀ {peer other}, other ∈ streamsOf peer seen → other ≠ state.created :=
    fun hMem => (h.lt_created hMem).ne
  have hMade (peer : A) (id : Nat) : id ∈ streamsOf peer (seen ++ [.arrived addr payload,
      .made addr state.created, .queued state.created payload]) ↔
        id ∈ streamsOf peer seen ∨ addr = peer ∧ id = state.created := by
    by_cases hSame : addr = peer <;> simp [hSame]
  constructor
  case unmade =>
    intro other hOther
    have hLt : state.created < other := hOther
    obtain ⟨hQueued, hLost, hRead, hStreams⟩ := h.unmade other hLt.le
    refine ⟨by simpa [hLt.ne] using hQueued, by simpa using hLost, by simpa using hRead, ?_⟩
    intro peer
    simp [hStreams peer, hLt.ne']
  case distinct =>
    intro peer
    by_cases hSame : addr = peer
    · have hNe : ∀ other ∈ streamsOf peer seen, other ≠ state.created := fun _ hMem => hOld hMem
      simpa [hSame, List.nodup_append, h.distinct peer] using hNe
    · simpa [hSame] using h.distinct peer
  case owner =>
    intro peer other id hPeer hOther
    rcases (hMade peer id).mp hPeer with hPeer | ⟨rfl, rfl⟩
    · rcases (hMade other id).mp hOther with hOther | ⟨-, rfl⟩
      · exact h.owner peer other id hPeer hOther
      · exact absurd rfl (hOld hPeer)
    · rcases (hMade other _).mp hOther with hOther | ⟨rfl, -⟩
      · exact absurd rfl (hOld hOther)
      · rfl
  case entry =>
    intro peer id hEntry
    obtain ⟨hLast, hLost⟩ := h.entry peer id hEntry
    have hNe : addr ≠ peer := by
      rintro rfl
      cases hNone.symm.trans hEntry
    simp [hNe, hLast, hLost]
  case sending => intro _ _ _ hSending; cases hSending
  case offering =>
    intro peer id hOffering
    obtain ⟨rfl, rfl⟩ := UdpHandler.offering.inj hOffering
    simp [hLosses]
  case alive =>
    intro id stream hStream
    obtain rfl | hNe := eq_or_ne id state.created
    · obtain rfl : ⟨addr, [payload], false⟩ = stream := by
        simpa [UdpListener.make] using hStream
      simp [hIntake, hLosses, hReadings]
    · simpa [hNe, hNe.symm] using
        h.alive id stream (by simpa [UdpListener.make, hNe] using hStream)
  case read =>
    intro id
    simpa using (h.read id).trans (List.prefix_append _ _)
  case once => simpa using h.once
  case filed =>
    intro peer
    have hBefore := h.filed peer
    rw [hHandler] at hBefore
    have hSame : ∀ other ∈ streamsOf peer seen,
        intake other seen ++
            ((if state.created = other then [payload] else []) ++ losses other seen) =
          intake other seen ++ losses other seen := by
      intro other hMem
      simp [(hOld hMem).symm]
    by_cases hPeer : addr = peer
    · simp [hBefore, hPeer, UdpHandler.pending, List.flatMap_congr hSame, hIntake, hLosses]
    · simp [hBefore, hPeer, UdpHandler.pending, List.flatMap_congr hSame]

/-- A stream that waits to be accepted has its entry. -/
theorem offer (h : state.Account seen) {addr : A} {id : Nat}
    (hHandler : state.handler = .offering addr id) : (state.offer addr id).Account seen := by
  unfold UdpListener.offer
  split
  · exact
      { h with
        entry := fun peer other hEntry => by
          obtain rfl | hNe := eq_or_ne peer addr
          · obtain rfl : id = other := by simpa using hEntry
            exact h.offering peer id hHandler
          · exact h.entry peer other (by simpa [hNe] using hEntry)
        sending := fun _ _ _ hSending => by cases hSending
        offering := fun _ _ hOffering => by cases hOffering
        filed := fun peer => by
          have hFiled := h.filed peer
          rwa [hHandler] at hFiled }
  · rw [← hHandler]
    exact h

/-- A read takes the oldest datagram of the stream. -/
theorem delivered (h : state.Account seen) {id : Nat} {stream : UdpStream A} {payload : Bytes}
    {rest : List Bytes} (hStream : state.stream id = some stream)
    (hReceiver : stream.receiver = payload :: rest) :
    UdpListener.Account { state with
      stream := Function.update state.stream id (some { stream with receiver := rest }) }
      (seen ++ [.delivered id payload]) := by
  obtain ⟨hMem, hLosses, hIntake⟩ := h.alive id stream hStream
  rw [hReceiver] at hIntake
  constructor
  case unmade =>
    intro other hOther
    have hNe : id ≠ other := ((h.lt_created hMem).trans_le hOther).ne
    simpa [hNe] using h.unmade other hOther
  case distinct => simpa using h.distinct
  case owner => simpa using h.owner
  case entry => simpa using h.entry
  case sending => exact h.sending
  case offering => simpa using h.offering
  case alive =>
    intro other last hOther
    obtain rfl | hNe := eq_or_ne other id
    · simp only [Function.update_self, Option.some.injEq] at hOther
      subst hOther
      simp [hMem, hLosses, hIntake]
    · simpa [hNe.symm] using h.alive other last (by simpa [hNe] using hOther)
  case read =>
    intro other
    obtain rfl | hNe := eq_or_ne id other
    · simp [hIntake]
    · simpa [hNe] using h.read other
  case once => simpa using h.once
  case filed => simpa using h.filed

/-- Every move keeps the books. -/
theorem step (h : state.Account seen) {label : UdpLabel A} {next : UdpListener A}
    {more : List (UdpEvent A)} (move : UdpMove state label next more) :
    next.Account (seen ++ more) := by
  cases move with
  | @recvSend addr datagram missed id hHandler hEntry =>
      have hTaken := (h.sweep hHandler missed).arrived hHandler hEntry (datagram.take udpBufferSize)
      simpa [UdpListener.send_handler] using hTaken.send rfl
  | @recvMake addr datagram missed hHandler hEntry =>
      have hMade := (h.sweep hHandler missed).make hHandler hEntry (datagram.take udpBufferSize)
      exact hMade.offer rfl
  | resumeSend hHandler => exact h.send hHandler
  | resumeOffer hHandler => simpa using h.offer hHandler
  | accept hAccepting hStream =>
      exact (h.accept hStream).silent (fun _ => rfl) (fun _ => rfl) (fun _ => rfl) (fun _ => rfl)
        fun _ => rfl
  | read hStream hHeld hReceiver => exact h.delivered hStream hReceiver
  | panic =>
      exact (h.dropped _).silent (fun _ => rfl) (fun _ => rfl) (fun _ => rfl) (fun _ => rfl)
        fun _ => rfl
  | broken | write =>
      exact h.silent (fun _ => rfl) (fun _ => rfl) (fun _ => rfl) (fun _ => rfl) fun _ => rfl
  | writeFailed | shutdown => simpa using h.shutdown _
  | drop => simpa using h.dropped _

theorem run {labels : List (UdpLabel A)} {finish : UdpListener A}
    (hRun : Run (UdpListening A) .bind labels finish seen) : finish.Account seen :=
  hRun.history_invariant (fun state _ seen => state.Account seen) initial
    fun _ _ _ _ _ _ _ h hStep => h.step hStep.move

end UdpListener.Account

/-- The datagrams of a peer, in the order they came, go to its streams one stream
after the other. Each stream takes an unbroken stretch of them and is read in that
order, and at most one datagram is lost before the next stream begins. None is lost at
a stream that still exists, which holds exactly what it has taken and not delivered. -/
theorem udp_streams_split {labels : List (UdpLabel A)} {finish : UdpListener A}
    {seen : List (UdpEvent A)} (hRun : Run (UdpListening A) .bind labels finish seen) (addr : A) :
    arrivals addr seen =
        (streamsOf addr seen).flatMap (fun id => intake id seen ++ losses id seen) ++
          finish.handler.pending addr ∧
      (∀ id, (losses id seen).length ≤ 1 ∧ readings id seen <+: intake id seen) ∧
      ∀ id stream, finish.stream id = some stream →
        id ∈ streamsOf stream.peerAddr seen ∧ losses id seen = [] ∧
          intake id seen = readings id seen ++ stream.receiver := by
  have h := UdpListener.Account.run hRun
  exact ⟨h.filed addr, fun id => ⟨h.once id, h.read id⟩, h.alive⟩

/-- The first stream of a peer is dropped, a datagram is lost, and the next one makes
another stream. -/
theorem udp_streams_split_example : ∃ finish seen,
    Run (UdpListening Nat) .bind
      [.recv 1 [5] [], .accept, .drop 0, .recv 1 [6] [1], .recv 1 [7] []] finish seen ∧
    arrivals 1 seen = [[5], [6], [7]] ∧ losses 0 seen = [[6]] ∧
    arrivals 1 seen =
      (streamsOf 1 seen).flatMap (fun id => intake id seen ++ losses id seen) ++
        finish.handler.pending 1 := by
  have hRun : (runOption UdpListener.next .bind
      [.recv 1 [5] [], .accept, .drop 0, .recv 1 [6] [1], .recv 1 [7] []]).any (fun result =>
        arrivals 1 result.2 = [[5], [6], [7]] ∧ losses 0 result.2 = [[6]]) = true := by
    decide +kernel
  obtain ⟨⟨finish, seen⟩, hResult, hSeen⟩ := (Option.any_eq_true _ _).mp hRun
  obtain ⟨hArrivals, hLosses⟩ := of_decide_eq_true hSeen
  have run := runOption_eq_some_iff.mp hResult
  exact ⟨finish, seen, run, hArrivals, hLosses, (udp_streams_split run 1).1⟩

end GdpRouter
