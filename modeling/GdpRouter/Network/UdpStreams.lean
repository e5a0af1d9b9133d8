import GdpRouter.Network.UdpDelivery

/-! How long a peer keeps its stream, and how one stream that nobody reads keeps
the handler from every other. -/
namespace GdpRouter

open Transition

variable {A : Type} [DecidableEq A]

/-- Channels hold no more than they may, and a stream whose flag is down can be
reached by its peer. -/
structure UdpListener.Sound (state : UdpListener A) (seen : List (UdpEvent A)) : Prop where
  fresh : ∀ id, state.created ≤ id → state.stream id = none ∧ .broken id ∉ seen
  bounded : state.accepting.length ≤ channelLen
  fits : ∀ id stream, state.stream id = some stream → stream.receiver.length ≤ channelLen
  kept : ∀ id, id < state.created → state.drop id = false → ∃ stream, state.stream id = some stream
  filed : ∀ id stream, state.stream id = some stream → state.drop id = false →
    state.streams stream.peerAddr = some id ∨ state.handler = .offering stream.peerAddr id
  offered : ∀ addr id, state.handler = .offering addr id →
    state.streams addr = none ∧ id ∉ state.accepting ∧
      ∃ stream, state.stream id = some stream ∧ stream.accepted = false
  waiting : ∀ id ∈ state.accepting, id < state.created
  broken : ∀ id, .broken id ∈ seen → state.drop id = true

namespace UdpListener.Sound

variable {state : UdpListener A} {seen : List (UdpEvent A)}

omit [DecidableEq A] in
/-- A new listener has no streams. -/
theorem initial : (UdpListener.bind : UdpListener A).Sound [] where
  fresh _ _ := ⟨rfl, List.not_mem_nil⟩
  bounded := Nat.zero_le _
  fits _ _ h := by cases h
  kept _ h := by cases h
  filed _ _ h := by cases h
  offered _ _ h := by cases h
  waiting _ h := by cases h
  broken _ h := by cases h

omit [DecidableEq A] in
theorem lt_created (h : state.Sound seen) {id : Nat} {stream : UdpStream A}
    (hStream : state.stream id = some stream) : id < state.created := by
  by_contra hFresh
  cases (h.fresh id (Nat.le_of_not_lt hFresh)).1.symm.trans hStream

/-- Only entries of dropped streams are removed. -/
theorem sweep (h : state.Sound seen) (hHandler : state.handler = .receiving) (missed : List A) :
    (state.sweep missed).Sound seen :=
  { h with
    filed := fun id stream hStream hDrop => by
      rcases h.filed id stream hStream hDrop with hEntry | hOffering
      · have hDown : state.drop id = false := hDrop
        simp [UdpListener.sweep, hEntry, hDown]
      · cases hHandler.symm.trans hOffering
    offered := fun addr id hOffering => by cases hHandler.symm.trans hOffering }

omit [DecidableEq A] in
/-- Another stream behind the same number, and only one that waited is now accepted. -/
theorem replace (h : state.Sound seen) {id : Nat} {before : UdpStream A} (after : UdpStream A)
    (accepting : List Nat) (hStream : state.stream id = some before)
    (hPeer : after.peerAddr = before.peerAddr) (hFits : after.receiver.length ≤ channelLen)
    (hAccepted : after.accepted = before.accepted ∨ id ∈ state.accepting)
    (hAccepting : accepting.Sublist state.accepting) :
    UdpListener.Sound { state with
      stream := Function.update state.stream id (some after)
      accepting := accepting } seen where
  fresh other hOther := by
    have hNe : other ≠ id := ((h.lt_created hStream).trans_le hOther).ne'
    simpa [hNe] using h.fresh other hOther
  bounded := hAccepting.length_le.trans h.bounded
  fits other stream hOther := by
    obtain rfl | hNe := eq_or_ne other id
    · obtain rfl : after = stream := by simpa using hOther
      exact hFits
    · exact h.fits other stream (by simpa [hNe] using hOther)
  kept other hOther hDrop := by
    obtain rfl | hNe := eq_or_ne other id
    · exact ⟨after, by simp⟩
    · simpa [hNe] using h.kept other hOther hDrop
  filed other stream hOther hDrop := by
    obtain rfl | hNe := eq_or_ne other id
    · obtain rfl : after = stream := by simpa using hOther
      rw [hPeer]
      exact h.filed other before hStream hDrop
    · exact h.filed other stream (by simpa [hNe] using hOther) hDrop
  offered addr other hOffering := by
    obtain ⟨hNone, hOut, stream, hOther, hNot⟩ := h.offered addr other hOffering
    refine ⟨hNone, fun hMem => hOut (hAccepting.mem hMem), ?_⟩
    obtain rfl | hNe := eq_or_ne other id
    · obtain rfl := Option.some.inj (hStream.symm.trans hOther)
      exact ⟨after, by simp, (hAccepted.resolve_right hOut).trans hNot⟩
    · exact ⟨stream, by simpa [hNe] using hOther, hNot⟩
  waiting other hMem := h.waiting other (hAccepting.mem hMem)
  broken := h.broken

omit [DecidableEq A] in
/-- A shutdown keeps the stream. -/
theorem shutdown (h : state.Sound seen) (id : Nat) : (state.shutdown id).Sound seen :=
  { h with
    kept := fun other hOther hDrop => by
      obtain rfl | hNe := eq_or_ne other id
      · simp [UdpListener.shutdown] at hDrop
      · exact h.kept other hOther (by simpa [UdpListener.shutdown, hNe] using hDrop)
    filed := fun other stream hStream hDrop => by
      obtain rfl | hNe := eq_or_ne other id
      · simp [UdpListener.shutdown] at hDrop
      · exact h.filed other stream hStream (by simpa [UdpListener.shutdown, hNe] using hDrop)
    broken := fun other hMem => by
      obtain rfl | hNe := eq_or_ne other id
      · simp [UdpListener.shutdown]
      · simpa [UdpListener.shutdown, hNe] using h.broken other hMem }

omit [DecidableEq A] in
/-- A stream that was accepted is not the one that the handler offers. -/
theorem dropped (h : state.Sound seen) {id : Nat} {stream : UdpStream A}
    (hStream : state.stream id = some stream) (hHeld : stream.accepted = true) :
    (state.dropped id).Sound seen :=
  { h.shutdown id with
    fresh := fun other hOther => by
      have hNe : other ≠ id := ((h.lt_created hStream).trans_le hOther).ne'
      simpa [UdpListener.dropped, hNe] using h.fresh other hOther
    fits := fun other last hLast => by
      obtain rfl | hNe := eq_or_ne other id
      · simp [UdpListener.dropped] at hLast
      · exact h.fits other last (by simpa [UdpListener.dropped, hNe] using hLast)
    kept := fun other hOther hDrop => by
      obtain rfl | hNe := eq_or_ne other id
      · simp [UdpListener.dropped] at hDrop
      · simpa [UdpListener.dropped, hNe] using
          h.kept other hOther (by simpa [UdpListener.dropped, hNe] using hDrop)
    filed := fun other last hLast hDrop => by
      obtain rfl | hNe := eq_or_ne other id
      · simp [UdpListener.dropped] at hLast
      · exact h.filed other last (by simpa [UdpListener.dropped, hNe] using hLast)
          (by simpa [UdpListener.dropped, hNe] using hDrop)
    offered := fun addr other hOffering => by
      obtain ⟨hNone, hOut, last, hOther, hNot⟩ := h.offered addr other hOffering
      have hNe : other ≠ id := by
        rintro rfl
        obtain rfl := Option.some.inj (hStream.symm.trans hOther)
        exact absurd hNot (by simp [hHeld])
      exact ⟨hNone, hOut, last, by simpa [UdpListener.dropped, hNe] using hOther, hNot⟩ }

omit [DecidableEq A] in
/-- Events that break no stream. -/
theorem silent (h : state.Sound seen) {more : List (UdpEvent A)}
    (hMore : ∀ id, .broken id ∉ more) : state.Sound (seen ++ more) :=
  { h with
    fresh := fun id hId => by simpa [hMore id] using h.fresh id hId
    broken := fun id hMem => h.broken id (by simpa [hMore id] using hMem) }

omit [DecidableEq A] in
/-- The handler moves between two places where it offers nothing. -/
theorem moved (h : state.Sound seen) (handler : UdpHandler A)
    (hBefore : ∀ addr id, state.handler ≠ .offering addr id)
    (hAfter : ∀ addr id, handler ≠ .offering addr id) :
    UdpListener.Sound { state with handler := handler } seen :=
  { h with
    filed := fun id stream hStream hDrop =>
      .inl ((h.filed id stream hStream hDrop).resolve_right (hBefore _ _))
    offered := fun addr id hOffering => absurd hOffering (hAfter addr id) }

/-- The datagram in hand goes to the stream that the map names, if it still exists. -/
theorem send (h : state.Sound seen) {addr : A} {payload : Bytes} {id : Nat}
    (hEntry : state.streams addr = some id)
    (hHandler : ∀ peer other, state.handler ≠ .offering peer other) :
    (state.send addr payload id).1.Sound (seen ++ (state.send addr payload id).2) := by
  unfold UdpListener.send
  split
  · rename_i hGone
    refine UdpListener.Sound.silent ?_ (by simp)
    have hMoved := h.moved .receiving hHandler (by simp)
    exact
      { hMoved with
        filed := fun other stream hStream hDrop => by
          have hOther := (h.filed other stream hStream hDrop).resolve_right (hHandler _ _)
          have hNe : stream.peerAddr ≠ addr := by
            rintro rfl
            obtain rfl := Option.some.inj (hEntry.symm.trans hOther)
            cases hGone.symm.trans hStream
          exact .inl (by simpa [hNe] using hOther)
        offered := fun peer other hOffering => by cases hOffering }
  · rename_i stream hStream
    split
    · rename_i hRoom
      refine UdpListener.Sound.silent ?_ (by simp)
      have hPushed := h.replace { stream with receiver := stream.receiver ++ [payload] }
        state.accepting hStream rfl (by simpa using hRoom) (.inl rfl) (List.Sublist.refl _)
      exact hPushed.moved .receiving hHandler (by simp)
    · simpa using h.moved (.sending addr payload id) hHandler (by simp)

omit [DecidableEq A] in
/-- A new stream is under offer. -/
theorem make (h : state.Sound seen) (hHandler : state.handler = .receiving) {addr : A}
    (hNone : state.streams addr = none) (payload : Bytes) :
    UdpListener.Sound
      { state.make addr payload with handler := .offering addr state.created } seen where
  fresh id hId := by
    have hLt : state.created < id := hId
    simpa [UdpListener.make, hLt.ne'] using h.fresh id hLt.le
  bounded := h.bounded
  fits id stream hStream := by
    obtain rfl | hNe := eq_or_ne id state.created
    · obtain rfl : ⟨addr, [payload], false⟩ = stream := by simpa [UdpListener.make] using hStream
      simp [channelLen]
    · exact h.fits id stream (by simpa [UdpListener.make, hNe] using hStream)
  kept id hId hDrop := by
    obtain rfl | hNe := eq_or_ne id state.created
    · simp [UdpListener.make]
    · have hLt : id < state.created := Nat.lt_of_le_of_ne (Nat.le_of_lt_succ hId) hNe
      simpa [UdpListener.make, hNe] using
        h.kept id hLt (by simpa [UdpListener.make, hNe] using hDrop)
  filed id stream hStream hDrop := by
    obtain rfl | hNe := eq_or_ne id state.created
    · obtain rfl : ⟨addr, [payload], false⟩ = stream := by simpa [UdpListener.make] using hStream
      exact .inr rfl
    · have hEntry := h.filed id stream (by simpa [UdpListener.make, hNe] using hStream)
        (by simpa [UdpListener.make, hNe] using hDrop)
      exact .inl (hEntry.resolve_right (by simp [hHandler]))
  offered peer id hOffering := by
    obtain ⟨rfl, rfl⟩ := UdpHandler.offering.inj hOffering
    refine ⟨hNone, fun hMem => (h.waiting _ hMem).false, ⟨addr, [payload], false⟩, ?_, rfl⟩
    simp [UdpListener.make]
  waiting id hMem := (h.waiting id hMem).trans (Nat.lt_succ_self _)
  broken id hMem := by
    have hNe : id ≠ state.created := by
      rintro rfl
      exact (h.fresh _ le_rfl).2 hMem
    simpa [UdpListener.make, hNe] using h.broken id hMem

/-- The map gets its entry when the stream is offered. -/
theorem offer (h : state.Sound seen) {addr : A} {id : Nat}
    (hHandler : state.handler = .offering addr id) : (state.offer addr id).Sound seen := by
  obtain ⟨hNone, hOut, stream, hStream, hNot⟩ := h.offered addr id hHandler
  unfold UdpListener.offer
  split
  · rename_i hRoom
    exact
      { h with
        bounded := by simpa using hRoom
        filed := fun other last hLast hDrop => by
          left
          rcases h.filed other last hLast hDrop with hEntry | hOffering
          · have hNe : last.peerAddr ≠ addr := by
              rintro rfl
              cases hNone.symm.trans hEntry
            simpa [hNe] using hEntry
          · obtain ⟨rfl, rfl⟩ := UdpHandler.offering.inj (hHandler.symm.trans hOffering)
            simp
        offered := fun _ _ hOffering => by cases hOffering
        waiting := fun other hMem => by
          rcases List.mem_append.mp hMem with hMem | hMem
          · exact h.waiting other hMem
          · obtain rfl := List.mem_singleton.mp hMem
            exact h.lt_created hStream }
  · rw [← hHandler]
    exact h

/-- Every move keeps the streams sound. -/
theorem step (h : state.Sound seen) {label : UdpLabel A} {next : UdpListener A}
    {more : List (UdpEvent A)} (move : UdpMove state label next more)
    (hSending : ∀ addr payload id, state.handler = .sending addr payload id →
      state.streams addr = some id) :
    next.Sound (seen ++ more) := by
  cases move with
  | @recvSend addr datagram missed id hHandler hEntry =>
      have hSwept : (state.sweep missed).Sound
          (seen ++ [.arrived addr (datagram.take udpBufferSize)]) :=
        (h.sweep hHandler missed).silent (by simp)
      have hIdle : ∀ peer other, (state.sweep missed).handler ≠ .offering peer other := by
        simp [UdpListener.sweep, hHandler]
      simpa using hSwept.send hEntry hIdle
  | @recvMake addr datagram missed hHandler hEntry =>
      have hMade := (h.sweep hHandler missed).make hHandler hEntry (datagram.take udpBufferSize)
      exact (hMade.offer rfl).silent (by simp)
  | @resumeSend addr payload id hHandler =>
      exact h.send (hSending addr payload id hHandler) (by simp [hHandler])
  | resumeOffer hHandler => simpa using h.offer hHandler
  | @accept id rest stream hAccepting hStream =>
      have hTaken := h.replace { stream with accepted := true } rest hStream rfl
        (h.fits id stream hStream) (.inr (by simp [hAccepting])) (by simp [hAccepting])
      exact hTaken.silent (by simp)
  | @read id capacity stream payload rest hStream hHeld hReceiver hRoom =>
      have hFits := h.fits id stream hStream
      rw [hReceiver, List.length_cons] at hFits
      have hRead := h.replace { stream with receiver := rest } state.accepting hStream rfl
        (Nat.le_of_succ_le hFits) (.inl rfl) (List.Sublist.refl _)
      exact hRead.silent (by simp)
  | panic hStream hHeld => exact (h.dropped hStream hHeld).silent (by simp)
  | @broken id capacity stream hStream hHeld hReceiver hEntry =>
      have hFlag : state.drop id = true := by
        by_contra hDown
        rcases h.filed id stream hStream (by simpa using hDown) with hFiled | hOffering
        · exact hEntry hFiled
        · obtain ⟨-, -, last, hLast, hNot⟩ := h.offered _ id hOffering
          obtain rfl := Option.some.inj (hStream.symm.trans hLast)
          exact absurd hNot (by simp [hHeld])
      exact
        { h with
          fresh := fun other hOther => by
            have hNe : other ≠ id := ((h.lt_created hStream).trans_le hOther).ne'
            simpa [hNe] using h.fresh other hOther
          broken := fun other hMem => by
            rcases List.mem_append.mp hMem with hMem | hMem
            · exact h.broken other hMem
            · obtain rfl : other = id := by simpa using hMem
              exact hFlag }
  | write => exact h.silent (by simp)
  | writeFailed | shutdown => simpa using h.shutdown _
  | drop hStream hHeld => simpa using h.dropped hStream hHeld

/-- The streams are sound in every run. -/
theorem run {labels : List (UdpLabel A)} {finish : UdpListener A}
    (hRun : Run (UdpListening A) .bind labels finish seen) : finish.Sound seen :=
  hRun.history_invariant (fun state _ seen => state.Sound seen) initial
    fun _ _ _ _ _ _ hPrior h hStep =>
      h.step hStep.move (UdpListener.Account.run hPrior).sending

end UdpListener.Sound

/-- As long as nobody raises the flag of a stream of a peer, by dropping it, by
`shutdown` or by a failed write, the peer has at most this one stream, its reads never
find a broken pipe, and all its datagrams are delivered or still to be read. -/
theorem udp_lossless_while_kept {labels : List (UdpLabel A)} {finish : UdpListener A}
    {seen : List (UdpEvent A)} (hRun : Run (UdpListening A) .bind labels finish seen) {addr : A}
    (hKept : ∀ id ∈ streamsOf addr seen, finish.drop id = false) :
    (streamsOf addr seen = [] ∧ arrivals addr seen = []) ∨
      ∃ id stream, streamsOf addr seen = [id] ∧ finish.stream id = some stream ∧
        stream.receiver.length ≤ channelLen ∧ .broken id ∉ seen ∧
        arrivals addr seen =
          readings id seen ++ stream.receiver ++ finish.handler.pending addr := by
  have hAccount := UdpListener.Account.run hRun
  have hSound := UdpListener.Sound.run hRun
  -- every stream of the peer still exists, and the peer reaches it: so it is the last one
  have hReached : ∀ id ∈ streamsOf addr seen, (∃ stream, finish.stream id = some stream) ∧
      (streamsOf addr seen).getLast? = some id := by
    intro id hMem
    obtain ⟨stream, hStream⟩ := hSound.kept id (hAccount.lt_created hMem) (hKept id hMem)
    obtain rfl := hAccount.owner _ _ id (hAccount.alive id stream hStream).1 hMem
    refine ⟨⟨stream, hStream⟩, ?_⟩
    rcases hSound.filed id stream hStream (hKept id hMem) with hEntry | hOffering
    · exact (hAccount.entry _ id hEntry).1
    · exact (hAccount.offering _ id hOffering).1
  have hFiled := hAccount.filed addr
  rcases List.eq_nil_or_concat (streamsOf addr seen) with hNone | ⟨front, id, hStreams⟩
  · have hPending : finish.handler.pending addr = [] := by
      unfold UdpHandler.pending
      split
      · rename_i peer payload id hHandler
        have hLast := (hAccount.entry peer id (hAccount.sending peer payload id hHandler)).1
        have hNe : peer ≠ addr := by
          rintro rfl
          simp [hNone] at hLast
        exact if_neg hNe
      · rfl
    exact .inl ⟨hNone, by rw [hFiled, hNone, hPending]; rfl⟩
  · obtain rfl : front = [] := by
      apply List.eq_nil_iff_forall_not_mem.mpr
      intro other hMem
      have hLast := (hReached other (by simp [hStreams, hMem])).2
      obtain rfl : id = other := by simpa [hStreams] using hLast
      have hNodup := hAccount.distinct addr
      rw [hStreams, List.concat_eq_append] at hNodup
      exact (List.nodup_append.mp hNodup).2.2 id hMem id List.mem_cons_self rfl
    have hMem : id ∈ streamsOf addr seen := by simp [hStreams]
    obtain ⟨stream, hStream⟩ := (hReached id hMem).1
    obtain ⟨-, hLosses, hIntake⟩ := hAccount.alive id stream hStream
    refine .inr ⟨id, stream, hStreams, hStream, hSound.fits id stream hStream, ?_, ?_⟩
    · intro hBroken
      exact absurd (hSound.broken id hBroken) (by simp [hKept id hMem])
    · rw [hFiled, hStreams]
      simp [hLosses, hIntake]

/-- One datagram is read and one waits. -/
theorem udp_lossless_while_kept_example : ∃ finish seen,
    Run (UdpListening Nat) .bind [.recv 1 [5] [], .accept, .recv 1 [6] [], .read 0 10] finish seen ∧
    streamsOf 1 seen = [0] ∧ readings 0 seen = [[5]] ∧
      ((streamsOf 1 seen = [] ∧ arrivals 1 seen = []) ∨
        ∃ id stream, streamsOf 1 seen = [id] ∧ finish.stream id = some stream ∧
          stream.receiver.length ≤ channelLen ∧ .broken id ∉ seen ∧
          arrivals 1 seen = readings id seen ++ stream.receiver ++ finish.handler.pending 1) := by
  have hRun : (runOption UdpListener.next .bind
      [.recv 1 [5] [], .accept, .recv 1 [6] [], .read 0 10]).any (fun result =>
        streamsOf 1 result.2 = [0] ∧ readings 0 result.2 = [[5]] ∧ result.1.drop 0 = false) =
      true := by
    decide +kernel
  obtain ⟨⟨finish, seen⟩, hResult, hSeen⟩ := (Option.any_eq_true _ _).mp hRun
  obtain ⟨hStreams, hRead, hKept⟩ := of_decide_eq_true hSeen
  have run := runOption_eq_some_iff.mp hResult
  exact ⟨finish, seen, run, hStreams, hRead, udp_lossless_while_kept run (by simp_all)⟩

section Blocking

variable {state : UdpListener A} {addr : A} {payload : Bytes} {id : Nat}

/-- The handler waits for room in the full channel of a stream. -/
def UdpListener.Stuck (state : UdpListener A) (addr : A) (payload : Bytes) (id : Nat) : Prop :=
  state.handler = .sending addr payload id ∧
    ∃ stream, state.stream id = some stream ∧ stream.receiver.length = channelLen

def UdpLabel.Frees (id : Nat) : UdpLabel A → Prop
  | .read other _ => other = id
  | .drop other => other = id
  | _ => False

/-- Something came in from the network. -/
def UdpEvent.incoming : UdpEvent A → Bool
  | .arrived _ _ | .made _ _ | .queued _ _ | .lost _ _ => true
  | _ => false

/-- As long as nobody reads or drops the stream, the handler stays where it is. -/
theorem UdpListener.Stuck.step {label : UdpLabel A} {next : UdpListener A}
    {seen : List (UdpEvent A)} (h : state.Stuck addr payload id)
    (move : UdpMove state label next seen) (hLabel : ¬label.Frees id) :
    next.Stuck addr payload id ∧ ∀ event ∈ seen, event.incoming = false := by
  obtain ⟨hHandler, stream, hStream, hFull⟩ := h
  cases move with
  | recvSend hIdle | recvMake hIdle | resumeOffer hIdle => cases hHandler.symm.trans hIdle
  | resumeSend hSending =>
      obtain ⟨rfl, rfl, rfl⟩ := UdpHandler.sending.inj (hHandler.symm.trans hSending)
      rw [UdpListener.send_of_full hStream hFull.ge.not_gt]
      exact ⟨⟨rfl, stream, hStream, hFull⟩, by simp⟩
  | @accept other rest last hAccepting hLast =>
      refine ⟨⟨hHandler, ?_⟩, by simp [UdpEvent.incoming]⟩
      obtain rfl | hNe := eq_or_ne id other
      · obtain rfl := Option.some.inj (hStream.symm.trans hLast)
        exact ⟨{ stream with accepted := true }, by simp, hFull⟩
      · exact ⟨stream, by simpa [hNe] using hStream, hFull⟩
  | @read other capacity last payload rest hLast =>
      have hNe : id ≠ other := fun hSame => hLabel hSame.symm
      exact ⟨⟨hHandler, stream, by simpa [hNe] using hStream, hFull⟩, by simp [UdpEvent.incoming]⟩
  | @panic other =>
      have hNe : id ≠ other := fun hSame => hLabel hSame.symm
      exact ⟨⟨hHandler, stream, by simpa [UdpListener.dropped, hNe] using hStream, hFull⟩,
        by simp [UdpEvent.incoming]⟩
  | broken | write => exact ⟨⟨hHandler, stream, hStream, hFull⟩, by simp [UdpEvent.incoming]⟩
  | writeFailed | shutdown => exact ⟨⟨hHandler, stream, hStream, hFull⟩, by simp⟩
  | @drop other =>
      have hNe : id ≠ other := fun hSame => hLabel hSame.symm
      exact ⟨⟨hHandler, stream, by simpa [UdpListener.dropped, hNe] using hStream, hFull⟩, by simp⟩

/-- So it does in every continuation, and nothing comes in from the network. -/
theorem UdpListener.Stuck.run {labels : List (UdpLabel A)} {finish : UdpListener A}
    {seen : List (UdpEvent A)} (h : state.Stuck addr payload id)
    (hRun : Run (UdpListening A) state labels finish seen)
    (hLabels : ∀ label ∈ labels, ¬label.Frees id) :
    finish.Stuck addr payload id ∧ ∀ event ∈ seen, event.incoming = false := by
  induction hRun with
  | nil => exact ⟨h, by simp⟩
  | cons first _ ih =>
      obtain ⟨hFirst, hRest⟩ := List.forall_mem_cons.mp hLabels
      obtain ⟨hNext, hSeen⟩ := h.step first.move hFirst
      obtain ⟨hFinish, hLater⟩ := ih hNext hRest
      exact ⟨hFinish, List.forall_mem_append.mpr ⟨hSeen, hLater⟩⟩

/-- A datagram of a known peer is taken to its stream. -/
theorem UdpListening.recv_known (hHandler : state.handler = .receiving)
    (hEntry : state.streams addr = some id) (hKept : state.drop id = false) (datagram : Bytes) :
    UdpListening A state (.recv addr datagram [])
      ((state.sweep []).send addr (datagram.take udpBufferSize) id).1
      (.arrived addr (datagram.take udpBufferSize) ::
        ((state.sweep []).send addr (datagram.take udpBufferSize) id).2) := by
  have hSwept : (state.sweep []).streams addr = some id := by
    simp [UdpListener.sweep, hEntry, hKept]
  simp [UdpListening, OfOption, UdpListener.next, hHandler, hSwept]

/-- As many datagrams as there is room, and one more. -/
theorem UdpListener.exists_stuck {stream : UdpStream A} {datagrams : List Bytes}
    (hHandler : state.handler = .receiving) (hEntry : state.streams addr = some id)
    (hStream : state.stream id = some stream) (hKept : state.drop id = false)
    (hFits : stream.receiver.length ≤ channelLen)
    (hMany : stream.receiver.length + datagrams.length = channelLen + 1) :
    ∃ stuck payload seen, Run (UdpListening A) state
      (datagrams.map fun datagram => .recv addr datagram []) stuck seen ∧
        stuck.Stuck addr payload id := by
  induction datagrams generalizing state stream with
  | nil => simp only [List.length_nil] at hMany; omega
  | cons datagram rest ih =>
      rw [List.length_cons] at hMany
      have hFirst := UdpListening.recv_known hHandler hEntry hKept datagram
      have hSame : (state.sweep []).stream id = some stream := hStream
      have hNext : (state.sweep []).streams addr = some id := by
        simp [UdpListener.sweep, hEntry, hKept]
      by_cases hRoom : stream.receiver.length < channelLen
      · rw [UdpListener.send_of_room hSame hRoom] at hFirst
        have hPushed := @ih
          { state.sweep [] with
            handler := .receiving
            stream := Function.update (state.sweep []).stream id (some { stream with
              receiver := stream.receiver ++ [datagram.take udpBufferSize] }) }
          { stream with receiver := stream.receiver ++ [datagram.take udpBufferSize] }
          rfl hNext (Function.update_self ..) hKept (by simpa using hRoom) (by simp; omega)
        obtain ⟨stuck, payload, seen, hRun, hStuck⟩ := hPushed
        exact ⟨stuck, payload, _, .cons hFirst hRun, hStuck⟩
      · rw [UdpListener.send_of_full hSame hRoom] at hFirst
        obtain rfl : rest = [] := List.length_eq_zero_iff.mp (by omega)
        exact ⟨_, _, _, .single hFirst, rfl, stream, hStream, by omega⟩

theorem UdpListening.resume_sending (hHandler : state.handler = .sending addr payload id) :
    UdpListening A state .resume (state.send addr payload id).1
      (state.send addr payload id).2 := by
  simp [UdpListening, OfOption, UdpListener.next, hHandler]

/-- Any read of the stream, and its end, let the handler go on: a reader that panics
ends it as well. -/
theorem UdpListener.Stuck.freed (h : state.Stuck addr payload id) {stream : UdpStream A}
    (hHeld : state.held id = some stream) {label : UdpLabel A} (hLabel : label.Frees id) :
    ∃ next seen, Run (UdpListening A) state [label, .resume] next seen ∧
      next.handler = .receiving := by
  obtain ⟨hHandler, last, hLast, hFull⟩ := h
  obtain ⟨hStream, hAccepted⟩ := UdpListener.held_eq_some_iff.mp hHeld
  obtain rfl := Option.some.inj (hStream.symm.trans hLast)
  have hEnd : UdpListening A (state.dropped id) .resume
      ((state.dropped id).send addr payload id).1 ((state.dropped id).send addr payload id).2 :=
    UdpListening.resume_sending hHandler
  rw [UdpListener.send_of_none (by simp [UdpListener.dropped])] at hEnd
  cases label with
  | recv | resume | accept | write | shutdown => cases hLabel
  | drop other =>
      obtain rfl : other = id := hLabel
      have hFirst : UdpListening A state (.drop other) (state.dropped other) [] := by
        simp [UdpListening, OfOption, UdpListener.next, hHeld]
      exact ⟨_, _, .cons hFirst (.single hEnd), rfl⟩
  | read other capacity =>
      obtain rfl : other = id := hLabel
      cases hReceiver : stream.receiver with
      | nil => simp [hReceiver, channelLen] at hFull
      | cons oldest rest =>
          by_cases hRoom : oldest.length ≤ capacity
          · have hFirst : UdpListening A state (.read other capacity)
                { state with
                  stream := Function.update state.stream other
                    (some { stream with receiver := rest }) } [.delivered other oldest] := by
              simp [UdpListening, OfOption, UdpListener.next, hHeld, hReceiver, hRoom]
            have hSecond := @UdpListening.resume_sending A _
              { state with
                stream := Function.update state.stream other
                  (some { stream with receiver := rest }) } addr payload other hHandler
            have hSpace : rest.length < channelLen := by
              rw [hReceiver, List.length_cons] at hFull
              exact Nat.lt_of_succ_le hFull.le
            rw [UdpListener.send_of_room (Function.update_self ..) hSpace] at hSecond
            exact ⟨_, _, .cons hFirst (.single hSecond), rfl⟩
          · have hFirst : UdpListening A state (.read other capacity) (state.dropped other)
                [.panicked other] := by
              simp [UdpListening, OfOption, UdpListener.next, hHeld, hReceiver, hRoom]
            exact ⟨_, _, .cons hFirst (.single hEnd), rfl⟩

end Blocking

/-- One peer whose stream is not read stops the listener for all of them. As many
datagrams as its channel has room for, and one more, bring the handler to a place
where nothing from any peer comes in and no stream is made, in whatever order the rest
goes on. Exactly a read or the end of that stream lets it go on. -/
theorem udp_unread_stream_stops_listener {labels : List (UdpLabel A)} {state : UdpListener A}
    {seen : List (UdpEvent A)} (hRun : Run (UdpListening A) .bind labels state seen)
    (hIdle : state.handler = .receiving) {addr : A} {id : Nat} {stream : UdpStream A}
    (hEntry : state.streams addr = some id) (hStream : state.stream id = some stream)
    (hKept : state.drop id = false) (datagrams : List Bytes)
    (hMany : stream.receiver.length + datagrams.length = channelLen + 1) :
    ∃ stuck taken, Run (UdpListening A) state
        (datagrams.map fun datagram => .recv addr datagram []) stuck taken ∧
      ∀ rest finish later, Run (UdpListening A) stuck rest finish later →
        (∀ label ∈ rest, ¬label.Frees id) →
          (∀ event ∈ later, event.incoming = false) ∧ finish.handler = stuck.handler ∧
          ∀ held, finish.held id = some held → ∀ label, label.Frees id →
            ∃ next freed, Run (UdpListening A) finish [label, .resume] next freed ∧
              next.handler = .receiving := by
  have hFits := (UdpListener.Sound.run hRun).fits id stream hStream
  obtain ⟨stuck, payload, taken, hFill, hStuck⟩ :=
    UdpListener.exists_stuck hIdle hEntry hStream hKept hFits hMany
  refine ⟨stuck, taken, hFill, fun rest finish later hRest hLabels => ?_⟩
  obtain ⟨hFinish, hLater⟩ := hStuck.run hRest hLabels
  exact ⟨hLater, hFinish.1.trans hStuck.1.symm, fun held hHeld label hLabel =>
    hFinish.freed hHeld hLabel⟩

/-- A hundred and one datagrams of one peer. -/
theorem udp_unread_stream_stops_listener_example : ∃ state stuck taken,
    Run (UdpListening Nat) .bind [.recv 1 [5] []] state
      [.arrived 1 [5], .made 1 0, .queued 0 [5]] ∧
    Run (UdpListening Nat) state
      ((List.replicate 100 [6]).map fun datagram => .recv 1 datagram []) stuck taken ∧
    ∀ rest finish later, Run (UdpListening Nat) stuck rest finish later →
      (∀ label ∈ rest, ¬label.Frees 0) →
        (∀ event ∈ later, event.incoming = false) ∧ finish.handler = stuck.handler ∧
        ∀ held, finish.held 0 = some held → ∀ label, label.Frees 0 →
          ∃ next freed, Run (UdpListening Nat) finish [label, .resume] next freed ∧
            next.handler = .receiving := by
  have hFirst : UdpListening Nat .bind (.recv 1 [5] [])
      (((UdpListener.bind.sweep []).make 1 [5]).offer 1 0)
      [.arrived 1 [5], .made 1 0, .queued 0 [5]] := rfl
  have hRun := Run.single hFirst
  have hStream : (((UdpListener.bind.sweep []).make 1 [5]).offer 1 0).stream 0 =
      some ⟨1, [[5]], false⟩ := rfl
  have hEntry : (((UdpListener.bind.sweep []).make 1 [5]).offer 1 0).streams 1 = some 0 := rfl
  obtain ⟨stuck, taken, hFill, hAfter⟩ :=
    udp_unread_stream_stops_listener hRun rfl hEntry hStream rfl (List.replicate 100 [6]) rfl
  exact ⟨_, stuck, taken, hRun, hFill, hAfter⟩

end GdpRouter
