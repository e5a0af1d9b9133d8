import GdpRouter.Network.PanicFreedom

/-! The pairs that enter the dispatch loop of a receive arm. Whatever bytes
arrive, each payload is as long as its header announces, and a payload that is
still awaited is shorter than that. -/
namespace GdpRouter

open Framing Transition

/-- Every payload is exactly as long as its header says. -/
def Exact (pairs : List HeaderPayload) : Prop := ∀ pair ∈ pairs, pair.2.length = pair.1.length

/-- The payload that a state waits for is incomplete. A header that is still
incomplete carries the marker action `Noop`. -/
def RecvState.Incomplete (state : RecvState) : Prop :=
  state.needMoreDataForPreviousHeader = true → state.remainingGdpHeader.action ≠ .noop →
    state.remainingGdpPayload.length < state.remainingGdpHeader.length

section Pairs

variable {serde : SerdeJson} {threadName : GDPName}

/-- The scanner cuts each payload to its announced length. -/
theorem parseHeaderPayloadPairs_exact {buffer : Bytes} {result : ParseResult}
    (h : parseHeaderPayloadPairs serde buffer = .ok result) : Exact result.1 := by
  obtain ⟨frames, tail, hResult⟩ := exists_decomposes h
  intro pair hPair
  rw [hResult.pairs_eq] at hPair
  obtain ⟨frame, -, rfl⟩ := List.mem_map.mp hPair
  exact frame.sized

theorem scan_exact {state next : RecvState} {first pairs : List HeaderPayload}
    {receivingBuf : Bytes} (hFirst : Exact first)
    (h : state.scan serde first receivingBuf = .ok (next, pairs)) : Exact pairs := by
  obtain ⟨result, hParse, -, rfl⟩ := scan_eq_ok_iff.mp h
  exact List.forall_mem_append.mpr ⟨hFirst, parseHeaderPayloadPairs_exact hParse⟩

/-- The first pair is the one whose payload is continued. -/
theorem continuePayload_exact {state next : RecvState} {receivingBuf : Bytes}
    {pairs : List HeaderPayload}
    (h : state.continuePayload serde receivingBuf = .ok (next, pairs)) : Exact pairs := by
  unfold RecvState.continuePayload at h
  dsimp only at h
  split at h
  · cases h
    exact List.forall_mem_nil _
  · split at h
    · rename_i hSize
      apply scan_exact _ h
      intro pair hPair
      rw [List.mem_singleton.mp hPair, List.length_append, hSize]
    · split at h
      · cases h
      · split at h
        · cases h
        · apply scan_exact _ h
          intro pair hPair
          rw [List.mem_singleton.mp hPair, List.length_append, List.length_take]
          dsimp only
          omega

/-- Every payload of the TCP arm has the announced length. -/
theorem tcpStreamPairs_exact {state next : RecvState} {receivingBuf : Bytes}
    {pairs : List HeaderPayload}
    (h : tcpStreamPairs serde state receivingBuf = .ok (next, pairs)) : Exact pairs := by
  unfold tcpStreamPairs at h
  split at h
  · split at h
    · exact scan_exact (List.forall_mem_nil _) h
    · exact continuePayload_exact h
  · exact scan_exact (List.forall_mem_nil _) h

/-- Every payload of the DTLS arm has the announced length. -/
theorem dtlsStreamPairs_exact {state next : DtlsRecvState} {receivingBuf : Bytes}
    {pairs : List HeaderPayload}
    (h : dtlsStreamPairs serde state receivingBuf = .ok (next, pairs)) : Exact pairs := by
  unfold dtlsStreamPairs at h
  split at h
  · split at h
    · split at h
      all_goals
        obtain ⟨read, hRead, hSame⟩ := map_eq_ok_iff.mp h
        cases hSame
        exact scan_exact (List.forall_mem_nil _) hRead
    · obtain ⟨read, hRead, hSame⟩ := map_eq_ok_iff.mp h
      cases hSame
      exact continuePayload_exact hRead
  · obtain ⟨read, hRead, hSame⟩ := map_eq_ok_iff.mp h
    cases hSame
    exact scan_exact (List.forall_mem_nil _) hRead

/-- The panics of the continuation branches, as opposed to those of the scanner. -/
def Panic.OfContinuation (panic : Panic) : Prop := panic = .numRemaining ∨ panic = .receivingBuf

/-- A scan panics in the parser, if it does. -/
theorem scan_not_ofContinuation {state : RecvState} {pairs : List HeaderPayload}
    {receivingBuf : Bytes} {panic : Panic}
    (h : state.scan serde pairs receivingBuf = .error panic) :
    ¬panic.OfContinuation := by
  have hScan := scan_parseHeaderPayloadPairs serde receivingBuf
  unfold RecvState.scan at h
  generalize parseHeaderPayloadPairs serde receivingBuf = outcome at hScan h
  induction hScan generalizing pairs with
  | empty | unparsed | short => cases h
  | invalid | undelimited =>
      cases h
      simp [Panic.OfContinuation]
  | @frame frame rest outcome _ ih =>
      cases outcome with
      | ok inner => cases h
      | error other => exact @ih [] h

/-- Below the announced length neither the subtraction nor the slice fails. -/
theorem continuePayload_not_ofContinuation {state : RecvState} {receivingBuf : Bytes}
    {panic : Panic} (hLength : state.remainingGdpPayload.length < state.remainingGdpHeader.length)
    (h : state.continuePayload serde receivingBuf = .error panic) :
    ¬panic.OfContinuation := by
  unfold RecvState.continuePayload at h
  dsimp only at h
  split at h
  · cases h
  · split at h
    · exact scan_not_ofContinuation h
    · rw [if_neg (by omega), if_neg (by omega)] at h
      exact scan_not_ofContinuation h

/-- Mapping keeps a fault. -/
theorem map_eq_error {ε α β : Type} {f : α → β} {result : Except ε α} {fault : ε}
    (h : result.map f = .error fault) : result = .error fault := by
  cases result with
  | error other => exact congrArg Except.error (Except.error.inj h)
  | ok value => cases h

/-- So neither fails in the TCP arm. -/
theorem tcpStreamPairs_not_ofContinuation {state : RecvState} {receivingBuf : Bytes}
    {panic : Panic} (hState : state.Incomplete)
    (h : tcpStreamPairs serde state receivingBuf = .error panic) : ¬panic.OfContinuation := by
  unfold tcpStreamPairs at h
  split at h
  · rename_i hMore
    split at h
    · exact scan_not_ofContinuation h
    · rename_i hAction
      exact continuePayload_not_ofContinuation (hState hMore hAction) h
  · exact scan_not_ofContinuation h

/-- So neither fails in the DTLS arm. -/
theorem dtlsStreamPairs_not_ofContinuation {state : DtlsRecvState} {receivingBuf : Bytes}
    {panic : Panic} (hState : state.recv.Incomplete)
    (h : dtlsStreamPairs serde state receivingBuf = .error panic) : ¬panic.OfContinuation := by
  unfold dtlsStreamPairs at h
  split at h
  · rename_i hMore
    split at h
    · split at h
      · exact scan_not_ofContinuation (map_eq_error h)
      · exact scan_not_ofContinuation (map_eq_error h)
    · rename_i hAction
      exact continuePayload_not_ofContinuation (hState hMore hAction) (map_eq_error h)
  · exact scan_not_ofContinuation (map_eq_error h)

end Pairs

/-- On any bytes, a read neither underflows nor slices out of range, and the
packets that it hands on come from pairs of exact length. -/
def ExactReads (threadName : GDPName) {σ : Type}
    (read : Bytes → Except Panic (σ × List GDPPacket))
    (pairs : Bytes → Except Panic (σ × List HeaderPayload)) : Prop :=
  ∀ receivingBuf, (∀ panic, read receivingBuf = .error panic → ¬panic.OfContinuation) ∧
    ∀ next out, read receivingBuf = .ok (next, out) → ∃ given,
      pairs receivingBuf = .ok (next, given) ∧ out = dispatchPairs threadName given ∧ Exact given

/-- A read is as exact as the pairs that enter its dispatch loop. -/
theorem exactReads_of_pairs {threadName : GDPName} {σ : Type}
    {pairs : Bytes → Except Panic (σ × List HeaderPayload)}
    (hPanic : ∀ receivingBuf panic, pairs receivingBuf = .error panic → ¬panic.OfContinuation)
    (hExact : ∀ receivingBuf next given, pairs receivingBuf = .ok (next, given) → Exact given) :
    ExactReads threadName (fun receivingBuf => (pairs receivingBuf).map fun read =>
      (read.1, dispatchPairs threadName read.2)) pairs := by
  intro receivingBuf
  constructor
  · intro panic hRead
    exact hPanic receivingBuf panic (map_eq_error hRead)
  · intro next out hRead
    obtain ⟨given, hGiven, hOut⟩ := map_dispatchPairs_eq_ok_iff.mp hRead
    exact ⟨given, hGiven, hOut, hExact receivingBuf next given hGiven⟩

/-- After any reads that did not panic, of any bytes, an awaited payload is
incomplete and every further read is exact. -/
theorem handle_stream_length_integrity (serde : SerdeJson) (threadName : GDPName) :
    (∀ reads state handed, Run (TcpReads serde threadName) .initial reads state handed →
      state.Incomplete ∧
        ExactReads threadName (handleTcpStreamRead serde threadName state)
          (tcpStreamPairs serde state)) ∧
    ∀ reads state handed, Run (DtlsReads serde threadName) .initial reads state handed →
      state.recv.Incomplete ∧
        ExactReads threadName (handleDtlsStreamRead serde threadName state)
          (dtlsStreamPairs serde state) := by
  constructor
  · intro reads state handed run
    obtain ⟨carried, hCarries⟩ := tcpReads_carries run
    have hState : state.Incomplete := hCarries.length_lt
    exact ⟨hState, exactReads_of_pairs (fun _ _ => tcpStreamPairs_not_ofContinuation hState)
      fun _ _ _ => tcpStreamPairs_exact⟩
  · intro reads state handed run
    obtain ⟨carried, hCarries⟩ := dtlsReads_carries run
    have hState : state.recv.Incomplete := hCarries.length_lt
    exact ⟨hState, exactReads_of_pairs (fun _ _ => dtlsStreamPairs_not_ofContinuation hState)
      fun _ _ _ => dtlsStreamPairs_exact⟩

open RoundTripExample in
/-- A cut in the header text and one in the payload: both arms wait for the
rest of the payload. -/
theorem handle_stream_length_integrity_example :
    (∃ state handed, Run (TcpReads compactJson threadName) .initial (reads.take 2) state handed ∧
      (state.needMoreDataForPreviousHeader = true ∧ state.remainingGdpHeader.action ≠ .noop) ∧
      state.remainingGdpPayload.length < state.remainingGdpHeader.length) ∧
    ∃ state handed, Run (DtlsReads compactJson threadName) .initial (reads.take 2) state handed ∧
      (state.recv.needMoreDataForPreviousHeader = true ∧
        state.recv.remainingGdpHeader.action ≠ .noop) ∧
      state.recv.remainingGdpPayload.length < state.recv.remainingGdpHeader.length := by
  let waiting : RecvState := ⟨true, .announcing .forward (.ofBytes 1 2 3 4) [0, 7], [0]⟩
  have hTcp : Run (TcpReads compactJson threadName) .initial (reads.take 2) waiting [] :=
    runOption_eq_some_iff.mp (by decide +kernel)
  have hDtls : Run (DtlsReads compactJson threadName) .initial (reads.take 2) ⟨waiting, 1⟩ [] :=
    runOption_eq_some_iff.mp (by decide +kernel)
  have hWaiting : waiting.needMoreDataForPreviousHeader = true ∧
      waiting.remainingGdpHeader.action ≠ .noop := by decide
  have hIntegrity := handle_stream_length_integrity compactJson threadName
  exact ⟨⟨_, _, hTcp, hWaiting, (hIntegrity.1 _ _ _ hTcp).1 hWaiting.1 hWaiting.2⟩,
    ⟨_, _, hDtls, hWaiting, (hIntegrity.2 _ _ _ hDtls).1 hWaiting.1 hWaiting.2⟩⟩

end GdpRouter
