import GdpRouter.Network.RoundTrip

/-! When a connection task panics on received bytes. The subtractions and slices
of the continuation branches never fail. What can fail is the scan: on a header
text that is not UTF-8, and on a whole header whose NUL has not arrived yet. -/
namespace GdpRouter

open Framing Transition

/-- The bytes that the scanner gets when this read arrives in this state. -/
def RecvState.pending (state : RecvState) (receivingBuf : Bytes) : Bytes :=
  if state.needMoreDataForPreviousHeader then
    if state.remainingGdpHeader.action = .noop then state.remainingGdpPayload ++ receivingBuf
    else receivingBuf.drop (state.remainingGdpHeader.length - state.remainingGdpPayload.length)
  else receivingBuf

/-- The read that resets an incomplete header is thrown away unseen. -/
def DtlsRecvState.pending (state : DtlsRecvState) (receivingBuf : Bytes) : Bytes :=
  if state.recv.needMoreDataForPreviousHeader ∧ state.recv.remainingGdpHeader.action = .noop ∧
      state.resetCounter + 1 > 5 then []
  else state.recv.pending receivingBuf

section Panic

variable {serde : SerdeJson} {threadName : GDPName}

theorem error_ne_ok {α ε : Type} {fault : ε} :
    ¬ ∃ value : α, (Except.error fault : Except ε α) = .ok value := by
  rintro ⟨_, ⟨⟩⟩

/-- Mapping the value of a computation does not change whether it has one. -/
theorem map_ok_iff {α β ε : Type} {f : α → β} {result : Except ε α} :
    (∃ value, result.map f = .ok value) ↔ ∃ value, result = .ok value := by
  cases result with
  | error fault => exact iff_of_false error_ne_ok error_ne_ok
  | ok value => exact iff_of_true ⟨_, rfl⟩ ⟨_, rfl⟩

/-- The scanner gets through exactly the clear buffers. -/
theorem parseHeaderPayloadPairs_ok_iff (serde : SerdeJson) (buffer : Bytes) :
    (∃ result, parseHeaderPayloadPairs serde buffer = .ok result) ↔
      Clear (headerCodec serde) buffer := by
  have hScan := scan_parseHeaderPayloadPairs serde buffer
  generalize parseHeaderPayloadPairs serde buffer = outcome at hScan
  induction hScan with
  | empty => exact iff_of_true ⟨_, rfl⟩ clear_nil
  | invalid hBuffer hUtf8 =>
      refine iff_of_false error_ne_ok fun h => ?_
      have hValid := (h.head hBuffer).1
      exact absurd (hValid.symm.trans hUtf8) (by decide)
  | @unparsed buffer hBuffer hUtf8 hParse =>
      refine iff_of_true ⟨_, rfl⟩ (clear_of_no_frame (no_frame_of_unparsed hParse) hUtf8 ?_)
      by_cases hNul : 0 ∈ buffer
      · exact .inl hNul
      · rw [splitFirst_of_not_mem 0 hNul] at hParse
        exact .inr hParse
  | undelimited hText hNul hUtf8 hParse =>
      refine iff_of_false error_ne_ok fun h => ?_
      rcases (h.head hText).2 with hMem | hNone
      · exact absurd hMem hNul
      · exact absurd (hNone.symm.trans hParse) (by simp)
  | @short text payload header hNul hUtf8 hParse hLength =>
      refine iff_of_true ⟨_, rfl⟩ (clear_of_no_frame (no_frame_of_short hNul hParse hLength) ?_
        (.inl (by simp [headerCodec])))
      change validUtf8 (splitFirst 0 _).1 = true
      rw [splitFirst_append 0 payload hNul]
      exact hUtf8
  | frame frame _ ih => exact map_ok_iff.trans (ih.trans clear_encode_append_iff.symm)

theorem scan_ok_iff {state : RecvState} {pairs : List HeaderPayload} {receivingBuf : Bytes} :
    (∃ result, state.scan serde pairs receivingBuf = .ok result) ↔
      Clear (headerCodec serde) receivingBuf := by
  rw [RecvState.scan, map_ok_iff, parseHeaderPayloadPairs_ok_iff]

/-- While a payload is incomplete, neither the subtraction nor the slice fails. -/
theorem continuePayload_ok_iff {state : RecvState} {receivingBuf : Bytes}
    (hLength : state.remainingGdpPayload.length < state.remainingGdpHeader.length) :
    (∃ result, state.continuePayload serde receivingBuf = .ok result) ↔
      Clear (headerCodec serde)
        (receivingBuf.drop (state.remainingGdpHeader.length - state.remainingGdpPayload.length)) := by
  by_cases hWhole : state.remainingGdpPayload.length + receivingBuf.length ≤
      state.remainingGdpHeader.length
  · rw [List.drop_of_length_le (by omega)]
    refine ⟨fun _ => clear_nil, fun _ => ?_⟩
    unfold RecvState.continuePayload
    dsimp only
    split
    · exact ⟨_, rfl⟩
    · rw [if_pos (by omega)]
      exact scan_ok_iff.mpr clear_nil
  · unfold RecvState.continuePayload
    dsimp only
    rw [if_neg (by omega), if_neg (by omega), if_neg (by omega), if_neg (by omega), scan_ok_iff]

/-- A payload that is awaited is shorter than announced. -/
theorem Carries.length_lt {state : RecvState} {carried : Bytes} (h : Carries serde state carried)
    (hMore : state.needMoreDataForPreviousHeader = true)
    (hAction : state.remainingGdpHeader.action ≠ .noop) :
    state.remainingGdpPayload.length < state.remainingGdpHeader.length := by
  cases h with
  | boundary hDone => simp [hMore] at hDone
  | header _ hNoop => exact absurd hNoop hAction
  | payload _ _ _ _ _ hLength => exact hLength

/-- A read of the TCP arm is done exactly when all that it has kept and read is
clear. -/
theorem handleTcpStreamRead_ok_iff {state : RecvState} {carried : Bytes}
    (h : Carries serde state carried) (receivingBuf : Bytes) :
    (∃ result, handleTcpStreamRead serde threadName state receivingBuf = .ok result) ↔
      Clear (headerCodec serde) (state.pending receivingBuf) := by
  rw [handleTcpStreamRead, map_ok_iff]
  unfold tcpStreamPairs RecvState.pending
  split
  · rename_i hMore
    split
    · exact scan_ok_iff
    · rename_i hAction
      exact continuePayload_ok_iff (h.length_lt hMore hAction)
  · exact scan_ok_iff

/-- A read of the DTLS arm is done exactly when all that it has kept and read is
clear. -/
theorem handleDtlsStreamRead_ok_iff {state : DtlsRecvState} {carried : Bytes}
    (h : Carries serde state.recv carried) (receivingBuf : Bytes) :
    (∃ result, handleDtlsStreamRead serde threadName state receivingBuf = .ok result) ↔
      Clear (headerCodec serde) (state.pending receivingBuf) := by
  rw [handleDtlsStreamRead, map_ok_iff]
  unfold dtlsStreamPairs DtlsRecvState.pending RecvState.pending
  by_cases hMore : state.recv.needMoreDataForPreviousHeader = true
  · by_cases hAction : state.recv.remainingGdpHeader.action = .noop
    · by_cases hReset : state.resetCounter + 1 > 5
      · simp only [hMore, hAction, hReset, ↓reduceIte, and_self, map_ok_iff, scan_ok_iff]
      · simp only [hMore, hAction, hReset, ↓reduceIte, and_false, map_ok_iff, scan_ok_iff]
    · simp only [hMore, hAction, ↓reduceIte, false_and, and_false, map_ok_iff,
        continuePayload_ok_iff (h.length_lt hMore hAction)]
  · simp only [hMore, Bool.false_eq_true, ↓reduceIte, false_and, map_ok_iff, scan_ok_iff]

theorem tcpReads_carries {reads : List Bytes} {state : RecvState} {handed : List GDPPacket}
    (run : Run (TcpReads serde threadName) .initial reads state handed) :
    ∃ carried, Carries serde state carried :=
  run.invariant (fun state => ∃ carried, Carries serde state carried) ⟨[], carries_initial⟩
    fun _ _ _ _ ⟨_, h⟩ hRead => handleTcpStreamRead_carries h (tcpReads_iff.mp hRead)

theorem dtlsReads_carries {reads : List Bytes} {state : DtlsRecvState} {handed : List GDPPacket}
    (run : Run (DtlsReads serde threadName) .initial reads state handed) :
    ∃ carried, Carries serde state.recv carried :=
  run.invariant (fun state => ∃ carried, Carries serde state.recv carried) ⟨[], carries_initial⟩
    fun _ _ _ _ ⟨_, h⟩ hRead => handleDtlsStreamRead_carries h (dtlsReads_iff.mp hRead)

end Panic

/-- A list of reads goes through a receive arm when each of them does in the
state that those before it lead to. -/
theorem exists_reads_iff {σ : Type} {handle : σ → Bytes → Except Panic (σ × List GDPPacket)}
    {safe : σ → Bytes → Prop} {initial : σ} {reads : List Bytes}
    (hSafe : ∀ before state out, Run (OfExcept handle) initial before state out →
      ∀ read, (∃ result, handle state read = .ok result) ↔ safe state read) :
    (∃ finish handed, Run (OfExcept handle) initial reads finish handed) ↔
      ∀ before read after state handed, reads = before ++ read :: after →
        Run (OfExcept handle) initial before state handed → safe state read := by
  unfold OfExcept at *
  rw [exists_run_ofOption_iff]
  simp only [toOption_eq_some_iff]
  constructor <;> intro h before read after state handed hReads prior
  · exact (hSafe before state handed prior read).mp (h before read after state handed hReads prior)
  · exact (hSafe before state handed prior read).mpr (h before read after state handed hReads prior)

/-- Both receive arms get through a sequence of reads exactly when every read
makes the scanner look at a clear buffer. -/
theorem handle_stream_panic_free_iff (serde : SerdeJson) (threadName : GDPName)
    (reads : List Bytes) :
    ((∃ finish handed, Run (TcpReads serde threadName) .initial reads finish handed) ↔
      ∀ before read after state handed, reads = before ++ read :: after →
        Run (TcpReads serde threadName) .initial before state handed →
          Clear (headerCodec serde) (state.pending read)) ∧
    ((∃ finish handed, Run (DtlsReads serde threadName) .initial reads finish handed) ↔
      ∀ before read after state handed, reads = before ++ read :: after →
        Run (DtlsReads serde threadName) .initial before state handed →
          Clear (headerCodec serde) (state.pending read)) := by
  constructor
  · apply exists_reads_iff
    intro before state handed prior read
    obtain ⟨carried, hCarries⟩ := tcpReads_carries prior
    exact handleTcpStreamRead_ok_iff hCarries read
  · apply exists_reads_iff
    intro before state handed prior read
    obtain ⟨carried, hCarries⟩ := dtlsReads_carries prior
    exact handleDtlsStreamRead_ok_iff hCarries read

namespace PanicExample

def threadName : GDPName := .ofBytes 7 7 7 7

def packet : GDPPacket := ⟨.forward, .ofBytes 1 2 3 4, some [5, 6], .ofBytes 9 9 9 9⟩

/-- A well-formed stream, cut between its header text and the NUL. -/
def cutReads : List Bytes := [compactJson.toString packet.getHeader, 0 :: packet.body]

/-- One byte that starts no UTF-8 character. -/
def strayReads : List Bytes := [[255]]

end PanicExample

open PanicExample in
/-- A frame cut before its NUL, and stray bytes that are no header, are the end
of both arms. -/
theorem handle_stream_panics :
    (cutReads.flatten = wireBytes compactJson [packet] ∧
      (∀ read ∈ cutReads ++ strayReads, read ≠ [] ∧ read.length ≤ udpBufferSize)) ∧
    ∀ reads ∈ [cutReads, strayReads],
      (¬ ∃ finish handed, Run (TcpReads compactJson threadName) .initial reads finish handed) ∧
      ¬ ∃ finish handed, Run (DtlsReads compactJson threadName) .initial reads finish handed := by
  refine ⟨⟨by decide +kernel, by decide +kernel⟩, ?_⟩
  intro reads hReads
  have hTcp : ∀ reads ∈ [cutReads, strayReads], runOption
      (fun state read => (handleTcpStreamRead compactJson threadName state read).toOption)
      .initial reads = none := by decide +kernel
  have hDtls : ∀ reads ∈ [cutReads, strayReads], runOption
      (fun state read => (handleDtlsStreamRead compactJson threadName state read).toOption)
      .initial reads = none := by decide +kernel
  exact ⟨not_exists_run_of_runOption (hTcp reads hReads),
    not_exists_run_of_runOption (hDtls reads hReads)⟩

end GdpRouter
