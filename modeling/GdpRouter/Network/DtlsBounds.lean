import GdpRouter.Network.DtlsReset
import GdpRouter.Network.PanicFreedom
import GdpRouter.Network.ParseSpec

/-! How long the DTLS receive arm holds on to a header that never gets complete.
Each read behind such a header is counted, and may add one buffer to what is kept.
The count never gets past five, so neither does this go on for ever. -/
namespace GdpRouter

open Framing Transition

section Kept

variable {serde : SerdeJson} {threadName : GDPName} {state next : RecvState} {read : Bytes}
  {out : List GDPPacket}

/-- What a scan leaves behind was in its buffer. -/
theorem scan_kept_length_le {first pairs : List HeaderPayload} {buffer : Bytes}
    (h : state.scan serde first buffer = .ok (next, pairs)) :
    next.remainingGdpPayload.length ≤ buffer.length := by
  obtain ⟨⟨found, remaining⟩, hParse, rfl, -⟩ := scan_eq_ok_iff.mp h
  cases remaining with
  | none => exact Nat.zero_le _
  | some kept => exact parseHeaderPayloadPairs_kept_length_le hParse rfl

/-- Behind a payload only the bytes of this read are scanned. -/
theorem continuePayload_kept_length_le {pairs : List HeaderPayload}
    (hAction : state.remainingGdpHeader.action ≠ .noop)
    (h : state.continuePayload serde read = .ok (next, pairs))
    (hNext : next.AwaitsHeader) : next.remainingGdpPayload.length ≤ read.length := by
  unfold RecvState.continuePayload at h
  dsimp only at h
  split at h
  · -- The payload is still awaited, and its header is the same.
    cases h
    exact absurd hNext.2 hAction
  · split at h
    · exact (scan_kept_length_le h).trans (Nat.zero_le _)
    · split at h
      · cases h
      · split at h
        · cases h
        · apply (scan_kept_length_le h).trans
          rw [List.length_drop]
          exact Nat.sub_le _ _

/-- A read that leaves a header text adds at most its own bytes to the one before. -/
theorem handleTcpStreamRead_kept_length_le
    (h : handleTcpStreamRead serde threadName state read = .ok (next, out))
    (hNext : next.AwaitsHeader) :
    next.remainingGdpPayload.length ≤
      (if state.AwaitsHeader then state.remainingGdpPayload.length else 0) + read.length := by
  obtain ⟨pairs, hPairs, -⟩ := handleTcpStreamRead_eq_ok_iff.mp h
  unfold tcpStreamPairs at hPairs
  split at hPairs
  · rename_i hMore
    split at hPairs
    · rename_i hAction
      have hAwaits : state.AwaitsHeader := ⟨hMore, hAction⟩
      rw [if_pos hAwaits, ← List.length_append]
      exact scan_kept_length_le hPairs
    · rename_i hAction
      exact (continuePayload_kept_length_le hAction hPairs hNext).trans (Nat.le_add_left _ _)
  · exact (scan_kept_length_le hPairs).trans (Nat.le_add_left _ _)

end Kept

/-- The count of a receiver bounds the header text that it keeps. -/
structure DtlsRecvState.Bounded (state : DtlsRecvState) : Prop where
  counter : state.resetCounter ≤ 5
  kept : state.recv.AwaitsHeader →
    state.recv.remainingGdpPayload.length ≤ (state.resetCounter + 1) * udpBufferSize

section Bounds

variable {serde : SerdeJson} {threadName : GDPName} {state next : DtlsRecvState} {read : Bytes}
  {out : List GDPPacket}

theorem bounded_initial : DtlsRecvState.initial.Bounded where
  counter := Nat.zero_le 5
  kept hAwaits := absurd hAwaits.1 (by simp [DtlsRecvState.initial, RecvState.initial])

/-- One read of at most a buffer keeps the bounds. -/
theorem DtlsRecvState.Bounded.step (h : state.Bounded) (hRead : read.length ≤ udpBufferSize)
    (hStep : handleDtlsStreamRead serde threadName state read = .ok (next, out)) :
    next.Bounded := by
  obtain ⟨-, -, rfl, -⟩ | ⟨hNoReset, hTcp, hCounter⟩ := handleDtlsStreamRead_cases hStep
  · exact ⟨Nat.zero_le 5, fun hNext => absurd hNext.1 (by simp)⟩
  · have hFive := h.counter
    have hAdded := handleTcpStreamRead_kept_length_le hTcp
    by_cases hAwaits : state.recv.AwaitsHeader
    · -- One buffer more is kept, and counted.
      have hKept := h.kept hAwaits
      have hFew : ¬5 ≤ state.resetCounter := fun hLast => hNoReset ⟨hAwaits, hLast⟩
      simp only [hAwaits, decide_true, Bool.toNat_true] at hCounter
      constructor
      · omega
      · intro hNext
        have hMore := hAdded hNext
        rw [if_pos hAwaits] at hMore
        rw [hCounter, Nat.succ_mul]
        omega
    · simp only [hAwaits, decide_false, Bool.toNat_false, Nat.add_zero] at hCounter
      constructor
      · omega
      · intro hNext
        have hFirst := hAdded hNext
        rw [if_neg hAwaits, Nat.zero_add] at hFirst
        rw [hCounter, Nat.succ_mul]
        omega

/-- A header text that is still incomplete after one more read has been counted. -/
theorem handleDtlsStreamRead_counts
    (hStep : handleDtlsStreamRead serde threadName state read = .ok (next, out))
    (hAwaits : state.recv.AwaitsHeader) (hNext : next.recv.AwaitsHeader) :
    state.resetCounter < next.resetCounter := by
  obtain ⟨-, -, rfl, -⟩ | ⟨-, -, hCounter⟩ := handleDtlsStreamRead_cases hStep
  · exact absurd hNext.1 (by simp)
  · simp only [hAwaits, decide_true, Bool.toNat_true] at hCounter
    omega

/-- The bounds hold after any reads. -/
theorem dtlsReads_bounded {reads : List Bytes} {handed : List GDPPacket}
    (hReads : ∀ read ∈ reads, read.length ≤ udpBufferSize)
    (run : Run (DtlsReads serde threadName) .initial reads state handed) : state.Bounded := by
  revert hReads
  apply run.history_invariant fun state reads _ =>
    (∀ read ∈ reads, read.length ≤ udpBufferSize) → state.Bounded
  · intro _
    exact bounded_initial
  · intro state reads handed read next last _ ih hStep hReads
    obtain ⟨hBefore, hRead⟩ := List.forall_mem_append.mp hReads
    exact (ih hBefore).step (hRead read (List.mem_singleton_self read)) (dtlsReads_iff.mp hStep)

end Bounds

/-- The receive loop of `handle_dtls_stream` gives up on a header that never gets
complete: within seven reads, and before it has kept more than six buffers. -/
theorem handleDtlsStream_gives_up {serde : SerdeJson} {threadName : GDPName} {reads : List Bytes}
    (hReads : ∀ read ∈ reads, read.length ≤ udpBufferSize) {finish : DtlsRecvState}
    {handed : List GDPPacket}
    (run : Run (DtlsReads serde threadName) .initial reads finish handed) :
    (Throughout (DtlsReads serde threadName) .initial reads fun state =>
      state.resetCounter ≤ 5 ∧
      (state.recv.AwaitsHeader →
        state.recv.remainingGdpPayload.length ≤ 6 * udpBufferSize)) ∧
    ∀ before seven after, reads = before ++ seven ++ after → seven.length = 7 →
      ∃ first rest state seen, seven = first ++ rest ∧ first ≠ [] ∧
        Run (DtlsReads serde threadName) .initial (before ++ first) state seen ∧
        ¬state.recv.AwaitsHeader := by
  constructor
  · intro before after state seen hSplit prior
    have hBefore : ∀ read ∈ before, read.length ≤ udpBufferSize := fun read hRead =>
      hReads read (hSplit ▸ List.mem_append_left _ hRead)
    have hState := dtlsReads_bounded hBefore prior
    refine ⟨hState.counter, fun hAwaits => (hState.kept hAwaits).trans ?_⟩
    exact Nat.mul_le_mul_right _ (Nat.succ_le_succ hState.counter)
  · intro before seven after hSplit hSeven
    rw [hSplit] at run hReads
    obtain ⟨last, seen, -, hLast, -, -⟩ := run_append_iff.mp run
    have hCounter := (dtlsReads_bounded (List.forall_mem_append.mp hReads).1 hLast).counter
    obtain ⟨start, early, late, hStart, hRun, -⟩ := run_append_iff.mp hLast
    obtain ⟨first, rest, middle, out, hFirst, hNe, hSome, hFree⟩ :=
      hRun.exists_lost (fun state => state.recv.AwaitsHeader) DtlsRecvState.resetCounter
        (fun _ _ _ _ hFrom hRead => handleDtlsStreamRead_counts (dtlsReads_iff.mp hRead) hFrom)
        (by omega)
    exact ⟨first, rest, middle, _, hFirst, hNe, hStart.append hSome, hFree⟩

namespace DtlsBoundsExample

def threadName : GDPName := .ofBytes 7 7 7 7

/-- One closing brace after another, from which no header ever comes. -/
def reads : List Bytes := List.replicate 7 [CompactJson.closingBrace]

theorem run_reads : Run (DtlsReads compactJson threadName) .initial reads .initial [] :=
  runOption_eq_some_iff.mp (by decide +kernel)

end DtlsBoundsExample

open DtlsBoundsExample in
/-- Noise that never becomes a header is given up in the seventh read. -/
theorem handleDtlsStream_gives_up_example :
    ∃ first rest state seen, reads = first ++ rest ∧ first ≠ [] ∧
      Run (DtlsReads compactJson threadName) .initial first state seen ∧
      ¬state.recv.AwaitsHeader :=
  (handleDtlsStream_gives_up (by decide) run_reads).2 [] reads [] (by simp) rfl

end GdpRouter
