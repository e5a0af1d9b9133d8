import GdpRouter.Network.Cutting

/-! The DTLS receive arm against the TCP receive arm. They run in step as long
as at most five reads begin inside a header: `reset_counter` is never cleared
by a header that is completed, so the sixth such read of a connection is lost. -/
namespace GdpRouter

open Framing Transition

/-- A scan left a header text, or a `Noop` payload, for the next read. -/
def RecvState.AwaitsHeader (state : RecvState) : Prop :=
  state.needMoreDataForPreviousHeader = true ∧ state.remainingGdpHeader.action = .noop

instance (state : RecvState) : Decidable state.AwaitsHeader :=
  inferInstanceAs (Decidable (_ ∧ _))

section Reset

variable {serde : SerdeJson} {threadName : GDPName}

/-- The cut falls into the header of a frame, before its NUL. -/
def cutsHeader (frames : List (WireFrame serde)) (n : Nat) : Bool :=
  (cutFrame frames n).any fun cut => 0 < cut.2 && cut.2 ≤ cut.1.text.length

/-- How many of the reads begin inside a header. -/
def headerReads (frames : List (WireFrame serde)) (reads : List Bytes) : Nat :=
  (List.range reads.length).countP fun k => cutsHeader frames (reads.take k).flatten.length

/-- One more read counts when it ends inside a header. -/
theorem headerReads_snoc (frames : List (WireFrame serde)) (reads : List Bytes) (read : Bytes) :
    headerReads frames (reads ++ [read]) =
      headerReads frames reads + (cutsHeader frames reads.flatten.length).toNat := by
  have hBefore : (List.range reads.length).countP
      (fun k => cutsHeader frames ((reads ++ [read]).take k).flatten.length) =
        headerReads frames reads := by
    apply List.countP_congr
    intro k hk
    rw [List.take_append_of_le_length (List.mem_range.mp hk).le]
  rw [headerReads, List.length_append, List.length_singleton, List.range_succ, List.countP_append,
    hBefore, List.countP_singleton, List.take_left]
  cases cutsHeader frames reads.flatten.length <;> rfl

/-- Without a reset the DTLS arm does what the TCP arm does, and counts. -/
theorem dtlsStreamPairs_of_not_reset {state : DtlsRecvState} {read : Bytes}
    (h : ¬(state.recv.AwaitsHeader ∧ 5 ≤ state.resetCounter)) :
    dtlsStreamPairs serde state read = (tcpStreamPairs serde state.recv read).map fun next =>
      (⟨next.1, state.resetCounter + (decide state.recv.AwaitsHeader).toNat⟩, next.2) := by
  unfold dtlsStreamPairs tcpStreamPairs
  by_cases hMore : state.recv.needMoreDataForPreviousHeader = true
  · by_cases hAction : state.recv.remainingGdpHeader.action = .noop
    · have hAwaits : state.recv.AwaitsHeader := ⟨hMore, hAction⟩
      have hCounter : ¬state.resetCounter + 1 > 5 := fun hFive => h ⟨hAwaits, by omega⟩
      simp [hMore, hAction, hCounter, hAwaits]
    · have hAwaits : ¬state.recv.AwaitsHeader := fun hBoth => hAction hBoth.2
      simp [hMore, hAction, hAwaits]
  · have hAwaits : ¬state.recv.AwaitsHeader := fun hBoth => hMore hBoth.1
    simp [hMore, hAwaits]

/-- A read that does not reset is a read of the TCP arm, and counted if it
continues a header. -/
theorem handleDtlsStreamRead_of_not_reset {state : DtlsRecvState} {read : Bytes}
    (h : ¬(state.recv.AwaitsHeader ∧ 5 ≤ state.resetCounter)) :
    handleDtlsStreamRead serde threadName state read =
      (handleTcpStreamRead serde threadName state.recv read).map fun next =>
        (⟨next.1, state.resetCounter + (decide state.recv.AwaitsHeader).toNat⟩, next.2) := by
  rw [handleDtlsStreamRead, handleTcpStreamRead, dtlsStreamPairs_of_not_reset h]
  cases tcpStreamPairs serde state.recv read <;> rfl

/-- A read that resets is thrown away together with what was kept. -/
theorem handleDtlsStreamRead_of_reset {state : DtlsRecvState} {read : Bytes}
    (hAwaits : state.recv.AwaitsHeader) (hFive : 5 ≤ state.resetCounter) :
    handleDtlsStreamRead serde threadName state read =
      .ok (⟨⟨false, state.recv.remainingGdpHeader, []⟩, 0⟩, []) := by
  rw [handleDtlsStreamRead, dtlsStreamPairs, if_pos hAwaits.1, if_pos hAwaits.2,
    if_pos (by omega)]
  rfl

/-- The two things that a read can do: reset, or what it does in the TCP arm. -/
theorem handleDtlsStreamRead_cases {state next : DtlsRecvState} {read : Bytes}
    {out : List GDPPacket}
    (h : handleDtlsStreamRead serde threadName state read = .ok (next, out)) :
    (state.recv.AwaitsHeader ∧ 5 ≤ state.resetCounter ∧
      next = ⟨⟨false, state.recv.remainingGdpHeader, []⟩, 0⟩ ∧ out = []) ∨
    (¬(state.recv.AwaitsHeader ∧ 5 ≤ state.resetCounter) ∧
      handleTcpStreamRead serde threadName state.recv read = .ok (next.recv, out) ∧
      next.resetCounter = state.resetCounter + (decide state.recv.AwaitsHeader).toNat) := by
  by_cases hReset : state.recv.AwaitsHeader ∧ 5 ≤ state.resetCounter
  · rw [handleDtlsStreamRead_of_reset hReset.1 hReset.2] at h
    cases h
    exact .inl ⟨hReset.1, hReset.2, rfl, rfl⟩
  · rw [handleDtlsStreamRead_of_not_reset hReset] at h
    obtain ⟨after, hTcp, hNext⟩ := map_eq_ok_iff.mp h
    cases hNext
    exact .inr ⟨hReset, hTcp, rfl⟩

/-- Between two reads a receiver awaits a header when the stream is cut in one. -/
theorem awaitsHeader_iff_cutsHeader {frames : List (WireFrame serde)} {state : RecvState} {n : Nat}
    (hState : state.Holds (keptAt frames n)) (hNoop : cutsNoopPayload frames n = false) :
    state.AwaitsHeader ↔ cutsHeader frames n = true := by
  unfold keptAt at hState
  unfold cutsNoopPayload at hNoop
  unfold cutsHeader
  cases hCut : cutFrame frames n with
  | none =>
      rw [hCut] at hState
      have hMore : state.needMoreDataForPreviousHeader = false := hState
      simp [RecvState.AwaitsHeader, hMore]
  | some cut =>
      obtain ⟨frame, k⟩ := cut
      rw [hCut] at hState hNoop
      simp only [Option.bind_some, keptOf] at hState
      simp only [Option.any_some, Bool.and_eq_false_iff, decide_eq_false_iff_not] at hNoop ⊢
      split at hState
      · rename_i hZero
        have hMore : state.needMoreDataForPreviousHeader = false := hState
        simp [RecvState.AwaitsHeader, hMore, hZero]
      · rename_i hPos
        split at hState
        · rename_i hText
          cases hState
          simp [RecvState.AwaitsHeader, defaultGdpHeader, hText, Nat.pos_of_ne_zero hPos]
        · rename_i hText
          have hAction := hNoop.resolve_right fun h => h (by omega)
          cases hState
          simp [RecvState.AwaitsHeader, hText, hAction]

/-- Up to five reads that begin inside a header, the DTLS arm is the TCP arm,
and its counter counts these reads. -/
theorem dtlsReads_tcpReads {frames : List (WireFrame serde)} {reads : List Bytes}
    {state : DtlsRecvState} {handed : List GDPPacket}
    (run : Run (DtlsReads serde threadName) .initial reads state handed)
    (hReads : reads.flatten <+: encode frames) (hNoop : ∀ n, cutsNoopPayload frames n = false)
    (hFive : headerReads frames reads ≤ 5) :
    Run (TcpReads serde threadName) .initial reads state.recv handed ∧
      state.resetCounter = headerReads frames reads := by
  revert hReads hFive
  apply run.history_invariant (fun state reads handed => reads.flatten <+: encode frames →
    headerReads frames reads ≤ 5 →
      Run (TcpReads serde threadName) .initial reads state.recv handed ∧
        state.resetCounter = headerReads frames reads)
  · intro _ _
    exact ⟨.nil _, rfl⟩
  · intro state reads handed read next last _ ih hRead hReads hFive
    rw [List.flatten_append, List.flatten_singleton] at hReads
    rw [headerReads_snoc] at hFive ⊢
    have hBefore := (List.prefix_append _ _).trans hReads
    obtain ⟨tcpRun, hCounter⟩ := ih hBefore (by omega)
    obtain ⟨-, hHolds⟩ := tcpReads_prefix tcpRun hBefore fun k _ => hNoop _
    have hAwaits := awaitsHeader_iff_cutsHeader hHolds (hNoop _)
    have hNoReset : ¬(state.recv.AwaitsHeader ∧ 5 ≤ state.resetCounter) := by
      intro ⟨hAwaiting, hLast⟩
      rw [hAwaits.mp hAwaiting, Bool.toNat_true] at hFive
      omega
    obtain ⟨hAwaiting, hLast, -⟩ | ⟨-, hTcp, hNext⟩ :=
      handleDtlsStreamRead_cases (dtlsReads_iff.mp hRead)
    · exact absurd ⟨hAwaiting, hLast⟩ hNoReset
    · refine ⟨tcpRun.snoc (tcpReads_iff.mpr hTcp), ?_⟩
      have hCounted : decide state.recv.AwaitsHeader = cutsHeader frames reads.flatten.length := by
        rw [Bool.eq_iff_iff, decide_eq_true_iff]
        exact hAwaits
      rw [hNext, hCounter, hCounted]

/-- With six such reads there is a read before which five have gone well. -/
theorem exists_sixth_read {frames : List (WireFrame serde)} {reads : List Bytes}
    (hSix : 5 < headerReads frames reads) :
    ∃ before read after, reads = before ++ read :: after ∧ headerReads frames before = 5 ∧
      cutsHeader frames before.flatten.length = true := by
  induction reads using List.reverseRecOn with
  | nil => cases hSix
  | append_singleton reads read ih =>
      rw [headerReads_snoc] at hSix
      by_cases hEarlier : 5 < headerReads frames reads
      · obtain ⟨before, sixth, after, rfl, hBefore⟩ := ih hEarlier
        exact ⟨before, sixth, after ++ [read], by simp, hBefore⟩
      · cases hCut : cutsHeader frames reads.flatten.length with
        | false =>
            rw [hCut, Bool.toNat_false] at hSix
            omega
        | true =>
            rw [hCut, Bool.toNat_true] at hSix
            exact ⟨reads, read, [], rfl, by omega, hCut⟩

/-! ### Behind a reset -/

variable {before after : List GDPPacket} {packet : GDPPacket}

/-- Where the payload of `packet` begins behind the frames of `before`. -/
def bodyStart (serde : SerdeJson) (before : List GDPPacket) (packet : GDPPacket) : Nat :=
  (wireBytes serde before).length + (headerString serde packet).length

/-- What is left to scan when a receiver has missed a byte of `packet`. The
buffer ends in an uninterrupted piece of the stream, behind which only `future`
is still to come. This piece begins inside the header of `packet`, or later. In
front of it there may be a text without a NUL, but only once the header is over. -/
def Late (serde : SerdeJson) (before : List GDPPacket) (packet : GDPPacket)
    (after : List GDPPacket) (buffer future : Bytes) : Prop :=
  ∃ kept chunk past, buffer = kept ++ chunk ∧ 0 ∉ kept ∧
    wireBytes serde (before ++ packet :: after) = past ++ (chunk ++ future) ∧
    (wireBytes serde before).length < past.length ∧
    (kept = [] ∨ bodyStart serde before packet ≤ past.length)

theorem wireBytes_split (before after : List GDPPacket) (packet : GDPPacket) :
    wireBytes serde (before ++ packet :: after) =
      wireBytes serde before ++ (serde.toString packet.getHeader ++
        0 :: (packet.body ++ wireBytes serde after)) := by
  simp [wireBytes, frameBytes, headerString]

/-- A text that ends in a NUL behind the first byte of a frame is a proper suffix of
its header text, or ends behind the header. -/
theorem text_behind (hSerde : serde.Lawful) {past text rest : Bytes}
    (hWire : wireBytes serde (before ++ packet :: after) = past ++ (text ++ 0 :: rest))
    (hNul : 0 ∉ text) (hPast : (wireBytes serde before).length < past.length) :
    (text <:+ serde.toString packet.getHeader ∧ text ≠ serde.toString packet.getHeader ∧
      past.length + text.length + 1 = bodyStart serde before packet) ∨
    bodyStart serde before packet ≤ past.length + text.length := by
  unfold bodyStart
  by_cases hHeader :
      past.length < (wireBytes serde before).length + (headerString serde packet).length
  · left
    rw [wireBytes_split] at hWire
    obtain ⟨missed, rfl⟩ : wireBytes serde before <+: past :=
      List.prefix_of_prefix_length_le (List.prefix_append _ _) ⟨_, hWire.symm⟩ hPast.le
    rw [List.append_assoc, List.append_cancel_left_eq] at hWire
    have hMissed : missed ≠ [] := by
      rintro rfl
      simp at hPast
    simp only [headerString, List.length_append, List.length_singleton] at hHeader ⊢
    obtain ⟨left, hLeft⟩ : missed <+: serde.toString packet.getHeader :=
      List.prefix_of_prefix_length_le ⟨_, hWire.symm⟩ (List.prefix_append _ _) (by omega)
    rw [← hLeft, List.append_assoc, List.append_cancel_left_eq] at hWire
    have hLeftNul : 0 ∉ left := fun hMem =>
      hSerde.no_nul packet.getHeader (hLeft ▸ List.mem_append_right _ hMem)
    have hSplit := congrArg (splitFirst 0) hWire
    rw [splitFirst_append 0 _ hLeftNul, splitFirst_append 0 _ hNul] at hSplit
    obtain rfl : left = text := (Prod.mk.inj hSplit).1
    refine ⟨⟨missed, hLeft⟩, ?_, ?_⟩
    · intro hSame
      rw [← hSame] at hLeft
      exact hMissed (List.append_left_eq_self.mp hLeft)
    · rw [← hLeft, List.length_append]
      omega
  · right
    omega

theorem Late.of_past {past buffer future : Bytes}
    (hWire : wireBytes serde (before ++ packet :: after) = past ++ (buffer ++ future))
    (hPast : (wireBytes serde before).length < past.length) :
    Late serde before packet after buffer future :=
  ⟨[], buffer, past, rfl, List.not_mem_nil, hWire, hPast, .inl rfl⟩

/-- Reading on makes it no earlier. -/
theorem Late.read {buffer read future : Bytes}
    (h : Late serde before packet after buffer (read ++ future)) :
    Late serde before packet after (buffer ++ read) future := by
  obtain ⟨kept, chunk, past, rfl, hNul, hWire, hPast, hKept⟩ := h
  refine ⟨kept, chunk ++ read, past, List.append_assoc _ _ _, hNul, ?_, hPast, hKept⟩
  rw [hWire, List.append_assoc]

/-- A reset only makes it later. -/
theorem Late.reset {buffer read future : Bytes}
    (h : Late serde before packet after buffer (read ++ future)) :
    Late serde before packet after [] future := by
  obtain ⟨kept, chunk, past, rfl, -, hWire, hPast, -⟩ := h
  have hLength : (wireBytes serde before).length < (past ++ (chunk ++ read)).length := by
    rw [List.length_append]
    omega
  exact .of_past (by rw [hWire]; simp) hLength

/-- Behind the first NUL of the buffer the header of `packet` is over. A text
that ends together with it is only a part of it. -/
theorem Late.behind_nul (hSerde : serde.Lawful) {text rest future : Bytes}
    (h : Late serde before packet after (text ++ 0 :: rest) future) (hNul : 0 ∉ text) :
    ∃ past, wireBytes serde (before ++ packet :: after) = past ++ (rest ++ future) ∧
      bodyStart serde before packet ≤ past.length ∧
      ((text <:+ serde.toString packet.getHeader ∧ text ≠ serde.toString packet.getHeader) ∨
        bodyStart serde before packet < past.length) := by
  obtain ⟨kept, chunk, past, hBuffer, hKeptNul, hWire, hPast, hKept⟩ := h
  have hSplit := congrArg (splitFirst 0) hBuffer
  rw [splitFirst_append 0 rest hNul, splitFirst_append_of_not_mem 0 chunk hKeptNul,
    Prod.mk.injEq] at hSplit
  obtain ⟨hText, hRest⟩ := hSplit
  have hChunk := eq_of_splitFirst_some 0 hRest.symm
  have hChunkNul := not_mem_splitFirst 0 chunk
  generalize (splitFirst 0 chunk).1 = piece at hText hChunk hChunkNul
  subst hChunk
  rw [List.append_assoc, List.cons_append] at hWire
  have hLength : (past ++ (piece ++ [0])).length = past.length + piece.length + 1 := by
    simp
    omega
  refine ⟨past ++ (piece ++ [0]), by simpa using hWire, ?_⟩
  rw [hLength]
  rcases hKept with rfl | hOver
  · rw [List.nil_append] at hText
    subst hText
    rcases text_behind hSerde hWire hNul hPast with ⟨hSuffix, hNe, hEnd⟩ | hOver
    · exact ⟨hEnd.ge, .inl ⟨hSuffix, hNe⟩⟩
    · exact ⟨by omega, .inr (by omega)⟩
  · exact ⟨by omega, .inr (by omega)⟩

/-- The text before a NUL is kept without what follows the NUL. -/
theorem Late.text (hSerde : serde.Lawful) {text rest future : Bytes}
    (h : Late serde before packet after (text ++ 0 :: rest) future) (hNul : 0 ∉ text) :
    Late serde before packet after text future := by
  have hStart : (wireBytes serde before).length < bodyStart serde before packet :=
    Nat.lt_add_of_pos_right (headerString_length_pos packet)
  obtain ⟨past, hWire, hPast, -⟩ := h.behind_nul hSerde hNul
  refine ⟨text, [], past ++ rest, (List.append_nil _).symm, hNul, ?_, ?_, .inr ?_⟩
  · rw [hWire, List.append_assoc, List.nil_append]
  · rw [List.length_append]
    omega
  · rw [List.length_append]
    omega

/-- A complete frame in the buffer ends behind where `packet` ends. -/
theorem Late.frame (hSerde : serde.Lawful) (hSuffix : serde.SuffixFree) {frame : WireFrame serde}
    {rest future : Bytes} (h : Late serde before packet after (frame.encode ++ rest) future) :
    ∃ past, wireBytes serde (before ++ packet :: after) = past ++ (rest ++ future) ∧
      bodyStart serde before packet + frame.payload.length < past.length := by
  rw [wireFrame_encode, List.append_assoc, List.cons_append] at h
  obtain ⟨past, hWire, -, hText⟩ := h.behind_nul hSerde frame.text_delim
  refine ⟨past ++ frame.payload, by simpa using hWire, ?_⟩
  rcases hText with ⟨hPart, hNe⟩ | hOver
  · have hNone := hSuffix packet.getHeader frame.text hPart hNe
    exact absurd (hNone.symm.trans frame.parsed) (by simp)
  · rw [List.length_append]
    omega

theorem bodyStart_add_body (before : List GDPPacket) (packet : GDPPacket) :
    bodyStart serde before packet + packet.body.length =
      (wireBytes serde (before ++ [packet])).length := by
  simp [bodyStart, wireBytes, frameBytes]
  omega

/-- A buffer that begins behind the end of `packet` is late for the next packet. -/
theorem Late.next {past buffer future : Bytes}
    (hWire : wireBytes serde (before ++ packet :: after) = past ++ (buffer ++ future))
    (hPast : (wireBytes serde (before ++ [packet])).length < past.length) :
    ∃ next later, after = next :: later ∧
      Late serde (before ++ [packet]) next later buffer future := by
  cases after with
  | nil =>
      -- Nothing lies behind the last packet.
      have hLength := congrArg List.length hWire
      simp only [List.length_append] at hLength
      omega
  | cons next later =>
      have hSplit : before ++ packet :: next :: later = before ++ [packet] ++ next :: later := by
        simp
      exact ⟨next, later, rfl, .of_past (hSplit ▸ hWire) hPast⟩

/-- What is handed on for a packet has a payload of at least its length. -/
theorem body_length_le_of_dispatch {header : GDPPacketInTransit} {payload : Bytes}
    (hPacket : packet.Sendable)
    (h : dispatch threadName header payload = some (packet.receivedBy threadName)) :
    packet.body.length ≤ payload.length := by
  obtain ⟨action, gdpname, body, source⟩ := packet
  unfold dispatch constructGdpForwardFromBytes constructGdpAdvertisementFromBytes at h
  rcases hPacket.shaped with ⟨hAction, bytes, hBody⟩ | ⟨hAction, hBody⟩
  · simp only at hAction hBody
    subst hAction hBody
    split at h
    · simp only [GDPPacket.receivedBy, Option.some.injEq, GDPPacket.mk.injEq] at h
      exact (congrArg List.length h.2.2.1).ge
    · split at h <;> simp [GDPPacket.receivedBy] at h
  · simp only at hBody
    subst hBody
    exact Nat.zero_le _

/-- One scan of a late buffer. If what it hands on are the next packets of the
stream, it stops short of their end and leaves a late buffer again. -/
theorem late_scan (hSerde : serde.Lawful) (hSuffix : serde.SuffixFree)
    {buffer future : Bytes} {result : ParseResult}
    (hLate : Late serde before packet after buffer future)
    (hSendable : ∀ other ∈ packet :: after, other.Sendable)
    (hOk : parseHeaderPayloadPairs serde buffer = .ok result) {rest : List GDPPacket}
    (hHanded : dispatchPairs threadName result.1 ++ rest =
      (packet :: after).map (·.receivedBy threadName)) :
    ∃ done next later carried, packet :: after = done ++ next :: later ∧
      rest = (next :: later).map (·.receivedBy threadName) ∧ Tail serde result.2 carried ∧
      Late serde (before ++ done) next later carried future := by
  obtain ⟨frames, tail, hResult⟩ := exists_decomposes hOk
  obtain ⟨pairs, remaining⟩ := result
  obtain ⟨rfl, hPairs, hRemainder⟩ := hResult
  change pairs = _ at hPairs
  change Remainder serde tail remaining at hRemainder
  subst hPairs
  clear hOk
  induction frames generalizing before packet after rest with
  | nil =>
      cases hRemainder with
      | nothing => exact ⟨[], packet, after, [], rfl, hHanded, .boundary, by simpa using hLate⟩
      | header hTail hParse =>
          refine ⟨[], packet, after, _, rfl, hHanded, .header _, ?_⟩
          rw [encode_nil, List.nil_append] at hLate
          rw [List.append_nil]
          by_cases hNul : 0 ∈ tail
          · obtain ⟨text, behind, rfl, hText⟩ := List.eq_append_cons_of_mem hNul
            rw [splitFirst_append 0 behind hText]
            exact hLate.text hSerde hText
          · rw [splitFirst_of_not_mem 0 hNul]
            exact hLate
      | @payload text payload header hNul hUtf8 hParse hLength =>
          rw [encode_nil, List.nil_append] at hLate
          by_cases hAction : header.action = .noop
          · obtain ⟨past, hWire, hPast, -⟩ := hLate.behind_nul hSerde hNul
            have hStart : 0 < (headerString serde packet).length := headerString_length_pos packet
            refine ⟨[], packet, after, payload, rfl, hHanded, .noop payload hAction, ?_⟩
            rw [List.append_nil]
            apply Late.of_past hWire
            unfold bodyStart at hPast
            omega
          · exact ⟨[], packet, after, _, rfl, hHanded, .payload hAction hNul hUtf8 hParse hLength,
              by simpa using hLate⟩
  | cons frame frames ih =>
      rw [encode_cons, List.append_assoc] at hLate
      obtain ⟨past, hWire, hPast⟩ := hLate.frame hSerde hSuffix
      simp only [List.map_cons, dispatchPairs, List.filterMap_cons, Frame.decoded] at hHanded
      cases hDispatch : dispatch threadName frame.header frame.payload with
      | none =>
          rw [hDispatch] at hHanded
          have hBehind : Late serde before packet after (encode frames ++ tail) future := by
            apply Late.of_past hWire
            unfold bodyStart at hPast
            omega
          exact ih hSendable hBehind hHanded
      | some handed =>
          rw [hDispatch] at hHanded
          simp only [List.cons_append, List.cons.injEq] at hHanded
          obtain ⟨rfl, hHanded⟩ := hHanded
          have hBody := body_length_le_of_dispatch (hSendable packet List.mem_cons_self) hDispatch
          have hEnd := @bodyStart_add_body serde before packet
          obtain ⟨next, later, rfl, hNext⟩ := Late.next hWire (by omega)
          have hStill : ∀ other ∈ next :: later, other.Sendable := fun other hOther =>
            hSendable other (List.mem_cons_of_mem _ hOther)
          obtain ⟨done, last, final, carried, hDone, hRest, hTail, hCarried⟩ :=
            ih hStill hNext hHanded
          refine ⟨packet :: done, last, final, carried, ?_, hRest, hTail, ?_⟩
          · rw [hDone, List.cons_append]
          · simpa using hCarried

/-- A receiver that is late never hands on all that is left of the stream. -/
theorem late_run (hSerde : serde.Lawful) (hSuffix : serde.SuffixFree) {state finish : DtlsRecvState}
    {carried : Bytes} {reads : List Bytes} {handed : List GDPPacket}
    (run : Run (DtlsReads serde threadName) state reads finish handed)
    (hState : Carries serde state.recv carried)
    (hLate : Late serde before packet after carried reads.flatten)
    (hSendable : ∀ other ∈ packet :: after, other.Sendable) :
    handed ≠ (packet :: after).map (·.receivedBy threadName) := by
  induction run generalizing before packet after carried with
  | nil => simp
  | @cons state middle finish read reads out rest first _ ih =>
      rw [List.flatten_cons] at hLate
      rw [dtlsReads_iff] at first
      intro hHanded
      obtain ⟨-, -, rfl, rfl⟩ | ⟨-, hTcp, -⟩ := handleDtlsStreamRead_cases first
      · exact ih (.boundary rfl) hLate.reset hSendable hHanded
      · obtain ⟨result, hParse, hMiddle, rfl⟩ := (handleTcpStreamRead_iff_scan hState).mp hTcp
        obtain ⟨done, next, later, kept, hDone, hRest, hTail, hKept⟩ :=
          late_scan hSerde hSuffix hLate.read hSendable hParse hHanded
        have hStill : ∀ other ∈ next :: later, other.Sendable := fun other hOther =>
          hSendable other (hDone ▸ List.mem_append_right _ hOther)
        have hCarries : Carries serde middle.recv kept :=
          hMiddle ▸ (finish_holds state.recv result).carries hTail
        exact ih hCarries hKept hStill hRest

end Reset

/-- The packet whose header a cut falls into, and the packets before it. -/
theorem exists_packet_of_cutsHeader {serde : SerdeJson} (hSerde : serde.Lawful)
    {packets : List GDPPacket} (hSized : ∀ packet ∈ packets, packet.Sized) {n : Nat}
    (hCut : cutsHeader (packetFrames hSerde packets hSized) n = true) :
    ∃ packet later, packets = completePackets serde packets n ++ packet :: later ∧
      (wireBytes serde (completePackets serde packets n)).length < n := by
  unfold cutsHeader at hCut
  cases hFrame : cutFrame (packetFrames hSerde packets hSized) n with
  | none => simp [hFrame] at hCut
  | some cut =>
      obtain ⟨frame, k⟩ := cut
      simp only [hFrame, Option.any_some, Bool.and_eq_true, decide_eq_true_eq] at hCut
      obtain ⟨-, rest, hSplit, hLength⟩ := cutItem_eq_some _ hFrame
      change _ = completeFrames (packetFrames hSerde packets hSized) n ++ _ at hSplit
      change _ = ((completeFrames (packetFrames hSerde packets hSized) n).map _).sum + _ at hLength
      rw [completeFrames_packetFrames] at hSplit hLength
      rw [← length_encode, encode_packetFrames] at hLength
      obtain ⟨tail, hTail⟩ := completeWithin_isPrefix
        (fun packet => (frameBytes serde packet).length) packets n
      change completePackets serde packets n ++ tail = packets at hTail
      cases tail with
      | nil =>
          -- A frame lies behind the complete ones, so a packet does.
          have hCount := congrArg List.length hSplit
          have hSame := congrArg List.length hTail
          simp only [packetFrames, List.length_pmap, List.length_append, List.length_cons,
            List.length_nil] at hCount hSame
          omega
      | cons packet later => exact ⟨packet, later, hTail.symm, by omega⟩

/-- On a stream of packets that neither arm panics on, the two arms hand on the
same packets exactly when at most five reads begin inside a header. -/
theorem dtls_agrees_with_tcp_iff {serde : SerdeJson} (hSerde : serde.Lawful)
    (hSuffix : serde.SuffixFree) {threadName : GDPName} {packets : List GDPPacket}
    (hSendable : ∀ packet ∈ packets, packet.Sendable) {reads : List Bytes}
    (hCut : reads.flatten = wireBytes serde packets) {tcpState : RecvState}
    {dtlsState : DtlsRecvState} {tcpHanded dtlsHanded : List GDPPacket}
    (tcpRun : Run (TcpReads serde threadName) .initial reads tcpState tcpHanded)
    (dtlsRun : Run (DtlsReads serde threadName) .initial reads dtlsState dtlsHanded) :
    dtlsHanded = tcpHanded ↔ headerReads (packetFrames hSerde packets
      fun packet hPacket => (hSendable packet hPacket).sized) reads ≤ 5 := by
  have hSized : ∀ packet ∈ packets, packet.Sized := fun packet hPacket =>
    (hSendable packet hPacket).sized
  have hReads : reads.flatten <+: encode (packetFrames hSerde packets hSized) := by
    rw [encode_packetFrames, hCut]
  have hNoop := cutsNoopPayload_packetFrames hSerde hSized hSendable
  constructor
  · intro hSame
    by_contra hMany
    obtain ⟨before, read, after, rfl, hFive, hInside⟩ := exists_sixth_read (not_le.mp hMany)
    obtain ⟨packet, later, hPackets, hBehind⟩ := exists_packet_of_cutsHeader hSerde hSized hInside
    -- Up to here the arms agree, and the next read is thrown away.
    obtain ⟨middle, left, right, dtlsBefore, dtlsAfter, hHanded⟩ := run_append_iff.mp dtlsRun
    have hBefore : before.flatten <+: encode (packetFrames hSerde packets hSized) := by
      rw [List.flatten_append] at hReads
      exact (List.prefix_append _ _).trans hReads
    obtain ⟨tcpBefore, hCounter⟩ := dtlsReads_tcpReads dtlsBefore hBefore hNoop hFive.le
    obtain ⟨hLeft, hHolds⟩ := tcpReads_prefix tcpBefore hBefore fun k _ => hNoop _
    have hAwaits := (awaitsHeader_iff_cutsHeader hHolds (hNoop _)).mpr hInside
    have hTcp := handleTcpStream_frames
      (hCut.trans (encode_packetFrames hSerde hSized).symm) (fun k _ => hNoop _) tcpRun
    have hEarlier : ∀ other ∈ completePackets serde packets before.flatten.length,
        other.Sendable := fun other hOther =>
      hSendable other (hPackets ▸ List.mem_append_left _ hOther)
    rw [dispatchPairs_packetFrames hSerde threadName _ hSendable] at hTcp
    rw [completeFrames_packetFrames, dispatchPairs_packetFrames hSerde threadName _ hEarlier]
      at hLeft
    generalize completePackets serde packets before.flatten.length = done at hPackets hBehind hLeft
    cases dtlsAfter with
    | @cons _ next _ _ _ out rest first dtlsRest =>
        rw [dtlsReads_iff, handleDtlsStreamRead_of_reset hAwaits (hCounter.trans hFive).ge] at first
        cases first
        have hWire : wireBytes serde (done ++ packet :: later) =
            before.flatten ++ read ++ ([] ++ after.flatten) := by
          rw [← hPackets, ← hCut]
          simp
        have hLate : Late serde done packet later [] after.flatten := by
          apply Late.of_past hWire
          rw [List.length_append]
          omega
        have hLater : ∀ other ∈ packet :: later, other.Sendable := fun other hOther =>
          hSendable other (hPackets ▸ List.mem_append_right _ hOther)
        rw [hSame, hTcp, hLeft, hPackets, List.map_append, List.append_cancel_left_eq] at hHanded
        exact late_run hSerde hSuffix dtlsRest (.boundary rfl) hLate hLater hHanded.symm
  · intro hFew
    obtain ⟨sameRun, -⟩ := dtlsReads_tcpReads dtlsRun hReads hNoop hFew
    exact (ofOption_functional tcpRun sameRun).2

namespace DtlsResetExample

def packet : GDPPacket := ⟨.forward, .ofBytes 1 2 3 4, some [5, 6], .ofBytes 9 9 9 9⟩

def threadName : GDPName := .ofBytes 7 7 7 7

/-- The wire image of `count` messages of 58 bytes, cut ten bytes behind the
beginning of each. -/
def reads (count : Nat) : List Bytes :=
  let wire := wireBytes compactJson (List.replicate count packet)
  wire.take 10 :: (List.range count).map fun k => (wire.drop (10 + 58 * k)).take 58

def received (count : Nat) : List GDPPacket :=
  List.replicate count (packet.receivedBy threadName)

/-- The TCP arm gets everything. -/
theorem tcp_run (count : Nat) (h : count ∈ [5, 6]) :
    Run (TcpReads compactJson threadName) .initial (reads count) .initial (received count) := by
  have hBoth : ∀ count ∈ [5, 6],
      runOption (fun state read => (handleTcpStreamRead compactJson threadName state read).toOption)
        .initial (reads count) = some (.initial, received count) := by decide +kernel
  exact runOption_eq_some_iff.mp (hBoth count h)

/-- The sixth message is lost with the read that would have completed it. -/
theorem dtls_run (count : Nat) (h : count ∈ [5, 6]) :
    Run (DtlsReads compactJson threadName) .initial (reads count) ⟨.initial, (6 - count) * 5⟩
      (received 5) := by
  have hBoth : ∀ count ∈ [5, 6],
      runOption (fun state read =>
        (handleDtlsStreamRead compactJson threadName state read).toOption)
        .initial (reads count) = some (⟨.initial, (6 - count) * 5⟩, received 5) := by decide +kernel
  exact runOption_eq_some_iff.mp (hBoth count h)

end DtlsResetExample

open DtlsResetExample in
/-- Six messages with one cut in each header: the DTLS arm hands on five. -/
theorem dtls_loses_sixth :
    ((reads 6).flatten = wireBytes compactJson (List.replicate 6 packet) ∧
      ∀ read ∈ reads 6, read ≠ [] ∧ read.length ≤ udpBufferSize) ∧
    ∃ tcpState dtlsState tcpHanded dtlsHanded,
      Run (TcpReads compactJson threadName) .initial (reads 6) tcpState tcpHanded ∧
      Run (DtlsReads compactJson threadName) .initial (reads 6) dtlsState dtlsHanded ∧
      dtlsHanded ≠ tcpHanded :=
  ⟨⟨by decide +kernel, by decide +kernel⟩, _, _, _, _, tcp_run 6 (by decide),
    dtls_run 6 (by decide), by decide +kernel⟩

open DtlsResetExample in
/-- With five messages the counter reaches its limit and nothing is lost. -/
theorem dtls_agrees_with_tcp_example :
    ∃ tcpState dtlsState tcpHanded dtlsHanded,
      Run (TcpReads compactJson threadName) .initial (reads 5) tcpState tcpHanded ∧
      Run (DtlsReads compactJson threadName) .initial (reads 5) dtlsState dtlsHanded ∧
      dtlsHanded = tcpHanded := by
  have hSendable : ∀ other ∈ List.replicate 5 packet, other.Sendable := by
    intro other hOther
    rw [List.eq_of_mem_replicate hOther]
    exact ⟨.inl ⟨rfl, _, rfl⟩, by decide⟩
  have hFew : headerReads (packetFrames compactJson_lawful (List.replicate 5 packet) (by decide))
      (reads 5) ≤ 5 := by decide +kernel
  have tcpRun := tcp_run 5 (by decide)
  have dtlsRun := dtls_run 5 (by decide)
  exact ⟨_, _, _, _, tcpRun, dtlsRun, (dtls_agrees_with_tcp_iff compactJson_lawful
    compactJson_suffixFree hSendable (by decide +kernel) tcpRun dtlsRun).mpr hFew⟩

end GdpRouter
