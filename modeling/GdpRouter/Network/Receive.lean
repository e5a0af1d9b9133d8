import GdpRouter.Network.ParseSpec
import GdpRouter.Pipeline
import GdpRouter.Semantics.Run

/-! The receive arms of `handle_tcp_stream` and `handle_dtls_stream`. One call
handles the bytes of one read: it collects pairs of headers and payloads, and its
dispatch loop hands packets to `proc_gdp_packet`, in order. The two arms share
their continuation branches, and the DTLS arm also counts the reads on which a
header stayed incomplete. -/
namespace GdpRouter

open Framing Transition

def udpBufferSize : Nat := 17480

/-- The variables that live across the reads of one connection. -/
structure RecvState where
  needMoreDataForPreviousHeader : Bool
  remainingGdpHeader : GDPPacketInTransit
  remainingGdpPayload : Bytes
  deriving DecidableEq, Repr

def RecvState.initial : RecvState := ⟨false, defaultGdpHeader, []⟩

/-- The `match` on the remaining header, and the pairs for the dispatch loop before
it. The old header is kept when nothing remains. -/
def RecvState.finish (state : RecvState) (result : ParseResult) :
    RecvState × List HeaderPayload :=
  (match result.2 with
    | some (header, payload) => ⟨true, header, payload⟩
    | none => ⟨false, state.remainingGdpHeader, []⟩, result.1)

/-- Scan `receivingBuf` and put its pairs behind those completed earlier. -/
def RecvState.scan (state : RecvState) (serde : SerdeJson)
    (headerPayloadPair : List HeaderPayload) (receivingBuf : Bytes) :
    Except Panic (RecvState × List HeaderPayload) :=
  (parseHeaderPayloadPairs serde receivingBuf).map fun processed =>
    state.finish (processed.prepend headerPayloadPair)

/-- A read while the payload of `remainingGdpHeader` is incomplete. With too few
bytes the source continues its outer loop before the dispatch loop. -/
def RecvState.continuePayload (state : RecvState) (serde : SerdeJson) (receivingBuf : Bytes) :
    Except Panic (RecvState × List HeaderPayload) :=
  let header := state.remainingGdpHeader
  let readPayloadSize := state.remainingGdpPayload.length + receivingBuf.length
  if readPayloadSize < header.length then
    .ok ({ state with remainingGdpPayload := state.remainingGdpPayload ++ receivingBuf }, [])
  else if readPayloadSize = header.length then
    state.scan serde [(header, state.remainingGdpPayload ++ receivingBuf)] []
  else if header.length < state.remainingGdpPayload.length then .error .numRemaining
  else
    let numRemaining := header.length - state.remainingGdpPayload.length
    if receivingBuf.length < numRemaining then .error .receivingBuf
    else
      state.scan serde [(header, state.remainingGdpPayload ++ receivingBuf.take numRemaining)]
        (receivingBuf.drop numRemaining)

/-- The vector `header_payload_pair` of one read in `handle_tcp_stream`, and the
state behind it. -/
def tcpStreamPairs (serde : SerdeJson) (state : RecvState) (receivingBuf : Bytes) :
    Except Panic (RecvState × List HeaderPayload) :=
  if state.needMoreDataForPreviousHeader then
    if state.remainingGdpHeader.action = .noop then
      state.scan serde [] (state.remainingGdpPayload ++ receivingBuf)
    else state.continuePayload serde receivingBuf
  else state.scan serde [] receivingBuf

/-- The dispatch loop. -/
def dispatchPairs (threadName : GDPName) (pairs : List HeaderPayload) : List GDPPacket :=
  pairs.filterMap fun pair => dispatch threadName pair.1 pair.2

@[simp] theorem dispatchPairs_nil (threadName : GDPName) : dispatchPairs threadName [] = [] := rfl

@[simp] theorem dispatchPairs_append (threadName : GDPName) (first second : List HeaderPayload) :
    dispatchPairs threadName (first ++ second) =
      dispatchPairs threadName first ++ dispatchPairs threadName second :=
  List.filterMap_append ..

/-- One read in `handle_tcp_stream`. -/
def handleTcpStreamRead (serde : SerdeJson) (threadName : GDPName) (state : RecvState)
    (receivingBuf : Bytes) : Except Panic (RecvState × List GDPPacket) :=
  (tcpStreamPairs serde state receivingBuf).map fun read =>
    (read.1, dispatchPairs threadName read.2)

/-- The DTLS arm also keeps `reset_counter`. -/
structure DtlsRecvState where
  recv : RecvState
  resetCounter : Nat
  deriving DecidableEq, Repr

def DtlsRecvState.initial : DtlsRecvState := ⟨.initial, 0⟩

/-- The vector of one read in `handle_dtls_stream`. The sixth read that is put
behind an incomplete header empties the buffer and the counter instead of being
scanned. -/
def dtlsStreamPairs (serde : SerdeJson) (state : DtlsRecvState) (receivingBuf : Bytes) :
    Except Panic (DtlsRecvState × List HeaderPayload) :=
  if state.recv.needMoreDataForPreviousHeader then
    if state.recv.remainingGdpHeader.action = .noop then
      if state.resetCounter + 1 > 5 then
        (state.recv.scan serde [] []).map fun read => (⟨read.1, 0⟩, read.2)
      else
        (state.recv.scan serde [] (state.recv.remainingGdpPayload ++ receivingBuf)).map
          fun read => (⟨read.1, state.resetCounter + 1⟩, read.2)
    else
      (state.recv.continuePayload serde receivingBuf).map
        fun read => (⟨read.1, state.resetCounter⟩, read.2)
  else
    (state.recv.scan serde [] receivingBuf).map
      fun read => (⟨read.1, state.resetCounter⟩, read.2)

/-- One read in `handle_dtls_stream`. -/
def handleDtlsStreamRead (serde : SerdeJson) (threadName : GDPName) (state : DtlsRecvState)
    (receivingBuf : Bytes) : Except Panic (DtlsRecvState × List GDPPacket) :=
  (dtlsStreamPairs serde state receivingBuf).map fun read =>
    (read.1, dispatchPairs threadName read.2)

/-- The reads of one TCP connection. A run exists exactly while nothing panics. -/
def TcpReads (serde : SerdeJson) (threadName : GDPName) : Step RecvState Bytes GDPPacket :=
  OfExcept (handleTcpStreamRead serde threadName)

def DtlsReads (serde : SerdeJson) (threadName : GDPName) : Step DtlsRecvState Bytes GDPPacket :=
  OfExcept (handleDtlsStreamRead serde threadName)

theorem tcpReads_iff {serde : SerdeJson} {threadName : GDPName} {state next : RecvState}
    {receivingBuf : Bytes} {out : List GDPPacket} :
    TcpReads serde threadName state receivingBuf next out ↔
      handleTcpStreamRead serde threadName state receivingBuf = .ok (next, out) :=
  toOption_eq_some_iff

theorem dtlsReads_iff {serde : SerdeJson} {threadName : GDPName} {state next : DtlsRecvState}
    {receivingBuf : Bytes} {out : List GDPPacket} :
    DtlsReads serde threadName state receivingBuf next out ↔
      handleDtlsStreamRead serde threadName state receivingBuf = .ok (next, out) :=
  toOption_eq_some_iff

/-- The bytes since the last frame boundary that a state stands for. An
incomplete header is buffered itself; of a frame with a short payload only the
parsed header and the payload are kept, so its text is existential. -/
inductive Carries (serde : SerdeJson) (state : RecvState) : Bytes → Prop where
  | boundary (hMore : state.needMoreDataForPreviousHeader = false) : Carries serde state []
  | header (hMore : state.needMoreDataForPreviousHeader = true)
      (hAction : state.remainingGdpHeader.action = .noop) :
      Carries serde state state.remainingGdpPayload
  | payload {text : Bytes} (hMore : state.needMoreDataForPreviousHeader = true)
      (hAction : state.remainingGdpHeader.action ≠ .noop) (hNul : 0 ∉ text)
      (hUtf8 : validUtf8 text = true) (hParse : serde.fromStr text = some state.remainingGdpHeader)
      (hLength : state.remainingGdpPayload.length < state.remainingGdpHeader.length) :
      Carries serde state (text ++ 0 :: state.remainingGdpPayload)

section Carry

variable {serde : SerdeJson} {threadName : GDPName} {state : RecvState}

theorem carries_initial : Carries serde .initial [] := .boundary rfl

/-- Handing the pairs on does not fail. -/
theorem map_dispatchPairs_eq_ok_iff {σ : Type} {result : Except Panic (σ × List HeaderPayload)}
    {next : σ} {out : List GDPPacket} :
    (result.map fun read => (read.1, dispatchPairs threadName read.2)) = .ok (next, out) ↔
      ∃ pairs, result = .ok (next, pairs) ∧ out = dispatchPairs threadName pairs := by
  rw [map_eq_ok_iff]
  simp only [Prod.exists, Prod.mk.injEq, eq_comm]
  constructor
  · rintro ⟨_, pairs, hPairs, rfl, hOut⟩
    exact ⟨pairs, hPairs, hOut⟩
  · rintro ⟨pairs, hPairs, hOut⟩
    exact ⟨_, pairs, hPairs, rfl, hOut⟩

theorem handleTcpStreamRead_eq_ok_iff {receivingBuf : Bytes} {next : RecvState}
    {out : List GDPPacket} :
    handleTcpStreamRead serde threadName state receivingBuf = .ok (next, out) ↔
      ∃ pairs, tcpStreamPairs serde state receivingBuf = .ok (next, pairs) ∧
        out = dispatchPairs threadName pairs :=
  map_dispatchPairs_eq_ok_iff

theorem handleDtlsStreamRead_eq_ok_iff {state next : DtlsRecvState} {receivingBuf : Bytes}
    {out : List GDPPacket} :
    handleDtlsStreamRead serde threadName state receivingBuf = .ok (next, out) ↔
      ∃ pairs, dtlsStreamPairs serde state receivingBuf = .ok (next, pairs) ∧
        out = dispatchPairs threadName pairs :=
  map_dispatchPairs_eq_ok_iff

/-- A scan is one parse of the buffer, and its pairs come behind the first ones. -/
theorem scan_eq_ok_iff {first pairs : List HeaderPayload} {receivingBuf : Bytes}
    {next : RecvState} :
    state.scan serde first receivingBuf = .ok (next, pairs) ↔
      ∃ result, parseHeaderPayloadPairs serde receivingBuf = .ok result ∧
        next = (state.finish result).1 ∧ pairs = first ++ result.1 := by
  rw [RecvState.scan, map_eq_ok_iff]
  simp only [Prod.ext_iff, eq_comm]
  rfl

/-- Scanning a buffer that starts with a complete frame. -/
theorem scan_frame (frame : WireFrame serde) (rest : Bytes) :
    state.scan serde [] (frame.encode ++ rest) =
      state.scan serde [frame.decoded] rest := by
  unfold RecvState.scan
  rw [parseHeaderPayloadPairs_frame]
  cases parseHeaderPayloadPairs serde rest with
  | error panic => rfl
  | ok result => simp [Except.map, ParseResult.prepend]

/-- Scanning a buffer that holds a header and only a part of its payload. -/
theorem scan_short {text payload : Bytes} {header : GDPPacketInTransit} (hNul : 0 ∉ text)
    (hUtf8 : validUtf8 text = true) (hParse : serde.fromStr text = some header)
    (hLength : payload.length < header.length) :
    state.scan serde [] (text ++ 0 :: payload) = .ok (⟨true, header, payload⟩, []) := by
  unfold RecvState.scan
  rw [parseHeaderPayloadPairs_of_ne_nil (by simp), parseLoop_short _ hNul hUtf8 hParse hLength]
  rfl

/-- The four continuation branches together amount to scanning the carried
bytes again with the new ones behind them. -/
theorem continuePayload_eq_scan {text : Bytes} (receivingBuf : Bytes)
    (hMore : state.needMoreDataForPreviousHeader = true) (hNul : 0 ∉ text)
    (hUtf8 : validUtf8 text = true) (hParse : serde.fromStr text = some state.remainingGdpHeader)
    (hLength : state.remainingGdpPayload.length < state.remainingGdpHeader.length) :
    state.continuePayload serde receivingBuf =
      state.scan serde [] (text ++ 0 :: (state.remainingGdpPayload ++ receivingBuf)) := by
  obtain ⟨more, header, payload⟩ := state
  simp only at hMore hParse hLength
  subst hMore
  simp only [RecvState.continuePayload]
  split
  · rename_i hShort
    rw [scan_short hNul hUtf8 hParse (by simpa using hShort)]
  · -- The payload is all there: what precedes the rest is one complete frame.
    rename_i hWhole
    let received := receivingBuf.take (header.length - payload.length)
    let frame : WireFrame serde := ⟨text, header, payload ++ received, hUtf8, hNul, hParse, by
      simp only [received, headerCodec, List.length_append, List.length_take]
      omega⟩
    have hBytes : text ++ 0 :: (payload ++ receivingBuf) =
        frame.encode ++ receivingBuf.drop (header.length - payload.length) := by
      simp [frame, received, Frame.encode, headerCodec]
    rw [hBytes, scan_frame]
    split
    · rename_i hExact
      have hAll : header.length - payload.length = receivingBuf.length := by omega
      simp [frame, received, Frame.decoded, hAll]
    · rw [if_neg (by omega), if_neg (by omega)]
      rfl

/-- The TCP arm scans what it has kept together with what it reads. -/
theorem tcpStreamPairs_eq_scan {carried : Bytes} (h : Carries serde state carried)
    (receivingBuf : Bytes) :
    tcpStreamPairs serde state receivingBuf =
      state.scan serde [] (carried ++ receivingBuf) := by
  unfold tcpStreamPairs
  cases h with
  | boundary hMore => simp [hMore]
  | header hMore hAction => simp [hMore, hAction]
  | payload hMore hAction hNul hUtf8 hParse hLength =>
      rw [if_pos hMore, if_neg hAction,
        continuePayload_eq_scan receivingBuf hMore hNul hUtf8 hParse hLength]
      simp

/-- A read is a scan of all the bytes since the last frame boundary. -/
theorem handleTcpStreamRead_iff_scan {carried : Bytes} (h : Carries serde state carried)
    {receivingBuf : Bytes} {next : RecvState} {out : List GDPPacket} :
    handleTcpStreamRead serde threadName state receivingBuf = .ok (next, out) ↔
      ∃ result, parseHeaderPayloadPairs serde (carried ++ receivingBuf) = .ok result ∧
        next = (state.finish result).1 ∧ out = dispatchPairs threadName result.1 := by
  rw [handleTcpStreamRead_eq_ok_iff, tcpStreamPairs_eq_scan h]
  simp only [scan_eq_ok_iff, List.nil_append]
  constructor
  · rintro ⟨_, ⟨result, hParse, hNext, rfl⟩, hOut⟩
    exact ⟨result, hParse, hNext, hOut⟩
  · rintro ⟨result, hParse, hNext, hOut⟩
    exact ⟨_, ⟨result, hParse, hNext, rfl⟩, hOut⟩

/-- What a scan leaves behind, as the bytes that the next read will follow. -/
inductive Tail (serde : SerdeJson) : Option HeaderPayload → Bytes → Prop where
  | boundary : Tail serde none []
  | header (text : Bytes) : Tail serde (some (defaultGdpHeader, text)) text
  | noop {header : GDPPacketInTransit} (payload : Bytes) (hAction : header.action = .noop) :
      Tail serde (some (header, payload)) payload
  | payload {text payload : Bytes} {header : GDPPacketInTransit} (hAction : header.action ≠ .noop)
      (hNul : 0 ∉ text) (hUtf8 : validUtf8 text = true) (hParse : serde.fromStr text = some header)
      (hLength : payload.length < header.length) :
      Tail serde (some (header, payload)) (text ++ 0 :: payload)

/-- The state remembers just this header and these bytes. -/
def RecvState.Holds (state : RecvState) : Option HeaderPayload → Prop
  | none => state.needMoreDataForPreviousHeader = false
  | some (header, payload) => state = ⟨true, header, payload⟩

theorem finish_holds (state : RecvState) (result : ParseResult) :
    (state.finish result).1.Holds result.2 := by
  obtain ⟨pairs, remaining⟩ := result
  cases remaining <;> rfl

/-- The kept header and bytes stand for the unparsed end of the buffer. -/
theorem RecvState.Holds.carries {remaining : Option HeaderPayload} {carried : Bytes}
    (hState : state.Holds remaining) (h : Tail serde remaining carried) :
    Carries serde state carried := by
  cases h with
  | boundary => exact .boundary hState
  | header text => cases hState; exact .header rfl rfl
  | noop payload hAction => cases hState; exact .header rfl hAction
  | payload hAction hNul hUtf8 hParse hLength =>
      cases hState
      exact .payload rfl hAction hNul hUtf8 hParse hLength

theorem Tail.carries {result : ParseResult} {carried : Bytes} (h : Tail serde result.2 carried) :
    Carries serde (state.finish result).1 carried :=
  (finish_holds state result).carries h

/-- Every parse leaves some end of its buffer. -/
theorem exists_tail {buffer : Bytes} {result : ParseResult}
    (h : parseHeaderPayloadPairs serde buffer = .ok result) :
    ∃ carried, Tail serde result.2 carried := by
  obtain ⟨frames, tail, hResult⟩ := exists_decomposes h
  obtain ⟨pairs, remaining⟩ := result
  have hRemainder : Remainder serde tail remaining := hResult.remainder
  cases hRemainder with
  | nothing => exact ⟨_, .boundary⟩
  | @payload text payload header hNul hUtf8 hParse hLength =>
      by_cases hAction : header.action = .noop
      · exact ⟨_, .noop payload hAction⟩
      · exact ⟨_, .payload hAction hNul hUtf8 hParse hLength⟩
  | header => exact ⟨_, .header _⟩

/-- Every scan that does not panic leaves a state that stands for some bytes. -/
theorem scan_carries {first pairs : List HeaderPayload} {receivingBuf : Bytes} {next : RecvState}
    (h : state.scan serde first receivingBuf = .ok (next, pairs)) :
    ∃ kept, Carries serde next kept := by
  obtain ⟨result, hParse, rfl, -⟩ := scan_eq_ok_iff.mp h
  obtain ⟨kept, hKept⟩ := exists_tail hParse
  exact ⟨kept, Tail.carries hKept⟩

/-- Going on with a payload keeps the state in order. -/
theorem continuePayload_carries {carried receivingBuf : Bytes} {next : RecvState}
    {pairs : List HeaderPayload} (h : Carries serde state carried)
    (hMore : state.needMoreDataForPreviousHeader = true)
    (hAction : state.remainingGdpHeader.action ≠ .noop)
    (hRead : state.continuePayload serde receivingBuf = .ok (next, pairs)) :
    ∃ kept, Carries serde next kept := by
  cases h with
  | boundary hDone => simp [hMore] at hDone
  | header _ hNoop => exact absurd hNoop hAction
  | payload _ _ hNul hUtf8 hParse hLength =>
      rw [continuePayload_eq_scan receivingBuf hMore hNul hUtf8 hParse hLength] at hRead
      exact scan_carries hRead

theorem handleTcpStreamRead_carries {carried : Bytes} (h : Carries serde state carried)
    {receivingBuf : Bytes} {next : RecvState} {out : List GDPPacket}
    (hRead : handleTcpStreamRead serde threadName state receivingBuf = .ok (next, out)) :
    ∃ kept, Carries serde next kept := by
  obtain ⟨pairs, hPairs, -⟩ := handleTcpStreamRead_eq_ok_iff.mp hRead
  exact scan_carries (tcpStreamPairs_eq_scan h receivingBuf ▸ hPairs)

/-- The counter of the DTLS arm rides along: without it each read is one of the
scans and continuations of the TCP arm. -/
theorem handleDtlsStreamRead_carries {state next : DtlsRecvState} {carried : Bytes}
    (h : Carries serde state.recv carried) {receivingBuf : Bytes} {out : List GDPPacket}
    (hRead : handleDtlsStreamRead serde threadName state receivingBuf = .ok (next, out)) :
    ∃ kept, Carries serde next.recv kept := by
  obtain ⟨pairs, hPairs, -⟩ := handleDtlsStreamRead_eq_ok_iff.mp hRead
  have hMap : ∀ {result : Except Panic (RecvState × List HeaderPayload)} {counter : Nat},
      (result.map fun after => ((⟨after.1, counter⟩ : DtlsRecvState), after.2)) =
        .ok (next, pairs) → result = .ok (next.recv, pairs) := by
    intro result counter hEq
    obtain ⟨after, hAfter, hSame⟩ := map_eq_ok_iff.mp hEq
    cases hSame
    exact hAfter
  unfold dtlsStreamPairs at hPairs
  split at hPairs
  · rename_i hMore
    split at hPairs
    · split at hPairs <;> exact scan_carries (hMap hPairs)
    · rename_i hAction
      exact continuePayload_carries h hMore hAction (hMap hPairs)
  · exact scan_carries (hMap hPairs)

end Carry

end GdpRouter
