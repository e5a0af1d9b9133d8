import GdpRouter.Network.Receive
import GdpRouter.Network.Send

/-! What the receive arm makes of a stream that a correct sender wrote. The
packets that have been handed on are always those whose frames lie completely
in the bytes read so far, wherever the reads were cut. -/
namespace GdpRouter

open Framing Transition

/-- The packets that routers send to each other. -/
structure GDPPacket.Sendable (packet : GDPPacket) : Prop where
  shaped : (packet.action = .forward ∧ ∃ bytes, packet.payload = some bytes) ∨
    (packet.action = .advertise ∧ packet.payload = none)
  sized : packet.Sized

/-- The packet as the receiving thread hands it on. -/
def GDPPacket.receivedBy (threadName : GDPName) (packet : GDPPacket) : GDPPacket :=
  { packet with source := threadName }

/-- The packets whose frames end within the first `n` bytes of the stream. -/
def completePackets (serde : SerdeJson) (packets : List GDPPacket) (n : Nat) : List GDPPacket :=
  completeWithin (fun packet => (frameBytes serde packet).length) packets n

section Frames

variable {serde : SerdeJson}

def packetFrame (hSerde : serde.Lawful) (packet : GDPPacket) (hSized : packet.Sized) :
    WireFrame serde where
  text := serde.toString packet.getHeader
  header := packet.getHeader
  payload := packet.body
  text_valid := hSerde.utf8 _
  text_delim := hSerde.no_nul _
  parsed := hSerde.fromStr_toString _
  sized := hSized.getHeader_length.symm

def packetFrames (hSerde : serde.Lawful) (packets : List GDPPacket)
    (hSized : ∀ packet ∈ packets, packet.Sized) : List (WireFrame serde) :=
  packets.pmap (packetFrame hSerde) hSized

theorem encode_packetFrame (hSerde : serde.Lawful) {packet : GDPPacket} (hSized : packet.Sized) :
    (packetFrame hSerde packet hSized).encode = frameBytes serde packet :=
  (frameBytes_eq packet).symm

/-- The frames of packets are what the send arm writes for them. -/
theorem encode_packetFrames (hSerde : serde.Lawful) {packets : List GDPPacket}
    (hSized : ∀ packet ∈ packets, packet.Sized) :
    encode (packetFrames hSerde packets hSized) = wireBytes serde packets := by
  induction packets with
  | nil => rfl
  | cons packet rest ih =>
      rw [packetFrames, List.pmap_cons, encode_cons, encode_packetFrame]
      exact congrArg (frameBytes serde packet ++ ·) (ih _)

theorem mem_packetFrames {hSerde : serde.Lawful} {packets : List GDPPacket}
    {hSized : ∀ packet ∈ packets, packet.Sized} {frame : WireFrame serde}
    (h : frame ∈ packetFrames hSerde packets hSized) :
    ∃ packet, ∃ hMem : packet ∈ packets,
      frame = packetFrame hSerde packet (hSized packet hMem) := by
  obtain ⟨packet, hMem, rfl⟩ := List.mem_pmap.mp h
  exact ⟨packet, hMem, rfl⟩

theorem completeFrames_packetFrames (hSerde : serde.Lawful) {packets : List GDPPacket}
    (hSized : ∀ packet ∈ packets, packet.Sized) (n : Nat) :
    completeFrames (packetFrames hSerde packets hSized) n =
      packetFrames hSerde (completePackets serde packets n) fun packet hPacket =>
        hSized packet ((completeWithin_isPrefix _ packets n).subset hPacket) :=
  completeWithin_pmap (fun frame : WireFrame serde => frame.encode.length)
    (fun _ hPacket => congrArg List.length (encode_packetFrame hSerde hPacket)) hSized n

/-- A received packet has the name and the payload of the one that was sent. -/
theorem dispatch_packetFrame (threadName : GDPName) {packet : GDPPacket}
    (h : packet.Sendable) :
    dispatch threadName packet.getHeader packet.body = some (packet.receivedBy threadName) := by
  obtain ⟨action, gdpname, payload, source⟩ := packet
  rcases h.shaped with ⟨hAction, bytes, hPayload⟩ | ⟨hAction, hPayload⟩
  all_goals
    simp only at hAction hPayload
    subst hAction hPayload
    rfl

/-- All received packets are the packets that were sent, one by one. -/
theorem dispatchPairs_packetFrames (hSerde : serde.Lawful) (threadName : GDPName)
    {packets : List GDPPacket} (hSized : ∀ packet ∈ packets, packet.Sized)
    (h : ∀ packet ∈ packets, packet.Sendable) :
    dispatchPairs threadName ((packetFrames hSerde packets hSized).map Frame.decoded) =
      packets.map (·.receivedBy threadName) := by
  induction packets with
  | nil => rfl
  | cons packet rest ih =>
      obtain ⟨hPacket, hRest⟩ := List.forall_mem_cons.mp h
      rw [packetFrames, List.pmap_cons, List.map_cons, dispatchPairs, List.filterMap_cons,
        Frame.decoded, packetFrame, dispatch_packetFrame threadName hPacket]
      exact congrArg (packet.receivedBy threadName :: ·) (ih _ hRest)

/-! ### Where a stream of frames is cut -/

/-- What the scanner keeps of a frame of which only the first `n` bytes are there:
nothing, or the beginning of the header text, or the header and the beginning
of the payload. -/
def keptOf (frame : WireFrame serde) (n : Nat) : Option HeaderPayload :=
  if n = 0 then none
  else if n ≤ frame.text.length then some (defaultGdpHeader, frame.text.take n)
  else some (frame.header, frame.payload.take (n - frame.text.length - 1))

/-- What it keeps of a stream that is cut after `n` bytes. -/
def keptAt (frames : List (WireFrame serde)) (n : Nat) : Option HeaderPayload :=
  (cutFrame frames n).bind fun cut => keptOf cut.1 cut.2

/-- The cut falls into the payload of a frame whose action is `Noop`. -/
def cutsNoopPayload (frames : List (WireFrame serde)) (n : Nat) : Bool :=
  (cutFrame frames n).any fun cut =>
    cut.1.header.action = .noop && cut.1.text.length < cut.2

/-- No read begins inside the payload of a `Noop` frame. -/
def SparesNoopPayloads (frames : List (WireFrame serde)) (reads : List Bytes) : Prop :=
  ∀ k < reads.length, cutsNoopPayload frames (reads.take k).flatten.length = false

instance (frames : List (WireFrame serde)) (reads : List Bytes) :
    Decidable (SparesNoopPayloads frames reads) :=
  inferInstanceAs (Decidable (∀ k < reads.length, _ = _))

theorem encode_take_of_le {frame : WireFrame serde} {n : Nat} (h : n ≤ frame.text.length) :
    frame.encode.take n = frame.text.take n := by
  rw [wireFrame_encode, List.take_append_of_le_length h]

/-- A frame cut behind its header text has some of the payload. -/
theorem encode_take_of_lt {frame : WireFrame serde} {n : Nat} (h : frame.text.length < n) :
    frame.encode.take n = frame.text ++ 0 :: frame.payload.take (n - frame.text.length - 1) := by
  obtain ⟨k, rfl⟩ := Nat.exists_eq_add_of_lt h
  rw [wireFrame_encode, List.take_append, List.take_of_length_le (by omega)]
  have hRest : frame.text.length + k + 1 - frame.text.length = k + 1 := by omega
  rw [hRest, List.take_succ_cons, Nat.add_sub_cancel]

/-- Scanning a part of one frame. At the very end of the header text, before
the NUL, the scanner panics instead. -/
theorem parseHeaderPayloadPairs_part {frame : WireFrame serde} {n : Nat}
    (hCut : n < frame.encode.length) {result : ParseResult}
    (hOk : parseHeaderPayloadPairs serde (frame.encode.take n) = .ok result) :
    result = ([], keptOf frame n) := by
  unfold keptOf
  split
  · rename_i hZero
    subst hZero
    cases hOk
    rfl
  · rename_i hPos
    split
    · -- The cut is in the header text.
      rename_i hText
      have hNonempty : frame.text.take n ≠ [] := by
        rw [← List.length_pos_iff, List.length_take]
        omega
      have hNul : 0 ∉ frame.text.take n := fun hMem => frame.text_delim (List.mem_of_mem_take hMem)
      have hSplit := splitFirst_of_not_mem 0 hNul
      rw [encode_take_of_le hText, parseHeaderPayloadPairs_of_ne_nil hNonempty] at hOk
      cases hUtf8 : validUtf8 (frame.text.take n) with
      | false =>
          rw [parseLoop_invalid _ (by rw [hSplit]; exact hUtf8)] at hOk
          cases hOk
      | true =>
          cases hParse : serde.fromStr (frame.text.take n) with
          | some header =>
              rw [parseLoop_undelimited _ hNul hUtf8 hParse] at hOk
              cases hOk
          | none =>
              rw [parseLoop_unparsed _ (by rw [hSplit]; exact hUtf8) (by rw [hSplit]; exact hParse),
                hSplit] at hOk
              cases hOk
              rfl
    · -- The cut is in the payload.
      rename_i hText
      have hLength := frame.encode_length
      have hSized : frame.payload.length = frame.header.length := frame.sized
      have hShort : (frame.payload.take (n - frame.text.length - 1)).length <
          frame.header.length := by
        rw [List.length_take]
        omega
      rw [encode_take_of_lt (by omega), parseHeaderPayloadPairs_of_ne_nil (by simp),
        parseLoop_short _ frame.text_delim frame.text_valid frame.parsed hShort] at hOk
      cases hOk
      rfl

/-- Complete frames in front of a buffer are reported one by one. -/
theorem parseHeaderPayloadPairs_frames (frames : List (WireFrame serde)) (rest : Bytes) :
    parseHeaderPayloadPairs serde (encode frames ++ rest) =
      (parseHeaderPayloadPairs serde rest).map
        (ParseResult.prepend (frames.map Frame.decoded)) := by
  induction frames with
  | nil =>
      rw [encode_nil, List.nil_append]
      cases parseHeaderPayloadPairs serde rest <;> rfl
  | cons frame frames ih =>
      rw [encode_cons, List.append_assoc, parseHeaderPayloadPairs_frame, ih, map_prepend_prepend]
      rfl

/-- Scanning a buffer that is cut off anywhere in a list of frames reports the
frames that are complete in it and keeps what is behind them. -/
theorem parseHeaderPayloadPairs_prefix {frames : List (WireFrame serde)} {buffer : Bytes}
    (hBuffer : buffer <+: encode frames) {result : ParseResult}
    (hOk : parseHeaderPayloadPairs serde buffer = .ok result) :
    result = ((completeFrames frames buffer.length).map Frame.decoded,
      keptAt frames buffer.length) := by
  rw [eq_encode_append_cutPart hBuffer, parseHeaderPayloadPairs_frames] at hOk
  obtain ⟨inner, hPart, rfl⟩ := map_eq_ok_iff.mp hOk
  have hInner : inner = ([], keptAt frames buffer.length) := by
    unfold cutPart at hPart
    unfold keptAt
    cases hCut : cutFrame frames buffer.length with
    | none =>
        rw [hCut] at hPart
        cases hPart
        rfl
    | some cut =>
        rw [hCut] at hPart
        exact parseHeaderPayloadPairs_part (cutItem_eq_some _ hCut).1 hPart
  rw [hInner]
  simp [ParseResult.prepend]

/-- Unless the cut is in a `Noop` payload, what is kept stands for all bytes
behind the complete frames. -/
theorem keptAt_tail {frames : List (WireFrame serde)} {n : Nat}
    (hCut : cutsNoopPayload frames n = false) :
    Tail serde (keptAt frames n) (cutPart frames n) := by
  unfold cutsNoopPayload at hCut
  unfold keptAt cutPart
  cases hFrame : cutFrame frames n with
  | none => exact .boundary
  | some cut =>
      obtain ⟨frame, k⟩ := cut
      have hInside := (cutItem_eq_some _ hFrame).1
      simp only [hFrame, Option.any_some, Bool.and_eq_false_iff, decide_eq_false_iff_not] at hCut
      simp only [Option.bind_some, Option.elim_some, keptOf]
      split
      · rename_i hZero
        subst hZero
        exact .boundary
      · split
        · rename_i hText
          rw [encode_take_of_le hText]
          exact .header _
        · rename_i hText
          have hLength := frame.encode_length
          have hSized : frame.payload.length = frame.header.length := frame.sized
          rw [encode_take_of_lt (by omega)]
          have hAction := hCut.resolve_right fun h => h (by omega)
          apply Tail.payload hAction frame.text_delim frame.text_valid
            frame.parsed
          rw [List.length_take]
          omega

/-- Routers send no `Noop` frames. -/
theorem cutsNoopPayload_packetFrames (hSerde : serde.Lawful) {packets : List GDPPacket}
    (hSized : ∀ packet ∈ packets, packet.Sized) (h : ∀ packet ∈ packets, packet.Sendable)
    (n : Nat) :
    cutsNoopPayload (packetFrames hSerde packets hSized) n = false := by
  unfold cutsNoopPayload
  cases hCut : cutFrame (packetFrames hSerde packets hSized) n with
  | none => rfl
  | some cut =>
      obtain ⟨frame, k⟩ := cut
      obtain ⟨-, rest, hFrames, -⟩ := cutItem_eq_some _ hCut
      have hMem : frame ∈ packetFrames hSerde packets hSized := by
        rw [hFrames]
        simp
      obtain ⟨packet, hPacket, rfl⟩ := mem_packetFrames hMem
      rcases (h packet hPacket).shaped with ⟨hAction, -⟩ | ⟨hAction, -⟩
      · simp [packetFrame, hAction]
      · simp [packetFrame, hAction]

/-- A read in any place of a stream of frames hands on those that are complete by
then, and the reader carries the rest of the bytes. -/
theorem handleTcpStreamRead_packets (hSerde : serde.Lawful) {threadName : GDPName}
    {packets handed : List GDPPacket} {carried receivingBuf : Bytes} {recv next : RecvState}
    (hCarries : Carries serde recv carried) (hSendable : ∀ packet ∈ packets, packet.Sendable)
    (hStream : carried ++ receivingBuf <+: wireBytes serde packets)
    (hRead : handleTcpStreamRead serde threadName recv receivingBuf = .ok (next, handed)) :
    let done := completePackets serde packets (carried ++ receivingBuf).length
    handed = done.map (·.receivedBy threadName) ∧
      ∃ kept, Carries serde next kept ∧ carried ++ receivingBuf = wireBytes serde done ++ kept := by
  intro done
  have hSized : ∀ packet ∈ packets, packet.Sized := fun packet hPacket =>
    (hSendable packet hPacket).sized
  have hPrefix : carried ++ receivingBuf <+: encode (packetFrames hSerde packets hSized) := by
    rwa [encode_packetFrames]
  have hDone : ∀ packet ∈ done, packet.Sendable := by
    intro packet hPacket
    have hPart : done <+: packets := completeWithin_isPrefix _ packets _
    exact hSendable packet (hPart.subset hPacket)
  obtain ⟨result, hParse, rfl, rfl⟩ := (handleTcpStreamRead_iff_scan hCarries).mp hRead
  obtain rfl := parseHeaderPayloadPairs_prefix hPrefix hParse
  have hBytes := eq_encode_append_cutPart hPrefix
  rw [completeFrames_packetFrames] at hBytes ⊢
  rw [encode_packetFrames] at hBytes
  exact ⟨dispatchPairs_packetFrames hSerde threadName _ hDone, _,
    (finish_holds recv _).carries
      (keptAt_tail (cutsNoopPayload_packetFrames hSerde hSized hSendable _)), hBytes⟩

/-- Between two reads a receiver of well-formed frames has handed on those that
are complete, and remembers what the scanner keeps of the rest. -/
theorem tcpReads_prefix {frames : List (WireFrame serde)} {threadName : GDPName}
    {reads : List Bytes} {state : RecvState} {handed : List GDPPacket}
    (run : Run (TcpReads serde threadName) .initial reads state handed)
    (hReads : reads.flatten <+: encode frames)
    (hCuts : SparesNoopPayloads frames reads) :
    handed = dispatchPairs threadName
        ((completeFrames frames reads.flatten.length).map Frame.decoded) ∧
      state.Holds (keptAt frames reads.flatten.length) := by
  revert hReads hCuts
  apply run.history_invariant (fun state reads handed => reads.flatten <+: encode frames →
    SparesNoopPayloads frames reads →
    handed = dispatchPairs threadName
        ((completeFrames frames reads.flatten.length).map Frame.decoded) ∧
      state.Holds (keptAt frames reads.flatten.length))
  · intro _ _
    cases frames with
    | nil => exact ⟨rfl, rfl⟩
    | cons frame rest =>
        have hPos := frame.encode_length_pos
        simp [completeFrames, completeWithin, keptAt, cutFrame, cutItem, keptOf, RecvState.Holds,
          RecvState.initial, Nat.not_le.mpr hPos]
  · intro state reads handed read next last _ ih hRead hReads hCuts
    rw [List.flatten_append, List.flatten_singleton] at hReads ⊢
    have hBefore := (List.prefix_append _ _).trans hReads
    have hTake : ∀ k ≤ reads.length,
        cutsNoopPayload frames (reads.take k).flatten.length = false := by
      intro k hk
      have hSame : (reads ++ [read]).take k = reads.take k := List.take_append_of_le_length hk
      have hLess : k < (reads ++ [read]).length := by
        rw [List.length_append, List.length_singleton]
        omega
      exact hSame ▸ hCuts k hLess
    obtain ⟨rfl, hState⟩ := ih hBefore fun k hk => hTake k hk.le
    have hKept := keptAt_tail (hTake reads.length le_rfl)
    rw [List.take_length] at hKept
    rw [tcpReads_iff, handleTcpStreamRead_iff_scan (hState.carries hKept)] at hRead
    obtain ⟨result, hParse, rfl, rfl⟩ := hRead
    -- The same scan with the frames that are done put in front.
    have hWhole : parseHeaderPayloadPairs serde (reads.flatten ++ read) =
        .ok (result.prepend
          ((completeFrames frames reads.flatten.length).map Frame.decoded)) := by
      have hBytes : reads.flatten ++ read =
          encode (completeFrames frames reads.flatten.length) ++
            (cutPart frames reads.flatten.length ++ read) := by
        rw [← List.append_assoc, ← eq_encode_append_cutPart hBefore]
      rw [hBytes, parseHeaderPayloadPairs_frames, hParse]
      rfl
    have hResult := parseHeaderPayloadPairs_prefix hReads hWhole
    obtain ⟨hPairs, hRemaining⟩ := Prod.mk.inj hResult
    constructor
    · rw [← hPairs]
      exact (dispatchPairs_append ..).symm
    · have hHolds := finish_holds state result
      rwa [hRemaining] at hHolds

end Frames

/-- A stream of packets, cut into reads in any way, comes out as the same
packets. `rest` are the reads that are still to come: before them the packets
handed on are those that are complete in the bytes read so far. -/
theorem handleTcpStream_round_trip {serde : SerdeJson} (hSerde : serde.Lawful)
    {threadName : GDPName} {packets : List GDPPacket}
    (hSendable : ∀ packet ∈ packets, packet.Sendable) {reads rest : List Bytes}
    (hCut : (reads ++ rest).flatten = wireBytes serde packets) {state : RecvState}
    {handed : List GDPPacket} (run : Run (TcpReads serde threadName) .initial reads state handed) :
    handed = (completePackets serde packets reads.flatten.length).map (·.receivedBy threadName) ∧
      (rest = [] → handed = packets.map (·.receivedBy threadName) ∧
        state.needMoreDataForPreviousHeader = false) := by
  have hSized : ∀ packet ∈ packets, packet.Sized := fun packet hPacket =>
    (hSendable packet hPacket).sized
  have hReads : reads.flatten <+: encode (packetFrames hSerde packets hSized) := by
    rw [encode_packetFrames, ← hCut, List.flatten_append]
    exact List.prefix_append _ _
  obtain ⟨hHanded, hState⟩ := tcpReads_prefix run hReads fun k _ =>
    cutsNoopPayload_packetFrames hSerde hSized hSendable (reads.take k).flatten.length
  rw [completeFrames_packetFrames] at hHanded
  have hComplete : ∀ packet ∈ completePackets serde packets reads.flatten.length,
      packet.Sendable := by
    intro packet hPacket
    have hPrefix := completeWithin_isPrefix (fun packet => (frameBytes serde packet).length) packets
      reads.flatten.length
    exact hSendable packet (hPrefix.subset hPacket)
  rw [dispatchPairs_packetFrames hSerde threadName _ hComplete] at hHanded
  refine ⟨hHanded, ?_⟩
  rintro rfl
  rw [List.append_nil] at hCut
  have hAll : completePackets serde packets reads.flatten.length = packets := by
    rw [hCut, wireBytes, List.length_flatMap]
    exact completeWithin_all _ packets
  rw [hAll] at hHanded
  rw [hCut, ← encode_packetFrames hSerde hSized, keptAt, cutFrame_encode_length] at hState
  exact ⟨hHanded, hState⟩

namespace RoundTripExample

def packets : List GDPPacket :=
  [⟨.forward, .ofBytes 1 2 3 4, some [0, 123], .ofBytes 9 9 9 9⟩,
    ⟨.advertise, .ofBytes 5 6 7 8, none, .ofBytes 9 9 9 9⟩]

def wire : Bytes := wireBytes compactJson packets

/-- A cut in the first header text, one in its payload and one in the second
header text. -/
def reads : List Bytes :=
  [wire.take 20, (wire.drop 20).take 37, (wire.drop 57).take 20, wire.drop 77]

def threadName : GDPName := .ofBytes 7 7 7 7

end RoundTripExample

open RoundTripExample in
/-- The four reads hand both packets on, each with the name of the thread. -/
theorem handleTcpStream_round_trip_example :
    ∃ state handed, Run (TcpReads compactJson threadName) .initial reads state handed ∧
      handed = packets.map (·.receivedBy threadName) ∧
      state.needMoreDataForPreviousHeader = false := by
  have run : Run (TcpReads compactJson threadName) .initial reads .initial
      (packets.map (·.receivedBy threadName)) :=
    runOption_eq_some_iff.mp (by decide +kernel)
  have hSendable : ∀ packet ∈ packets, packet.Sendable := by
    have hSized : ∀ packet ∈ packets, packet.Sized := by decide
    intro packet hPacket
    refine ⟨?_, hSized packet hPacket⟩
    revert packet
    simp [packets]
  have hCut : (reads ++ []).flatten = wireBytes compactJson packets := by decide +kernel
  exact ⟨_, _, run, (handleTcpStream_round_trip compactJson_lawful hSendable hCut run).2 rfl⟩

end GdpRouter
