import GdpRouter.SerdeJson
import GdpRouter.Semantics.Framing

/-! The header scanner. The TCP and the DTLS module hold the same text of it,
so both of their definitions are this one. Each way in which the scanner can
panic is kept as a value. -/
namespace GdpRouter

open Framing

/-- The places where a connection task can panic on received bytes. -/
inductive Panic where
  /-- `from_utf8(header_buf).unwrap()` -/
  | fromUtf8
  /-- `header_and_remaining[1]` when the buffer holds no NUL -/
  | headerAndRemaining
  /-- `remaining_gdp_header.length - remaining_gdp_payload.len()` -/
  | numRemaining
  /-- `receiving_buf[..num_remaining]` -/
  | receivingBuf
  deriving DecidableEq, Repr

abbrev HeaderPayload := GDPPacketInTransit × Bytes

/-- The complete pairs, and the header and bytes to keep for the next read. -/
abbrev ParseResult := List HeaderPayload × Option HeaderPayload

def defaultGdpHeader : GDPPacketInTransit := ⟨.noop, .ofBytes 0 0 0 0, 0, usizeSize_pos⟩

/-- The `loop` over a buffer that is never empty. `pairs` is the vector that the
source pushes to. -/
def parseLoop (serde : SerdeJson) (buffer : Bytes) (pairs : List HeaderPayload) :
    Except Panic ParseResult :=
  if validUtf8 (splitFirst 0 buffer).1 = false then .error .fromUtf8
  else match serde.fromStr (splitFirst 0 buffer).1 with
  | none => .ok (pairs, some (defaultGdpHeader, (splitFirst 0 buffer).1))
  | some gdpHeader => match _hRest : (splitFirst 0 buffer).2 with
    | none => .error .headerAndRemaining
    | some remaining =>
        if gdpHeader.length > remaining.length then .ok (pairs, some (gdpHeader, remaining))
        else if gdpHeader.length = remaining.length then
          .ok (pairs ++ [(gdpHeader, remaining)], none)
        else
          parseLoop serde (remaining.drop gdpHeader.length)
            (pairs ++ [(gdpHeader, remaining.take gdpHeader.length)])
termination_by buffer.length
decreasing_by
  have hShorter := splitFirst_rest_length_lt 0 _hRest
  simp only [List.length_drop]
  omega

def parseHeaderPayloadPairs (serde : SerdeJson) (buffer : Bytes) : Except Panic ParseResult :=
  if buffer.length = 0 then .ok ([], none) else parseLoop serde buffer []

/-- The copy in `tcp.rs`. -/
def Tcp.parseHeaderPayloadPairs (serde : SerdeJson) (buffer : Bytes) : Except Panic ParseResult :=
  GdpRouter.parseHeaderPayloadPairs serde buffer

/-- The copy in `dtls.rs`. -/
def Dtls.parseHeaderPayloadPairs (serde : SerdeJson) (buffer : Bytes) : Except Panic ParseResult :=
  GdpRouter.parseHeaderPayloadPairs serde buffer

/-- The wire format as an instance of delimited framing. -/
def headerCodec (serde : SerdeJson) : Codec UInt8 GDPPacketInTransit where
  delim := 0
  valid := validUtf8
  parse := serde.fromStr
  size header := header.length

abbrev WireFrame (serde : SerdeJson) := Frame (headerCodec serde)

theorem wireFrame_encode {serde : SerdeJson} (frame : WireFrame serde) :
    frame.encode = frame.text ++ 0 :: frame.payload := rfl

/-- Put pairs found earlier in front of a result. -/
def ParseResult.prepend (pairs : List HeaderPayload) (result : ParseResult) : ParseResult :=
  (pairs ++ result.1, result.2)

/-- What the scanner does, by the shape of its buffer. The header text of the
buffer is invalid, not a header, a header that no NUL follows, a header whose
payload is not all there, or the start of a complete frame. -/
inductive Scan (serde : SerdeJson) : Bytes → Except Panic ParseResult → Prop where
  | empty : Scan serde [] (.ok ([], none))
  | invalid {buffer : Bytes} (hBuffer : buffer ≠ [])
      (hUtf8 : validUtf8 (splitFirst 0 buffer).1 = false) : Scan serde buffer (.error .fromUtf8)
  | unparsed {buffer : Bytes} (hBuffer : buffer ≠ [])
      (hUtf8 : validUtf8 (splitFirst 0 buffer).1 = true)
      (hParse : serde.fromStr (splitFirst 0 buffer).1 = none) :
      Scan serde buffer (.ok ([], some (defaultGdpHeader, (splitFirst 0 buffer).1)))
  | undelimited {text : Bytes} {header : GDPPacketInTransit} (hText : text ≠ []) (hNul : 0 ∉ text)
      (hUtf8 : validUtf8 text = true) (hParse : serde.fromStr text = some header) :
      Scan serde text (.error .headerAndRemaining)
  | short {text payload : Bytes} {header : GDPPacketInTransit} (hNul : 0 ∉ text)
      (hUtf8 : validUtf8 text = true) (hParse : serde.fromStr text = some header)
      (hLength : payload.length < header.length) :
      Scan serde (text ++ 0 :: payload) (.ok ([], some (header, payload)))
  | frame (frame : WireFrame serde) {rest : Bytes} {result : Except Panic ParseResult}
      (hRest : Scan serde rest result) :
      Scan serde (frame.encode ++ rest) (result.map (ParseResult.prepend [frame.decoded]))

section Loop

variable {serde : SerdeJson} (pairs : List HeaderPayload)

@[simp] theorem parseHeaderPayloadPairs_nil : parseHeaderPayloadPairs serde [] = .ok ([], none) :=
  rfl

theorem parseHeaderPayloadPairs_of_ne_nil {buffer : Bytes} (h : buffer ≠ []) :
    parseHeaderPayloadPairs serde buffer = parseLoop serde buffer [] := by
  unfold parseHeaderPayloadPairs
  rw [if_neg (by simpa using h)]

/-! ### One iteration, by the shape of the buffer -/

/-- Bytes before the NUL that are no text end the task. -/
theorem parseLoop_invalid {buffer : Bytes} (hUtf8 : validUtf8 (splitFirst 0 buffer).1 = false) :
    parseLoop serde buffer pairs = .error .fromUtf8 := by
  rw [parseLoop, if_pos hUtf8]

/-- A text that is no header is kept. What follows the NUL is dropped. -/
theorem parseLoop_unparsed {buffer : Bytes} (hUtf8 : validUtf8 (splitFirst 0 buffer).1 = true)
    (hParse : serde.fromStr (splitFirst 0 buffer).1 = none) :
    parseLoop serde buffer pairs =
      .ok (pairs, some (defaultGdpHeader, (splitFirst 0 buffer).1)) := by
  rw [parseLoop, if_neg (by simp [hUtf8]), hParse]

/-- A header text without its NUL ends the task. -/
theorem parseLoop_undelimited {text : Bytes} {header : GDPPacketInTransit} (hNul : 0 ∉ text)
    (hUtf8 : validUtf8 text = true) (hParse : serde.fromStr text = some header) :
    parseLoop serde text pairs = .error .headerAndRemaining := by
  have hSplit := splitFirst_of_not_mem 0 hNul
  rw [parseLoop, if_neg (by simp [hSplit, hUtf8])]
  simp only [hSplit, hParse]
  split
  · rfl
  · rename_i remaining hRest
    simp [hSplit] at hRest

/-- Behind a header the payload is compared with the announced length. -/
theorem parseLoop_delimited {text remaining : Bytes} {header : GDPPacketInTransit}
    (hNul : 0 ∉ text) (hUtf8 : validUtf8 text = true) (hParse : serde.fromStr text = some header) :
    parseLoop serde (text ++ 0 :: remaining) pairs =
      if header.length > remaining.length then .ok (pairs, some (header, remaining))
      else if header.length = remaining.length then .ok (pairs ++ [(header, remaining)], none)
      else parseLoop serde (remaining.drop header.length)
        (pairs ++ [(header, remaining.take header.length)]) := by
  have hSplit := splitFirst_append 0 remaining hNul
  rw [parseLoop, if_neg (by simp [hSplit, hUtf8])]
  simp only [hSplit, hParse]
  split
  · rename_i hRest
    simp [hSplit] at hRest
  · rename_i other hRest
    obtain rfl : remaining = other := by simpa [hSplit] using hRest
    rfl

theorem parseLoop_short {text payload : Bytes} {header : GDPPacketInTransit} (hNul : 0 ∉ text)
    (hUtf8 : validUtf8 text = true) (hParse : serde.fromStr text = some header)
    (hLength : payload.length < header.length) :
    parseLoop serde (text ++ 0 :: payload) pairs = .ok (pairs, some (header, payload)) := by
  rw [parseLoop_delimited pairs hNul hUtf8 hParse, if_pos hLength]

/-- A complete frame at the end of the buffer ends the loop. -/
theorem parseLoop_last (frame : WireFrame serde) :
    parseLoop serde frame.encode pairs = .ok (pairs ++ [frame.decoded], none) := by
  have hSize : frame.header.length = frame.payload.length := frame.sized.symm
  rw [wireFrame_encode, parseLoop_delimited pairs frame.text_delim frame.text_valid frame.parsed,
    if_neg (by omega), if_pos hSize, Frame.decoded]

/-- A complete frame before further bytes is pushed and cut off. -/
theorem parseLoop_frame (frame : WireFrame serde) {rest : Bytes} (hRest : rest ≠ []) :
    parseLoop serde (frame.encode ++ rest) pairs =
      parseLoop serde rest (pairs ++ [frame.decoded]) := by
  have hSize : frame.header.length = frame.payload.length := frame.sized.symm
  have hLength := List.length_pos_iff.mpr hRest
  rw [wireFrame_encode, List.append_assoc, List.cons_append,
    parseLoop_delimited pairs frame.text_delim frame.text_valid frame.parsed,
    if_neg (by simp only [List.length_append]; omega),
    if_neg (by simp only [List.length_append]; omega), hSize, List.drop_left, List.take_left,
    Frame.decoded]

end Loop

/-- No complete frame begins with a text that is not a header. -/
theorem no_frame_of_unparsed {serde : SerdeJson} {buffer : Bytes}
    (hParse : serde.fromStr (splitFirst 0 buffer).1 = none) (frame : WireFrame serde)
    (rest : Bytes) : buffer ≠ frame.encode ++ rest := by
  rintro rfl
  have hSplit := frame.splitFirst_encode rest
  change splitFirst 0 _ = _ at hSplit
  rw [hSplit] at hParse
  exact absurd (hParse.symm.trans frame.parsed) (by simp)

/-- A frame with this header would be longer. -/
theorem no_frame_of_short {serde : SerdeJson} {text payload : Bytes} {header : GDPPacketInTransit}
    (hNul : 0 ∉ text) (hParse : serde.fromStr text = some header)
    (hLength : payload.length < header.length) (frame : WireFrame serde) (rest : Bytes) :
    text ++ 0 :: payload ≠ frame.encode ++ rest := by
  intro hFrame
  have hSplit := frame.splitFirst_encode rest
  change splitFirst 0 _ = _ at hSplit
  rw [← hFrame, splitFirst_append 0 payload hNul, Prod.mk.injEq, Option.some.injEq] at hSplit
  obtain ⟨rfl, rfl⟩ := hSplit
  have hSame : some header = some frame.header := hParse.symm.trans frame.parsed
  have hSized : frame.payload.length = frame.header.length := frame.sized
  rw [Option.some.inj hSame, List.length_append] at hLength
  omega

/-- The five shapes of a buffer that is not empty. -/
theorem buffer_shape (serde : SerdeJson) (buffer : Bytes) :
    validUtf8 (splitFirst 0 buffer).1 = false ∨
    (validUtf8 (splitFirst 0 buffer).1 = true ∧ serde.fromStr (splitFirst 0 buffer).1 = none) ∨
    (0 ∉ buffer ∧ validUtf8 buffer = true ∧ ∃ header, serde.fromStr buffer = some header) ∨
    (∃ text payload header, buffer = text ++ 0 :: payload ∧ 0 ∉ text ∧ validUtf8 text = true ∧
      serde.fromStr text = some header ∧ payload.length < header.length) ∨
    ∃ (frame : WireFrame serde) (rest : Bytes), buffer = frame.encode ++ rest := by
  cases hUtf8 : validUtf8 (splitFirst 0 buffer).1 with
  | false => exact .inl rfl
  | true =>
      right
      cases hParse : serde.fromStr (splitFirst 0 buffer).1 with
      | none => exact .inl ⟨rfl, rfl⟩
      | some header =>
          right
          cases hSplit : (splitFirst 0 buffer).2 with
          | none =>
              have hNul := (splitFirst_snd_eq_none_iff 0).mp hSplit
              rw [splitFirst_of_not_mem 0 hNul] at hUtf8 hParse
              exact .inl ⟨hNul, hUtf8, header, hParse⟩
          | some remaining =>
              have hBuffer := eq_of_splitFirst_some 0 hSplit
              have hNul := not_mem_splitFirst 0 buffer
              right
              by_cases hLength : remaining.length < header.length
              · exact .inl ⟨_, remaining, header, hBuffer, hNul, hUtf8, hParse, hLength⟩
              · right
                refine ⟨⟨(splitFirst 0 buffer).1, header, remaining.take header.length, hUtf8,
                  hNul, hParse, ?_⟩, remaining.drop header.length, ?_⟩
                · simp only [List.length_take, headerCodec]
                  omega
                · simpa [Frame.encode, headerCodec] using hBuffer

/-- Pairs found in two goes come one after the other. -/
theorem map_prepend_prepend (first second : List HeaderPayload)
    (result : Except Panic ParseResult) :
    (result.map (ParseResult.prepend second)).map (ParseResult.prepend first) =
      result.map (ParseResult.prepend (first ++ second)) := by
  cases result with
  | error panic => rfl
  | ok result => simp [Except.map, ParseResult.prepend]

/-- Pairs pushed by earlier iterations stay in front and change nothing else. -/
theorem parseLoop_pairs (serde : SerdeJson) (buffer : Bytes) (pairs : List HeaderPayload) :
    parseLoop serde buffer pairs = (parseLoop serde buffer []).map (ParseResult.prepend pairs) := by
  induction hLength : buffer.length using Nat.strong_induction_on generalizing buffer pairs with
  | _ n ih =>
      subst hLength
      rcases buffer_shape serde buffer with hUtf8 | ⟨hUtf8, hParse⟩ | ⟨hNul, hUtf8, _, hParse⟩ |
        ⟨text, payload, header, rfl, hNul, hUtf8, hParse, hShort⟩ | ⟨frame, rest, rfl⟩
      · simp [parseLoop_invalid _ hUtf8, Except.map]
      · simp [parseLoop_unparsed _ hUtf8 hParse, Except.map, ParseResult.prepend]
      · simp [parseLoop_undelimited _ hNul hUtf8 hParse, Except.map]
      · simp [parseLoop_short _ hNul hUtf8 hParse hShort, Except.map, ParseResult.prepend]
      · by_cases hRest : rest = []
        · subst hRest
          simp [parseLoop_last, Except.map, ParseResult.prepend]
        · have hShorter : rest.length < (frame.encode ++ rest).length := by
            have hPos := frame.encode_length_pos
            simp only [List.length_append]
            omega
          rw [parseLoop_frame _ _ hRest, parseLoop_frame _ _ hRest,
            ih _ hShorter rest (pairs ++ [frame.decoded]) rfl,
            ih _ hShorter rest ([] ++ [frame.decoded]) rfl, map_prepend_prepend, List.nil_append]

/-- Scanning past a complete frame reports it and goes on behind it. -/
theorem parseHeaderPayloadPairs_frame {serde : SerdeJson} (frame : WireFrame serde) (rest : Bytes) :
    parseHeaderPayloadPairs serde (frame.encode ++ rest) =
      (parseHeaderPayloadPairs serde rest).map (ParseResult.prepend [frame.decoded]) := by
  have hEncode : frame.encode ≠ [] := List.ne_nil_of_length_pos frame.encode_length_pos
  rw [parseHeaderPayloadPairs_of_ne_nil (by simp [hEncode])]
  by_cases hRest : rest = []
  · subst hRest
    rw [List.append_nil, parseLoop_last]
    rfl
  · rw [parseLoop_frame _ _ hRest, parseLoop_pairs, parseHeaderPayloadPairs_of_ne_nil hRest,
      List.nil_append]

/-- The scanner follows `Scan` on every buffer. In particular it returns. -/
theorem scan_parseHeaderPayloadPairs (serde : SerdeJson) (buffer : Bytes) :
    Scan serde buffer (parseHeaderPayloadPairs serde buffer) := by
  induction hLength : buffer.length using Nat.strong_induction_on generalizing buffer with
  | _ n ih =>
      subst hLength
      by_cases hBuffer : buffer = []
      · subst hBuffer
        exact .empty
      · rcases buffer_shape serde buffer with hUtf8 | ⟨hUtf8, hParse⟩ | ⟨hNul, hUtf8, _, hParse⟩ |
          ⟨text, payload, header, rfl, hNul, hUtf8, hParse, hShort⟩ | ⟨frame, rest, rfl⟩
        · rw [parseHeaderPayloadPairs_of_ne_nil hBuffer, parseLoop_invalid _ hUtf8]
          exact .invalid hBuffer hUtf8
        · rw [parseHeaderPayloadPairs_of_ne_nil hBuffer, parseLoop_unparsed _ hUtf8 hParse]
          exact .unparsed hBuffer hUtf8 hParse
        · rw [parseHeaderPayloadPairs_of_ne_nil hBuffer, parseLoop_undelimited _ hNul hUtf8 hParse]
          exact .undelimited hBuffer hNul hUtf8 hParse
        · rw [parseHeaderPayloadPairs_of_ne_nil hBuffer, parseLoop_short _ hNul hUtf8 hParse hShort]
          exact .short hNul hUtf8 hParse hShort
        · rw [parseHeaderPayloadPairs_frame]
          apply Scan.frame frame
          apply ih _ _ rest rfl
          have hPos := frame.encode_length_pos
          simp only [List.length_append]
          omega

end GdpRouter
