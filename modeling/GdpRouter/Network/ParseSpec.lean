import GdpRouter.Network.Parse

/-! What the header scanner computes, said without its loop. A buffer is a number
of complete frames and a tail that begins with no further one. The frames are
reported, and the shape of the tail decides what is kept. -/
namespace GdpRouter

open Framing

/-- What is kept of the bytes behind the last complete frame. -/
inductive Remainder (serde : SerdeJson) : Bytes → Option HeaderPayload → Prop where
  | nothing : Remainder serde [] none
  /-- A header whose payload is not all there. -/
  | payload {text payload : Bytes} {header : GDPPacketInTransit} (hNul : 0 ∉ text)
      (hUtf8 : validUtf8 text = true) (hParse : serde.fromStr text = some header)
      (hLength : payload.length < header.length) :
      Remainder serde (text ++ 0 :: payload) (some (header, payload))
  /-- A text that is not a header. What follows its NUL is dropped. -/
  | header {tail : Bytes} (hTail : tail ≠ [])
      (hParse : serde.fromStr (splitFirst 0 tail).1 = none) :
      Remainder serde tail (some (defaultGdpHeader, (splitFirst 0 tail).1))

/-- The buffer is these frames and this tail, and the result reports them. -/
structure Decomposes (serde : SerdeJson) (buffer : Bytes) (frames : List (WireFrame serde))
    (tail : Bytes) (result : ParseResult) : Prop where
  buffer_eq : buffer = encode frames ++ tail
  pairs_eq : result.1 = frames.map Frame.decoded
  remainder : Remainder serde tail result.2

section Spec

variable {serde : SerdeJson}

/-- What remains does not begin with a whole frame. -/
theorem Remainder.no_frame {tail : Bytes} {kept : Option HeaderPayload}
    (h : Remainder serde tail kept) (frame : WireFrame serde) (rest : Bytes) :
    tail ≠ frame.encode ++ rest := by
  cases h with
  | nothing =>
      intro hFrame
      have hLength := congrArg List.length hFrame
      have hPos := frame.encode_length_pos
      simp only [List.length_nil, List.length_append] at hLength
      omega
  | payload hNul _ hParse hLength => exact no_frame_of_short hNul hParse hLength frame rest
  | header _ hParse => exact no_frame_of_unparsed hParse frame rest

/-- The remainder as a function of the tail. -/
def keptBehind (serde : SerdeJson) (tail : Bytes) : Option HeaderPayload :=
  if tail = [] then none
  else match serde.fromStr (splitFirst 0 tail).1 with
    | none => some (defaultGdpHeader, (splitFirst 0 tail).1)
    | some header => (splitFirst 0 tail).2.map fun payload => (header, payload)

/-- The tail alone says what is kept. -/
theorem Remainder.eq_keptBehind {tail : Bytes} {kept : Option HeaderPayload}
    (h : Remainder serde tail kept) : kept = keptBehind serde tail := by
  unfold keptBehind
  cases h with
  | nothing => rfl
  | @payload text payload header hNul _ hParse _ =>
      rw [if_neg (by simp), splitFirst_append 0 payload hNul, hParse]
      rfl
  | header hTail hParse => rw [if_neg hTail, hParse]

/-- What is kept is no longer than the tail. -/
theorem Remainder.length_le {tail kept : Bytes} {header : GDPPacketInTransit}
    (h : Remainder serde tail (some (header, kept))) : kept.length ≤ tail.length := by
  cases h with
  | payload =>
      simp only [List.length_append, List.length_cons]
      omega
  | header => exact splitFirst_fst_length_le 0 tail

/-- A buffer decomposes in one way only. -/
theorem Decomposes.unique {buffer tail tail' : Bytes} {frames frames' : List (WireFrame serde)}
    {result result' : ParseResult} (h : Decomposes serde buffer frames tail result)
    (h' : Decomposes serde buffer frames' tail' result') :
    frames' = frames ∧ tail' = tail ∧ result' = result := by
  have hBuffer := h'.buffer_eq.symm.trans h.buffer_eq
  obtain ⟨rfl, rfl⟩ := encode_append_inj h'.remainder.no_frame h.remainder.no_frame hBuffer
  have hPairs := h'.pairs_eq.trans h.pairs_eq.symm
  have hKept := h'.remainder.eq_keptBehind.trans h.remainder.eq_keptBehind.symm
  exact ⟨rfl, rfl, Prod.ext hPairs hKept⟩

/-- A frame in front is one more frame. -/
theorem Decomposes.cons {rest tail : Bytes} {frames : List (WireFrame serde)}
    {result : ParseResult} (h : Decomposes serde rest frames tail result)
    (frame : WireFrame serde) :
    Decomposes serde (frame.encode ++ rest) (frame :: frames) tail
      (result.prepend [frame.decoded]) where
  buffer_eq := by rw [h.buffer_eq, encode_cons, List.append_assoc]
  pairs_eq := congrArg (frame.decoded :: ·) h.pairs_eq
  remainder := h.remainder

/-- Every result of the scanner decomposes its buffer. -/
theorem Scan.decomposes {buffer : Bytes} {outcome : Except Panic ParseResult}
    (hScan : Scan serde buffer outcome) {result : ParseResult} (h : outcome = .ok result) :
    ∃ frames tail, Decomposes serde buffer frames tail result := by
  induction hScan generalizing result with
  | empty =>
      cases h
      exact ⟨[], [], rfl, rfl, .nothing⟩
  | invalid => cases h
  | @unparsed buffer hBuffer _ hParse =>
      cases h
      exact ⟨[], buffer, rfl, rfl, .header hBuffer hParse⟩
  | undelimited => cases h
  | short hNul hUtf8 hParse hLength =>
      cases h
      exact ⟨[], _, rfl, rfl, .payload hNul hUtf8 hParse hLength⟩
  | @frame frame rest outcome _ ih =>
      cases outcome with
      | error panic => cases h
      | ok inner =>
          cases h
          obtain ⟨frames, tail, hInner⟩ := ih rfl
          exact ⟨frame :: frames, tail, hInner.cons frame⟩

theorem exists_decomposes {buffer : Bytes} {result : ParseResult}
    (h : parseHeaderPayloadPairs serde buffer = .ok result) :
    ∃ frames tail, Decomposes serde buffer frames tail result :=
  (scan_parseHeaderPayloadPairs serde buffer).decomposes h

/-- What is kept was in the buffer. -/
theorem parseHeaderPayloadPairs_kept_length_le {buffer kept : Bytes} {result : ParseResult}
    {header : GDPPacketInTransit} (h : parseHeaderPayloadPairs serde buffer = .ok result)
    (hKept : result.2 = some (header, kept)) : kept.length ≤ buffer.length := by
  obtain ⟨frames, tail, hResult⟩ := exists_decomposes h
  have hTail := (hKept ▸ hResult.remainder).length_le
  rw [hResult.buffer_eq, List.length_append]
  omega

end Spec

/-- Both copies return the same on every buffer. A result of theirs says how the
buffer decomposes, and nothing else could be said of it. -/
theorem parseHeaderPayloadPairs_spec (serde : SerdeJson) :
    (∀ buffer,
      Tcp.parseHeaderPayloadPairs serde buffer = Dtls.parseHeaderPayloadPairs serde buffer) ∧
    ∀ buffer result, Tcp.parseHeaderPayloadPairs serde buffer = .ok result →
      ∃ frames tail, Decomposes serde buffer frames tail result ∧
        ∀ frames' tail' result', Decomposes serde buffer frames' tail' result' →
          frames' = frames ∧ tail' = tail ∧ result' = result := by
  refine ⟨fun _ => rfl, ?_⟩
  intro buffer result h
  obtain ⟨frames, tail, hResult⟩ := exists_decomposes h
  refine ⟨frames, tail, hResult, ?_⟩
  intro frames' tail' result' hOther
  exact hResult.unique hOther

namespace ParseExample

def header : GDPPacketInTransit := .announcing .forward (.ofBytes 1 2 3 4) [0, 7, 0]

/-- A frame whose payload holds NULs, and a frame whose payload is cut short. -/
def buffer : Bytes :=
  compactJson.toString header ++ 0 :: ([0, 7, 0] ++ (compactJson.toString header ++ 0 :: [0]))

def result : ParseResult := ([(header, [0, 7, 0])], some (header, [0]))

/-- The frame is found, and the other one kept. -/
theorem parse_buffer : Tcp.parseHeaderPayloadPairs compactJson buffer = .ok result := by
  have hNul := compactJson_lawful.no_nul header
  have hUtf8 := compactJson_lawful.utf8 header
  have hParse := compactJson_lawful.fromStr_toString header
  let frame : WireFrame compactJson :=
    ⟨compactJson.toString header, header, [0, 7, 0], hUtf8, hNul, hParse, rfl⟩
  have hBuffer : buffer = frame.encode ++ (compactJson.toString header ++ 0 :: [0]) := by
    simp [buffer, frame, Frame.encode, headerCodec]
  rw [Tcp.parseHeaderPayloadPairs, hBuffer, parseHeaderPayloadPairs_frame,
    parseHeaderPayloadPairs_of_ne_nil (by simp),
    parseLoop_short [] hNul hUtf8 hParse (by decide)]
  rfl

end ParseExample

open ParseExample in
/-- The NULs inside the payload do not end it. -/
theorem parseHeaderPayloadPairs_spec_example :
    ∃ frames tail, Decomposes compactJson buffer frames tail result ∧
      frames.map Frame.decoded = [(header, [0, 7, 0])] := by
  obtain ⟨frames, tail, hResult, -⟩ :=
    (parseHeaderPayloadPairs_spec compactJson).2 buffer result parse_buffer
  exact ⟨frames, tail, hResult, hResult.pairs_eq.symm⟩

end GdpRouter
