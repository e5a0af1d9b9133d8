import GdpRouter.Network.Recoverable

/-! The way out of every other state. A header text is sent in pieces of a few
bytes, so that each read ends between two characters. Payloads are filled up with
zeros: the scanner takes what is left of them for an empty text. -/
namespace GdpRouter

open Framing Transition

/-- Reads of at least one byte and at most a buffer that hand a packet on. -/
def Escapes (serde : SerdeJson) (threadName : GDPName) (state : RecvState) : Prop :=
  ∃ reads finish handed, (∀ read ∈ reads, read ≠ [] ∧ read.length ≤ udpBufferSize) ∧
    Run (TcpReads serde threadName) state reads finish handed ∧ handed ≠ []

/-- A scan with this result hands a frame on, or leaves a state that escapes. -/
def GetsOut (serde : SerdeJson) (threadName : GDPName) (result : ParseResult) : Prop :=
  (∃ pair ∈ result.1, pair.1.Handled) ∨
    ∀ state : RecvState, state.Holds result.2 → Escapes serde threadName state

/-- Some read behind these bytes gets out. -/
def Exit (serde : SerdeJson) (threadName : GDPName) (buffer : Bytes) : Prop :=
  ∃ more result, (more ≠ [] ∧ more.length ≤ udpBufferSize) ∧
    parseHeaderPayloadPairs serde (buffer ++ more) = .ok result ∧ GetsOut serde threadName result

def zeros (n : Nat) : Bytes := List.replicate n 0

section Recover

variable {serde : SerdeJson} {threadName : GDPName} {state : RecvState}

@[simp] theorem length_zeros (n : Nat) : (zeros n).length = n := List.length_replicate

theorem zeros_succ (n : Nat) : zeros (n + 1) = 0 :: zeros n := rfl

theorem zeros_add (first second : Nat) : zeros (first + second) = zeros first ++ zeros second :=
  List.replicate_add ..

/-- Some zeros are a read. -/
theorem zeros_read {n : Nat} (hPos : 0 < n) (hLe : n ≤ udpBufferSize) :
    zeros n ≠ [] ∧ (zeros n).length ≤ udpBufferSize :=
  ⟨List.ne_nil_of_length_pos (by rwa [length_zeros]), by rwa [length_zeros]⟩

/-- A read that gets out is the first of the reads that escape. -/
theorem Exit.escapes {buffer : Bytes} (h : Exit serde threadName buffer)
    (hCarries : Carries serde state buffer) : Escapes serde threadName state := by
  obtain ⟨more, result, hMore, hOk, hOut⟩ := h
  have hRead : TcpReads serde threadName state more (state.finish result).1 _ :=
    tcpReads_iff.mpr ((handleTcpStreamRead_iff_scan hCarries).mpr ⟨result, hOk, rfl, rfl⟩)
  rcases hOut with ⟨pair, hPair, hHandled⟩ | hNext
  · refine ⟨[more], _, _, by simpa using hMore, .single hRead, fun hNone => ?_⟩
    exact dispatchPairs_eq_nil_iff.mp hNone pair hPair hHandled
  · obtain ⟨reads, finish, handed, hReads, run, hHanded⟩ := hNext _ (finish_holds state result)
    exact ⟨more :: reads, finish, _, List.forall_mem_cons.mpr ⟨hMore, hReads⟩, .cons hRead run,
      List.append_ne_nil_of_right_ne_nil _ hHanded⟩

/-- Pairs found before do not stand in the way. -/
theorem GetsOut.prepend {result : ParseResult} (h : GetsOut serde threadName result)
    (pairs : List HeaderPayload) : GetsOut serde threadName (result.prepend pairs) := by
  rcases h with ⟨pair, hPair, hHandled⟩ | hNext
  · exact .inl ⟨pair, List.mem_append_right _ hPair, hHandled⟩
  · exact .inr hNext

/-- Neither does a whole frame before the bytes. -/
theorem Exit.behind {rest : Bytes} (h : Exit serde threadName rest) (frame : WireFrame serde) :
    Exit serde threadName (frame.encode ++ rest) := by
  obtain ⟨more, result, hMore, hOk, hOut⟩ := h
  refine ⟨more, result.prepend [frame.decoded], hMore, ?_, hOut.prepend _⟩
  rw [List.append_assoc, parseHeaderPayloadPairs_frame, hOk]
  rfl

/-! ### Header texts -/

theorem udpBufferSize_pos : 0 < udpBufferSize := by decide

/-- The next few bytes of a text, up to the end of a character. -/
theorem exists_piece {text more : Bytes} (hUtf8 : validUtf8 (text ++ more) = true)
    (hMore : more ≠ []) :
    ∃ piece rest, more = piece ++ rest ∧ piece ≠ [] ∧ piece.length ≤ 4 ∧
      validUtf8 (text ++ piece) = true := by
  obtain ⟨m, hFrom, hTo, hValid⟩ := exists_validUtf8_take hUtf8 (text.length + 1)
  obtain ⟨k, rfl⟩ := Nat.exists_eq_add_of_le (Nat.le_of_succ_le hFrom)
  rw [List.take_length_add_append] at hValid
  refine ⟨more.take k, more.drop k, (List.take_append_drop k more).symm, ?_, ?_, hValid⟩
  · rw [ne_eq, List.take_eq_nil_iff, not_or]
    exact ⟨by omega, hMore⟩
  · exact (List.length_take_le k more).trans (by omega)

/-- A NUL behind this text gets out. -/
def Opens (serde : SerdeJson) (threadName : GDPName) (text : Bytes) : Prop :=
  ∃ result, parseHeaderPayloadPairs serde (text ++ [0]) = .ok result ∧
    GetsOut serde threadName result

/-- The NUL comes in the same read as the end of the text. -/
theorem Opens.exit {text piece : Bytes} (h : Opens serde threadName (text ++ piece))
    (hFew : piece.length ≤ 4) : Exit serde threadName text := by
  obtain ⟨result, hOk, hOut⟩ := h
  refine ⟨piece ++ [0], result, ⟨by simp, ?_⟩, ?_, hOut⟩
  · rw [List.length_append]
    exact (Nat.succ_le_succ hFew).trans (by decide)
  · rwa [← List.append_assoc]

/-- A read that ends in a text that is no header yet. -/
theorem exit_of_text {text piece : Bytes} (hNul : 0 ∉ text ++ piece)
    (hUtf8 : validUtf8 (text ++ piece) = true) (hParse : serde.fromStr (text ++ piece) = none)
    (hPiece : piece ≠ []) (hFew : piece.length ≤ 4)
    (hNext : ∀ next : RecvState, Carries serde next (text ++ piece) →
      Escapes serde threadName next) : Exit serde threadName text := by
  have hSplit := splitFirst_of_not_mem 0 hNul
  have hRead : parseHeaderPayloadPairs serde (text ++ piece) =
      .ok ([], some (defaultGdpHeader, text ++ piece)) := by
    rw [parseHeaderPayloadPairs_of_ne_nil (by simp [hPiece]),
      parseLoop_unparsed _ (by rw [hSplit]; exact hUtf8) (by rw [hSplit]; exact hParse), hSplit]
  refine ⟨piece, _, ⟨hPiece, hFew.trans (by decide)⟩, hRead, .inr fun next hHolds => ?_⟩
  exact hNext next (hHolds.carries (.header _))

/-- A text that can grow into a header is sent piece by piece, up to the first header
that it comes to. The induction is on what is missing. -/
theorem escapes_of_header {text more : Bytes} (hCarries : Carries serde state text)
    (hNul : 0 ∉ text ++ more) (hUtf8 : validUtf8 (text ++ more) = true)
    (hParse : serde.fromStr (text ++ more) ≠ none)
    (hOpens : ∀ first, first <+: more → validUtf8 (text ++ first) = true →
      serde.fromStr (text ++ first) ≠ none → Opens serde threadName (text ++ first)) :
    Escapes serde threadName state := by
  induction hLength : more.length using Nat.strong_induction_on generalizing text more state with
  | _ n ih =>
      subst hLength
      by_cases hMore : more = []
      · subst hMore
        exact ((hOpens [] List.prefix_rfl hUtf8 hParse).exit (Nat.zero_le 4)).escapes hCarries
      · obtain ⟨piece, rest, rfl, hPiece, hFew, hValid⟩ := exists_piece hUtf8 hMore
        by_cases hHeader : serde.fromStr (text ++ piece) = none
        · rw [← List.append_assoc] at hNul hUtf8 hParse
          have hText : 0 ∉ text ++ piece := fun hMem => hNul (List.mem_append_left _ hMem)
          have hShorter : rest.length < (piece ++ rest).length := by
            have hPos := List.length_pos_iff.mpr hPiece
            rw [List.length_append]
            omega
          apply Exit.escapes _ hCarries
          refine exit_of_text hText hValid hHeader hPiece hFew fun next hNext => ?_
          refine ih _ hShorter hNext hNul hUtf8 hParse (fun first hFirst => ?_) rfl
          rw [List.append_assoc]
          exact hOpens _ ((List.prefix_append_right_inj piece).mpr hFirst)
        · have hOpen := hOpens piece (List.prefix_append _ _) hValid hHeader
          exact (hOpen.exit hFew).escapes hCarries

/-- A frame that is handed on. -/
def wakeFrame (hSerde : serde.Lawful) : WireFrame serde :=
  packetFrame hSerde ⟨.forward, .ofBytes 0 0 0 0, none, .ofBytes 0 0 0 0⟩ (by decide)

/-- The text of such a frame is a way out. -/
theorem wakeFrame_opens (hSerde : serde.Lawful) :
    Opens serde threadName (wakeFrame hSerde).text := by
  have hFrame := parseHeaderPayloadPairs_frame (wakeFrame hSerde) []
  rw [List.append_nil] at hFrame
  exact ⟨_, hFrame, .inl ⟨_, List.mem_singleton_self _, .inl rfl⟩⟩

/-- At a frame boundary, and behind an empty text. -/
theorem escapes_of_nothing (hSerde : serde.Lawful) (hCarries : Carries serde state []) :
    Escapes serde threadName state := by
  have hHeader : serde.fromStr (wakeFrame hSerde).text = some _ := (wakeFrame hSerde).parsed
  apply @escapes_of_header serde threadName state [] (wakeFrame hSerde).text hCarries
    (wakeFrame hSerde).text_delim (wakeFrame hSerde).text_valid
  · rw [List.nil_append, hHeader]
    simp
  · intro first hFirst _ hParse
    rw [List.nil_append] at hParse ⊢
    by_cases hWhole : first = (wakeFrame hSerde).text
    · rw [hWhole]
      exact wakeFrame_opens hSerde
    · exact absurd (hSerde.fromStr_prefix _ first hFirst hWhole) hParse

/-! ### Payloads -/

/-- The scanner takes zeros for an empty text. -/
theorem scan_zeros (hSerde : serde.Lawful) (n : Nat) :
    ∃ result, parseHeaderPayloadPairs serde (zeros n) = .ok result ∧
      GetsOut serde threadName result := by
  cases n with
  | zero =>
      refine ⟨([], none), rfl, .inr fun next hNext => ?_⟩
      exact escapes_of_nothing hSerde (.boundary hNext)
  | succ n =>
      have hSplit : splitFirst 0 (zeros (n + 1)) = ([], some (zeros n)) :=
        splitFirst_append 0 (zeros n) List.not_mem_nil
      have hUtf8 : validUtf8 [] = true := by decide
      refine ⟨([], some (defaultGdpHeader, [])), ?_, .inr fun next hNext => ?_⟩
      · have hParse := hSerde.fromStr_nil
        rw [parseHeaderPayloadPairs_of_ne_nil (by simp [zeros_succ]),
          parseLoop_unparsed _ (by rwa [hSplit]) (by rwa [hSplit]), hSplit]
      · exact escapes_of_nothing hSerde (hNext.carries (.header []))

/-- Behind zeros the next read is a way out. -/
theorem exit_zeros (hSerde : serde.Lawful) (n : Nat) : Exit serde threadName (zeros n) := by
  obtain ⟨result, hOk, hOut⟩ := @scan_zeros serde threadName hSerde (n + 1)
  refine ⟨zeros 1, result, zeros_read Nat.one_pos udpBufferSize_pos, ?_, hOut⟩
  rwa [← zeros_add]

section Payload

variable {text payload : Bytes} {header : GDPPacketInTransit}

theorem length_padded {length : Nat} (hLength : payload.length ≤ length) :
    (payload ++ zeros (length - payload.length)).length = length := by
  rw [List.length_append, length_zeros, Nat.add_sub_cancel' hLength]

/-- The frame that a header without its whole payload can be filled up to. -/
def paddedFrame (payload : Bytes) (hNul : 0 ∉ text) (hUtf8 : validUtf8 text = true)
    (hParse : serde.fromStr text = some header) (hLength : payload.length ≤ header.length) :
    WireFrame serde where
  text := text
  header := header
  payload := payload ++ zeros (header.length - payload.length)
  text_valid := hUtf8
  text_delim := hNul
  parsed := hParse
  sized := length_padded hLength

/-- Enough zeros complete the payload, and the rest of them is nothing. -/
theorem scan_filled (hSerde : serde.Lawful) (hNul : 0 ∉ text) (hUtf8 : validUtf8 text = true)
    (hParse : serde.fromStr text = some header) (hLength : payload.length ≤ header.length) {n : Nat}
    (hEnough : header.length ≤ payload.length + n) :
    ∃ result, parseHeaderPayloadPairs serde (text ++ 0 :: (payload ++ zeros n)) = .ok result ∧
      GetsOut serde threadName result := by
  let frame := paddedFrame payload hNul hUtf8 hParse hLength
  obtain ⟨rest, rfl⟩ : ∃ rest, n = header.length - payload.length + rest :=
    Nat.exists_eq_add_of_le (by omega)
  obtain ⟨result, hOk, hOut⟩ := @scan_zeros serde threadName hSerde rest
  have hBytes : text ++ 0 :: (payload ++ zeros (header.length - payload.length + rest)) =
      frame.encode ++ zeros rest := by
    simp [frame, paddedFrame, Frame.encode, headerCodec, zeros_add]
  refine ⟨_, ?_, hOut.prepend [frame.decoded]⟩
  rw [hBytes, parseHeaderPayloadPairs_frame, hOk]
  rfl

theorem scan_short_ok (hNul : 0 ∉ text) (hUtf8 : validUtf8 text = true)
    (hParse : serde.fromStr text = some header) (hLength : payload.length < header.length) :
    parseHeaderPayloadPairs serde (text ++ 0 :: payload) = .ok ([], some (header, payload)) := by
  rw [parseHeaderPayloadPairs_of_ne_nil (by simp), parseLoop_short _ hNul hUtf8 hParse hLength]

/-- A payload that is awaited is filled up, one buffer after the other. -/
theorem exit_awaited (hSerde : serde.Lawful) (hNul : 0 ∉ text) (hUtf8 : validUtf8 text = true)
    (hParse : serde.fromStr text = some header) (hAction : header.action ≠ .noop)
    (hLength : payload.length < header.length) :
    Exit serde threadName (text ++ 0 :: payload) := by
  induction hMissing : header.length - payload.length using Nat.strong_induction_on
    generalizing payload with
  | _ n ih =>
      by_cases hFits : header.length ≤ payload.length + udpBufferSize
      · obtain ⟨result, hOk, hOut⟩ := @scan_filled serde threadName text payload header hSerde hNul
          hUtf8 hParse hLength.le udpBufferSize hFits
        refine ⟨zeros udpBufferSize, result, zeros_read udpBufferSize_pos le_rfl, ?_, hOut⟩
        rwa [List.append_assoc, List.cons_append]
      · have hStill : (payload ++ zeros udpBufferSize).length < header.length := by
          rw [List.length_append, length_zeros]
          omega
        have hFewer : header.length - (payload ++ zeros udpBufferSize).length < n := by
          have hPos := udpBufferSize_pos
          rw [List.length_append, length_zeros]
          omega
        refine ⟨zeros udpBufferSize, ([], some (header, payload ++ zeros udpBufferSize)),
          zeros_read udpBufferSize_pos le_rfl, ?_, .inr fun next hNext => ?_⟩
        · rw [List.append_assoc, List.cons_append, scan_short_ok hNul hUtf8 hParse hStill]
        · exact (ih _ hFewer hStill rfl).escapes
            (hNext.carries (.payload hAction hNul hUtf8 hParse hStill))

/-- A header that only zeros follow. -/
theorem scan_header_zeros (hSerde : serde.Lawful) (hNul : 0 ∉ text) (hUtf8 : validUtf8 text = true)
    (hParse : serde.fromStr text = some header) (n : Nat) :
    ∃ result, parseHeaderPayloadPairs serde (text ++ 0 :: zeros n) = .ok result ∧
      GetsOut serde threadName result := by
  by_cases hEnough : header.length ≤ n
  · have hAll : header.length ≤ ([] : Bytes).length + n := by simpa using hEnough
    exact scan_filled hSerde hNul hUtf8 hParse (Nat.zero_le _) hAll
  · have hShort : (zeros n).length < header.length := by
      rw [length_zeros]
      omega
    refine ⟨_, scan_short_ok hNul hUtf8 hParse hShort, .inr fun next hNext => ?_⟩
    by_cases hAction : header.action = .noop
    · exact (exit_zeros hSerde n).escapes (hNext.carries (.noop _ hAction))
    · exact (exit_awaited hSerde hNul hUtf8 hParse hAction hShort).escapes
        (hNext.carries (.payload hAction hNul hUtf8 hParse hShort))

end Payload

/-- A text that can grow into a header. -/
theorem Growable.escapes (hSerde : serde.Lawful) {text : Bytes} (h : Growable serde text)
    (hNul : 0 ∉ text) (hCarries : Carries serde state text) : Escapes serde threadName state := by
  obtain ⟨more, header, hMore, hUtf8, hParse⟩ := h
  apply escapes_of_header hCarries (by simp [hNul, hMore]) hUtf8 (by simp [hParse])
  intro first hFirst hValid hHeader
  obtain ⟨other, hOther⟩ := Option.ne_none_iff_exists'.mp hHeader
  apply scan_header_zeros hSerde _ hValid hOther 0
  rw [List.mem_append, not_or]
  exact ⟨hNul, fun hMem => hMore (hFirst.subset hMem)⟩

/-- The last of several reads. -/
theorem ReadsBring.exists_snoc {count : Nat} {bytes : Bytes} (h : ReadsBring (count + 1) bytes) :
    ∃ before read, bytes = before ++ read ∧ ReadsBring count before ∧
      (read ≠ [] ∧ read.length ≤ udpBufferSize) := by
  obtain ⟨hFrom, hTo⟩ := h
  have hPos := udpBufferSize_pos
  have hSize : count ≤ count * udpBufferSize := Nat.le_mul_of_pos_right count hPos
  rw [Nat.succ_mul] at hTo
  -- As much as possible comes with it.
  let cut := max count (bytes.length - udpBufferSize)
  have hBefore : (bytes.take cut).length = cut := by
    rw [List.length_take]
    omega
  have hRead : (bytes.drop cut).length = bytes.length - cut := List.length_drop
  refine ⟨bytes.take cut, bytes.drop cut, (List.take_append_drop cut bytes).symm, ?_, ?_, ?_⟩
  · rw [ReadsBring, hBefore]
    omega
  · rw [← List.length_pos_iff, hRead]
    omega
  · rw [hRead]
    omega

theorem readsBring_zeros (count : Nat) : ReadsBring count (zeros count) := by
  rw [ReadsBring, length_zeros]
  exact ⟨le_rfl, Nat.le_mul_of_pos_right count udpBufferSize_pos⟩

/-- The first of some reads that escape is a way out. -/
theorem exit_of_escapes (hSerde : serde.Lawful) {buffer : Bytes}
    (hCarries : Carries serde state buffer) (h : Escapes serde threadName state) :
    Exit serde threadName buffer := by
  obtain ⟨reads, finish, handed, hReads, run, hHanded⟩ := h
  cases run with
  | nil => exact absurd rfl hHanded
  | @cons _ next _ read reads out rest first tail =>
      obtain ⟨hRead, hRest⟩ := List.forall_mem_cons.mp hReads
      obtain ⟨result, hOk, rfl, rfl⟩ :=
        (handleTcpStreamRead_iff_scan hCarries).mp (tcpReads_iff.mp first)
      refine ⟨read, result, hRead, hOk, ?_⟩
      by_cases hNone : dispatchPairs threadName result.1 = []
      · right
        intro other hOther
        have hHolds := finish_holds state result
        cases hLeft : result.2 with
        | none =>
            rw [hLeft] at hOther
            exact escapes_of_nothing hSerde (.boundary hOther)
        | some kept =>
            rw [hLeft] at hOther hHolds
            have hSame : other = (state.finish result).1 := hOther.trans hHolds.symm
            rw [hNone, List.nil_append] at hHanded
            exact hSame ▸ ⟨reads, finish, rest, hRest, tail, hHanded⟩
      · left
        simpa only [dispatchPairs_eq_nil_iff, not_forall, not_not, exists_prop] using hNone

theorem Growable.exit (hSerde : serde.Lawful) {text : Bytes} (h : Growable serde text)
    (hNul : 0 ∉ text) : Exit serde threadName text := by
  have hCarries : Carries serde ⟨true, defaultGdpHeader, text⟩ text := .header rfl rfl
  exact exit_of_escapes hSerde hCarries (h.escapes hSerde hNul hCarries)

/-- The owed reads bring the next bytes of the header text, and zeros behind it. -/
theorem Growable.exists_exit (hSerde : serde.Lawful) {text : Bytes} (h : Growable serde text)
    (hNul : 0 ∉ text) (owed : Nat) :
    ∃ behind, ReadsBring owed behind ∧ Exit serde threadName (text ++ behind) := by
  obtain ⟨more, header, hMore, hUtf8, hParse⟩ := h
  by_cases hInside : owed ≤ more.length
  · have hLength : (more.take owed).length = owed := List.length_take_of_le hInside
    refine ⟨more.take owed, ?_, ?_⟩
    · rw [ReadsBring, hLength]
      exact ⟨le_rfl, Nat.le_mul_of_pos_right owed udpBufferSize_pos⟩
    · have hStill : Growable serde (text ++ more.take owed) := by
        refine ⟨more.drop owed, header, fun hMem => hMore (List.mem_of_mem_drop hMem), ?_, ?_⟩
        · rwa [List.append_assoc, List.take_append_drop]
        · rwa [List.append_assoc, List.take_append_drop]
      apply hStill.exit hSerde
      rw [List.mem_append, not_or]
      exact ⟨hNul, fun hMem => hMore (List.mem_of_mem_take hMem)⟩
  · obtain ⟨extra, rfl⟩ := Nat.exists_eq_add_of_lt (not_le.mp hInside)
    have hText : 0 ∉ text ++ more := by simp [hNul, hMore]
    obtain ⟨result, hOk, hOut⟩ :=
      @scan_header_zeros serde threadName _ header hSerde hText hUtf8 hParse (extra + 1)
    have hLength : (more ++ zeros (extra + 1)).length = more.length + extra + 1 := by
      rw [List.length_append, length_zeros]
      rfl
    refine ⟨more ++ zeros (extra + 1), ?_, zeros 1, result,
      zeros_read Nat.one_pos udpBufferSize_pos, ?_, hOut⟩
    · rw [ReadsBring, hLength]
      exact ⟨le_rfl, Nat.le_mul_of_pos_right _ udpBufferSize_pos⟩
    · have hBytes : text ++ (more ++ zeros (extra + 1)) ++ zeros 1 =
          text ++ more ++ 0 :: zeros (extra + 1) := by
        rw [← zeros_succ, zeros_add (extra + 1) 1]
        simp only [List.append_assoc]
      rw [hBytes, hOk]

/-- The owed reads and one more bring enough zeros to complete a payload. -/
theorem exists_exit_filled (hSerde : serde.Lawful) {text payload : Bytes}
    {header : GDPPacketInTransit} {owed : Nat} (hNul : 0 ∉ text) (hUtf8 : validUtf8 text = true)
    (hParse : serde.fromStr text = some header) (hLength : payload.length < header.length)
    (hFits : header.length ≤ payload.length + (owed + 1) * udpBufferSize) :
    ∃ behind, ReadsBring owed behind ∧
      Exit serde threadName (text ++ 0 :: payload ++ behind) := by
  let count := max (owed + 1) (header.length - payload.length)
  have hCount : ReadsBring (owed + 1) (zeros count) := by
    have hSize := Nat.le_mul_of_pos_right (owed + 1) udpBufferSize_pos
    rw [ReadsBring, length_zeros]
    omega
  obtain ⟨behind, read, hZeros, hBehind, hRead⟩ := hCount.exists_snoc
  obtain ⟨result, hOk, hOut⟩ := @scan_filled serde threadName text payload header hSerde hNul hUtf8
    hParse hLength.le count (by omega)
  refine ⟨behind, hBehind, read, result, hRead, ?_, hOut⟩
  rw [List.append_assoc, List.append_assoc, List.cons_append, ← hZeros, hOk]

/-- The owed reads can be chosen so that one more read gets out. -/
theorem Recoverable.exists_exit (hSerde : serde.Lawful) {owed : Nat} {buffer : Bytes}
    (h : Recoverable serde owed buffer) :
    ∃ behind, ReadsBring owed behind ∧ Exit serde threadName (buffer ++ behind) := by
  induction h with
  | text hNul hGrows => exact hGrows.exists_exit hSerde hNul _
  | @dropped owed text rest hNul hUtf8 hParse hGrows =>
      have hSplit := splitFirst_append 0 (rest ++ (zeros owed ++ zeros 1)) hNul
      refine ⟨zeros owed, readsBring_zeros owed, zeros 1, ([], some (defaultGdpHeader, text)),
        zeros_read Nat.one_pos udpBufferSize_pos, ?_, .inr fun next hNext => ?_⟩
      · rw [List.append_assoc, List.append_assoc, List.cons_append,
          parseHeaderPayloadPairs_of_ne_nil (by simp),
          parseLoop_unparsed _ (by rw [hSplit]; exact hUtf8) (by rw [hSplit]; exact hParse), hSplit]
      · exact hGrows.escapes hSerde hNul (hNext.carries (.header text))
  | @awaited owed text payload header hNul hUtf8 hParse hLength hAction =>
      refine ⟨zeros owed, readsBring_zeros owed, ?_⟩
      rw [List.append_assoc, List.cons_append]
      by_cases hStill : (payload ++ zeros owed).length < header.length
      · exact exit_awaited hSerde hNul hUtf8 hParse hAction hStill
      · rw [List.length_append, length_zeros] at hStill
        obtain ⟨result, hOk, hOut⟩ := @scan_filled serde threadName text payload header hSerde hNul
          hUtf8 hParse hLength.le (owed + 1) (by omega)
        refine ⟨zeros 1, result, zeros_read Nat.one_pos udpBufferSize_pos, ?_, hOut⟩
        rw [List.append_assoc, List.cons_append, List.append_assoc, ← zeros_add, hOk]
  | filled hNul hUtf8 hParse hLength hFits =>
      exact exists_exit_filled hSerde hNul hUtf8 hParse hLength hFits
  | @nested owed text payload header hNul hUtf8 hParse hLength hAction _ ih =>
      by_cases hFits : header.length ≤ payload.length + (owed + 1) * udpBufferSize
      · exact exists_exit_filled hSerde hNul hUtf8 hParse hLength hFits
      · -- The payload stays incomplete, and is kept with the reads behind it.
        obtain ⟨later, hLater, hExit⟩ := ih
        obtain ⟨behind, read, rfl, hBehind, hRead⟩ := hLater.exists_snoc
        have hShort : (payload ++ (behind ++ read)).length < header.length := by
          have hTo := hLater.2
          rw [List.length_append]
          omega
        refine ⟨behind, hBehind, read, ([], some (header, payload ++ (behind ++ read))), hRead, ?_,
          .inr fun next hNext => hExit.escapes (hNext.carries (.noop _ hAction))⟩
        rw [List.append_assoc, List.append_assoc, List.cons_append,
          scan_short_ok hNul hUtf8 hParse hShort]
  | behind frame _ ih =>
      obtain ⟨behind, hBehind, hExit⟩ := ih
      refine ⟨behind, hBehind, ?_⟩
      rw [List.append_assoc]
      exact hExit.behind frame
  | handed frame hHandled hFrom hTo hClear =>
      obtain ⟨behind, read, rfl, hBehind, hRead⟩ := ReadsBring.exists_snoc ⟨hFrom, hTo⟩
      obtain ⟨result, hOk⟩ := (parseHeaderPayloadPairs_ok_iff serde _).mpr hClear
      refine ⟨behind, hBehind, read, result.prepend [frame.decoded], hRead, ?_,
        .inl ⟨_, List.mem_cons_self, hHandled⟩⟩
      simp only [List.append_assoc]
      rw [parseHeaderPayloadPairs_frame, hOk]
      rfl

end Recover

/-- In every reachable state, some further reads hand a packet on exactly when
the bytes kept as an incomplete header, if any, can be got past. -/
theorem handleTcpStream_recovers_iff {serde : SerdeJson} (hSerde : serde.Lawful)
    {threadName : GDPName} {reads : List Bytes} {state : RecvState} {handed : List GDPPacket}
    (run : Run (TcpReads serde threadName) .initial reads state handed) :
    Escapes serde threadName state ↔ state.Recoverable serde := by
  constructor
  · intro ⟨more, finish, out, hReads, rest, hOut⟩
    by_contra hDead
    exact hOut (dead_run (dead_of_not_recoverable hDead) hReads rest)
  · intro hState
    obtain ⟨carried, hCarries⟩ := tcpReads_carries run
    cases hCarries with
    | boundary hDone => exact escapes_of_nothing hSerde (.boundary hDone)
    | header hMore hAction =>
        obtain ⟨behind, ⟨-, hNone⟩, hExit⟩ := (hState hMore hAction).exists_exit hSerde
        obtain rfl : behind = [] := List.length_eq_zero_iff.mp (by omega)
        rw [List.append_nil] at hExit
        exact hExit.escapes (.header hMore hAction)
    | payload hMore hAction hNul hUtf8 hParse hLength =>
        exact (exit_awaited hSerde hNul hUtf8 hParse hAction hLength).escapes
          (.payload hMore hAction hNul hUtf8 hParse hLength)

namespace RecoveryExample

def threadName : GDPName := .ofBytes 7 7 7 7

/-- One closing brace: no header starts with it. -/
def reads : List Bytes := [[CompactJson.closingBrace]]

def stuck : RecvState := ⟨true, defaultGdpHeader, [CompactJson.closingBrace]⟩

theorem run_stuck : Run (TcpReads compactJson threadName) .initial reads stuck [] :=
  runOption_eq_some_iff.mp (by decide +kernel)

/-- Every header text starts with the opening brace. -/
theorem not_growable_closingBrace : ¬Growable compactJson [CompactJson.closingBrace] := by
  intro ⟨more, header, _, _, hParse⟩
  have hText : CompactJson.text header = CompactJson.closingBrace :: more :=
    CompactJson.fromStr_eq_some hParse
  have hFirst : ∀ action, (CompactJson.opening action).head? = some 123 := by
    intro action
    cases action <;> decide +kernel
  have hHead := congrArg List.head? hText
  rw [CompactJson.text_eq, List.head?_append, hFirst, Option.some_or, List.head?_cons] at hHead
  exact absurd (Option.some.inj hHead) (by decide)

def header : GDPPacketInTransit := .announcing .forward (.ofBytes 1 2 3 4) []

/-- The first half of a header text is kept, and the rest may still come. -/
def begun : RecvState :=
  ⟨true, defaultGdpHeader, (compactJson.toString header).take 20⟩

end RecoveryExample

open RecoveryExample in
/-- One byte that belongs to no header, and everything that follows is thrown away. -/
theorem handleTcpStream_dead_state :
    Run (TcpReads compactJson threadName) .initial reads stuck [] ∧
      ¬Escapes compactJson threadName stuck := by
  have hDead : stuck.Dead compactJson :=
    ⟨rfl, rfl, deadKept_text (by decide) not_growable_closingBrace⟩
  refine ⟨run_stuck, ?_⟩
  intro ⟨more, finish, handed, hReads, run, hHanded⟩
  exact hHanded (dead_run hDead hReads run)

open RecoveryExample in
/-- Half of a header text is kept, and the frame can still come. -/
theorem handleTcpStream_recovers_example :
    ∃ state handed, Run (TcpReads compactJson threadName) .initial [begun.remainingGdpPayload]
      state handed ∧ Escapes compactJson threadName state := by
  have run : Run (TcpReads compactJson threadName) .initial [begun.remainingGdpPayload] begun [] :=
    runOption_eq_some_iff.mp (by decide +kernel)
  have hGrows : Growable compactJson begun.remainingGdpPayload :=
    ⟨(compactJson.toString header).drop 20, header, by decide +kernel, by decide +kernel,
      by decide +kernel⟩
  have hBegun : begun.Recoverable compactJson := fun _ _ => .text (by decide +kernel) hGrows
  exact ⟨_, _, run, (handleTcpStream_recovers_iff compactJson_lawful run).mpr hBegun⟩

end GdpRouter
