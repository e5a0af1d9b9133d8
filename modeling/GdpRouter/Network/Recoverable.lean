import GdpRouter.Network.PanicFreedom

/-! When the TCP receive arm can still hand a packet on. A header that does not
parse is kept as an incomplete one and put in front of every later read, so
what matters is what the kept bytes can still become. Of a `Noop` frame the arm
keeps the payload only, which it then takes for the beginning of a header. -/
namespace GdpRouter

open Framing Transition

/-- The dispatch loop hands frames with this header on. -/
def GDPPacketInTransit.Handled (header : GDPPacketInTransit) : Prop :=
  header.action = .forward ∨ header.action = .advertise

/-- Some bytes behind this text complete a header. -/
def Growable (serde : SerdeJson) (text : Bytes) : Prop :=
  ∃ more header, 0 ∉ more ∧ validUtf8 (text ++ more) = true ∧
    serde.fromStr (text ++ more) = some header

/-- Kept bytes that the scanner can get past, when `owed` reads, each of at least one
byte and at most a buffer, come behind them before it looks at them again. -/
inductive Recoverable (serde : SerdeJson) : Nat → Bytes → Prop where
  /-- A text can grow into a header. -/
  | text {owed : Nat} {text : Bytes} (hNul : 0 ∉ text) (hGrows : Growable serde text) :
      Recoverable serde owed text
  /-- Behind a text that is no header everything is dropped. -/
  | dropped {owed : Nat} {text rest : Bytes} (hNul : 0 ∉ text) (hUtf8 : validUtf8 text = true)
      (hParse : serde.fromStr text = none) (hGrows : Growable serde text) :
      Recoverable serde owed (text ++ 0 :: rest)
  /-- The payload of a header other than `Noop` is awaited. -/
  | awaited {owed : Nat} {text payload : Bytes} {header : GDPPacketInTransit} (hNul : 0 ∉ text)
      (hUtf8 : validUtf8 text = true) (hParse : serde.fromStr text = some header)
      (hLength : payload.length < header.length) (hAction : header.action ≠ .noop) :
      Recoverable serde owed (text ++ 0 :: payload)
  /-- The payload of a `Noop` header is completed by the next read. -/
  | filled {owed : Nat} {text payload : Bytes} {header : GDPPacketInTransit} (hNul : 0 ∉ text)
      (hUtf8 : validUtf8 text = true) (hParse : serde.fromStr text = some header)
      (hLength : payload.length < header.length)
      (hFits : header.length ≤ payload.length + (owed + 1) * udpBufferSize) :
      Recoverable serde owed (text ++ 0 :: payload)
  /-- It is not, so the next read is put behind the payload alone. -/
  | nested {owed : Nat} {text payload : Bytes} {header : GDPPacketInTransit} (hNul : 0 ∉ text)
      (hUtf8 : validUtf8 text = true) (hParse : serde.fromStr text = some header)
      (hLength : payload.length < header.length) (hAction : header.action = .noop)
      (hPayload : Recoverable serde (owed + 1) payload) :
      Recoverable serde owed (text ++ 0 :: payload)
  /-- A complete frame in front does not matter. -/
  | behind {owed : Nat} (frame : WireFrame serde) {rest : Bytes}
      (hRest : Recoverable serde owed rest) : Recoverable serde owed (frame.encode ++ rest)
  /-- A complete frame is handed on by any read on which the scanner does not panic. -/
  | handed {owed : Nat} (frame : WireFrame serde) {rest more : Bytes}
      (hHandled : frame.header.Handled) (hFrom : owed < more.length)
      (hTo : more.length ≤ (owed + 1) * udpBufferSize)
      (hClear : Clear (headerCodec serde) (rest ++ more)) :
      Recoverable serde owed (frame.encode ++ rest)

/-- Only bytes kept under the action `Noop` are ever scanned again. -/
def RecvState.Recoverable (serde : SerdeJson) (state : RecvState) : Prop :=
  state.needMoreDataForPreviousHeader = true → state.remainingGdpHeader.action = .noop →
    GdpRouter.Recoverable serde 0 state.remainingGdpPayload

/-- What that many reads may bring. -/
def ReadsBring (count : Nat) (bytes : Bytes) : Prop :=
  count ≤ bytes.length ∧ bytes.length ≤ count * udpBufferSize

/-- The reads owed to bytes from which nothing recovers have come behind them. -/
def DeadKept (serde : SerdeJson) (buffer : Bytes) : Prop :=
  ∃ owed kept behind, buffer = kept ++ behind ∧ ReadsBring owed behind ∧
    ¬Recoverable serde owed kept

section Dead

variable {serde : SerdeJson} {threadName : GDPName}

theorem ReadsBring.nil : ReadsBring 0 [] := ⟨Nat.zero_le _, Nat.zero_le _⟩

/-- One more read brings its bytes. -/
theorem ReadsBring.snoc {count : Nat} {bytes read : Bytes} (h : ReadsBring count bytes)
    (hRead : read ≠ [] ∧ read.length ≤ udpBufferSize) : ReadsBring (count + 1) (bytes ++ read) := by
  obtain ⟨hFrom, hTo⟩ := h
  have hPos := List.length_pos_iff.mpr hRead.1
  rw [ReadsBring, List.length_append, Nat.succ_mul]
  omega

/-- A pair is handed on exactly when its action is handled. -/
theorem dispatch_isSome_iff {header : GDPPacketInTransit} {payload : Bytes} :
    (dispatch threadName header payload).isSome = true ↔ header.Handled := by
  unfold dispatch GDPPacketInTransit.Handled
  by_cases hForward : header.action = .forward
  · simp [hForward]
  · by_cases hAdvertise : header.action = .advertise
    · simp [hAdvertise]
    · simp [hForward, hAdvertise]

/-- Nothing is handed on when no action is handled. -/
theorem dispatchPairs_eq_nil_iff {pairs : List HeaderPayload} :
    dispatchPairs threadName pairs = [] ↔ ∀ pair ∈ pairs, ¬pair.1.Handled := by
  rw [dispatchPairs, List.filterMap_eq_nil_iff]
  apply forall₂_congr
  intro pair _
  rw [← @dispatch_isSome_iff threadName pair.1 pair.2, Bool.not_eq_true,
    Option.isSome_eq_false_iff, Option.isNone_iff_eq_none]

/-- A text without a NUL can only be kept for what it can grow into. -/
theorem Recoverable.growable {owed : Nat} {text : Bytes} (h : Recoverable serde owed text)
    (hNul : 0 ∉ text) : Growable serde text := by
  cases h with
  | text _ hGrows => exact hGrows
  | dropped | awaited | filled | nested => simp at hNul
  | behind frame | handed frame => simp [Frame.encode, headerCodec] at hNul

theorem deadKept_text {text : Bytes} (hNul : 0 ∉ text) (hStuck : ¬Growable serde text) :
    DeadKept serde text :=
  ⟨0, text, [], (List.append_nil text).symm, .nil, fun h => hStuck (h.growable hNul)⟩

/-- The result of a scan from which nothing is handed on, now or later. -/
structure DeadResult (serde : SerdeJson) (result : ParseResult) : Prop where
  unhandled : ∀ pair ∈ result.1, ¬pair.1.Handled
  kept : ∃ header buffer, result.2 = some (header, buffer) ∧ header.action = .noop ∧
    DeadKept serde buffer

/-- A scan that keeps such a text hands nothing on, now or later. -/
theorem deadResult_text {text : Bytes} (hNul : 0 ∉ text) (hStuck : ¬Growable serde text) :
    DeadResult serde ([], some (defaultGdpHeader, text)) :=
  ⟨List.forall_mem_nil _, _, text, rfl, rfl, deadKept_text hNul hStuck⟩

/-- A read behind a text that is no header and can never be one. -/
theorem dead_scan_text {text more : Bytes} (hNul : 0 ∉ text) (hMore : more ≠ [])
    (hStuck : ¬Growable serde text) {result : ParseResult}
    (hOk : parseHeaderPayloadPairs serde (text ++ more) = .ok result) :
    DeadResult serde result := by
  have hSplit := congrArg Prod.fst (splitFirst_append_of_not_mem 0 more hNul)
  have hNulMore := not_mem_splitFirst 0 more
  rw [parseHeaderPayloadPairs_of_ne_nil (by simp [hMore])] at hOk
  cases hUtf8 : validUtf8 (text ++ (splitFirst 0 more).1) with
  | false =>
      rw [parseLoop_invalid _ (by rw [hSplit]; exact hUtf8)] at hOk
      cases hOk
  | true =>
      cases hParse : serde.fromStr (text ++ (splitFirst 0 more).1) with
      | some header => exact absurd ⟨_, header, hNulMore, hUtf8, hParse⟩ hStuck
      | none =>
          rw [parseLoop_unparsed _ (by rw [hSplit]; exact hUtf8) (by rw [hSplit]; exact hParse),
            hSplit] at hOk
          cases hOk
          apply deadResult_text (by simp [hNul, hNulMore])
          intro ⟨rest, header, hRest, hValid, hHeader⟩
          rw [List.append_assoc] at hValid hHeader
          exact hStuck ⟨_, header, by simp [hRest, hNulMore], hValid, hHeader⟩

/-- Whatever the reads owed to a dead buffer bring, nothing is handed on and what is
kept is dead again. The induction takes complete frames off the front. -/
theorem dead_scan {owed : Nat} {buffer more : Bytes} (hMore : ReadsBring (owed + 1) more)
    (hDead : ¬Recoverable serde owed buffer) {result : ParseResult}
    (hOk : parseHeaderPayloadPairs serde (buffer ++ more) = .ok result) :
    DeadResult serde result := by
  have hNe : more ≠ [] := List.ne_nil_of_length_pos (by have hFrom := hMore.1; omega)
  induction hLength : buffer.length using Nat.strong_induction_on generalizing buffer result with
  | _ n ih =>
      subst hLength
      by_cases hNul : 0 ∈ buffer
      · have hSplit := splitFirst_fst_append_of_mem 0 more hNul
        rcases buffer_shape serde buffer with hUtf8 | ⟨hUtf8, hParse⟩ | ⟨hNone, _⟩ |
          ⟨text, payload, header, rfl, hText, hUtf8, hParse, hShort⟩ | ⟨frame, rest, rfl⟩
        · rw [parseHeaderPayloadPairs_of_ne_nil (by simp [hNe]),
            parseLoop_invalid _ (by rw [hSplit]; exact hUtf8)] at hOk
          cases hOk
        · obtain ⟨text, rest, rfl, hText⟩ := List.eq_append_cons_of_mem hNul
          rw [splitFirst_append 0 rest hText] at hSplit hUtf8 hParse
          rw [parseHeaderPayloadPairs_of_ne_nil (by simp),
            parseLoop_unparsed _ (by rw [hSplit]; exact hUtf8) (by rw [hSplit]; exact hParse),
            hSplit] at hOk
          cases hOk
          exact deadResult_text hText fun hGrows => hDead (.dropped hText hUtf8 hParse hGrows)
        · exact absurd hNul hNone
        · -- A `Noop` payload that the reads do not complete: they come behind it alone.
          have hAction : header.action = .noop := by
            by_contra hOther
            exact hDead (.awaited hText hUtf8 hParse hShort hOther)
          have hLong : ¬header.length ≤ payload.length + (owed + 1) * udpBufferSize := fun hFits =>
            hDead (.filled hText hUtf8 hParse hShort hFits)
          have hStill : (payload ++ more).length < header.length := by
            have hTo := hMore.2
            rw [List.length_append]
            omega
          rw [List.append_assoc, List.cons_append, parseHeaderPayloadPairs_of_ne_nil (by simp),
            parseLoop_short _ hText hUtf8 hParse hStill] at hOk
          cases hOk
          exact ⟨List.forall_mem_nil _, header, _, rfl, hAction, owed + 1, payload, more, rfl,
            hMore,
            fun hPayload => hDead (.nested hText hUtf8 hParse hShort hAction hPayload)⟩
        · have hShorter : rest.length < (frame.encode ++ rest).length := by
            have hPos := frame.encode_length_pos
            simp only [List.length_append]
            omega
          rw [List.append_assoc, parseHeaderPayloadPairs_frame] at hOk
          obtain ⟨inner, hRest, rfl⟩ := map_eq_ok_iff.mp hOk
          obtain ⟨hUnhandled, hKept⟩ :=
            ih _ hShorter (fun h => hDead (.behind frame h)) hRest rfl
          have hClear := (parseHeaderPayloadPairs_ok_iff serde _).mp ⟨inner, hRest⟩
          have hFrame : ¬frame.header.Handled := fun hHandled =>
            hDead (.handed frame hHandled hMore.1 hMore.2 hClear)
          exact ⟨List.forall_mem_cons.mpr ⟨hFrame, hUnhandled⟩, hKept⟩
      · exact dead_scan_text hNul hNe (fun hGrows => hDead (.text hNul hGrows)) hOk

/-- What is kept as an incomplete header is dead. -/
structure RecvState.Dead (serde : SerdeJson) (state : RecvState) : Prop where
  more : state.needMoreDataForPreviousHeader = true
  action : state.remainingGdpHeader.action = .noop
  kept : DeadKept serde state.remainingGdpPayload

/-- The arm is dead once what it has kept is not recoverable. -/
theorem dead_of_not_recoverable {state : RecvState} (h : ¬state.Recoverable serde) :
    state.Dead serde := by
  simp only [RecvState.Recoverable, not_forall] at h
  obtain ⟨hMore, hAction, hKept⟩ := h
  exact ⟨hMore, hAction, 0, _, [], (List.append_nil _).symm, .nil, hKept⟩

/-- One read in a dead state. -/
theorem handleTcpStreamRead_dead {state next : RecvState} (hDead : state.Dead serde) {read : Bytes}
    (hRead : read ≠ [] ∧ read.length ≤ udpBufferSize) {out : List GDPPacket}
    (hOk : handleTcpStreamRead serde threadName state read = .ok (next, out)) :
    out = [] ∧ next.Dead serde := by
  obtain ⟨hMore, hAction, owed, kept, behind, hKept, hBehind, hStuck⟩ := hDead
  obtain ⟨result, hParse, rfl, rfl⟩ :=
    (handleTcpStreamRead_iff_scan (.header hMore hAction)).mp hOk
  rw [hKept, List.append_assoc] at hParse
  obtain ⟨hUnhandled, header, buffer, hLeft, hNoop, hNext⟩ :=
    dead_scan (hBehind.snoc hRead) hStuck hParse
  refine ⟨dispatchPairs_eq_nil_iff.mpr hUnhandled, ?_⟩
  have hHolds := finish_holds state result
  rw [hLeft] at hHolds
  rw [hHolds]
  exact ⟨rfl, hNoop, hNext⟩

/-- Reads in a dead state hand nothing on, ever. -/
theorem dead_run {state finish : RecvState} {reads : List Bytes} {handed : List GDPPacket}
    (hDead : state.Dead serde) (hReads : ∀ read ∈ reads, read ≠ [] ∧ read.length ≤ udpBufferSize)
    (run : Run (TcpReads serde threadName) state reads finish handed) : handed = [] := by
  induction run with
  | nil => rfl
  | cons first _ ih =>
      obtain ⟨hRead, hRest⟩ := List.forall_mem_cons.mp hReads
      obtain ⟨rfl, hNext⟩ := handleTcpStreamRead_dead hDead hRead (tcpReads_iff.mp first)
      exact ih hNext hRest

end Dead

end GdpRouter
