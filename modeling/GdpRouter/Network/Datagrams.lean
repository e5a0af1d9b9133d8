import GdpRouter.Network.RoundTrip

/-! Header and payload of a message travel in two datagrams, and DTLS sends
neither again. The receive arm takes whatever comes next for the payload it
waits for, and a payload whose header is missing for a header. -/
namespace GdpRouter

open Framing Transition

/-- The plaintext of a DTLS record holds this many bytes. -/
def dtlsRecordSize : Nat := 16384

/-- What the send arm of `handle_dtls_stream` writes for one packet, one datagram
for each `write_all`. For an empty payload this writes nothing. -/
def dtlsDatagrams (serde : SerdeJson) (packet : GDPPacket) : List Bytes :=
  headerString serde packet :: if packet.body = [] then [] else [packet.body]

/-- A message whose payload fits into one record. -/
def GDPPacket.Fits (packet : GDPPacket) : Prop :=
  packet.action = .forward ∧ ∃ payload, packet.payload = some payload ∧
    payload.length ≤ dtlsRecordSize

/-- Which datagrams of a message arrive. -/
inductive Fate where
  | lost
  | whole
  | headerOnly
  | payloadOnly
  deriving DecidableEq, Repr

def Fate.arriving (serde : SerdeJson) (packet : GDPPacket) : Fate → List Bytes
  | .lost => []
  | .whole => dtlsDatagrams serde packet
  | .headerOnly => [headerString serde packet]
  | .payloadOnly => [packet.body]

/-- The datagrams of these messages that arrive, in order. -/
def arriving (serde : SerdeJson) (sent : List (GDPPacket × Fate)) : List Bytes :=
  sent.flatMap fun item => item.2.arriving serde item.1

/-- Only a payload that is not empty can be told from its header by losses. -/
def Possible (item : GDPPacket × Fate) : Prop :=
  item.2 = .headerOnly ∨ item.2 = .payloadOnly → item.1.body ≠ []

/-- Each part of the datagrams of a packet is what arrives under some fate. -/
theorem sublist_dtlsDatagrams_iff {serde : SerdeJson} {packet : GDPPacket} {reads : List Bytes} :
    reads.Sublist (dtlsDatagrams serde packet) ↔
      ∃ fate, Possible (packet, fate) ∧ reads = Fate.arriving serde packet fate := by
  constructor
  · intro h
    unfold dtlsDatagrams at h
    by_cases hBody : packet.body = []
    · rw [if_pos hBody] at h
      rcases List.sublist_singleton.mp h with rfl | rfl
      · exact ⟨.lost, by simp [Possible], rfl⟩
      · exact ⟨.whole, by simp [Possible], by simp [Fate.arriving, dtlsDatagrams, hBody]⟩
    · rw [if_neg hBody] at h
      rcases List.sublist_cons_iff.mp h with hRest | ⟨rest, rfl, hRest⟩
      · rcases List.sublist_singleton.mp hRest with rfl | rfl
        · exact ⟨.lost, by simp [Possible], rfl⟩
        · exact ⟨.payloadOnly, fun _ => hBody, rfl⟩
      · rcases List.sublist_singleton.mp hRest with rfl | rfl
        · exact ⟨.headerOnly, fun _ => hBody, rfl⟩
        · exact ⟨.whole, by simp [Possible], by simp [Fate.arriving, dtlsDatagrams, hBody]⟩
  · intro ⟨fate, hPossible, hReads⟩
    subst hReads
    cases fate with
    | lost => exact List.nil_sublist _
    | whole => exact List.Sublist.refl _
    | headerOnly => exact (List.nil_sublist _).cons_cons _
    | payloadOnly =>
        have hBody : packet.body ≠ [] := hPossible (.inr rfl)
        rw [dtlsDatagrams, if_neg hBody]
        exact (List.Sublist.refl _).cons _

/-- The fates of the messages are the ways to lose some of their datagrams. -/
theorem sublist_datagrams_iff (serde : SerdeJson) (packets : List GDPPacket) (reads : List Bytes) :
    reads.Sublist (packets.flatMap (dtlsDatagrams serde)) ↔
      ∃ sent : List (GDPPacket × Fate), sent.map Prod.fst = packets ∧
        (∀ item ∈ sent, Possible item) ∧ reads = arriving serde sent := by
  constructor
  · intro h
    induction packets generalizing reads with
    | nil =>
        obtain rfl := List.sublist_nil.mp h
        exact ⟨[], rfl, List.forall_mem_nil _, rfl⟩
    | cons packet packets ih =>
        obtain ⟨first, rest, rfl, hFirst, hRest⟩ := List.sublist_append_iff.mp h
        obtain ⟨sent, rfl, hSent, rfl⟩ := ih rest hRest
        obtain ⟨fate, hFate, rfl⟩ := sublist_dtlsDatagrams_iff.mp hFirst
        exact ⟨(packet, fate) :: sent, rfl, List.forall_mem_cons.mpr ⟨hFate, hSent⟩, rfl⟩
  · rintro ⟨sent, rfl, hSent, rfl⟩
    induction sent with
    | nil => exact List.Sublist.slnil
    | cons item sent ih =>
        obtain ⟨hItem, hRest⟩ := List.forall_mem_cons.mp hSent
        exact (sublist_dtlsDatagrams_iff.mpr ⟨item.2, hItem, rfl⟩).append (ih hRest)

/-- A message with this destination and payload was sent. -/
def Sent (sent : List (GDPPacket × Fate)) (packet : GDPPacket) : Prop :=
  ∃ item ∈ sent, packet.gdpname = item.1.gdpname ∧ packet.payload = item.1.payload

/-- Every message that the receiver hands on, up to any point, was sent. -/
def Uncorrupted (serde : SerdeJson) (threadName : GDPName) (sent : List (GDPPacket × Fate)) :
    Prop :=
  ∀ reads state handed, reads <+: arriving serde sent →
    Run (DtlsReads serde threadName) .initial reads state handed →
      ∀ packet ∈ handed, packet.action = .forward → Sent sent packet

/-- No payload arrives without its header, and behind a header without its
payload nothing arrives. -/
def Harmless : List Fate → Prop
  | [] => True
  | .lost :: rest => Harmless rest
  | .whole :: rest => Harmless rest
  | .headerOnly :: rest => ∀ fate ∈ rest, fate = .lost
  | .payloadOnly :: _ => False

section Reads

variable {serde : SerdeJson} {threadName : GDPName} {state : DtlsRecvState} {packet : GDPPacket}

theorem headerString_eq (packet : GDPPacket) (h : packet.body = []) :
    headerString serde packet = frameBytes serde packet := by
  rw [frameBytes, h, List.append_nil]

theorem GDPPacket.Fits.body_length_le (h : packet.Fits) :
    packet.body.length ≤ dtlsRecordSize := by
  obtain ⟨-, payload, hPayload, hLength⟩ := h
  rwa [GDPPacket.body, hPayload]

/-- Such a packet can be sent. -/
theorem GDPPacket.Fits.sendable (h : packet.Fits) : packet.Sendable where
  shaped := by
    obtain ⟨hAction, payload, hPayload, -⟩ := h
    exact .inl ⟨hAction, payload, hPayload⟩
  sized := h.body_length_le.trans_lt (by decide)

/-- The header of a message with a payload, at a frame boundary. -/
theorem read_header (hSerde : serde.Lawful)
    (hIdle : state.recv.needMoreDataForPreviousHeader = false)
    (hPacket : packet.Fits) (hBody : packet.body ≠ []) :
    handleDtlsStreamRead serde threadName state (headerString serde packet) =
      .ok (⟨⟨true, packet.getHeader, []⟩, state.resetCounter⟩, []) := by
  have hLength : ([] : Bytes).length < packet.getHeader.length := by
    rw [hPacket.sendable.sized.getHeader_length]
    exact List.length_pos_iff.mpr hBody
  rw [handleDtlsStreamRead, dtlsStreamPairs, if_neg (by simp [hIdle]), headerString,
    scan_short (hSerde.no_nul _) (hSerde.utf8 _) (hSerde.fromStr_toString _) hLength]
  rfl

/-- The header of a message with an empty payload is the whole frame. -/
theorem read_frame (hSerde : serde.Lawful)
    (hIdle : state.recv.needMoreDataForPreviousHeader = false)
    (hPacket : packet.Sendable) :
    handleDtlsStreamRead serde threadName state (frameBytes serde packet) =
      .ok (⟨⟨false, state.recv.remainingGdpHeader, []⟩, state.resetCounter⟩,
        [packet.receivedBy threadName]) := by
  have hScan := @scan_frame serde state.recv (packetFrame hSerde packet hPacket.sized) []
  rw [List.append_nil, encode_packetFrame] at hScan
  have hDispatch := dispatch_packetFrame threadName hPacket
  rw [handleDtlsStreamRead, dtlsStreamPairs, if_neg (by simp [hIdle]), hScan]
  simp [RecvState.scan, Except.map, ParseResult.prepend, RecvState.finish, Frame.decoded,
    dispatchPairs, packetFrame, hDispatch]

/-- Bytes of the right length complete the message that is waited for, whatever
they are. -/
theorem read_payload {header : GDPPacketInTransit} {bytes : Bytes} {counter : Nat}
    (hAction : header.action = .forward) (hLength : bytes.length = header.length) :
    handleDtlsStreamRead serde threadName ⟨⟨true, header, []⟩, counter⟩ bytes =
      .ok (⟨⟨false, header, []⟩, counter⟩,
        [constructGdpForwardFromBytes header.destination threadName bytes]) := by
  simp [handleDtlsStreamRead, dtlsStreamPairs, hAction, RecvState.continuePayload, hLength,
    RecvState.scan, Except.map, ParseResult.prepend, RecvState.finish, dispatchPairs, dispatch]

theorem sent_head (item : GDPPacket × Fate) (sent : List (GDPPacket × Fate)) :
    Sent (item :: sent) (item.1.receivedBy threadName) :=
  ⟨item, List.mem_cons_self, rfl, rfl⟩

theorem Sent.tail {item : GDPPacket × Fate} {sent : List (GDPPacket × Fate)}
    (h : Sent sent packet) : Sent (item :: sent) packet := by
  obtain ⟨other, hOther, hSame⟩ := h
  exact ⟨other, List.mem_cons_of_mem _ hOther, hSame⟩

/-- The receiver builds the packet from its header and payload again. -/
theorem GDPPacket.Fits.forward_body (h : packet.Fits) :
    constructGdpForwardFromBytes packet.getHeader.destination threadName packet.body =
      packet.receivedBy threadName := by
  obtain ⟨action, gdpname, payload, source⟩ := packet
  obtain ⟨hAction, bytes, hPayload, -⟩ := h
  simp only at hAction hPayload
  subst hAction hPayload
  rfl

/-- One whole message at a frame boundary: its datagrams, or as many of them as
have arrived, and what is read behind them at a boundary again. -/
theorem read_whole (hSerde : serde.Lawful) (hPacket : packet.Fits)
    (hIdle : state.recv.needMoreDataForPreviousHeader = false) {rest reads : List Bytes}
    {finish : DtlsRecvState} {handed : List GDPPacket}
    (hReads : reads <+: dtlsDatagrams serde packet ++ rest)
    (run : Run (DtlsReads serde threadName) state reads finish handed) :
    handed = [] ∨ ∃ next left out, next.recv.needMoreDataForPreviousHeader = false ∧
      left <+: rest ∧ Run (DtlsReads serde threadName) next left finish out ∧
      handed = packet.receivedBy threadName :: out := by
  unfold dtlsDatagrams at hReads
  by_cases hBody : packet.body = []
  · rw [if_pos hBody, List.singleton_append] at hReads
    cases run with
    | nil => exact .inl rfl
    | @cons _ next _ _ reads out _ first tail =>
        obtain ⟨rfl, hRest⟩ := List.cons_prefix_cons.mp hReads
        rw [dtlsReads_iff, headerString_eq packet hBody, read_frame hSerde hIdle hPacket.sendable]
          at first
        cases first
        exact .inr ⟨_, reads, _, rfl, hRest, tail, rfl⟩
  · rw [if_neg hBody, List.cons_append, List.singleton_append] at hReads
    cases run with
    | nil => exact .inl rfl
    | @cons _ next _ _ reads out _ first tail =>
        obtain ⟨rfl, hRest⟩ := List.cons_prefix_cons.mp hReads
        rw [dtlsReads_iff, read_header hSerde hIdle hPacket hBody] at first
        cases first
        cases tail with
        | nil => exact .inl rfl
        | @cons _ last _ _ reads out _ second tail =>
            obtain ⟨rfl, hBehind⟩ := List.cons_prefix_cons.mp hRest
            have hAction : packet.getHeader.action = .forward := by simp [hPacket.1]
            rw [dtlsReads_iff, read_payload hAction hPacket.sendable.sized.getHeader_length.symm,
              hPacket.forward_body] at second
            cases second
            exact .inr ⟨_, reads, _, rfl, hBehind, tail, rfl⟩

/-- Under harmless losses a receiver at a frame boundary hands on only what was sent. -/
theorem handed_sent (hSerde : serde.Lawful) {sent : List (GDPPacket × Fate)}
    (hFits : ∀ item ∈ sent, item.1.Fits ∧ Possible item) (hFates : Harmless (sent.map Prod.snd))
    (hIdle : state.recv.needMoreDataForPreviousHeader = false) {reads : List Bytes}
    {finish : DtlsRecvState} {handed : List GDPPacket} (hReads : reads <+: arriving serde sent)
    (run : Run (DtlsReads serde threadName) state reads finish handed) :
    ∀ packet ∈ handed, Sent sent packet := by
  induction sent generalizing state reads handed with
  | nil =>
      obtain rfl := List.prefix_nil.mp hReads
      cases run
      exact List.forall_mem_nil _
  | cons item sent ih =>
      obtain ⟨packet, fate⟩ := item
      obtain ⟨⟨hPacket, hPossible⟩, hRest⟩ := List.forall_mem_cons.mp hFits
      cases fate with
      | lost =>
          intro other hOther
          exact (ih hRest hFates hIdle hReads run other hOther).tail
      | whole =>
          rcases read_whole hSerde hPacket hIdle hReads run with
            rfl | ⟨next, left, out, hNext, hLeft, tail, rfl⟩
          · exact List.forall_mem_nil _
          · rw [List.forall_mem_cons]
            constructor
            · exact sent_head (packet, .whole) sent
            · intro other hOther
              exact (ih hRest hFates hNext hLeft tail other hOther).tail
      | headerOnly =>
          -- Nothing arrives any more, so the message stays incomplete.
          have hNone : arriving serde sent = [] := by
            apply List.flatMap_eq_nil_iff.mpr
            intro other hOther
            rw [hFates other.2 (List.mem_map_of_mem hOther)]
            rfl
          have hReads : reads <+: [headerString serde packet] := by
            simpa [arriving, Fate.arriving] using hNone ▸ hReads
          cases run with
          | nil => exact List.forall_mem_nil _
          | cons first tail =>
              obtain ⟨rfl, hNil⟩ := List.cons_prefix_cons.mp hReads
              obtain rfl := List.prefix_nil.mp hNil
              rw [dtlsReads_iff, read_header hSerde hIdle hPacket (hPossible (.inl rfl))] at first
              cases first
              cases tail
              exact List.forall_mem_nil _
      | payloadOnly => cases hFates

/-! ### Losses that do harm -/

/-- The first message after a headless one of which something arrives. -/
theorem exists_next_arrival {fates : List Fate} (h : ¬∀ fate ∈ fates, fate = .lost) :
    ∃ losses next later, fates = losses ++ next :: later ∧ (∀ fate ∈ losses, fate = .lost) ∧
      next ≠ .lost := by
  induction fates with
  | nil => exact absurd (List.forall_mem_nil _) h
  | cons fate rest ih =>
      by_cases hFate : fate = .lost
      · obtain ⟨losses, next, later, rfl, hLosses, hNext⟩ :=
          ih fun hRest => h (List.forall_mem_cons.mpr ⟨hFate, hRest⟩)
        exact ⟨fate :: losses, next, later, rfl, List.forall_mem_cons.mpr ⟨hFate, hLosses⟩, hNext⟩
      · exact ⟨[], fate, rest, rfl, List.forall_mem_nil _, hFate⟩

/-- A payload without its header, or a header without its payload before something
that arrives. -/
def FirstHarm (fates : List Fate) : Prop :=
  (∃ after, fates = .payloadOnly :: after) ∨
    ∃ losses next later, fates = .headerOnly :: (losses ++ next :: later) ∧
      (∀ fate ∈ losses, fate = .lost) ∧ next ≠ .lost

/-- Losses that do harm have a first one that does. Up to it, messages arrive
whole or not at all. -/
theorem not_harmless {fates : List Fate} (h : ¬Harmless fates) :
    ∃ before rest, fates = before ++ rest ∧ (∀ fate ∈ before, fate = .lost ∨ fate = .whole) ∧
      FirstHarm rest := by
  induction fates with
  | nil => exact absurd trivial h
  | cons fate rest ih =>
      cases fate with
      | lost =>
          obtain ⟨before, harm, rfl, hBefore, hHarm⟩ := ih h
          exact ⟨.lost :: before, harm, rfl, List.forall_mem_cons.mpr ⟨.inl rfl, hBefore⟩, hHarm⟩
      | whole =>
          obtain ⟨before, harm, rfl, hBefore, hHarm⟩ := ih h
          exact ⟨.whole :: before, harm, rfl, List.forall_mem_cons.mpr ⟨.inr rfl, hBefore⟩, hHarm⟩
      | headerOnly =>
          obtain ⟨losses, next, later, rfl, hLosses, hNext⟩ := exists_next_arrival h
          exact ⟨[], _, rfl, List.forall_mem_nil _, .inr ⟨losses, next, later, rfl, hLosses, hNext⟩⟩
      | payloadOnly => exact ⟨[], _, rfl, List.forall_mem_nil _, .inl ⟨rest, rfl⟩⟩

/-- At a frame boundary the datagrams of a packet are read as that packet. -/
theorem exists_run_datagrams (hSerde : serde.Lawful) (hPacket : packet.Fits)
    (hIdle : state.recv.needMoreDataForPreviousHeader = false) :
    ∃ next, Run (DtlsReads serde threadName) state (dtlsDatagrams serde packet) next
      [packet.receivedBy threadName] ∧ next.recv.needMoreDataForPreviousHeader = false := by
  unfold dtlsDatagrams
  by_cases hBody : packet.body = []
  · have hRead : handleDtlsStreamRead serde threadName state (frameBytes serde packet) = _ :=
      read_frame hSerde hIdle hPacket.sendable
    rw [if_pos hBody, headerString_eq packet hBody]
    exact ⟨_, .single (dtlsReads_iff.mpr hRead), rfl⟩
  · have hAction : packet.getHeader.action = .forward := by simp [hPacket.1]
    have hFirst : handleDtlsStreamRead serde threadName state (headerString serde packet) = _ :=
      read_header hSerde hIdle hPacket hBody
    have hSecond : handleDtlsStreamRead serde threadName
        ⟨⟨true, packet.getHeader, []⟩, state.resetCounter⟩ packet.body = _ :=
      read_payload hAction hPacket.sendable.sized.getHeader_length.symm
    rw [hPacket.forward_body] at hSecond
    rw [if_neg hBody]
    exact ⟨_, .cons (dtlsReads_iff.mpr hFirst) (.single (dtlsReads_iff.mpr hSecond)), rfl⟩

/-- Messages that arrive whole, or not at all, leave the receiver at a boundary. -/
theorem exists_run_whole (hSerde : serde.Lawful) {sent : List (GDPPacket × Fate)}
    (hFits : ∀ item ∈ sent, item.1.Fits) (hFates : ∀ item ∈ sent, item.2 = .lost ∨ item.2 = .whole)
    (hIdle : state.recv.needMoreDataForPreviousHeader = false) :
    ∃ finish handed, Run (DtlsReads serde threadName) state (arriving serde sent) finish handed ∧
      finish.recv.needMoreDataForPreviousHeader = false := by
  induction sent generalizing state with
  | nil => exact ⟨state, [], .nil state, hIdle⟩
  | cons item sent ih =>
      obtain ⟨packet, fate⟩ := item
      obtain ⟨hPacket, hRest⟩ := List.forall_mem_cons.mp hFits
      obtain ⟨hFate, hLater⟩ := List.forall_mem_cons.mp hFates
      rcases hFate with hLost | hWhole
      · obtain rfl : fate = .lost := hLost
        exact ih hRest hLater hIdle
      · obtain rfl : fate = .whole := hWhole
        obtain ⟨next, first, hNext⟩ := exists_run_datagrams hSerde hPacket hIdle
        obtain ⟨finish, handed, rest, hFinish⟩ := ih hRest hLater hNext
        exact ⟨finish, _, first.append rest, hFinish⟩

/-! ### Contents that show the harm -/

/-- A message with one byte of payload. -/
def plain : GDPPacket := ⟨.forward, .ofBytes 0 0 0 0, some [0], .ofBytes 0 0 0 0⟩

/-- A message for another destination. -/
def other (payload : Bytes) : GDPPacket :=
  ⟨.forward, .ofBytes 1 1 1 1, some payload, .ofBytes 0 0 0 0⟩

def plains (fates : List Fate) : List (GDPPacket × Fate) := fates.map fun fate => (plain, fate)

theorem plains_snd (fates : List Fate) : (plains fates).map Prod.snd = fates := by
  simp [plains, Function.comp_def]

/-- Plain messages can meet any fate. -/
theorem plains_fits {fates : List Fate} : ∀ item ∈ plains fates, item.1.Fits ∧ Possible item := by
  intro item hItem
  obtain ⟨fate, -, rfl⟩ := List.mem_map.mp hItem
  exact ⟨⟨rfl, [0], rfl, by decide⟩, fun _ => by simp [plain, GDPPacket.body]⟩

theorem plain_gdpname_ne : plain.gdpname ≠ .ofBytes 1 1 1 1 := by decide

/-- No plain message goes to the name that corrupted bytes go to. -/
theorem plains_gdpname {fates : List Fate} :
    ∀ item ∈ plains fates, item.1.gdpname ≠ .ofBytes 1 1 1 1 := by
  intro item hItem
  obtain ⟨fate, -, rfl⟩ := List.mem_map.mp hItem
  exact plain_gdpname_ne

theorem arriving_append (first second : List (GDPPacket × Fate)) :
    arriving serde (first ++ second) = arriving serde first ++ arriving serde second :=
  List.flatMap_append

/-- Messages that arrive whole or not at all leave the receiver at a frame boundary. -/
theorem exists_run_plains (threadName : GDPName) (hSerde : serde.Lawful) {fates : List Fate}
    (hFates : ∀ fate ∈ fates, fate = .lost ∨ fate = .whole) :
    ∃ finish handed, Run (DtlsReads serde threadName) .initial (arriving serde (plains fates))
      finish handed ∧ finish.recv.needMoreDataForPreviousHeader = false := by
  apply exists_run_whole hSerde (fun item hItem => (plains_fits item hItem).1) _ rfl
  intro item hItem
  obtain ⟨fate, hFate, rfl⟩ := List.mem_map.mp hItem
  exact hFates fate hFate

/-- A payload that is itself a frame, without its header. -/
theorem payloadOnly_corrupts (threadName : GDPName) (hSerde : serde.Lawful)
    (hHeader : (headerString serde (other [])).length ≤ dtlsRecordSize) {before : List Fate}
    (hBefore : ∀ fate ∈ before, fate = .lost ∨ fate = .whole) (after : List Fate) :
    ∃ sent, sent.map Prod.snd = before ++ .payloadOnly :: after ∧
      (∀ item ∈ sent, item.1.Fits ∧ Possible item) ∧ ¬Uncorrupted serde threadName sent := by
  let carrier : GDPPacket := { plain with payload := some (frameBytes serde (other [])) }
  have hFrame : frameBytes serde (other []) = headerString serde (other []) :=
    (headerString_eq _ rfl).symm
  refine ⟨plains before ++ (carrier, .payloadOnly) :: plains after, ?_, ?_, fun hSafe => ?_⟩
  · rw [List.map_append, List.map_cons, plains_snd, plains_snd]
  · rw [List.forall_mem_append, List.forall_mem_cons]
    refine ⟨plains_fits, ⟨⟨rfl, _, rfl, hFrame ▸ hHeader⟩, fun _ => ?_⟩, plains_fits⟩
    simp [carrier, GDPPacket.body, frameBytes, headerString]
  · obtain ⟨middle, handed, run, hIdle⟩ := exists_run_plains threadName hSerde hBefore
    have hRead : handleDtlsStreamRead serde threadName middle (frameBytes serde (other [])) = _ :=
      read_frame hSerde hIdle ⟨.inl ⟨rfl, [], rfl⟩, by decide⟩
    have hArrives : arriving serde (plains before) ++ [frameBytes serde (other [])] <+:
        arriving serde (plains before ++ (carrier, .payloadOnly) :: plains after) := by
      rw [arriving_append, List.prefix_append_right_inj]
      exact List.prefix_append _ (arriving serde (plains after))
    obtain ⟨item, hItem, hName, -⟩ := hSafe _ _ _ hArrives (run.snoc (dtlsReads_iff.mpr hRead)) _
      (List.mem_append_right _ (List.mem_singleton_self _)) rfl
    rw [List.mem_append, List.mem_cons] at hItem
    rcases hItem with hItem | rfl | hItem
    · exact plains_gdpname item hItem hName.symm
    · exact plain_gdpname_ne hName.symm
    · exact plains_gdpname item hItem hName.symm

/-- The first datagram of a plain message that is not lost altogether. -/
theorem exists_arriving_plain
    (hHeader : (headerString serde plain).length ≤ dtlsRecordSize) {fate : Fate}
    (h : fate ≠ .lost) :
    ∃ datagram more, fate.arriving serde plain = datagram :: more ∧ 0 ∈ datagram ∧
      datagram.length ≤ dtlsRecordSize := by
  have hNul : 0 ∈ headerString serde plain := by simp [headerString]
  cases fate with
  | lost => exact absurd rfl h
  | whole => exact ⟨_, _, rfl, hNul, hHeader⟩
  | headerOnly => exact ⟨_, _, rfl, hNul, hHeader⟩
  | payloadOnly => exact ⟨[0], [], rfl, List.mem_singleton_self _, by decide⟩

/-- Of lost messages nothing arrives. -/
theorem arriving_lost {losses : List Fate} (h : ∀ fate ∈ losses, fate = .lost) :
    arriving serde (plains losses) = [] := by
  apply List.flatMap_eq_nil_iff.mpr
  intro item hItem
  obtain ⟨fate, hFate, rfl⟩ := List.mem_map.mp hItem
  rw [h fate hFate]
  rfl

/-- A header without its payload, completed by the next datagram. The payload
that was lost has the length of that datagram and no byte in common with it. -/
theorem headerOnly_corrupts (threadName : GDPName) (hSerde : serde.Lawful)
    (hHeader : (headerString serde plain).length ≤ dtlsRecordSize) {before losses : List Fate}
    (hBefore : ∀ fate ∈ before, fate = .lost ∨ fate = .whole)
    (hLosses : ∀ fate ∈ losses, fate = .lost) {next : Fate} (hNext : next ≠ .lost)
    (later : List Fate) :
    ∃ sent, sent.map Prod.snd = before ++ .headerOnly :: (losses ++ next :: later) ∧
      (∀ item ∈ sent, item.1.Fits ∧ Possible item) ∧ ¬Uncorrupted serde threadName sent := by
  obtain ⟨datagram, more, hArriving, hNul, hSize⟩ := exists_arriving_plain hHeader hNext
  let victim := other (List.replicate datagram.length 1)
  have hBody : victim.body = List.replicate datagram.length 1 := rfl
  have hNonempty : victim.body ≠ [] := by
    rw [hBody, ← List.length_pos_iff, List.length_replicate]
    exact List.length_pos_of_mem hNul
  have hVictim : victim.Fits := by
    refine ⟨rfl, _, rfl, ?_⟩
    rwa [List.length_replicate]
  let rest := plains losses ++ plains (next :: later)
  refine ⟨plains before ++ (victim, .headerOnly) :: rest, ?_, ?_, fun hSafe => ?_⟩
  · simp only [rest, List.map_append, List.map_cons, plains_snd]
  · simp only [rest, List.forall_mem_append, List.forall_mem_cons]
    exact ⟨plains_fits, ⟨hVictim, fun _ => hNonempty⟩, plains_fits, plains_fits⟩
  · obtain ⟨middle, handed, run, hIdle⟩ := exists_run_plains threadName hSerde hBefore
    have hFirst : handleDtlsStreamRead serde threadName middle (headerString serde victim) = _ :=
      read_header hSerde hIdle hVictim hNonempty
    have hLength : datagram.length = victim.getHeader.length := by
      rw [hVictim.sendable.sized.getHeader_length, hBody, List.length_replicate]
    have hSecond : handleDtlsStreamRead serde threadName
        ⟨⟨true, victim.getHeader, []⟩, middle.resetCounter⟩ datagram = _ :=
      read_payload rfl hLength
    have hArrives : arriving serde (plains before) ++ [headerString serde victim] ++ [datagram] <+:
        arriving serde (plains before ++ (victim, .headerOnly) :: rest) := by
      have hRest : arriving serde rest = datagram :: (more ++ arriving serde (plains later)) := by
        rw [arriving_append, arriving_lost hLosses, List.nil_append]
        exact congrArg (· ++ arriving serde (plains later)) hArriving
      rw [arriving_append, List.append_assoc, List.prefix_append_right_inj]
      exact ⟨more ++ arriving serde (plains later), congrArg (List.cons _) hRest.symm⟩
    have hRun := (run.snoc (dtlsReads_iff.mpr hFirst)).snoc (dtlsReads_iff.mpr hSecond)
    obtain ⟨item, hItem, hName, hPayload⟩ := hSafe _ _ _ hArrives hRun _
      (List.mem_append_right _ (List.mem_singleton_self _)) rfl
    simp only [rest, List.mem_append, List.mem_cons] at hItem
    rcases hItem with hItem | rfl | hItem | hItem
    · exact plains_gdpname item hItem hName.symm
    · have hSame : datagram = List.replicate datagram.length 1 := Option.some.inj hPayload
      rw [hSame] at hNul
      exact absurd (List.eq_of_mem_replicate hNul) (by decide)
    · exact plains_gdpname item hItem hName.symm
    · exact plains_gdpname item hItem hName.symm

end Reads

/-- A pattern of losses spares the contents of all messages exactly when no
payload arrives without its header and nothing behind a header whose payload
is lost. The headers have to fit into a record, as the payloads do. -/
theorem datagram_loss_harmless_iff {serde : SerdeJson} (hSerde : serde.Lawful)
    (hHeader : ∀ packet : GDPPacket, packet.body.length ≤ dtlsRecordSize →
      (headerString serde packet).length ≤ dtlsRecordSize) (threadName : GDPName)
    (fates : List Fate) :
    (∀ sent : List (GDPPacket × Fate), sent.map Prod.snd = fates →
      (∀ item ∈ sent, item.1.Fits ∧ Possible item) → Uncorrupted serde threadName sent) ↔
      Harmless fates := by
  constructor
  · intro hSafe
    by_contra hHarm
    obtain ⟨before, rest, rfl, hBefore,
        ⟨after, rfl⟩ | ⟨losses, next, later, rfl, hLosses, hNext⟩⟩ :=
      not_harmless hHarm
    · obtain ⟨sent, hFates, hFits, hCorrupt⟩ :=
        payloadOnly_corrupts threadName hSerde (hHeader _ (by decide)) hBefore after
      exact hCorrupt (hSafe sent hFates hFits)
    · obtain ⟨sent, hFates, hFits, hCorrupt⟩ :=
        headerOnly_corrupts threadName hSerde (hHeader _ (by decide)) hBefore hLosses hNext later
      exact hCorrupt (hSafe sent hFates hFits)
  · intro hHarmless sent hFates hFits reads state handed hReads run packet hPacket _
    exact handed_sent hSerde hFits (hFates ▸ hHarmless) rfl hReads run packet hPacket

instance (sent : List (GDPPacket × Fate)) (packet : GDPPacket) : Decidable (Sent sent packet) :=
  inferInstanceAs (Decidable (∃ item ∈ sent, _ ∧ _))

/-- The compact header of a message that fits into one record fits into one record. -/
theorem compactJson_header_fits {packet : GDPPacket} (h : packet.body.length ≤ dtlsRecordSize) :
    (headerString compactJson packet).length ≤ dtlsRecordSize := by
  have hBody : packet.getHeader.length < 10 ^ 5 := by
    rw [GDPPacket.getHeader_length]
    exact (Nat.mod_le _ _).trans_lt (h.trans_lt (by decide))
  have hText : (compactJson.toString packet.getHeader).length ≤ 100 :=
    CompactJson.text_length_le hBody
  rw [headerString, List.length_append, List.length_singleton]
  exact (Nat.succ_le_succ hText).trans (by decide)

namespace DatagramExample

def threadName : GDPName := .ofBytes 7 7 7 7

def first : GDPPacket := ⟨.forward, .ofBytes 1 2 3 4, some [5, 6], .ofBytes 9 9 9 9⟩
def second : GDPPacket := ⟨.forward, .ofBytes 4 3 2 1, some [7, 8], .ofBytes 9 9 9 9⟩

/-- The payload of the first message is lost. -/
def sent : List (GDPPacket × Fate) := [(first, .headerOnly), (second, .whole)]

/-- The first message with the first two bytes of the second header. -/
def corrupted : GDPPacket := ⟨.forward, .ofBytes 1 2 3 4, some [123, 34], threadName⟩

/-- The same payload is lost behind everything else. -/
def spared : List (GDPPacket × Fate) := [(second, .whole), (first, .lost), (first, .headerOnly)]

theorem fits : ∀ item ∈ sent ++ spared, item.1.Fits ∧ Possible item := by
  simp [sent, spared, first, second, GDPPacket.Fits, Possible, GDPPacket.body, dtlsRecordSize]

end DatagramExample

open DatagramExample in
/-- Without one payload, the header of the next message is handed on as its content. -/
theorem datagram_loss_corrupts :
    (∀ item ∈ sent, item.1.Fits ∧ Possible item) ∧ ∃ state,
      Run (DtlsReads compactJson threadName) .initial (arriving compactJson sent) state
        [corrupted] ∧
      corrupted.action = .forward ∧ ¬Sent sent corrupted := by
  refine ⟨fun item hItem => fits item (List.mem_append_left _ hItem), ⟨⟨true, defaultGdpHeader,
    ((headerString compactJson second).drop 2).dropLast ++ [7, 8]⟩, 1⟩, ?_, rfl, by decide⟩
  exact runOption_eq_some_iff.mp (by decide +kernel)

open DatagramExample in
/-- A header without its payload does no harm when nothing follows. -/
theorem datagram_loss_harmless_example : Uncorrupted compactJson threadName spared := by
  have hFates : Harmless [.whole, .lost, .headerOnly] := by simp [Harmless]
  exact (datagram_loss_harmless_iff compactJson_lawful (fun _ => compactJson_header_fits) threadName
    _).mpr hFates spared rfl fun item hItem => fits item (List.mem_append_right _ hItem)

end GdpRouter
