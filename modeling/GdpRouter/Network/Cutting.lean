import GdpRouter.Network.RoundTrip

/-! Two receivers of one stream that is cut into reads in two ways. They may
differ only when a read ends in the payload of a `Noop` frame, because the TCP
receive arm takes the action `Noop` for its own mark of an incomplete header. -/
namespace GdpRouter

open Framing Transition

/-- A receiver of whole frames hands on what the dispatch loop makes of each of
them. Frames of the other actions are skipped together with their payloads. -/
theorem handleTcpStream_frames {serde : SerdeJson} {threadName : GDPName}
    {frames : List (WireFrame serde)} {reads : List Bytes} {state : RecvState}
    {handed : List GDPPacket} (hReads : reads.flatten = encode frames)
    (hCuts : SparesNoopPayloads frames reads)
    (run : Run (TcpReads serde threadName) .initial reads state handed) :
    handed = dispatchPairs threadName (frames.map Frame.decoded) := by
  obtain ⟨hHanded, -⟩ := tcpReads_prefix run (hReads ▸ List.prefix_rfl) hCuts
  rwa [hReads, completeFrames_encode_length] at hHanded

/-- The same frames, cut in two ways, are handed on alike. -/
theorem handleTcpStream_cut_independent {serde : SerdeJson} {threadName : GDPName}
    {frames : List (WireFrame serde)} {first second : List Bytes}
    (hFirst : first.flatten = encode frames) (hSecond : second.flatten = encode frames)
    (hFirstCuts : SparesNoopPayloads frames first)
    (hSecondCuts : SparesNoopPayloads frames second)
    {firstState secondState : RecvState} {firstHanded secondHanded : List GDPPacket}
    (firstRun : Run (TcpReads serde threadName) .initial first firstState firstHanded)
    (secondRun : Run (TcpReads serde threadName) .initial second secondState secondHanded) :
    firstHanded = secondHanded ∧
      firstHanded = dispatchPairs threadName (frames.map Frame.decoded) := by
  have hLeft := handleTcpStream_frames hFirst hFirstCuts firstRun
  have hRight := handleTcpStream_frames hSecond hSecondCuts secondRun
  exact ⟨hLeft.trans hRight.symm, hLeft⟩

namespace CuttingExample

/-- A `Noop` with two bytes of payload, and a message. -/
def packets : List GDPPacket :=
  [⟨.noop, .ofBytes 1 2 3 4, some [1, 2], .ofBytes 9 9 9 9⟩,
    ⟨.forward, .ofBytes 5 6 7 8, some [7], .ofBytes 9 9 9 9⟩]

def wire : Bytes := wireBytes compactJson packets

def frames : List (WireFrame compactJson) :=
  packetFrames compactJson_lawful packets (by decide)

def whole : List Bytes := [wire]

/-- Cut between the two payload bytes of the first frame. -/
def split : List Bytes := [wire.take 54, wire.drop 54]

/-- Cut in the second header. -/
def later : List Bytes := [wire.take 70, wire.drop 70]

def threadName : GDPName := .ofBytes 7 7 7 7

def message : GDPPacket := ⟨.forward, .ofBytes 5 6 7 8, some [7], threadName⟩

end CuttingExample

open CuttingExample in
/-- Cut in the `Noop` payload, the stream loses the message behind it. -/
theorem handleTcpStream_cut_dependent :
    (whole.flatten = encode frames ∧ split.flatten = encode frames ∧
      ∀ read ∈ whole ++ split, read ≠ []) ∧
    ∃ wholeState splitState,
      Run (TcpReads compactJson threadName) .initial whole wholeState [message] ∧
      Run (TcpReads compactJson threadName) .initial split splitState [] := by
  have hBytes : whole.flatten = encode frames ∧ split.flatten = encode frames := by
    rw [frames, encode_packetFrames]
    decide +kernel
  refine ⟨⟨hBytes.1, hBytes.2, by decide +kernel⟩, .initial,
    ⟨true, defaultGdpHeader, (wire.drop 53).take 57⟩, ?_, ?_⟩
  · exact runOption_eq_some_iff.mp (by decide +kernel)
  · exact runOption_eq_some_iff.mp (by decide +kernel)

open CuttingExample in
/-- The same bytes in one read and in several give the same message. -/
theorem handleTcpStream_cut_independent_example :
    ∃ first second handed, Run (TcpReads compactJson threadName) .initial whole first handed ∧
      Run (TcpReads compactJson threadName) .initial later second handed ∧
      handed = dispatchPairs threadName (frames.map Frame.decoded) := by
  have hWhole : Run (TcpReads compactJson threadName) .initial whole .initial [message] :=
    runOption_eq_some_iff.mp (by decide +kernel)
  have hLater : Run (TcpReads compactJson threadName) .initial later .initial [message] :=
    runOption_eq_some_iff.mp (by decide +kernel)
  have hBytes : whole.flatten = encode frames ∧ later.flatten = encode frames := by
    rw [frames, encode_packetFrames]
    decide +kernel
  have hSpared : SparesNoopPayloads frames whole ∧ SparesNoopPayloads frames later := by
    decide +kernel
  exact ⟨_, _, _, hWhole, hLater,
    (handleTcpStream_cut_independent hBytes.1 hBytes.2 hSpared.1 hSpared.2 hWhole hLater).2⟩

end GdpRouter
