import GdpRouter.Network.Send

/-! When the send arm keeps the stream framed. The receiver cannot find the next
frame on its own, so a frame that was accepted in part must be the last thing
that is ever accepted. -/
namespace GdpRouter

open Transition

variable {serde : SerdeJson}

/-- The bytes of a move continue the frame in hand. -/
theorem SendMove.written_within {arm next : SendArm} {event : SendEvent} {out : Bytes}
    (h : SendMove serde arm event next out) :
    arm.written serde ++ out <+: wireBytes serde arm.current := by
  cases h with
  | take packet => exact List.nil_prefix
  | wakeHeader packet => exact List.nil_prefix
  | header packet _ _ =>
      rw [SendArm.current, wireBytes_singleton]
      exact (List.take_prefix _ _).trans (List.prefix_append _ _)
  | dropped packet hResult => exact List.nil_prefix
  | payload packet hMore _ _ =>
      rw [SendArm.current, wireBytes_singleton, SendArm.written, List.append_assoc,
        ← List.take_add]
      exact (List.prefix_append_right_inj _).mpr (List.take_prefix _ _)
  | blocked packet hMore | abandoned packet hMore | wakePayload packet hMore =>
      rw [SendArm.current, wireBytes_singleton, SendArm.written, List.append_nil]
      exact (List.prefix_append_right_inj _).mpr (List.take_prefix _ _)

/-- What is written of a packet is the beginning of its frame. -/
theorem SendArm.written_within (arm : SendArm) :
    arm.written serde <+: wireBytes serde arm.current := by
  cases arm with
  | select | awaitHeader packet | tryHeader packet => exact List.nil_prefix
  | tryPayload packet bytesWritten hMore | awaitPayload packet bytesWritten hMore =>
      rw [SendArm.current, wireBytes_singleton, SendArm.written]
      exact (List.prefix_append_right_inj _).mpr (List.take_prefix _ _)

/-- A `try_write` that takes bytes. -/
def SendEvent.Accepts : SendEvent → Prop
  | .wrote (.ok _) => True
  | .take _ | .writable | .wrote _ => False

instance (event : SendEvent) : Decidable event.Accepts := by
  unfold SendEvent.Accepts
  split <;> infer_instance

instance (arm : SendArm) (event : SendEvent) : Decidable (arm.Tears serde event) := by
  unfold SendArm.Tears
  split <;> infer_instance

/-- Once a frame is torn, no later `try_write` takes bytes. -/
def QuietAfterTear (serde : SerdeJson) : SendArm → List SendEvent → Prop
  | _, [] => True
  | arm, event :: rest =>
      if arm.Tears serde event then ∀ later ∈ rest, ¬ later.Accepts
      else match sendStep serde arm event with
      | none => True
      | some (next, _) => QuietAfterTear serde next rest

instance (events : List SendEvent) (arm : SendArm) :
    Decidable (QuietAfterTear serde arm events) := by
  induction events generalizing arm with
  | nil => exact .isTrue trivial
  | cons event rest ih =>
      unfold QuietAfterTear
      have (next : SendArm) : Decidable (QuietAfterTear serde next rest) := ih next
      split
      · infer_instance
      · split <;> infer_instance

/-- Without an accepted write nothing goes out. -/
theorem SendMove.out_eq_nil {arm next : SendArm} {event : SendEvent} {out : Bytes}
    (h : SendMove serde arm event next out) (hEvent : ¬ event.Accepts) : out = [] := by
  cases h with
  | header packet _ _ => exact absurd trivial hEvent
  | payload packet _ _ _ => exact absurd trivial hEvent
  | take | wakeHeader | dropped | blocked | abandoned | wakePayload => rfl

/-- Without any accepted write nothing goes out at all. -/
theorem sending_out_eq_nil {arm finish : SendArm} {events : List SendEvent} {out : Bytes}
    (run : Run (Sending serde) arm events finish out)
    (hEvents : ∀ event ∈ events, ¬ event.Accepts) :
    out = [] := by
  induction run with
  | nil => rfl
  | cons first _ ih =>
      rw [(sendStep_move first).out_eq_nil (hEvents _ List.mem_cons_self), List.nil_append]
      exact ih fun event hEvent => hEvents event (List.mem_cons_of_mem _ hEvent)

/-- From any point of the arm on, what it has written of the packet in hand and
what it writes later are a prefix of whole frames. -/
theorem sending_framed_from {arm finish : SendArm} {events : List SendEvent} {out : Bytes}
    (run : Run (Sending serde) arm events finish out) (hQuiet : QuietAfterTear serde arm events) :
    ∃ kept, kept.Sublist (arm.current ++ takenPackets events) ∧
      arm.written serde ++ out <+: wireBytes serde kept := by
  induction run with
  | nil arm => exact ⟨arm.current, List.sublist_append_left _ _, by simpa using arm.written_within⟩
  | @cons arm next finish event rest last out first tail ih =>
      have hMove := sendStep_move first
      unfold QuietAfterTear at hQuiet
      split at hQuiet
      · -- The frame in hand is torn, so these are the last bytes.
        rw [sending_out_eq_nil tail hQuiet, List.append_nil]
        exact ⟨arm.current, List.sublist_append_left _ _, hMove.written_within⟩
      · rename_i hTears
        unfold Sending OfOption at first
        simp only [first] at hQuiet
        obtain ⟨kept, hKept, hBytes⟩ := ih hQuiet
        have hTaken : takenPackets (event :: rest) = event.taken ++ takenPackets rest := rfl
        rw [hTaken, ← List.append_assoc]
        rcases hMove.written_append hTears with
          ⟨hCurrent, hWritten⟩ | ⟨rfl, hWritten⟩ | ⟨rfl, hWritten⟩
        · -- The same packet is still in hand, or a new one is.
          rw [hCurrent] at hKept
          rw [hWritten, List.append_assoc] at hBytes
          exact ⟨kept, hKept, hBytes⟩
        · -- Its frame is complete.
          have hLater := hKept.trans (List.sublist_append_right event.taken _)
          refine ⟨arm.current ++ kept, ?_, ?_⟩
          · rw [List.append_assoc]
            exact (List.Sublist.refl arm.current).append hLater
          · rw [← List.append_assoc, hWritten, wireBytes_append]
            exact (List.prefix_append_right_inj _).mpr hBytes
        · -- It was dropped before its first byte.
          have hLater := hKept.trans (List.sublist_append_right (arm.current ++ event.taken) _)
          refine ⟨kept, hLater, ?_⟩
          rw [← List.append_assoc, hWritten]
          exact hBytes

/-- Whatever the sizes and errors of the writes, the bytes accepted are a prefix
of whole frames of some of the packets, in order, as long as nothing is written
behind a frame that was accepted in part. -/
theorem sending_framed {events : List SendEvent} {arm : SendArm} {out : Bytes}
    (run : Run (Sending serde) .select events arm out)
    (hQuiet : QuietAfterTear serde .select events) :
    ∃ kept, kept.Sublist (takenPackets events) ∧ out <+: wireBytes serde kept :=
  sending_framed_from run hQuiet

namespace SendExample

def first : GDPPacket := ⟨.forward, .ofBytes 1 2 3 4, some [5, 6, 7], .ofBytes 9 9 9 9⟩
def second : GDPPacket := ⟨.advertise, .ofBytes 1 2 3 4, none, .ofBytes 9 9 9 9⟩

/-- The first packet is dropped, the payload of the second one goes out in two
pieces around a full socket buffer, and the header of the third one is cut. -/
def events : List SendEvent :=
  [.take second, .writable, .wrote .wouldBlock,
    .take first, .writable, .wrote (.ok 56), .wrote (.ok 1), .wrote .wouldBlock, .writable,
    .wrote (.ok 2), .take second, .writable, .wrote (.ok 20)]

/-- The header of the first packet is accepted in part, and its payload follows. -/
def tornEvents : List SendEvent :=
  [.take first, .writable, .wrote (.ok 20), .wrote (.ok 3)]

end SendExample

open SendExample

/-- A packet is given up, the next one goes out in pieces, and the last one
stops in its header. -/
theorem sending_framed_example : ∃ arm out, Run (Sending compactJson) .select events arm out ∧
    ∃ kept, kept.Sublist (takenPackets events) ∧ out <+: wireBytes compactJson kept := by
  obtain ⟨⟨arm, out⟩, hRun⟩ :
      ∃ result, runOption (sendStep compactJson) .select events = some result :=
    Option.isSome_iff_exists.mp (by decide +kernel)
  have run := runOption_eq_some_iff.mp hRun
  exact ⟨arm, out, run, sending_framed run (by decide +kernel)⟩

/-- A short write of a header puts payload bytes in its place. No choice of
packets has the accepted bytes for a prefix. -/
theorem sending_torn : ∃ arm out, Run (Sending compactJson) .select tornEvents arm out ∧
    ¬ ∃ kept, kept.Sublist (takenPackets tornEvents) ∧ out <+: wireBytes compactJson kept := by
  have hRun : runOption (sendStep compactJson) .select tornEvents =
      some (.select, (headerString compactJson first).take 20 ++ [5, 6, 7]) := by decide +kernel
  refine ⟨_, _, runOption_eq_some_iff.mp hRun, ?_⟩
  rintro ⟨kept, hKept, hBytes⟩
  have hAll : ∀ kept ∈ (takenPackets tornEvents).sublists,
      ¬ (headerString compactJson first).take 20 ++ [5, 6, 7] <+: wireBytes compactJson kept := by
    decide +kernel
  exact hAll kept (List.mem_sublists.mpr hKept) hBytes

end GdpRouter
