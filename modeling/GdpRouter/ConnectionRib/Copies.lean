import GdpRouter.ConnectionRib.History

/-! How many copies of one packet a handle gets. The table is a list of
registrations for each name, and the task sends along all of them, so a
connection that is registered twice is sent to twice. -/
namespace GdpRouter

open Multimap Transition

variable {σ : Type} [DecidableEq σ]

/-- A closed handle gets nothing. -/
theorem enqueuedOn_of_closed {closed : σ → Bool} {handle : σ} (hClosed : closed handle = true)
    (destinations : List (GDPChannel σ)) (packet : GDPPacket) :
    enqueuedOn handle (sendToDestination closed destinations packet) = [] := by
  unfold enqueuedOn
  rw [List.filterMap_eq_nil_iff]
  intro sent hSent
  obtain ⟨dst, -, -, hOpen, rfl⟩ := mem_sendToDestination.mp hSent
  have hNe : dst.channel ≠ handle := by
    intro hSame
    rw [hSame, hClosed] at hOpen
    cases hOpen
  exact if_neg hNe

/-- The packet branch, seen from one handle, open or closed. -/
theorem routePacket_copies {table : RibTable σ} {channels : List (GDPChannel σ)}
    {order : List GDPName} (h : Represents GDPChannel.gdpname table channels)
    (hOrder : order.Perm table.keys) (closed : σ → Bool) (handle : σ) (packet : GDPPacket) :
    enqueuedOn handle (routePacket closed order table packet) =
      List.replicate (if closed handle then 0 else copiesOn handle channels packet) packet := by
  cases hClosed : closed handle with
  | false => exact enqueuedOn_routePacket h hOrder hClosed packet
  | true =>
      rw [routePacket_eq]
      exact enqueuedOn_of_closed hClosed _ packet

/-- One registration of a handle among those picked is one copy at most. -/
theorem copiesOn_le (handle : σ) (channels : List (GDPChannel σ)) (packet : GDPPacket) :
    copiesOn handle channels packet ≤
      (destinationsFor channels packet.gdpname).countP fun channel => channel.channel = handle := by
  apply List.countP_mono_left
  intro channel _ hCounted
  simp only [decide_eq_true_eq] at hCounted ⊢
  exact hCounted.1

/-- In every run, a packet that is handled is enqueued on a handle once for each
registration of that handle that is picked and has another source than the
packet, and not at all when the handle is closed. -/
theorem connectionRouter_copies {labels : List (RibLabel σ)} {table next : RibTable σ}
    {out sent : List (σ × GDPPacket)} {packet : GDPPacket} {order : List GDPName}
    {closed : σ → Bool} (run : Run (ConnectionRouter σ) ∅ labels table out)
    (hStep : ConnectionRouter σ table ⟨.packet packet, order, closed⟩ next sent) (handle : σ) :
    let channels := registrations (labels.map RibLabel.event)
    enqueuedOn handle sent =
        List.replicate (if closed handle then 0 else copiesOn handle channels packet) packet ∧
      ((destinationsFor channels packet.gdpname).countP (fun channel => channel.channel = handle) ≤ 1 →
        (enqueuedOn handle sent).length ≤ 1) := by
  intro channels
  have hTable : Represents GDPChannel.gdpname table channels := by
    apply run.history_invariant (fun table labels _ =>
      Represents GDPChannel.gdpname table (registrations (labels.map RibLabel.event)))
    · exact represents_empty _
    · intro table labels out label next last _ hTable hNext
      rw [List.map_append, List.map_singleton]
      exact connectionRouterStep_represents hTable hNext
  obtain ⟨hOrder, -, rfl⟩ := connectionRouterStep_packet.mp hStep
  have hCopies := routePacket_copies hTable hOrder closed handle packet
  refine ⟨hCopies, fun hOnce => ?_⟩
  rw [hCopies, List.length_replicate]
  split
  · exact Nat.zero_le 1
  · exact (copiesOn_le handle channels packet).trans hOnce

namespace CopiesExample

open RouterExample

/-- One connection advertises one name twice. -/
def twice : List (RibLabel Nat) :=
  [label (registered topic thread 1) [], label (registered topic thread 1) [topic]]

/-- One connection advertises two names. -/
def twoNames : List (RibLabel Nat) :=
  [label (registered topic thread 1) [], label (registered other thread 1) [topic]]

def message (name : GDPName) : GDPPacket := constructGdpForwardFromBytes name publisher [5]

def duplicates (labels : List (RibLabel Nat)) (last : RibLabel Nat) (packet : GDPPacket) : Bool :=
  (runOption connectionRouterStep ∅ labels).any fun before =>
    before.2.isEmpty && (connectionRouterStep before.1 last).any fun after =>
      enqueuedOn 1 after.2 = [packet, packet]

/-- If the computation finds two copies, some run ends with them. -/
theorem exists_of_duplicates {labels : List (RibLabel Nat)} {last : RibLabel Nat}
    {packet : GDPPacket} (h : duplicates labels last packet = true) :
    ∃ table next sent, Run (ConnectionRouter Nat) ∅ labels table [] ∧
      ConnectionRouter Nat table last next sent ∧ enqueuedOn 1 sent = [packet, packet] := by
  obtain ⟨⟨table, out⟩, hRun, hLast⟩ := (Option.any_eq_true _ _).mp h
  rw [Bool.and_eq_true, List.isEmpty_iff] at hLast
  obtain ⟨hOut, hAfter⟩ := hLast
  obtain ⟨⟨next, sent⟩, hStep, hCopies⟩ := (Option.any_eq_true _ _).mp hAfter
  simp only at hOut
  subst hOut
  exact ⟨table, next, sent, runOption_eq_some_iff.mp hRun, hStep, of_decide_eq_true hCopies⟩

end CopiesExample

open RouterExample CopiesExample in
/-- Two copies on one handle, on a hit and in a broadcast. -/
theorem connectionRouter_duplicates :
    (∃ table next sent, Run (ConnectionRouter Nat) ∅ twice table [] ∧
      ConnectionRouter Nat table (label (.packet (message topic)) [topic]) next sent ∧
      enqueuedOn 1 sent = [message topic, message topic]) ∧
    ∃ table next sent, Run (ConnectionRouter Nat) ∅ twoNames table [] ∧
      ConnectionRouter Nat table (label (.packet (message publisher)) [other, topic]) next sent ∧
      enqueuedOn 1 sent = [message publisher, message publisher] :=
  ⟨exists_of_duplicates (by decide +kernel), exists_of_duplicates (by decide +kernel)⟩

open RouterExample CopiesExample in
/-- A miss for a connection that has registered one name. -/
theorem connectionRouter_copies_example : ∃ table next sent,
    Run (ConnectionRouter Nat) ∅ (twoNames.take 1) table [] ∧
      ConnectionRouter Nat table (label (.packet (message publisher)) [topic]) next sent ∧
      enqueuedOn 1 sent = [message publisher] := by
  have hRun : (runOption connectionRouterStep ∅ (twoNames.take 1)).any (fun before =>
      before.2.isEmpty && (connectionRouterStep before.1
        (label (.packet (message publisher)) [topic])).isSome) = true := by decide +kernel
  obtain ⟨⟨table, out⟩, hBefore, hLast⟩ := (Option.any_eq_true _ _).mp hRun
  rw [Bool.and_eq_true, List.isEmpty_iff] at hLast
  obtain ⟨hOut, hAfter⟩ := hLast
  obtain ⟨⟨next, sent⟩, hStep⟩ := Option.isSome_iff_exists.mp hAfter
  simp only at hOut
  subst hOut
  have run := runOption_eq_some_iff.mp hBefore
  exact ⟨table, next, sent, run, hStep, (connectionRouter_copies run hStep 1).1.trans (by decide)⟩

end GdpRouter
