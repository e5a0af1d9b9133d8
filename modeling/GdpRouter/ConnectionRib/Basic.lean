import GdpRouter.Pipeline
import GdpRouter.Semantics.Multimap
import GdpRouter.Semantics.Run

/-! The task of `connection_router`: its table, and what one `select!` branch
does with it. An iteration over the hash map visits the entries in an order that
the label chooses. A send on a closed handle is logged and has no effect. -/
namespace GdpRouter

open Multimap Transition

variable {σ : Type}

/-- `coonection_rib_table` -/
abbrev RibTable (σ : Type) := Table GDPName (GDPChannel σ)

/-- What `dst.send(packet)` puts on a queue. -/
def send (closed : σ → Bool) (handle : σ) (packet : GDPPacket) : List (σ × GDPPacket) :=
  if closed handle then [] else [(handle, packet)]

def sendToDestination (closed : σ → Bool) (destinations : List (GDPChannel σ))
    (packet : GDPPacket) : List (σ × GDPPacket) :=
  destinations.flatMap fun dst =>
    if dst.advertisement.source = packet.source then [] else send closed dst.channel packet

/-- The packet branch: the destinations of the name, or all of them on a miss. -/
def routePacket (closed : σ → Bool) (order : List GDPName) (table : RibTable σ)
    (packet : GDPPacket) : List (σ × GDPPacket) :=
  match table.lookup packet.gdpname with
  | some routingDsts => sendToDestination closed routingDsts packet
  | none => (valuesIn table order).flatMap fun routingDsts =>
      sendToDestination closed routingDsts packet

/-- The registration branch. -/
def registerChannel (table : RibTable σ) (channel : GDPChannel σ) : RibTable σ :=
  push GDPChannel.gdpname table channel

/-- The status branch. -/
def flushAdvertisements (closed : σ → Bool) (order : List GDPName) (update : GDPStatus σ) :
    List (σ × GDPPacket) :=
  order.flatMap fun name =>
    send closed update.sink (constructGdpAdvertisementFromBytes name name)

/-- What the task takes from one of its three queues. -/
inductive RibEvent (σ : Type) where
  | packet (packet : GDPPacket)
  | channel (channel : GDPChannel σ)
  | status (update : GDPStatus σ)

/-- An event, with the order of a table iteration and the handles that are
closed while it is handled. -/
structure RibLabel (σ : Type) where
  event : RibEvent σ
  order : List GDPName
  closed : σ → Bool

def connectionRouterStep (table : RibTable σ) (label : RibLabel σ) :
    Option (RibTable σ × List (σ × GDPPacket)) :=
  if label.order.Perm table.keys then
    match label.event with
    | .packet packet => some (table, routePacket label.closed label.order table packet)
    | .channel channel => some (registerChannel table channel, [])
    | .status update => some (table, flushAdvertisements label.closed label.order update)
  else none

/-- The runs of the task. -/
def ConnectionRouter (σ : Type) : Step (RibTable σ) (RibLabel σ) (σ × GDPPacket) :=
  OfOption connectionRouterStep

/-! ### One step, branch by branch -/

section Branch

variable {table next : RibTable σ} {order : List GDPName} {closed : σ → Bool}
  {out : List (σ × GDPPacket)}

/-- A packet is routed by the table, which stays as it is. -/
theorem connectionRouterStep_packet {packet : GDPPacket} :
    connectionRouterStep table ⟨.packet packet, order, closed⟩ = some (next, out) ↔
      order.Perm table.keys ∧ next = table ∧ out = routePacket closed order table packet := by
  simp [connectionRouterStep, eq_comm]

/-- A registration joins the table, and nothing is sent. -/
theorem connectionRouterStep_channel {channel : GDPChannel σ} :
    connectionRouterStep table ⟨.channel channel, order, closed⟩ = some (next, out) ↔
      order.Perm table.keys ∧ next = registerChannel table channel ∧ out = [] := by
  simp [connectionRouterStep, eq_comm]

/-- A flush sends what the table holds, which stays as it is. -/
theorem connectionRouterStep_status {update : GDPStatus σ} :
    connectionRouterStep table ⟨.status update, order, closed⟩ = some (next, out) ↔
      order.Perm table.keys ∧ next = table ∧ out = flushAdvertisements closed order update := by
  simp [connectionRouterStep, eq_comm]

end Branch

/-- The copies that one handle gets. -/
def enqueuedOn {α : Type} [DecidableEq σ] (handle : σ) (out : List (σ × α)) : List α :=
  out.filterMap fun sent => if sent.1 = handle then some sent.2 else none

section Send

variable {closed : σ → Bool}

theorem send_of_open {handle : σ} (h : closed handle = false) (packet : GDPPacket) :
    send closed handle packet = [(handle, packet)] := by
  simp [send, h]

theorem mem_send {handle : σ} {packet : GDPPacket} {sent : σ × GDPPacket} :
    sent ∈ send closed handle packet ↔ closed handle = false ∧ sent = (handle, packet) := by
  unfold send
  split <;> simp_all

/-- Everything that a packet is sent to, and nothing but the packet itself. -/
theorem mem_sendToDestination {destinations : List (GDPChannel σ)} {packet : GDPPacket}
    {sent : σ × GDPPacket} :
    sent ∈ sendToDestination closed destinations packet ↔
      ∃ dst ∈ destinations, dst.advertisement.source ≠ packet.source ∧
        closed dst.channel = false ∧ sent = (dst.channel, packet) := by
  simp only [sendToDestination, List.mem_flatMap]
  constructor
  · rintro ⟨dst, hDst, hSent⟩
    split at hSent
    · cases hSent
    · rename_i hSource
      exact ⟨dst, hDst, hSource, mem_send.mp hSent⟩
  · rintro ⟨dst, hDst, hSource, hSent⟩
    refine ⟨dst, hDst, ?_⟩
    rw [if_neg hSource]
    exact mem_send.mpr hSent

/-- One copy for each destination that is open and not where the packet is from. -/
theorem sendToDestination_eq (destinations : List (GDPChannel σ)) (packet : GDPPacket) :
    sendToDestination closed destinations packet =
      (destinations.filter fun dst => closed dst.channel = false ∧
        dst.advertisement.source ≠ packet.source).map fun dst => (dst.channel, packet) := by
  induction destinations with
  | nil => rfl
  | cons dst rest ih =>
      have hCons : sendToDestination closed (dst :: rest) packet =
          (if dst.advertisement.source = packet.source then []
            else send closed dst.channel packet) ++ sendToDestination closed rest packet :=
        List.flatMap_cons
      rw [hCons, ih]
      by_cases hSource : dst.advertisement.source = packet.source <;>
        cases hOpen : closed dst.channel <;> simp [send, hSource, hOpen]

theorem sendToDestination_flatMap (destinations : List (List (GDPChannel σ)))
    (packet : GDPPacket) :
    (destinations.flatMap fun dsts => sendToDestination closed dsts packet) =
      sendToDestination closed destinations.flatten packet := by
  rw [List.flatten_eq_flatMap, sendToDestination, List.flatMap_assoc]
  rfl

/-- The routing decision in one form. The destinations are those registered
for the name, or all if there is none. -/
theorem routePacket_eq (closed : σ → Bool) (order : List GDPName) (table : RibTable σ)
    (packet : GDPPacket) :
    routePacket closed order table packet =
      sendToDestination closed
        ((table.lookup packet.gdpname).getD (valuesIn table order).flatten) packet := by
  unfold routePacket
  cases table.lookup packet.gdpname with
  | some routingDsts => rfl
  | none => exact sendToDestination_flatMap _ _

/-- A packet only goes to registered, open handles of other sources. -/
theorem mem_routePacket {order : List GDPName} {table : RibTable σ} {packet : GDPPacket}
    {sent : σ × GDPPacket} (h : sent ∈ routePacket closed order table packet) :
    ∃ name, ∃ dst ∈ (table.lookup name).getD [], dst.advertisement.source ≠ packet.source ∧
      closed dst.channel = false ∧ sent = (dst.channel, packet) := by
  rw [routePacket_eq, mem_sendToDestination] at h
  obtain ⟨dst, hDst, hSent⟩ := h
  cases hLookup : table.lookup packet.gdpname with
  | some routingDsts =>
      rw [hLookup, Option.getD_some] at hDst
      exact ⟨packet.gdpname, dst, by simpa [hLookup] using hDst, hSent⟩
  | none =>
      rw [hLookup, Option.getD_none, mem_flatten_valuesIn] at hDst
      obtain ⟨name, -, hMem⟩ := hDst
      exact ⟨name, dst, hMem, hSent⟩

/-- The registrations that the RIB picks for a name: those of it, or all on a miss. -/
def Picks (table : RibTable σ) (name : GDPName) (dst : GDPChannel σ) : Prop :=
  match table.lookup name with
  | some routingDsts => dst ∈ routingDsts
  | none => ∃ other, dst ∈ (table.lookup other).getD []

/-- What a packet is sent to does not depend on the order of the iteration. -/
theorem mem_routePacket_iff {order : List GDPName} {table : RibTable σ}
    (hOrder : order.Perm table.keys) {packet : GDPPacket} {sent : σ × GDPPacket} :
    sent ∈ routePacket closed order table packet ↔
      ∃ dst, Picks table packet.gdpname dst ∧ dst.advertisement.source ≠ packet.source ∧
        closed dst.channel = false ∧ sent = (dst.channel, packet) := by
  rw [routePacket_eq, mem_sendToDestination]
  refine exists_congr fun dst => and_congr_left fun _ => ?_
  unfold Picks
  cases table.lookup packet.gdpname with
  | some routingDsts => simp
  | none =>
      rw [Option.getD_none, mem_flatten_valuesIn]
      refine exists_congr fun other => and_iff_right_of_imp fun hDst => hOrder.mem_iff.mpr ?_
      exact mem_of_mem_lookup hDst

/-- A flush sends each known name to an open sink. -/
theorem mem_flushAdvertisements {order : List GDPName} {update : GDPStatus σ}
    {sent : σ × GDPPacket} :
    sent ∈ flushAdvertisements closed order update ↔ closed update.sink = false ∧
      ∃ name ∈ order, sent = (update.sink, constructGdpAdvertisementFromBytes name name) := by
  simp only [flushAdvertisements, List.mem_flatMap, mem_send]
  constructor
  · rintro ⟨name, hName, hOpen, hSent⟩
    exact ⟨hOpen, name, hName, hSent⟩
  · rintro ⟨hOpen, name, hName, hSent⟩
    exact ⟨name, hName, hOpen, hSent⟩

end Send

end GdpRouter
