import GdpRouter.ConnectionRib.Basic

/-! The router task against its event history. The table is only a cache: what
the task enqueues on a handle is a function of the registrations handled before,
up to the order in which a flush walks over the names. -/
namespace GdpRouter

open Multimap Transition

variable {σ : Type}

/-- The registrations among these events, oldest first. -/
def registrations (events : List (RibEvent σ)) : List (GDPChannel σ) :=
  events.filterMap fun event =>
    match event with
    | .channel channel => some channel
    | .packet _ | .status _ => none

def registeredNames (channels : List (GDPChannel σ)) : List GDPName :=
  (channels.map GDPChannel.gdpname).dedup

/-- Where a packet of this name goes: to its registrations, or to all of them. -/
def destinationsFor (channels : List (GDPChannel σ)) (name : GDPName) : List (GDPChannel σ) :=
  let named := channels.filter fun channel => channel.gdpname = name
  if named = [] then channels else named

/-- How many copies one handle gets. A registration that came from the source
of the packet itself does not count. -/
def copiesOn [DecidableEq σ] (handle : σ) (channels : List (GDPChannel σ)) (packet : GDPPacket) :
    Nat :=
  (destinationsFor channels packet.gdpname).countP fun channel =>
    channel.channel = handle ∧ channel.advertisement.source ≠ packet.source

/-- What an open handle gets over a history of events, without any table. -/
inductive Routed [DecidableEq σ] (handle : σ) : List (RibEvent σ) → List GDPPacket → Prop where
  | start : Routed handle [] []
  | packet {history : List (RibEvent σ)} {out : List GDPPacket} (prior : Routed handle history out)
      (packet : GDPPacket) :
      Routed handle (history ++ [.packet packet])
        (out ++ List.replicate (copiesOn handle (registrations history) packet) packet)
  | channel {history : List (RibEvent σ)} {out : List GDPPacket} (prior : Routed handle history out)
      (channel : GDPChannel σ) : Routed handle (history ++ [.channel channel]) out
  | flushed {history : List (RibEvent σ)} {out : List GDPPacket} (prior : Routed handle history out)
      {update : GDPStatus σ} {names : List GDPName} (hSink : update.sink = handle)
      (hNames : names.Perm (registeredNames (registrations history))) :
      Routed handle (history ++ [.status update])
        (out ++ names.map fun name => constructGdpAdvertisementFromBytes name name)
  | flushedElsewhere {history : List (RibEvent σ)} {out : List GDPPacket}
      (prior : Routed handle history out) {update : GDPStatus σ} (hSink : update.sink ≠ handle) :
      Routed handle (history ++ [.status update]) out

section Table

variable {table : RibTable σ} {channels : List (GDPChannel σ)} {order : List GDPName}

/-- Whatever the order of the iteration, a packet is sent to the destinations
that the registrations give. -/
theorem routePacket_destinations (h : Represents GDPChannel.gdpname table channels)
    (hOrder : order.Perm table.keys) (closed : σ → Bool) (packet : GDPPacket) :
    ∃ destinations, destinations.Perm (destinationsFor channels packet.gdpname) ∧
      routePacket closed order table packet = sendToDestination closed destinations packet := by
  refine ⟨_, ?_, routePacket_eq closed order table packet⟩
  rw [h packet.gdpname, destinationsFor]
  by_cases hNamed : (channels.filter fun channel => channel.gdpname = packet.gdpname) = []
  · have hMiss : packet.gdpname ∉ channels.map GDPChannel.gdpname := by
      rw [List.filter_eq_nil_iff] at hNamed
      simpa using hNamed
    rw [if_neg hMiss, if_pos hNamed]
    exact h.valuesIn_perm hOrder
  · have hHit : packet.gdpname ∈ channels.map GDPChannel.gdpname := by
      rw [List.filter_eq_nil_iff] at hNamed
      simpa using hNamed
    rw [if_pos hHit, if_neg hNamed]
    exact .refl _

variable [DecidableEq σ] {closed : σ → Bool} {handle : σ}

theorem enqueuedOn_append {α : Type} (first second : List (σ × α)) :
    enqueuedOn handle (first ++ second) = enqueuedOn handle first ++ enqueuedOn handle second :=
  List.filterMap_append

/-- Changing what is sent changes what a handle gets. -/
theorem enqueuedOn_map {α β : Type} (f : α → β) (sent : List (σ × α)) :
    enqueuedOn handle (sent.map fun out => (out.1, f out.2)) =
      (enqueuedOn handle sent).map f := by
  induction sent with
  | nil => rfl
  | cons out rest ih =>
      unfold enqueuedOn at *
      by_cases hHandle : out.1 = handle <;> simp [hHandle, ih]

/-- An open handle gets what is sent to it. -/
theorem enqueuedOn_send (hOpen : closed handle = false) (other : σ) (packet : GDPPacket) :
    enqueuedOn handle (send closed other packet) = if other = handle then [packet] else [] := by
  by_cases hSame : other = handle
  · subst hSame
    simp [send_of_open hOpen, enqueuedOn]
  · unfold send
    split <;> simp [enqueuedOn, hSame]

/-- A handle gets one copy for each of its registrations that is not the source
of the packet. -/
theorem enqueuedOn_sendToDestination (hOpen : closed handle = false)
    (destinations : List (GDPChannel σ)) (packet : GDPPacket) :
    enqueuedOn handle (sendToDestination closed destinations packet) =
      List.replicate (destinations.countP fun channel =>
        channel.channel = handle ∧ channel.advertisement.source ≠ packet.source) packet := by
  induction destinations with
  | nil => rfl
  | cons dst rest ih =>
      have hCons : sendToDestination closed (dst :: rest) packet =
          (if dst.advertisement.source = packet.source then []
            else send closed dst.channel packet) ++ sendToDestination closed rest packet :=
        List.flatMap_cons
      rw [hCons, enqueuedOn_append, ih, List.countP_cons]
      by_cases hSource : dst.advertisement.source = packet.source
      · simp [hSource, enqueuedOn]
      · rw [if_neg hSource, enqueuedOn_send hOpen]
        by_cases hHandle : dst.channel = handle
        · simp [hHandle, hSource, List.replicate_succ]
        · simp [hHandle]

/-- In any order of the keys a handle gets as many copies as the history says. -/
theorem enqueuedOn_routePacket (h : Represents GDPChannel.gdpname table channels)
    (hOrder : order.Perm table.keys) (hOpen : closed handle = false) (packet : GDPPacket) :
    enqueuedOn handle (routePacket closed order table packet) =
      List.replicate (copiesOn handle channels packet) packet := by
  obtain ⟨destinations, hPerm, hRoute⟩ := routePacket_destinations h hOrder closed packet
  rw [hRoute, enqueuedOn_sendToDestination hOpen, copiesOn, hPerm.countP_eq]

/-- The sink of a flush gets one advertisement for each known name. -/
theorem enqueuedOn_flushAdvertisements (hOpen : closed handle = false) (order : List GDPName)
    (update : GDPStatus σ) :
    enqueuedOn handle (flushAdvertisements closed order update) =
      if update.sink = handle then
        order.map fun name => constructGdpAdvertisementFromBytes name name
      else [] := by
  induction order with
  | nil => simp [flushAdvertisements, enqueuedOn]
  | cons name rest ih =>
      have hCons : flushAdvertisements closed (name :: rest) update =
          send closed update.sink (constructGdpAdvertisementFromBytes name name) ++
            flushAdvertisements closed rest update := List.flatMap_cons
      rw [hCons, enqueuedOn_append, ih, enqueuedOn_send hOpen]
      split <;> simp

end Table

theorem registrations_snoc (events : List (RibEvent σ)) (event : RibEvent σ) :
    registrations (events ++ [event]) = registrations events ++ registrations [event] :=
  List.filterMap_append

/-- One step, seen from the history of registrations. -/
theorem connectionRouterStep_represents {table next : RibTable σ} {events : List (RibEvent σ)}
    {label : RibLabel σ} {out : List (σ × GDPPacket)}
    (h : Represents GDPChannel.gdpname table (registrations events))
    (hStep : connectionRouterStep table label = some (next, out)) :
    Represents GDPChannel.gdpname next (registrations (events ++ [label.event])) := by
  rw [registrations_snoc]
  unfold connectionRouterStep at hStep
  split at hStep
  · split at hStep
    all_goals
      rename_i hEvent
      cases hStep
      rw [hEvent]
    · simpa [registrations] using h
    · exact h.push _
    · simpa [registrations] using h
  · cases hStep

/-- One step, seen from one open handle. -/
theorem connectionRouterStep_routed [DecidableEq σ] {handle : σ} {table next : RibTable σ}
    {events : List (RibEvent σ)} {label : RibLabel σ} {out : List (σ × GDPPacket)}
    {before : List GDPPacket} (h : Represents GDPChannel.gdpname table (registrations events))
    (prior : Routed handle events before) (hOpen : label.closed handle = false)
    (hStep : connectionRouterStep table label = some (next, out)) :
    Routed handle (events ++ [label.event]) (before ++ enqueuedOn handle out) := by
  unfold connectionRouterStep at hStep
  split at hStep
  · rename_i hOrder
    split at hStep
    all_goals
      rename_i hEvent
      cases hStep
      rw [hEvent]
    · rw [enqueuedOn_routePacket h hOrder hOpen]
      exact prior.packet _
    · simpa [enqueuedOn] using prior.channel _
    · rw [enqueuedOn_flushAdvertisements hOpen]
      split
      · rename_i hSink
        exact prior.flushed hSink (hOrder.trans h.keys_perm)
      · rename_i hSink
        simpa using prior.flushedElsewhere hSink
  · cases hStep

/-- Over every run the table is the list of all registrations, and each handle
that stays open has got what the history says and nothing else. -/
theorem connectionRouter_routed [DecidableEq σ] {labels : List (RibLabel σ)} {table : RibTable σ}
    {out : List (σ × GDPPacket)} (run : Run (ConnectionRouter σ) ∅ labels table out) :
    Represents GDPChannel.gdpname table (registrations (labels.map RibLabel.event)) ∧
      ∀ handle, (∀ label ∈ labels, label.closed handle = false) →
        Routed handle (labels.map RibLabel.event) (enqueuedOn handle out) := by
  refine run.history_invariant (fun table labels out =>
    Represents GDPChannel.gdpname table (registrations (labels.map RibLabel.event)) ∧
      ∀ handle, (∀ label ∈ labels, label.closed handle = false) →
        Routed handle (labels.map RibLabel.event) (enqueuedOn handle out)) ?start ?step
  case start => exact ⟨represents_empty _, fun handle _ => .start⟩
  case step =>
    rintro table labels out label next last - ⟨hTable, hRouted⟩ hStep
    rw [List.map_append, List.map_singleton]
    refine ⟨connectionRouterStep_represents hTable hStep, fun handle hOpen => ?_⟩
    rw [enqueuedOn_append]
    have hBefore := hRouted handle fun label hLabel => hOpen label (List.mem_append_left _ hLabel)
    exact connectionRouterStep_routed hTable hBefore (hOpen label (by simp)) hStep

namespace RouterExample

def topic : GDPName := .ofBytes 1 0 0 0
def other : GDPName := .ofBytes 2 0 0 0
def thread : GDPName := .ofBytes 9 9 9 9
def publisher : GDPName := .ofBytes 8 8 8 8

def registered (name source : GDPName) (handle : Nat) : RibEvent Nat :=
  .channel ⟨name, handle, constructGdpAdvertisementFromBytes name source⟩

/-- Handle 2 is closed throughout. -/
def label (event : RibEvent Nat) (order : List GDPName) : RibLabel Nat :=
  ⟨event, order, fun handle => handle = 2⟩

/-- Two registrations of one topic on handle 1, one on the closed handle, a hit,
another name on handle 1, a miss that handle 1 gets three times, and a flush. -/
def labels : List (RibLabel Nat) :=
  [label (registered topic thread 1) [], label (registered topic publisher 1) [topic],
    label (registered topic thread 2) [topic],
    label (.packet (constructGdpForwardFromBytes topic publisher [5])) [topic],
    label (registered other thread 1) [topic],
    label (.packet (constructGdpForwardFromBytes thread (.ofBytes 7 7 7 7) [6])) [other, topic],
    label (.status ⟨1⟩) [other, topic]]

end RouterExample

open RouterExample in
/-- A topic with one subscriber, a name that nobody has, and a flush. -/
theorem connectionRouter_routed_example : ∃ table out,
    Run (ConnectionRouter Nat) ∅ labels table out ∧
    Routed 1 (labels.map RibLabel.event) (enqueuedOn 1 out) ∧
    enqueuedOn 1 out =
      constructGdpForwardFromBytes topic publisher [5] ::
        (List.replicate 3 (constructGdpForwardFromBytes thread (.ofBytes 7 7 7 7) [6]) ++
          [constructGdpAdvertisementFromBytes other other,
            constructGdpAdvertisementFromBytes topic topic]) := by
  have hRun : (runOption connectionRouterStep ∅ labels).map (fun result => enqueuedOn 1 result.2) =
      some (constructGdpForwardFromBytes topic publisher [5] ::
        (List.replicate 3 (constructGdpForwardFromBytes thread (.ofBytes 7 7 7 7) [6]) ++
          [constructGdpAdvertisementFromBytes other other,
            constructGdpAdvertisementFromBytes topic topic])) := by decide +kernel
  obtain ⟨⟨table, out⟩, hResult, hOut⟩ := Option.map_eq_some_iff.mp hRun
  have run := runOption_eq_some_iff.mp hResult
  have hOpen : ∀ label ∈ labels, label.closed 1 = false := by decide
  exact ⟨table, out, run, (connectionRouter_routed run).2 1 hOpen, hOut⟩

end GdpRouter
