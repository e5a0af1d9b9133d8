import GdpRouter.ConnectionRib.Flush
import Mathlib.Data.List.Infix

/-! Advertisements made ahead of time. Registrations and packets wait in two
queues, so a packet may be handled before a registration that was handed over
earlier. Ghost records tell what was handed over before each packet. -/
namespace GdpRouter

open Multimap Transition

variable {σ : Type}

/-- The task with its queues, the registrations handed to `channel_tx` so far, and for
each packet in `rib_rx` those that were handed over before it. -/
structure AheadState (σ : Type) where
  queues : RibQueues σ
  handedOver : List (GDPChannel σ)
  earlier : List (List (GDPChannel σ))

def AheadState.initial : AheadState σ := ⟨.initial, [], []⟩

/-- What is observed when the task handles a packet: the registrations handed over
before it, those that the table has for its name, and the copies made. -/
structure Handled (σ : Type) where
  packet : GDPPacket
  earlier : List (GDPChannel σ)
  named : List (GDPChannel σ)
  closed : σ → Bool
  sent : List (σ × GDPPacket)

/-- A call of `proc_gdp_packet` may hand a registration over. -/
def AheadState.handedNext (state : AheadState σ) : RibQueuesLabel σ → List (GDPChannel σ)
  | .proc packet handle =>
      match procGdpPacket packet handle with
      | some (.register channel) => state.handedOver ++ [channel]
      | some (.route _) | none => state.handedOver
  | .flush _ | .recvPacket _ _ | .recvChannel _ _ | .recvStatus _ _ => state.handedOver

/-- It may also hand over a packet, behind all registrations so far. -/
def AheadState.earlierNext (state : AheadState σ) : RibQueuesLabel σ → List (List (GDPChannel σ))
  | .proc packet handle =>
      match procGdpPacket packet handle with
      | some (.route _) => state.earlier ++ [state.handedOver]
      | some (.register _) | none => state.earlier
  | .recvPacket _ _ => state.earlier.tail
  | .flush _ | .recvChannel _ _ | .recvStatus _ _ => state.earlier

def AheadState.observed (state : AheadState σ) (sent : List (σ × GDPPacket)) :
    RibQueuesLabel σ → List (Handled σ)
  | .recvPacket _ closed =>
      match state.queues.ribRx, state.earlier with
      | packet :: _, earlier :: _ =>
          [⟨packet, earlier, (state.queues.table.lookup packet.gdpname).getD [], closed, sent⟩]
      | _, _ => []
  | .proc _ _ | .flush _ | .recvChannel _ _ | .recvStatus _ _ => []

/-- The step of the queues decides, the records only follow. -/
def aheadStep (state : AheadState σ) (label : RibQueuesLabel σ) :
    Option (AheadState σ × List (Handled σ)) :=
  (ribQueuesStep state.queues label).map fun next =>
    (⟨next.1, state.handedNext label, state.earlierNext label⟩, state.observed next.2 label)

def AheadTask (σ : Type) : Step (AheadState σ) (RibQueuesLabel σ) (Handled σ) := OfOption aheadStep

/-- A registration that concerns a packet: of its name, and not by its source. -/
def Concerns (packet : GDPPacket) (channel : GDPChannel σ) : Prop :=
  channel.gdpname = packet.gdpname ∧ channel.advertisement.source ≠ packet.source

/-- Every registration of the name that was handed over before the packet has taken
effect: its handle gets a copy if it is open, and there is no broadcast. -/
def Handled.Timely (handled : Handled σ) : Prop :=
  ∀ channel ∈ handled.earlier, Concerns handled.packet channel →
    (handled.closed channel.channel = false →
      (channel.channel, handled.packet) ∈ handled.sent) ∧
    ∀ copy ∈ handled.sent, ∃ dst ∈ handled.named, dst.gdpname = handled.packet.gdpname ∧
      dst.channel = copy.1

/-- How many registrations have left `channel_rx`. -/
def AheadState.registered (state : AheadState σ) : Nat :=
  state.handedOver.length - state.queues.channelRx.length

/-- When a packet is taken from `rib_rx`, no registration that concerns it and was
handed over before it is still waiting in `channel_rx`. -/
def InOrder (state : AheadState σ) : RibQueuesLabel σ → Prop
  | .recvPacket _ _ => ∀ packet ∈ state.queues.ribRx.head?, ∀ known ∈ state.earlier.head?,
      ∀ channel ∈ known.drop state.registered, ¬Concerns packet channel
  | .proc _ _ | .flush _ | .recvChannel _ _ | .recvStatus _ _ => True

instance (packet : GDPPacket) (channel : GDPChannel σ) : Decidable (Concerns packet channel) :=
  inferInstanceAs (Decidable (_ ∧ _))

instance (state : AheadState σ) : DecidablePred (InOrder state)
  | .recvPacket _ _ => inferInstanceAs (Decidable (∀ packet ∈ state.queues.ribRx.head?, _))
  | .proc _ _ | .flush _ | .recvChannel _ _ | .recvStatus _ _ => inferInstanceAs (Decidable True)

/-- The ghost records fit the queues. -/
structure AheadState.Fits (state : AheadState σ) (tabled : List (GDPChannel σ)) : Prop where
  table : Represents GDPChannel.gdpname state.queues.table tabled
  queued : state.handedOver = tabled ++ state.queues.channelRx
  counted : state.earlier.length = state.queues.ribRx.length
  known : ∀ known ∈ state.earlier, known <+: state.handedOver

/-- The counters follow the RIB and do not change what it does. -/
theorem aheadStep_eq_some_iff {state next : AheadState σ} {label : RibQueuesLabel σ}
    {seen : List (Handled σ)} :
    aheadStep state label = some (next, seen) ↔ ∃ queues out,
      ribQueuesStep state.queues label = some (queues, out) ∧
        next = ⟨queues, state.handedNext label, state.earlierNext label⟩ ∧
        seen = state.observed out label := by
  simp only [aheadStep, Option.map_eq_some_iff, Prod.mk.injEq, Prod.exists]
  constructor
  · intro ⟨queues, out, hStep, hNext, hSeen⟩
    exact ⟨queues, out, hStep, hNext.symm, hSeen.symm⟩
  · intro ⟨queues, out, hStep, hNext, hSeen⟩
    exact ⟨queues, out, hStep, hNext.symm, hSeen.symm⟩

/-- Every run of the task has its records. -/
theorem exists_ahead_run {state : AheadState σ} {finish : RibQueues σ}
    {labels : List (RibQueuesLabel σ)} {out : List (σ × GDPPacket)}
    (run : Run (RibTask σ) state.queues labels finish out) :
    ∃ last seen, Run (AheadTask σ) state labels last seen ∧ last.queues = finish := by
  generalize hStart : state.queues = start at run
  induction run generalizing state with
  | nil => exact ⟨state, [], .nil state, hStart⟩
  | cons first _ ih =>
      subst hStart
      obtain ⟨last, seen, tail, hLast⟩ := @ih ⟨_, _, _⟩ rfl
      exact ⟨last, _, .cons (aheadStep_eq_some_iff.mpr ⟨_, _, first, rfl, rfl⟩) tail, hLast⟩

theorem AheadState.Fits.registered {state : AheadState σ} {tabled : List (GDPChannel σ)}
    (h : state.Fits tabled) : state.registered = tabled.length := by
  rw [AheadState.registered, h.queued, List.length_append, Nat.add_sub_cancel]

/-- One step keeps the records in line with the queues. -/
theorem AheadState.Fits.step {state next : AheadState σ} {tabled : List (GDPChannel σ)}
    {label : RibQueuesLabel σ} {seen : List (Handled σ)} (h : state.Fits tabled)
    (hStep : aheadStep state label = some (next, seen)) : ∃ later, next.Fits later := by
  obtain ⟨queues, out, hQueues, rfl, -⟩ := aheadStep_eq_some_iff.mp hStep
  obtain ⟨state, handedOver, earlier⟩ := state
  obtain ⟨hTable, hQueued, hCounted, hKnown⟩ := h
  simp only at hTable hQueued hCounted hKnown hQueues
  cases ribQueuesStep_move hQueues with
  | proc packet handle =>
      refine ⟨tabled, ?_⟩
      simp only [AheadState.handedNext, AheadState.earlierNext]
      cases hMessage : procGdpPacket packet handle with
      | none => exact ⟨hTable, hQueued, hCounted, hKnown⟩
      | some message =>
          cases message with
          | register channel =>
              refine ⟨hTable, ?_, hCounted, ?_⟩
              · simp [RibQueues.enqueue, hQueued]
              · intro known hMem
                exact (hKnown known hMem).trans (List.prefix_append _ _)
          | route routed =>
              refine ⟨hTable, hQueued, ?_, ?_⟩
              · simp [RibQueues.enqueue, hCounted]
              · rw [List.forall_mem_append, List.forall_mem_singleton]
                exact ⟨hKnown, List.prefix_rfl⟩
  | flush update => exact ⟨tabled, hTable, hQueued, hCounted, hKnown⟩
  | recvPacket hOrder =>
      refine ⟨tabled, hTable, hQueued, ?_, ?_⟩
      · simp [AheadState.earlierNext, hCounted]
      · intro known hMem
        exact hKnown known (List.mem_of_mem_tail hMem)
  | @recvChannel _ _ channel _ _ _ _ hOrder =>
      refine ⟨tabled ++ [channel], hTable.push channel, ?_, hCounted, hKnown⟩
      simp [AheadState.handedNext, hQueued]
  | recvStatus hOrder => exact ⟨tabled, hTable, hQueued, hCounted, hKnown⟩

/-- A registration that was handed over before a packet, and does not wait any more
when the packet is taken, is in the table. -/
theorem AheadState.Fits.tabled {state : AheadState σ} {tabled known : List (GDPChannel σ)}
    (h : state.Fits tabled) (hKnown : known ∈ state.earlier) {channel : GDPChannel σ}
    (hChannel : channel ∈ known) (hWaits : channel ∉ known.drop state.registered) :
    channel ∈ tabled := by
  rw [h.registered] at hWaits
  rw [← List.take_append_drop tabled.length known, List.mem_append] at hChannel
  have hPrefix : known.take tabled.length <+: tabled := by
    have hAll := (h.known known hKnown).take tabled.length
    rwa [h.queued, List.take_left] at hAll
  exact hPrefix.subset (hChannel.resolve_right hWaits)

/-- What the RIB does for a registration that is in its table. -/
theorem routePacket_timely {table : RibTable σ} {tabled : List (GDPChannel σ)}
    (hTable : Represents GDPChannel.gdpname table tabled) {packet : GDPPacket}
    {channel : GDPChannel σ} (hTabled : channel ∈ tabled) (hConcerns : Concerns packet channel)
    (closed : σ → Bool) (order : List GDPName) :
    (closed channel.channel = false →
      (channel.channel, packet) ∈ routePacket closed order table packet) ∧
    ∀ copy ∈ routePacket closed order table packet,
      ∃ dst ∈ (table.lookup packet.gdpname).getD [], dst.gdpname = packet.gdpname ∧
        dst.channel = copy.1 := by
  have hNamed := hTable.lookup_getD packet.gdpname
  have hMem : channel ∈ (table.lookup packet.gdpname).getD [] := by
    rw [hNamed, List.mem_filter, decide_eq_true_eq]
    exact ⟨hTabled, hConcerns.1⟩
  rw [routePacket_eq]
  cases hLookup : table.lookup packet.gdpname with
  | none =>
      rw [hLookup] at hMem
      cases hMem
  | some named =>
      simp only [hLookup, Option.getD_some] at hMem hNamed ⊢
      constructor
      · intro hOpen
        exact mem_sendToDestination.mpr ⟨channel, hMem, hConcerns.2, hOpen, rfl⟩
      · intro copy hCopy
        obtain ⟨dst, hDst, -, -, rfl⟩ := mem_sendToDestination.mp hCopy
        have hName := hDst
        rw [hNamed, List.mem_filter, decide_eq_true_eq] at hName
        exact ⟨dst, hDst, hName.2, rfl⟩

/-- A packet that is taken in order is handled as the registrations before it demand. -/
theorem AheadState.Fits.timely {state next : AheadState σ} {tabled : List (GDPChannel σ)}
    {label : RibQueuesLabel σ} {seen : List (Handled σ)} (h : state.Fits tabled)
    (hOrder : InOrder state label) (hStep : aheadStep state label = some (next, seen)) :
    ∀ handled ∈ seen, handled.Timely := by
  obtain ⟨queues, out, hQueues, rfl, rfl⟩ := aheadStep_eq_some_iff.mp hStep
  cases label with
  | proc | flush | recvChannel | recvStatus => exact List.forall_mem_nil _
  | recvPacket order closed =>
      simp only [AheadState.observed]
      split
      · rename_i packet rest known later hRibRx hEarlier
        simp only [ribQueuesStep, hRibRx] at hQueues
        obtain ⟨_, hRoute, -⟩ := RibQueues.handle_eq_some_iff.mp hQueues
        obtain ⟨-, -, rfl⟩ := connectionRouterStep_packet.mp hRoute
        rw [List.forall_mem_singleton]
        intro channel hChannel hConcerns
        have hWaits : channel ∉ known.drop state.registered := by
          intro hDrop
          exact hOrder packet (by rw [hRibRx]; rfl) known (by rw [hEarlier]; rfl) channel hDrop
            hConcerns
        have hTabled := h.tabled (hEarlier ▸ List.mem_cons_self) hChannel hWaits
        exact routePacket_timely h.table hTabled hConcerns closed order
      · exact List.forall_mem_nil _

/-- In a run in which no packet overtakes a registration, everything that is handled
is handled as the registrations made ahead of it demand. -/
theorem advertised_ahead {labels : List (RibQueuesLabel σ)} {finish : AheadState σ}
    {seen : List (Handled σ)}
    (run : Run (Guarded (AheadTask σ) InOrder) .initial labels finish seen) :
    ∀ handled ∈ seen, handled.Timely := by
  have hStart : (AheadState.initial : AheadState σ).Fits [] :=
    ⟨represents_empty _, rfl, rfl, List.forall_mem_nil _⟩
  apply And.right (a := ∃ tabled, finish.Fits tabled)
  apply run.history_invariant (fun state _ seen =>
    (∃ tabled, state.Fits tabled) ∧ ∀ handled ∈ seen, handled.Timely)
  · exact ⟨⟨[], hStart⟩, List.forall_mem_nil _⟩
  · intro state labels seen label next last _ hInvariant hStep
    obtain ⟨⟨tabled, hFits⟩, hSeen⟩ := hInvariant
    obtain ⟨hNext, hOrder⟩ := hStep
    exact ⟨hFits.step hNext, List.forall_mem_append.mpr ⟨hSeen, hFits.timely hOrder hNext⟩⟩

namespace AheadExample

open RouterExample FlushExample

def message : GDPPacket := constructGdpForwardFromBytes topic thread [5]

/-- Handle 2 is registered under another name. Then handle 1 advertises the topic,
and after that another task hands over a message for it. -/
def calls : List (RibQueuesLabel Nat) :=
  [.proc (constructGdpAdvertisementFromBytes other publisher) 2, .recvChannel [] allOpen,
    .proc (constructGdpAdvertisementFromBytes topic publisher) 1, .proc message 3]

def advertised : GDPChannel Nat := ⟨topic, 1, constructGdpAdvertisementFromBytes topic publisher⟩

/-- The message is taken from its queue first. -/
def overtaking : List (RibQueuesLabel Nat) := calls ++ [.recvPacket [other] allOpen]

def ordered : List (RibQueuesLabel Nat) :=
  calls ++ [.recvChannel [other] allOpen, .recvPacket [topic, other] allOpen]

end AheadExample

open RouterExample FlushExample AheadExample in
/-- The message goes to the handle of another name, and not to the one that
advertised its own name before. -/
theorem advertisement_overtaken : ∃ finish seen,
    Run (AheadTask Nat) .initial overtaking finish seen ∧
      ∃ handled ∈ seen, handled.packet = message ∧ handled.sent = [(2, message)] ∧
        ¬handled.Timely := by
  have hRun : (runOption aheadStep .initial overtaking).any (fun result =>
      result.2.any fun handled => handled.packet = message ∧ handled.sent = [(2, message)] ∧
        handled.closed 1 = false ∧ advertised ∈ handled.earlier) = true := by decide +kernel
  obtain ⟨⟨finish, seen⟩, hResult, hSeen⟩ := (Option.any_eq_true _ _).mp hRun
  obtain ⟨handled, hHandled, hFacts⟩ := List.any_eq_true.mp hSeen
  obtain ⟨hPacket, hSent, hOpen, hEarlier⟩ := of_decide_eq_true hFacts
  refine ⟨finish, seen, runOption_eq_some_iff.mp hResult, handled, hHandled, hPacket, hSent, ?_⟩
  intro hTimely
  have hConcerns : Concerns handled.packet advertised := by
    rw [hPacket]
    exact ⟨rfl, by decide⟩
  have hCopy := (hTimely advertised hEarlier hConcerns).1 hOpen
  rw [hSent, hPacket, List.mem_singleton, Prod.mk.injEq] at hCopy
  exact absurd hCopy.1 (by decide)

open RouterExample FlushExample AheadExample in
/-- A subscriber registers ahead of a message and gets it. -/
theorem advertised_ahead_example : ∃ finish seen,
    Run (Guarded (AheadTask Nat) InOrder) .initial ordered finish seen ∧
      ∃ handled ∈ seen, handled.sent = [(1, message)] ∧ handled.Timely := by
  have hRun : (runGuarded aheadStep InOrder .initial ordered).any (fun result =>
      result.2.any fun handled => handled.sent = [(1, message)]) = true := by decide +kernel
  obtain ⟨⟨finish, seen⟩, hResult, hSeen⟩ := (Option.any_eq_true _ _).mp hRun
  obtain ⟨handled, hHandled, hSent⟩ := List.any_eq_true.mp hSeen
  have run := runGuarded_eq_some_iff.mp hResult
  exact ⟨finish, seen, run, handled, hHandled, of_decide_eq_true hSent,
    advertised_ahead run handled hHandled⟩

end GdpRouter
