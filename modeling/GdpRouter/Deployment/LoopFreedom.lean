import GdpRouter.Deployment.Paths
import GdpRouter.Semantics.Descent
import Mathlib.Tactic.Abel
import Mathlib.Tactic.DeriveFintype

/-! Flooding a forest comes to an end. A copy weighs more the fewer routers it has
been at, and every step that touches a packet replaces copies by lighter ones. -/
namespace GdpRouter

open Transition Forest Descent

variable {R E T : Type}

deriving instance Fintype for Handle

/-- The packet is the one with this number. -/
def Observation.concerns (id : Nat) : Observation R E T → Prop
  | .put _ copy => copy.trace.id = id
  | .delivered _ frame => frame.trace.id = id
  | .handled _ copy => copy.trace.id = id
  | .published _ copy => copy.trace.id = id

/-- The copy descends from the other one: it has been elsewhere since. -/
def Trace.descendsFrom (later earlier : Trace R T) : Prop :=
  later.id = earlier.id ∧ ∃ router rest, later.visited = earlier.visited ++ router :: rest

/-- A RIB handles no copy that descends from one it has handled. -/
theorem not_descendsFrom {net : Network R E T} {router : R} {earlier later : Trace R T}
    (hEarlier : net.Travelled router earlier) (hLater : net.Travelled router later) :
    ¬later.descendsFrom earlier := by
  rintro ⟨-, next, rest, hVisited⟩
  have hMem : router ∈ earlier.visited := List.mem_of_getLast? hEarlier.path.ends
  apply hLater.path.not_mem_dropLast
  rw [hVisited, List.dropLast_append_cons]
  exact List.mem_append_left _ hMem

section Work

variable [Fintype R]

/-- The weight of a copy in a place: `rib_rx` is 2, the queue of a handle 1 and a
connection 0. Only copies of the given packet have one. -/
def Trace.weight (id place : Nat) (trace : Trace R T) : Multiset ℕ :=
  if trace.id = id then {3 * (Fintype.card R - trace.visited.length) + place} else 0

/-- The weight of a copy falls with every router visited, and with its place
inside one. -/
theorem Trace.mem_weight {id place weight : Nat} {trace : Trace R T} :
    weight ∈ trace.weight id place ↔
      trace.id = id ∧ weight = 3 * (Fintype.card R - trace.visited.length) + place := by
  unfold Trace.weight
  split <;> simp [*]

theorem Trace.weight_of_ne {id place : Nat} {trace : Trace R T} (h : trace.id ≠ id) :
    trace.weight id place = 0 := if_neg h

theorem Trace.weight_ne_zero {id place : Nat} {trace : Trace R T} (h : trace.id = id) :
    trace.weight id place ≠ 0 := by
  simp [Trace.weight, h]

variable [Fintype E] [Fintype T]

/-- What is still to be done for a packet. -/
def NetState.work (state : NetState R E T) (id : Nat) : Multiset ℕ :=
  load (fun copy => copy.trace.weight id 2) state.ribRx +
    load (fun copy => copy.trace.weight id 1) state.queue +
    load (fun frame => frame.trace.weight id 0) state.link

variable [DecidableEq R] [DecidableEq E] [DecidableEq T] {net : Network R E T}
  {state after : NetState R E T} {id : Nat}

omit [DecidableEq R] in
theorem NetState.work_put (sent : List (Handle E T × Copy R E T)) :
    (state.put sent).work id = state.work id +
      load (fun copy => copy.trace.weight id 1) fun handle => enqueuedOn handle sent := by
  simp only [NetState.work, NetState.put, load_append]
  abel

omit [DecidableEq R] in
/-- Copies that were put anywhere have the weights of what was sent. -/
theorem mem_load_enqueuedOn {sent : List (Handle E T × Copy R E T)} {weight : Nat}
    (h : weight ∈ load (fun copy : Copy R E T => copy.trace.weight id 1)
      fun handle => enqueuedOn handle sent) :
    ∃ out ∈ sent, weight ∈ out.2.trace.weight id 1 := by
  obtain ⟨handle, copy, hCopy, hWeight⟩ := mem_load.mp h
  exact ⟨_, mem_enqueuedOn.mp hCopy, hWeight⟩

variable (state id) in
omit [DecidableEq E] [DecidableEq T] in
/-- Handing a message to a RIB adds at most one weight. -/
theorem NetState.work_submit (router : R) (heard : Option E) (trace : Trace R T)
    (message : Option (RibMessage (Handle E T))) :
    ∃ new, (state.submit router heard trace message).work id = state.work id + new ∧
      ∀ weight ∈ new, weight ∈ trace.weight id 2 := by
  match message with
  | none => exact ⟨0, by simp [submit], by simp⟩
  | some (.register channel) => exact ⟨0, by simp [submit, work], by simp⟩
  | some (.route packet) =>
      refine ⟨trace.weight id 2, ?_, fun _ h => h⟩
      simp only [NetState.work, NetState.submit, load_snoc]
      abel

omit [DecidableEq E] [DecidableEq T] in
/-- The weight of the packet that a RIB takes leaves the work. -/
theorem NetState.work_ribRest {router : R} {copy : Copy R E T} {rest : List (Copy R E T)}
    (hQueue : state.ribRx router = copy :: rest) :
    state.work id = { state with ribRx := Function.update state.ribRx router rest }.work id +
      copy.trace.weight id 2 := by
  simp only [NetState.work]
  rw [load_rest _ _ hQueue]
  abel

omit [DecidableEq R] in
/-- The weight of the copy that leaves a queue leaves the work. -/
theorem NetState.work_queueRest {handle : Handle E T} {copy : Copy R E T}
    {rest : List (Copy R E T)} (hQueue : state.queue handle = copy :: rest) :
    state.work id = { state with queue := Function.update state.queue handle rest }.work id +
      copy.trace.weight id 1 := by
  simp only [NetState.work]
  rw [load_rest _ _ hQueue]
  abel

omit [DecidableEq R] [DecidableEq T] in
/-- The weight of the frame that is received leaves the work. -/
theorem NetState.work_linkRest {endpoint : E} {frame : InTransit R T} {rest : List (InTransit R T)}
    (hLink : state.link endpoint = frame :: rest) :
    state.work id = { state with link := Function.update state.link endpoint rest }.work id +
      frame.trace.weight id 0 := by
  simp only [NetState.work]
  rw [load_rest _ _ hLink]
  abel

variable (state id) in
omit [DecidableEq R] [DecidableEq T] in
/-- The weight of a frame that is sent joins the work. -/
theorem NetState.work_linkSnoc (endpoint : E) (frame : InTransit R T) :
    { state with link :=
        Function.update state.link endpoint (state.link endpoint ++ [frame]) }.work id =
      state.work id + frame.trace.weight id 0 := by
  simp only [NetState.work, load_snoc]
  abel

omit [DecidableEq R] in
/-- The weights of a queue leave the work with it. -/
theorem NetState.work_clear (handle : Handle E T) :
    state.work id = { state with queue := Function.update state.queue handle [] }.work id +
      ((state.queue handle).map fun copy => copy.trace.weight id 1).sum := by
  simp only [NetState.work]
  rw [load_clear _ state.queue (i := handle)]
  abel

omit [Fintype R] [Fintype E] [Fintype T] in
/-- The numbers of packets only grow. -/
theorem Move.fresh_le {label : NetLabel R E T} {observed : List (Observation R E T)}
    (hMove : Move net state label after observed) : state.fresh ≤ after.fresh := by
  cases hMove <;> simp [NetState.put]

omit [DecidableEq R] in
/-- Copies of other packets do not count. -/
theorem NetState.work_put_of_ne {sent : List (Handle E T × Copy R E T)}
    (hSent : ∀ out ∈ sent, out.2.trace.id ≠ id) : (state.put sent).work id = state.work id := by
  have hNothing : load (fun copy : Copy R E T => copy.trace.weight id 1)
      (fun handle => enqueuedOn handle sent) = 0 := by
    apply Multiset.eq_zero_of_forall_notMem
    intro weight hWeight
    obtain ⟨out, hOut, hWeight⟩ := mem_load_enqueuedOn hWeight
    exact hSent out hOut (Trace.mem_weight.mp hWeight).1
  rw [work_put, hNothing, add_zero]

omit [DecidableEq R] in
/-- Putting copies of other packets leaves the work alone. -/
theorem NetState.put_unconcerned {sent : List (Handle E T × Copy R E T)}
    (hSent : ∀ out ∈ sent, out.2.trace.id ≠ id) :
    Replaced (state.work id) ((state.put sent).work id) 0 ∧
      ¬∃ seen ∈ putAll sent, seen.concerns id := by
  constructor
  · rw [work_put_of_ne hSent]
    exact .refl _
  · rintro ⟨seen, hSeen, hConcerns⟩
    obtain ⟨out, hOut, rfl⟩ := List.mem_map.mp hSeen
    exact hSent out hOut hConcerns

omit [DecidableEq E] [DecidableEq T] in
/-- A message about another packet leaves the work alone. -/
theorem NetState.work_submit_of_ne {router : R} {heard : Option E} {trace : Trace R T}
    {message : Option (RibMessage (Handle E T))} (hTrace : trace.id ≠ id) :
    (state.submit router heard trace message).work id = state.work id := by
  obtain ⟨new, hWork, hNew⟩ := state.work_submit id router heard trace message
  have hNothing : new = 0 := Multiset.eq_zero_of_forall_notMem fun weight hWeight =>
    hTrace (Trace.mem_weight.mp (hNew weight hWeight)).1
  rw [hWork, hNothing, add_zero]

omit [DecidableEq R] in
/-- What is put for a packet replaces the copy that was taken for it. -/
theorem NetState.put_replaces {taken : NetState R E T} {copy : Copy R E T}
    {sent : List (Handle E T × Copy R E T)}
    (hTaken : state.work id = taken.work id + copy.trace.weight id 2)
    (hSent : ∀ out ∈ sent, out.2.trace = copy.trace) :
    Replaced (state.work id) ((taken.put sent).work id) (copy.trace.weight id 2) := by
  refine ⟨_, _, hTaken, work_put sent, fun weight hWeight => ?_⟩
  obtain ⟨out, hOut, hWeight⟩ := mem_load_enqueuedOn hWeight
  obtain ⟨hId, rfl⟩ := Trace.mem_weight.mp hWeight
  rw [hSent out hOut] at hId ⊢
  exact ⟨_, Trace.mem_weight.mpr ⟨hId, rfl⟩, by omega⟩

/-- Every step replaces copies by lighter ones, and takes one if it is seen to
concern the packet, once the packet is there. -/
theorem Move.work_replaced (hForest : net.IsForest) (hState : net.onPaths.Everywhere net state)
    {label : NetLabel R E T} {observed : List (Observation R E T)}
    (hMove : Move net state label after observed)
    (hFresh : state.fresh = id → after.fresh = state.fresh) :
    ∃ taken, Replaced (state.work id) (after.work id) taken ∧
      ((∃ seen ∈ observed, seen.concerns id) → taken ≠ 0) := by
  -- what gets a new number is another packet
  have hOther : after.fresh ≠ state.fresh → state.fresh ≠ id :=
    fun hGrown hSame => hGrown (hFresh hSame)
  cases hMove with
  | @ribPacket router order copy rest hQueue hOrder =>
      have hSent : ∀ out ∈ state.routed router order copy, out.2.trace = copy.trace := by
        intro out hOut
        obtain ⟨name, dst, -, -, -, rfl⟩ := mem_routed hOut
        rfl
      refine ⟨_, NetState.put_replaces (NetState.work_ribRest hQueue) hSent, ?_⟩
      rintro ⟨seen, hSeen, hConcerns⟩
      apply Trace.weight_ne_zero
      rcases List.mem_cons.mp hSeen with rfl | hPut
      · exact hConcerns
      · obtain ⟨out, hOut, rfl⟩ := List.mem_map.mp hPut
        exact hSent out hOut ▸ hConcerns
  | ribChannel hQueue => exact ⟨0, .refl _, by simp⟩
  | @ribStatus router order update rest hQueue hOrder =>
      have hSent : ∀ out ∈ state.announced router order update, out.2.trace.id ≠ id := by
        intro out hOut
        obtain ⟨name, -, rfl⟩ := mem_announced hOut
        exact hOther (Nat.succ_ne_self _)
      obtain ⟨hReplaced, hNothing⟩ := NetState.put_unconcerned hSent
      exact ⟨0, hReplaced, fun hSeen => absurd hSeen hNothing⟩
  | @connStart endpoint hStarted =>
      refine ⟨0, ?_, by simp⟩
      cases hSelf : net.selfAdvertisement endpoint with
      | none => exact .refl _
      | some message =>
          obtain ⟨-, rfl⟩ := selfAdvertisement_eq_some hSelf
          exact .refl _
  | @connSend endpoint other copy rest hRunning hPeer hQueue =>
      let taken : NetState R E T :=
        { state with queue := Function.update state.queue (.conn endpoint) rest }
      refine ⟨copy.trace.weight id 1, ⟨taken.work id, copy.trace.weight id 0,
        NetState.work_queueRest hQueue, taken.work_linkSnoc id other copy.frame, ?_⟩, by simp⟩
      intro weight hWeight
      obtain ⟨hId, rfl⟩ := Trace.mem_weight.mp hWeight
      exact ⟨_, Trace.mem_weight.mpr ⟨hId, rfl⟩, Nat.lt_succ_self _⟩
  | @connSendOut endpoint copy rest hRunning hPeer hQueue =>
      refine ⟨copy.trace.weight id 1, ?_, by simp⟩
      rw [NetState.work_queueRest hQueue]
      exact .removed _ _
  | @connRecv endpoint frame rest hRunning hLink =>
      let taken : NetState R E T :=
        { state with link := Function.update state.link endpoint rest }
      obtain ⟨new, hWork, hNew⟩ := taken.work_submit id (net.home endpoint) (some endpoint)
        (net.arrive endpoint frame) (net.receive endpoint frame)
      refine ⟨frame.trace.weight id 0, ⟨taken.work id, new, NetState.work_linkRest hLink, hWork,
        fun weight hWeight => ?_⟩, ?_⟩
      · obtain ⟨hId, rfl⟩ := Trace.mem_weight.mp (hNew weight hWeight)
        have hFrame := hState.flying endpoint frame (hLink ▸ List.mem_cons_self)
        have hLength := (hForest.path_arrive hFrame).length_le
        refine ⟨_, Trace.mem_weight.mpr ⟨hId, rfl⟩, ?_⟩
        simp only [Network.arrive, List.length_append, List.length_singleton] at hLength ⊢
        omega
      · rintro ⟨seen, hSeen, hConcerns⟩
        obtain rfl := List.mem_singleton.mp hSeen
        exact Trace.weight_ne_zero hConcerns
  | @wire endpoint header payload hPeer =>
      refine ⟨0, ?_, by simp⟩
      have hWork := state.work_linkSnoc id endpoint ⟨header, payload, ⟨state.fresh, none, []⟩⟩
      rw [Trace.weight_of_ne (hOther (Nat.succ_ne_self _)), add_zero] at hWork
      exact hWork ▸ .refl _
  | @lose endpoint frame rest hLink =>
      refine ⟨frame.trace.weight id 0, ?_, by simp⟩
      rw [NetState.work_linkRest hLink]
      exact .removed _ _
  | rosAdvertise hStarted => exact ⟨0, .refl _, by simp⟩
  | rosForward payload hRunning hKind hTx =>
      refine ⟨0, ?_, by simp⟩
      rw [NetState.work_submit_of_ne (hOther (Nat.succ_ne_self _))]
      exact .refl _
  | @rosForwardDirect task endpoint payload hRunning hKind hTx =>
      have hSent : ∀ out ∈ net.injected state task endpoint payload, out.2.trace.id ≠ id := by
        intro out hOut
        rw [mem_injected hOut]
        exact hOther (Nat.succ_ne_self _)
      obtain ⟨hReplaced, hNothing⟩ := NetState.put_unconcerned hSent
      exact ⟨0, hReplaced, fun hSeen => absurd hSeen hNothing⟩
  | @rosRecv task copy rest hRunning hKind hQueue =>
      refine ⟨copy.trace.weight id 1, ?_, ?_⟩
      · rw [NetState.work_queueRest hQueue]
        exact .removed _ _
      · rintro ⟨seen, hSeen, hConcerns⟩
        split at hSeen
        · obtain rfl := List.mem_singleton.mp hSeen
          exact Trace.weight_ne_zero hConcerns
        · cases hSeen
  | flush hFlushed hGateway => exact ⟨0, .refl _, by simp⟩
  | close handle =>
      refine ⟨((state.queue handle).map fun copy => copy.trace.weight id 1).sum, ?_, by simp⟩
      rw [NetState.work_clear handle]
      exact .removed _ _

end Work

section LoopFreedom

variable [DecidableEq R] [DecidableEq E] [DecidableEq T] {net : Network R E T}
  {table : R → RibTable (Handle E T)}

/-- In an endless run, only finitely many steps concern any one packet. -/
theorem finitely_many_concern [Fintype R] [Fintype E] [Fintype T] (hForest : net.IsForest)
    (hTable : ∀ router name, ∀ channel ∈ ((table router).lookup name).getD [],
      net.sourced.registered router channel)
    {outs : ℕ → List (Observation R E T)} (endless : Endless net.Steps (.initial table) outs)
    (id : Nat) : {n | ∃ seen ∈ outs n, seen.concerns id}.Finite := by
  obtain ⟨states, chosen, hStart, hSteps⟩ := endless
  have hState : ∀ n, net.onPaths.Everywhere net (states n) := fun n =>
    (Local.everywhere_of_run hForest.onPaths_preserved hTable (fun _ _ => trivial)
      (hStart ▸ Run.of_endless hSteps n)).1
  have hMove := fun n => next_move (hSteps n)
  have hMono : Monotone fun n => (states n).fresh :=
    monotone_nat_of_le_succ fun n => (hMove n).fresh_le
  -- the packet gets its number once, if at all
  obtain ⟨start, hLate⟩ : ∃ start, ∀ n, start ≤ n →
      (states n).fresh = id → (states (n + 1)).fresh = (states n).fresh := by
    by_cases hPassed : ∃ n, id < (states n).fresh
    · obtain ⟨n, hn⟩ := hPassed
      exact ⟨n, fun m hm hEq => absurd (hMono hm) (by simp only; omega)⟩
    · refine ⟨0, fun n _ hEq => le_antisymm ?_ (hMove n).fresh_le⟩
      rw [hEq]
      exact not_lt.mp fun h => hPassed ⟨n + 1, h⟩
  have hReplaced := fun n (hn : start ≤ n) =>
    (hMove n).work_replaced hForest (hState n) (hLate n hn)
  choose! taken hTaken hConcerns using hReplaced
  refine ((Set.finite_lt_nat start).union (finite_of_replaced hTaken)).subset fun n hn => ?_
  rcases lt_or_ge n start with hEarly | hn'
  · exact .inl hEarly
  · exact .inr (hConcerns n hn' hn)

/-- Whatever is registered, and whatever the order of steps: every copy of a packet
has come along a path from where the packet was injected, no RIB handles a copy that
descends from one it handled, and each packet causes only finitely many enqueues. -/
theorem loop_freedom [Fintype R] [Fintype E] [Fintype T] (net : Network R E T)
    (hForest : net.IsForest) (table : R → RibTable (Handle E T))
    (hTable : ∀ router name, ∀ channel ∈ ((table router).lookup name).getD [],
      net.sourced.registered router channel) :
    (∀ labels state observed, Run net.Steps (.initial table) labels state observed →
      (∀ handle copy, .put handle copy ∈ observed → copy.packet.action = .forward →
        net.Travelled (net.owner handle) copy.trace) ∧
      (∀ router copy, .handled router copy ∈ observed → net.Travelled router copy.trace) ∧
      ∀ router earlier later, .handled router earlier ∈ observed →
        .handled router later ∈ observed → ¬later.trace.descendsFrom earlier.trace) ∧
    ∀ outs, Endless net.Steps (.initial table) outs →
      ∀ id, {n | ∃ seen ∈ outs n, seen.concerns id}.Finite := by
  refine ⟨fun labels state observed run => ?_,
    fun outs endless id => finitely_many_concern hForest hTable endless id⟩
  obtain ⟨-, hSeen⟩ :=
    Local.everywhere_of_run hForest.onPaths_preserved hTable (fun _ _ => trivial) run
  have hHandled : ∀ router copy, .handled router copy ∈ observed →
      net.Travelled router copy.trace := fun router copy hMem =>
    (hSeen.handled router copy hMem).2.2
  refine ⟨fun handle copy hMem hAction => ?_, hHandled,
    fun router earlier later hEarlier hLater =>
      not_descendsFrom (hHandled router _ hEarlier) (hHandled router _ hLater)⟩
  obtain ⟨hPath, hStart, -⟩ := hSeen.put handle copy hMem
  exact ⟨hPath, hStart hAction⟩

end LoopFreedom

namespace LoopExample

def unknown : GDPName := .ofBytes 7 7 7 7

inductive Socket where
  | outside
  | atGateway
  | atClient
  deriving DecidableEq

instance : Fintype Socket :=
  .ofList [.outside, .atGateway, .atClient] (by rintro (_ | _ | _) <;> simp)

/-- A gateway and a client, and a program outside that is connected to the gateway. -/
def net : Network Bool Socket Empty where
  home
    | .outside | .atGateway => false
    | .atClient => true
  peer
    | .outside => none
    | .atGateway => some .atClient
    | .atClient => some .atGateway
  kind
    | .outside | .atGateway => .listener
    | .atClient => .toPeer
  threadName
    | .outside => .ofBytes 0 1 1 1
    | .atGateway => .ofBytes 1 1 1 1
    | .atClient => .ofBytes 2 1 1 1
  gateway
    | true => some .atClient
    | false => none
  rosHome := Empty.elim
  rosKind := Empty.elim
  nodeName := Empty.elim
  topicName := Empty.elim
  ribTx := Empty.elim
  peer_symm := by decide
  gateway_home := by decide
  ribTx_home := by
    intro task
    exact task.elim

def client : GDPName := net.threadName .atClient

/-- The client flushes its own name to the gateway, which then floods a packet for
a name that neither of them knows. -/
def labels : List (NetLabel Bool Socket Empty) :=
  [.connStart .outside, .connStart .atGateway, .connStart .atClient, .ribChannel true, .flush true,
    .ribStatus true [client], .connSend .atClient, .connRecv .atGateway, .ribChannel false,
    .wire .outside (.announcing .forward unknown [5]) [5], .connRecv .outside,
    .ribPacket false [client], .connSend .atGateway, .connRecv .atClient,
    .ribPacket true [client]]

/-- The copy that comes to the client. -/
def flooded : Copy Bool Socket Empty :=
  ⟨constructGdpForwardFromBytes unknown client [5], some .atClient, ⟨1, none, [false, true]⟩⟩

theorem isForest : net.IsForest where
  loopless := by decide
  single := by decide
  acyclic := SimpleGraph.IsAcyclic.of_card_le_two (by simp)

/-- A task that has ended can end again, for ever. -/
theorem close_idles (state : NetState Bool Socket Empty) (handle : Handle Socket Empty) :
    ∃ closed, net.Steps state (.close handle) closed [] ∧
      net.Steps closed (.close handle) closed [] :=
  ⟨_, rfl, by simp [Network.Steps, OfOption, Network.next]⟩

end LoopExample

open LoopExample in
/-- A flooded packet comes to the client, and in a run without end it is handled
finitely often. -/
theorem loop_freedom_example :
    (∃ state observed, Run net.Steps (.initial fun _ => ∅) labels state observed ∧
      .handled true flooded ∈ observed ∧ net.Travelled true flooded.trace) ∧
    ∃ outs, Endless net.Steps (.initial fun _ => ∅) outs ∧ (∃ n, .handled true flooded ∈ outs n) ∧
      {n | ∃ seen ∈ outs n, seen.concerns flooded.trace.id}.Finite := by
  have hFree := loop_freedom net isForest (fun _ => ∅) (by simp)
  have hRun : (runOption net.next (.initial fun _ => ∅) labels).any
      (fun result => .handled true flooded ∈ result.2) = true := by decide +kernel
  obtain ⟨⟨state, observed⟩, hResult, hMem⟩ := (Option.any_eq_true _ _).mp hRun
  have run := runOption_eq_some_iff.mp hResult
  have hHandled := of_decide_eq_true hMem
  obtain ⟨closed, hClose, hIdle⟩ := close_idles state (.conn .outside)
  obtain ⟨outs, endless, hSeen⟩ := (run.snoc hClose).exists_endless hIdle
  exact ⟨⟨state, observed, run, hHandled, (hFree.1 _ _ _ run).2.1 true flooded hHandled⟩,
    outs, endless, hSeen _ (by simpa using hHandled), hFree.2 outs endless _⟩

end GdpRouter
