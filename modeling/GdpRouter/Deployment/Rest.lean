import GdpRouter.Deployment.LoopFreedom
import GdpRouter.Deployment.StreamDelivery
import Mathlib.Data.Set.Finite.Lattice

/-! A forest of routers comes to rest. Once the ROS subscribers fall silent, a run
over bytes can only write and read what is on its way: sooner or later nothing is
enqueued any more. -/
namespace GdpRouter

open Descent Multimap Transition

variable {R E T : Type}

/-- The number of the packet that is seen. -/
def Observation.id : Observation R E T → Nat
  | .put _ copy => copy.trace.id
  | .delivered _ frame => frame.trace.id
  | .handled _ copy => copy.trace.id
  | .published _ copy => copy.trace.id

theorem Observation.concerns_id (seen : Observation R E T) : seen.concerns seen.id := by
  cases seen <;> rfl

section Work

variable [Fintype R] [Fintype E] [Fintype T] [DecidableEq R] [DecidableEq E] [DecidableEq T]
  {net : Network R E T} {state after : NetState R E T} {labels : List (NetLabel R E T)}
  {observed : List (Observation R E T)}

omit [DecidableEq R] [DecidableEq E] [DecidableEq T] in
/-- There is something to do for finitely many packets only. -/
theorem NetState.finite_work (state : NetState R E T) : {id | state.work id ≠ 0}.Finite := by
  have hIds : ∀ {ι α : Type} [Finite ι] (queues : ι → List α) (number : α → Nat),
      {id | ∃ i, ∃ item ∈ queues i, number item = id}.Finite := by
    intro ι α _ queues number
    have hUnion : {id | ∃ i, ∃ item ∈ queues i, number item = id} =
        ⋃ i, number '' {item | item ∈ queues i} := by
      ext id
      simp
    rw [hUnion]
    exact Set.finite_iUnion fun i => (List.finite_toSet _).image _
  refine (((hIds state.ribRx fun copy => copy.trace.id).union
    (hIds state.queue fun copy => copy.trace.id)).union
      (hIds state.link fun frame => frame.trace.id)).subset fun id hWork => ?_
  obtain ⟨weight, hWeight⟩ := Multiset.exists_mem_of_ne_zero hWork
  rw [NetState.work, Multiset.mem_add, Multiset.mem_add, mem_load, mem_load, mem_load] at hWeight
  rcases hWeight with (⟨router, copy, hMem, hCopy⟩ | ⟨handle, copy, hMem, hCopy⟩) |
    ⟨endpoint, frame, hMem, hFrame⟩
  · exact .inl (.inl ⟨router, copy, hMem, (Trace.mem_weight.mp hCopy).1⟩)
  · exact .inl (.inr ⟨handle, copy, hMem, (Trace.mem_weight.mp hCopy).1⟩)
  · exact .inr ⟨endpoint, frame, hMem, (Trace.mem_weight.mp hFrame).1⟩

omit [Fintype R] [Fintype E] [Fintype T] in
/-- Numbers of packets are not used again. -/
theorem fresh_le_of_run (run : Run net.Steps state labels after observed) :
    state.fresh ≤ after.fresh := by
  induction run with
  | nil => exact le_rfl
  | cons first _ ih => exact (next_move first).fresh_le.trans ih

omit [Fintype R] [Fintype E] [Fintype T] in
theorem onPaths_of_run (hForest : net.IsForest) (run : Run net.Steps state labels after observed)
    (hState : net.onPaths.Everywhere net state) : net.onPaths.Everywhere net after :=
  run.invariant (net.onPaths.Everywhere net) hState fun _ _ _ _ h hStep =>
    (h.step hForest.onPaths_preserved trivial (next_move hStep)).1

/-- While no packet gets a number, the work for each of them only descends, and does when
a packet is seen. -/
theorem work_descends_of_run (hForest : net.IsForest)
    (run : Run net.Steps state labels after observed) (hState : net.onPaths.Everywhere net state)
    (hFresh : after.fresh = state.fresh) (id : Nat) :
    (after.work id = state.work id ∧ ∀ seen ∈ observed, ¬seen.concerns id) ∨
      (after.work id).IsDershowitzMannaLT (state.work id) := by
  induction run with
  | nil => exact .inl ⟨rfl, List.forall_mem_nil _⟩
  | @cons state middle after label labels out rest first tail ih =>
      have hMove := next_move first
      have hLater := fresh_le_of_run tail
      have hEarlier := hMove.fresh_le
      have hMiddle := (hState.step hForest.onPaths_preserved trivial hMove).1
      have hKept : state.fresh = id → middle.fresh = state.fresh := fun _ => by omega
      obtain ⟨taken, hReplaced, hTaken⟩ := hMove.work_replaced hForest hState hKept
      have hFirst : (middle.work id = state.work id ∧ ∀ seen ∈ out, ¬seen.concerns id) ∨
          (middle.work id).IsDershowitzMannaLT (state.work id) := by
        by_cases hNone : taken = 0
        · subst hNone
          exact .inl ⟨hReplaced.eq, fun seen hSeen hConcerns => hTaken ⟨seen, hSeen, hConcerns⟩ rfl⟩
        · exact .inr (hReplaced.lt hNone)
      rcases ih hMiddle (by omega) with ⟨hSame, hRest⟩ | hLess
      · rw [hSame]
        exact hFirst.imp_left fun h => ⟨h.1, List.forall_mem_append.mpr ⟨h.2, hRest⟩⟩
      · rcases hFirst with ⟨hSame, -⟩ | hFirst
        · exact .inr (hSame ▸ hLess)
        · exact .inr (hLess.trans hFirst)

/-- If no packet gets a number from some run on, only finitely many of the runs after it
see anything. -/
theorem finitely_many_seen (hForest : net.IsForest) {states : ℕ → NetState R E T}
    {chosen : ℕ → List (NetLabel R E T)} {outs : ℕ → List (Observation R E T)}
    (hRuns : ∀ n, Run net.Steps (states n) (chosen n) (states (n + 1)) (outs n))
    (hState : ∀ n, net.onPaths.Everywhere net (states n)) {start : ℕ}
    (hFresh : ∀ n, start ≤ n → (states (n + 1)).fresh = (states n).fresh) :
    {n | outs n ≠ []}.Finite := by
  have hDescends := fun n (hn : start ≤ n) id =>
    work_descends_of_run hForest (hRuns n) (hState n) (hFresh n hn) id
  -- A packet that there is nothing to do for stays so.
  have hIdle : ∀ id, (states start).work id = 0 → ∀ n, start ≤ n → (states n).work id = 0 := by
    intro id hStart n hn
    induction n, hn using Nat.le_induction with
    | base => exact hStart
    | succ n hn ih =>
        rcases hDescends n hn id with ⟨hSame, -⟩ | hLess
        · exact hSame.trans ih
        · rw [ih] at hLess
          exact absurd hLess (not_isDershowitzMannaLT_zero _)
  have hFinite : (⋃ id ∈ {id | (states start).work id ≠ 0}, {n | start ≤ n ∧
      ((states (n + 1)).work id).IsDershowitzMannaLT ((states n).work id)}).Finite := by
    refine (states start).finite_work.biUnion fun id _ =>
      finite_of_descends Multiset.wellFounded_isDershowitzMannaLT (fun n => (states n).work id)
        fun n hn => ?_
    exact (hDescends n hn id).imp_left And.left
  refine ((Set.finite_lt_nat start).union hFinite).subset fun n hSeen => ?_
  rcases lt_or_ge n start with hEarly | hn
  · exact .inl hEarly
  · obtain ⟨seen, hMem⟩ := List.exists_mem_of_ne_nil _ hSeen
    have hLess : ((states (n + 1)).work seen.id).IsDershowitzMannaLT ((states n).work seen.id) := by
      rcases hDescends n hn seen.id with ⟨-, hNone⟩ | hLess
      · exact absurd seen.concerns_id (hNone seen hMem)
      · exact hLess
    refine .inr (Set.mem_biUnion (x := seen.id) (fun hNone => ?_) ⟨hn, hLess⟩)
    rw [hIdle _ hNone n hn] at hLess
    exact not_isDershowitzMannaLT_zero _ hLess

end Work

/-! ### Flushes -/

section Flushes

variable [Fintype R]

/-- The flushes that a router may still do, or has to handle. -/
def NetState.flushes (state : NetState R E T) (router : R) : ℕ :=
  (state.statRs router).length + if state.flushed router then 0 else 1

def NetState.allFlushes (state : NetState R E T) : ℕ := ∑ router, state.flushes router

variable [DecidableEq R] [DecidableEq E] [DecidableEq T]

/-- Each router flushes once at most, so their number never grows. -/
theorem Move.allFlushes {net : Network R E T} {state after : NetState R E T}
    {label : NetLabel R E T} {observed : List (Observation R E T)}
    (hMove : Move net state label after observed) :
    (after.allFlushes = state.allFlushes ∨ after.allFlushes < state.allFlushes) ∧
      ∀ router order, label = .ribStatus router order → after.allFlushes < state.allFlushes := by
  cases hMove with
  | @ribStatus router order update rest hQueue hOrder =>
      have hLess : ({ state with
          statRs := Function.update state.statRs router rest
          fresh := state.fresh + 1 }.put
            (state.announced router order update)).allFlushes < state.allFlushes := by
        refine Finset.sum_lt_sum (fun other _ => Nat.add_le_add_right ?_ _)
          ⟨router, Finset.mem_univ router, Nat.add_lt_add_right ?_ _⟩
        · by_cases hRouter : other = router
          · subst hRouter
            simp [NetState.put, hQueue]
          · simp [NetState.put, hRouter]
        · simp [NetState.put, hQueue]
      exact ⟨.inr hLess, fun _ _ _ => hLess⟩
  | @flush router endpoint hFlushed hGateway =>
      refine ⟨.inl (Finset.sum_congr rfl fun other _ => ?_), by simp⟩
      by_cases hRouter : other = router
      · subst hRouter
        simp [NetState.flushes, hFlushed]
      · simp [NetState.flushes, hRouter]
  | ribPacket | ribChannel | connSend | connSendOut | wire | lose => exact ⟨.inl rfl, by simp⟩
  | rosForwardDirect | rosRecv | close => exact ⟨.inl rfl, by simp⟩
  | connStart | connRecv | rosAdvertise | rosForward =>
      exact ⟨.inl (by simp [NetState.allFlushes, NetState.flushes]), by simp⟩

omit [Fintype R] [DecidableEq E] [DecidableEq T] in
/-- Handing packets over neither flushes nor numbers anything. -/
theorem handOver_status (net : Network R E T) (endpoint : E) (tasks : NetState R E T)
    (packets : List GDPPacket) : (net.handOver endpoint tasks packets).statRs = tasks.statRs ∧
      (net.handOver endpoint tasks packets).flushed = tasks.flushed ∧
      (net.handOver endpoint tasks packets).fresh = tasks.fresh := by
  induction packets generalizing tasks with
  | nil => exact ⟨rfl, rfl, rfl⟩
  | cons packet packets ih =>
      rw [Network.handOver, List.foldl_cons]
      obtain ⟨hStatus, hFlushed, hFresh⟩ := ih (tasks.submit (net.home endpoint) (some endpoint)
        ⟨0, none, []⟩ (procGdpPacket packet (.conn endpoint)))
      exact ⟨hStatus.trans (by simp), hFlushed.trans (by simp), hFresh.trans (by simp)⟩

variable {net : StreamNetwork R E T} {serde : SerdeJson} {state after : StreamState R E T}
  {label : StreamLabel R E T} {seen : List (StreamObservation R E T)}

/-- No step adds a flush to be done, and every flush takes one off. -/
theorem StreamMove.allFlushes (hMove : StreamMove net serde state label after seen) :
    (after.tasks.allFlushes = state.tasks.allFlushes ∨
        after.tasks.allFlushes < state.tasks.allFlushes) ∧
      ∀ router order, label = .task (.ribStatus router order) →
        after.tasks.allFlushes < state.tasks.allFlushes := by
  cases hMove with
  | @task label tasks out hFrame hMove =>
      obtain ⟨hAll, hStatus⟩ := hMove.allFlushes
      refine ⟨hAll, ?_⟩
      rintro router order ⟨⟩
      exact hStatus router order rfl
  | write hQueue hWrite => exact ⟨.inl rfl, by simp⟩
  | @read endpoint receivingBuf wire recv packets hWire hRead =>
      obtain ⟨hStatus, hFlushed, -⟩ := handOver_status net.cut endpoint state.tasks packets
      refine ⟨.inl ?_, by simp⟩
      simp only [NetState.allFlushes, NetState.flushes, hStatus, hFlushed]

omit [Fintype R] in
/-- A packet gets a number when it is handed over, or in a flush. -/
theorem StreamMove.fresh_eq (hMove : StreamMove net serde state label after seen)
    (hStatus : ∀ router order, label ≠ .task (.ribStatus router order))
    (hForward : ∀ task payload, label ≠ .task (.rosForward task payload)) :
    after.tasks.fresh = state.tasks.fresh := by
  cases hMove with
  | @task label tasks out hFrame hMove =>
      cases hMove with
      | @ribStatus router order => exact absurd rfl (hStatus router order)
      | @rosForward task payload | @rosForwardDirect task endpoint payload =>
          exact absurd rfl (hForward _ _)
      | wire => cases hFrame
      | ribPacket | ribChannel | connSend | connSendOut | lose => rfl
      | rosRecv | flush | close => rfl
      | connStart | connRecv | rosAdvertise => simp
  | write hQueue hWrite => rfl
  | read hWire hRead => exact (handOver_status net.cut _ _ _).2.2

end Flushes

variable [DecidableEq R] [DecidableEq E] [DecidableEq T]

omit [DecidableEq R] [DecidableEq E] [DecidableEq T] in
/-- Frames written whole are what is asked, when frames may still be lost. -/
theorem whole_iff_faithful {net : StreamNetwork R E T} {serde : SerdeJson}
    {state : StreamState R E T} {label : StreamLabel R E T} :
    StreamNetwork.Whole serde state label ↔ net.Faithful serde (fun _ => false) state label := by
  cases label with
  | task | read => exact Iff.rfl
  | write endpoint event => simp [StreamNetwork.Whole, StreamNetwork.Faithful]

/-- Take a forest of routers that are joined by TCP connections, and any endless run over
bytes in which frames are written whole. If the subscribers hand over finitely many
messages, only finitely many steps enqueue, handle or publish anything. -/
theorem streams_come_to_rest [Fintype R] [Fintype E] [Fintype T] (net : StreamNetwork R E T)
    (hJoined : net.Joined) (hForest : net.IsForest) {serde : SerdeJson} (hSerde : serde.Lawful)
    {states : ℕ → StreamState R E T} {chosen : ℕ → StreamLabel R E T}
    {outs : ℕ → List (StreamObservation R E T)} (hStart : states 0 = .initial)
    (hSteps : ∀ n, Guarded (net.Streams serde) (StreamNetwork.Whole serde) (states n) (chosen n)
      (states (n + 1)) (outs n))
    (hSpoken : {n | ∃ task payload, chosen n = .task (.rosForward task payload)}.Finite) :
    {n | (outs n).flatMap StreamObservation.bare ≠ []}.Finite := by
  have hFaithful : ∀ n, Guarded (net.Streams serde) (net.Faithful serde fun _ => false) (states n)
      (chosen n) (states (n + 1)) (outs n) := fun n =>
    ⟨(hSteps n).1, whole_iff_faithful.mp (hSteps n).2⟩
  have hInitial : (states 0).Refines net serde (fun _ => false) (.initial fun _ => ∅) := by
    rw [hStart]
    exact .initial
  obtain ⟨nets, netLabels, netOuts, hNetStart, hNets⟩ :=
    (streams_simulation hSerde hJoined).endless hInitial hFaithful
  have hMove := fun n => streams_move (hSteps n).1
  -- From some step on no packet gets a number.
  have hFlushes : {n | ∃ router order, chosen n = .task (.ribStatus router order)}.Finite := by
    refine (finite_of_descends wellFounded_lt (fun n => (states n).tasks.allFlushes)
      fun n (_ : 0 ≤ n) => (hMove n).allFlushes.1).subset ?_
    rintro n ⟨router, order, hChosen⟩
    exact ⟨n.zero_le, (hMove n).allFlushes.2 router order hChosen⟩
  obtain ⟨last, hLast⟩ := (hFlushes.union hSpoken).bddAbove
  have hFresh : ∀ n, last + 1 ≤ n → (nets (n + 1)).fresh = (nets n).fresh := by
    intro n hn
    have hSame : ∀ m, (nets m).fresh = (states m).tasks.fresh := fun m =>
      (NetState.bare_eq_iff.mp (hNets m).1.tasks).2.2.2.2.2.2.1
    rw [hSame, hSame]
    apply (hMove n).fresh_eq
    · intro router order hChosen
      exact absurd (hLast (.inl ⟨router, order, hChosen⟩)) (by omega)
    · intro task payload hChosen
      exact absurd (hLast (.inr ⟨task, payload, hChosen⟩)) (by omega)
  have hPaths : ∀ n, net.onPaths.Everywhere net.toNetwork (nets n) := by
    intro n
    induction n with
    | zero =>
        rw [hNetStart]
        exact .initial (by simp)
    | succ n ih => exact onPaths_of_run hForest (hNets n).2.1 ih
  refine (finitely_many_seen hForest (fun n => (hNets n).2.1) hPaths hFresh).subset ?_
  intro n hSeen hNone
  apply hSeen
  rw [← (hNets n).2.2.2, hNone]
  rfl

namespace RestExample

open IntegrityExample

instance : Fintype Task := .ofList [.speaker, .hearer] (by rintro (_ | _) <;> simp)

/-- Two routers with one connection are a forest. -/
theorem isForest : net.IsForest where
  loopless := by decide
  single := by decide
  acyclic := SimpleGraph.IsAcyclic.of_card_le_two (by simp)

/-- A task that has ended can end again, for ever. -/
theorem close_idles (state : StreamState Bool Bool Task) (handle : Handle Bool Task) :
    ∃ closed, net.Streams compactJson state (.task (.close handle)) closed [] ∧
      net.Streams compactJson closed (.task (.close handle)) closed [] :=
  ⟨_, rfl, by simp [StreamNetwork.Streams, OfOption, StreamNetwork.next, Network.next,
    NetLabel.movesFrame]⟩

end RestExample

open IntegrityExample RestExample in
/-- The message is handled in some step of a run that goes on for ever. -/
theorem streams_come_to_rest_example : ∃ (states : ℕ → StreamState Bool Bool Task)
    (chosen : ℕ → StreamLabel Bool Bool Task) (outs : ℕ → List (StreamObservation Bool Bool Task)),
    states 0 = .initial ∧
    (∀ n, Guarded (net.Streams compactJson) (StreamNetwork.Whole compactJson) (states n) (chosen n)
      (states (n + 1)) (outs n)) ∧
    (∃ n, .handled true heard ∈ (outs n).flatMap StreamObservation.bare) ∧
    {n | (outs n).flatMap StreamObservation.bare ≠ []}.Finite := by
  have hRun : (runGuarded (net.next compactJson) (StreamNetwork.Whole compactJson) .initial
      labels).any (fun result =>
        .task (.ribPacket true [topic, net.threadName true]) (.handled true heard) ∈ result.2) =
          true := by
    decide +kernel
  obtain ⟨⟨state, observed⟩, hResult, hMem⟩ := (Option.any_eq_true _ _).mp hRun
  have run := runGuarded_eq_some_iff.mp hResult
  obtain ⟨closed, hClose, hIdle⟩ := close_idles state (.ros .speaker)
  obtain ⟨states, chosen, outs, hStart, hSteps, -, hLate, hSeen⟩ :=
    (run.snoc ⟨hClose, trivial⟩).exists_steps ⟨hIdle, trivial⟩
  obtain ⟨n, hn⟩ := hSeen _ (List.mem_append_left _ (of_decide_eq_true hMem))
  refine ⟨states, chosen, outs, hStart, hSteps,
    ⟨n, List.mem_flatMap.mpr ⟨_, hn, List.mem_singleton_self _⟩⟩,
    streams_come_to_rest net (fun endpoint => ⟨!endpoint, rfl⟩) isForest compactJson_lawful hStart
      hSteps ?_⟩
  refine (Set.finite_lt_nat (labels.length + 1)).subset ?_
  rintro n ⟨task, payload, hChosen⟩
  refine Nat.lt_of_not_le fun hn => ?_
  rw [(hLate n (by simpa using hn)).2] at hChosen
  cases hChosen

end GdpRouter
