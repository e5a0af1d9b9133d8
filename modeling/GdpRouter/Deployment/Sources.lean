import GdpRouter.Deployment.SplitHorizon

/-! Unidirectional sources. A ROS subscriber registers its handle under its topic
like any sink, but it never reads the queue behind that handle, so whatever the
RIB puts there stays. -/
namespace GdpRouter

open Multimap Transition

variable {R E T : Type}

/-- The queues that no task reads are empty. -/
def Network.SourcesEmpty (net : Network R E T) (state : NetState R E T) : Prop :=
  ∀ task, net.rosKind task = .subscriber → state.queue (.ros task) = []

/-- Something is put on the handle of a source. -/
def Network.FeedsSource (net : Network R E T) : Observation R E T → Prop
  | .put (.ros task) _ => net.rosKind task = .subscriber
  | .put (.conn _) _ | .delivered _ _ | .handled _ _ | .published _ _ => False

/-- Whenever the RIB takes a packet, each source that is open made the packet itself,
or is not registered among those that the RIB picks for its name. -/
def Network.SourceGuard (net : Network R E T) [DecidableEq R] (state : NetState R E T) :
    NetLabel R E T → Prop
  | .ribPacket router _ => ∀ copy ∈ (state.ribRx router).head?,
      ∀ task, net.rosKind task = .subscriber → state.closed (.ros task) = false →
        copy.packet.source = net.nodeName task ∨
          ∀ dst, Picks (state.table router) copy.packet.gdpname dst → dst.channel ≠ .ros task
  | .ribChannel _ | .ribStatus _ _ | .connStart _ | .connSend _ | .connRecv _ | .wire _ _ _
  | .lose _ | .rosAdvertise _ | .rosForward _ _ | .rosRecv _ | .flush _ | .close _ => True

instance (net : Network R E T) : DecidablePred net.FeedsSource
  | .put (.ros _) _ => inferInstanceAs (Decidable (_ = _))
  | .put (.conn _) _ | .delivered _ _ | .handled _ _ | .published _ _ =>
      inferInstanceAs (Decidable False)

/-- A ROS task is registered with the name of its node. -/
def Network.nodes (net : Network R E T) : Local R E T where
  inRib _ _ := True
  queued _ _ := True
  flying _ _ := True
  registered _ channel := ∀ task, channel.channel = .ros task →
    channel.advertisement.source = net.nodeName task

theorem Network.nodes_preserved (net : Network R E T) :
    net.nodes.Preserved net fun _ => True where
  routed := fun _ _ _ => trivial
  announced := fun _ _ _ => trivial
  carried := fun _ _ => trivial
  forwarded := fun _ _ => trivial
  advertised := by
    intro endpoint frame _ _ task hSame
    cases hSame
  self := by
    intro endpoint _ task hSame
    cases hSame
  node := by
    intro task other hSame
    obtain rfl := Handle.ros.inj hSame
    rfl
  wired := fun _ _ _ => trivial
  spoken := fun _ _ _ => trivial
  injected := fun _ _ _ => trivial

variable [DecidableEq R] [DecidableEq E] [DecidableEq T]

section Unfed

variable {net : Network R E T} {state after : NetState R E T} {label : NetLabel R E T}
  {observed : List (Observation R E T)}

/-- A step leaves the queues of the sources empty exactly when it puts nothing there. -/
theorem Move.sources_empty_iff (hEmpty : net.SourcesEmpty state)
    (hMove : Move net state label after observed) :
    net.SourcesEmpty after ↔ ∀ seen ∈ observed, ¬net.FeedsSource seen := by
  constructor
  · intro hAfter seen hSeen hFeeds
    cases seen with
    | put handle copy =>
        cases handle with
        | conn endpoint => exact hFeeds
        | ros task =>
            have hCopy := hMove.mem_queue_of_put hSeen
            rw [hAfter task hFeeds] at hCopy
            cases hCopy
    | delivered | handled | published => exact hFeeds
  · intro hFree task hKind
    apply List.eq_nil_iff_forall_not_mem.mpr
    intro copy hCopy
    rcases hMove.mem_queue hCopy with hOld | hPut
    · rw [hEmpty task hKind] at hOld
      cases hOld
    · exact hFree _ hPut hKind

/-- Nothing but the RIB feeds a source, and it does so unless the guard holds. -/
theorem Move.unfed_iff (hNodes : net.nodes.Everywhere net state)
    (hMove : Move net state label after observed) :
    (∀ seen ∈ observed, ¬net.FeedsSource seen) ↔ net.SourceGuard state label := by
  constructor
  · intro hFree
    cases hMove with
    | @ribPacket router order copy rest hQueue hOrder =>
        simp only [Network.SourceGuard, hQueue, List.head?_cons, Option.mem_some_iff, forall_eq']
        intro task hKind hOpen
        by_contra hPicked
        push Not at hPicked
        obtain ⟨hSource, dst, hDst, hChannel⟩ := hPicked
        have hNode := hNodes.picked hDst task hChannel
        have hOut : (dst.channel, copy) ∈ state.routed router order copy := by
          apply (mem_routed_iff hOrder).mpr
          refine ⟨dst, hDst, ?_, ?_, rfl⟩
          · rw [hNode]
            exact hSource.symm
          · rw [hChannel]
            exact hOpen
        rw [hChannel] at hOut
        exact hFree _ (List.mem_cons_of_mem _ (mem_putAll.mpr hOut)) hKind
    | _ => trivial
  · intro hGuard seen hSeen hFeeds
    cases seen with
    | put handle copy =>
        cases handle with
        | conn endpoint => exact hFeeds
        | ros task =>
            rcases hMove.put_cases hSeen with ⟨router, order, rfl, hOrder, taken, hTaken, hOut⟩ |
              ⟨router, order, -, update, hUpdate, hOut⟩ | ⟨_, _, payload, -, -, hOut⟩
            · obtain ⟨dst, hDst, hSource, hOpen, hSame⟩ := (mem_routed_iff hOrder).mp hOut
              obtain ⟨hChannel, rfl⟩ := Prod.mk.inj hSame
              rcases hGuard copy hTaken task hFeeds (hChannel ▸ hOpen) with hOwn | hNone
              · exact hSource ((hNodes.picked hDst task hChannel.symm).trans hOwn.symm)
              · exact hNone dst hDst hChannel.symm
            · obtain ⟨endpoint, -, hSink⟩ := hNodes.sinks router update hUpdate
              obtain ⟨name, -, hSame⟩ := mem_announced hOut
              rw [hSink] at hSame
              cases hSame
            · cases mem_injected hOut
    | delivered | handled | published => exact hFeeds

/-- In every run of any network: the queues of the sources stay empty throughout, and
nothing is put on their handles, exactly when the guard holds at every step. -/
theorem sources_unfed_iff (net : Network R E T) {labels : List (NetLabel R E T)}
    (run : Run net.Steps (.initial fun _ => ∅) labels state observed) :
    (Throughout net.Steps (.initial fun _ => ∅) labels net.SourcesEmpty ↔
      Run (Guarded net.Steps net.SourceGuard) (.initial fun _ => ∅) labels state observed) ∧
    ((∀ seen ∈ observed, ¬net.FeedsSource seen) ↔
      Run (Guarded net.Steps net.SourceGuard) (.initial fun _ => ∅) labels state observed) := by
  have hStart : net.nodes.Everywhere net (.initial fun _ => ∅) := .initial (by simp)
  have hKeep : ∀ state label next (last : List (Observation R E T)),
      net.nodes.Everywhere net state → net.Steps state label next last →
        net.nodes.Everywhere net next := by
    intro state label next last hState hStep
    exact (hState.step net.nodes_preserved trivial (next_move hStep)).1
  have hGuarded := run.free_iff_guarded _ hStart hKeep
    fun state label next last hState hStep => (next_move hStep).unfed_iff hState
  have hThroughout := run.throughout_iff_free (net.nodes.Everywhere net) hStart
    (fun task _ => rfl : net.SourcesEmpty (.initial fun _ => ∅)) hKeep
    fun state label next last _ hEmpty hStep => (next_move hStep).sources_empty_iff hEmpty
  exact ⟨hThroughout.trans hGuarded, hGuarded⟩

end Unfed

namespace SourceExample

def topic : GDPName := .ofBytes 1 0 0 0

def unknown : GDPName := .ofBytes 2 0 0 0

inductive Task where
  | source
  | sink
  deriving DecidableEq

/-- A router with a subscriber, a publisher of the same topic, and a peer. -/
def net : Network Unit Unit Task where
  home _ := ()
  peer _ := none
  kind _ := .listener
  threadName _ := .ofBytes 9 9 9 9
  gateway _ := none
  rosHome _ := ()
  rosKind
    | .source => .subscriber
    | .sink => .publisher
  nodeName
    | .source => .ofBytes 3 3 3 3
    | .sink => .ofBytes 4 4 4 4
  topicName _ := topic
  ribTx _ := none
  peer_symm := by simp
  gateway_home := by simp
  ribTx_home := by simp

def starting : List (NetLabel Unit Unit Task) :=
  [.connStart (), .rosAdvertise .source, .rosAdvertise .sink, .ribChannel (), .ribChannel ()]

/-- The peer sends a message for the topic, and one for a name that no one has. -/
def leaking : List (NetLabel Unit Unit Task) := starting ++
  [.wire () (.announcing .forward topic [5]) [5], .connRecv (), .ribPacket () [topic],
    .wire () (.announcing .forward unknown [6]) [6], .connRecv (), .ribPacket () [topic]]

/-- The subscriber itself gets a message. -/
def speaking : List (NetLabel Unit Unit Task) :=
  starting ++ [.rosForward .source [7], .ribPacket () [topic], .rosRecv .sink]

def heard (name : GDPName) (payload : Bytes) : GDPPacket :=
  constructGdpForwardFromBytes name (net.threadName ()) payload

end SourceExample

open SourceExample in
/-- Both wait behind the handle of the subscriber, for ever. -/
theorem source_is_destination : ∃ state observed,
    Run net.Steps (.initial fun _ => ∅) leaking state observed ∧
      (state.queue (.ros .source)).map Copy.packet = [heard topic [5], heard unknown [6]] ∧
      ¬net.SourcesEmpty state := by
  have hRun : (runOption net.next (.initial fun _ => ∅) leaking).any (fun result =>
      (result.1.queue (.ros .source)).map Copy.packet = [heard topic [5], heard unknown [6]]) =
        true := by decide +kernel
  obtain ⟨⟨state, observed⟩, hResult, hSeen⟩ := (Option.any_eq_true _ _).mp hRun
  have hQueue := of_decide_eq_true hSeen
  refine ⟨state, observed, runOption_eq_some_iff.mp hResult, hQueue, ?_⟩
  intro hEmpty
  rw [hEmpty .source rfl] at hQueue
  cases hQueue

open SourceExample in
/-- The message of the subscriber is published, and does not come back to it. -/
theorem sources_unfed_example : ∃ state observed,
    Run net.Steps (.initial fun _ => ∅) speaking state observed ∧
      .published .sink ⟨net.rosPacket .source [7], none, ⟨0, some .source, [()]⟩⟩ ∈ observed ∧
      Throughout net.Steps (.initial fun _ => ∅) speaking net.SourcesEmpty := by
  have hRun : (runOption net.next (.initial fun _ => ∅) speaking).any (fun result =>
      .published .sink ⟨net.rosPacket .source [7], none, ⟨0, some .source, [()]⟩⟩ ∈ result.2 ∧
        ∀ seen ∈ result.2, ¬net.FeedsSource seen) = true := by decide +kernel
  obtain ⟨⟨state, observed⟩, hResult, hSeen⟩ := (Option.any_eq_true _ _).mp hRun
  obtain ⟨hPublished, hFree⟩ := of_decide_eq_true hSeen
  have run := runOption_eq_some_iff.mp hResult
  obtain ⟨hEmpty, hFed⟩ := sources_unfed_iff net run
  exact ⟨state, observed, run, hPublished, hEmpty.mpr (hFed.mp hFree)⟩

end GdpRouter
