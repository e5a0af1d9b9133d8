import GdpRouter.Deployment.SplitHorizon
import GdpRouter.Semantics.Forest

/-! Where connections form a forest, every copy has come along a path: a router
never puts a copy back on the connection it was read from, and any other
connection leads to a router that the copy has not been at. -/
namespace GdpRouter

open Forest

variable {R E T : Type}

/-- Two routers are adjacent if a connection joins them. -/
def Network.graph (net : Network R E T) : SimpleGraph R :=
  .fromRel fun here there => ∃ endpoint other, net.peer endpoint = some other ∧
    net.home endpoint = here ∧ net.home other = there

/-- There is at most one path of connections between two routers. -/
structure Network.IsForest (net : Network R E T) : Prop where
  loopless : ∀ {endpoint other}, net.peer endpoint = some other →
    net.home endpoint ≠ net.home other
  single : ∀ {first firstPeer second secondPeer}, net.peer first = some firstPeer →
    net.peer second = some secondPeer → net.home first = net.home second →
    net.home firstPeer = net.home secondPeer → first = second
  acyclic : net.graph.IsAcyclic

/-- The first router that a packet was at is that of the ROS task that made it,
or one that a program outside is connected to. -/
def Network.injectedAtFirst (net : Network R E T) (trace : Trace R T) : Prop :=
  match trace.origin with
  | some task => trace.visited.head? = some (net.rosHome task)
  | none => ∃ endpoint, net.peer endpoint = none ∧
      trace.visited.head? = some (net.home endpoint)

/-- A packet has come to a router from where it was injected, along a path. -/
structure Network.Travelled (net : Network R E T) (router : R) (trace : Trace R T) : Prop where
  path : PathTo net.graph router trace.visited
  start : net.injectedAtFirst trace

/-- The last router before this one is at the other end of the connection that
the copy was read from. -/
def Network.cameOver (net : Network R E T) (router : R) (copy : Copy R E T) : Prop :=
  ∀ before last, copy.trace.visited = before ++ [last, router] →
    ∃ endpoint other, copy.heard = some endpoint ∧ net.peer endpoint = some other ∧
      net.home other = last

/-- Advertisements also come along paths, but they start where they are flushed. -/
def Network.onPaths (net : Network R E T) : Local R E T where
  inRib router copy :=
    net.sourced.inRib router copy ∧ net.cameOver router copy ∧ net.Travelled router copy.trace
  queued handle copy :=
    PathTo net.graph (net.owner handle) copy.trace.visited ∧
    (copy.packet.action = .forward → net.injectedAtFirst copy.trace) ∧
    ∀ endpoint other, handle = .conn endpoint → net.peer endpoint = some other →
      net.home other ∉ copy.trace.visited
  flying endpoint frame :=
    match net.peer endpoint with
    | none => frame.trace.visited = [] ∧ frame.trace.origin = none
    | some other => PathTo net.graph (net.home other) frame.trace.visited ∧
        (frame.header.action = .forward → net.injectedAtFirst frame.trace) ∧
        net.home endpoint ∉ frame.trace.visited
  registered := net.sourced.registered

namespace Network

variable {net : Network R E T} {endpoint other : E}

theorem IsForest.adj (h : net.IsForest) (hPeer : net.peer endpoint = some other) :
    net.graph.Adj (net.home endpoint) (net.home other) := by
  rw [graph, SimpleGraph.fromRel_adj]
  exact ⟨h.loopless hPeer, .inl ⟨endpoint, other, hPeer, rfl, rfl⟩⟩

/-- The connection to a router that a copy was at is the one it was read from. -/
theorem IsForest.heard_of_visited (h : net.IsForest) {router : R} {copy : Copy R E T}
    (hCopy : net.onPaths.inRib router copy) (hPeer : net.peer endpoint = some other)
    (hHome : net.home endpoint = router) (hVisited : net.home other ∈ copy.trace.visited) :
    copy.heard = some endpoint := by
  obtain ⟨hSourced, hCame, hTravelled⟩ := hCopy
  obtain ⟨before, hBack⟩ :=
    hTravelled.path.came_from h.acyclic (hHome ▸ h.adj hPeer) hVisited
  obtain ⟨heard, heardPeer, hHeard, hHeardPeer, hLast⟩ := hCame before _ hBack
  have hSame := (hSourced heard hHeard).1.trans hHome.symm
  rw [hHeard, h.single hHeardPeer hPeer hSame hLast]

/-- A copy that was made at a router may leave it over any connection. -/
theorem IsForest.leaves (h : net.IsForest) {copy : Copy R E T} {router : R}
    (hVisited : copy.trace.visited = [router]) (hHome : net.home endpoint = router)
    (hStart : copy.packet.action = .forward → net.injectedAtFirst copy.trace) :
    net.onPaths.queued (.conn endpoint) copy := by
  refine ⟨?_, hStart, ?_⟩
  · rw [hVisited, ← hHome]
    exact .single _ _
  · intro other there hSame hPeer
    obtain rfl := Handle.conn.inj hSame
    rw [hVisited, List.mem_singleton, ← hHome]
    exact (h.loopless hPeer).symm

/-- A frame that is read has come along its path to this router too. -/
theorem IsForest.path_arrive (h : net.IsForest) {frame : InTransit R T}
    (hFrame : net.onPaths.flying endpoint frame) :
    PathTo net.graph (net.home endpoint) (net.arrive endpoint frame).visited := by
  simp only [onPaths] at hFrame
  split at hFrame
  · simp only [arrive, hFrame.1, List.nil_append]
    exact .single _ _
  · rename_i other hPeer
    exact hFrame.1.snoc (h.adj hPeer).symm hFrame.2.2

/-- A frame keeps the router at which its packet was injected. -/
theorem injectedAtFirst_arrive {frame : InTransit R T} (hFrame : net.onPaths.flying endpoint frame)
    (hAction : frame.header.action = .forward) :
    net.injectedAtFirst (net.arrive endpoint frame) := by
  simp only [onPaths] at hFrame
  split at hFrame
  · rename_i hPeer
    simp only [injectedAtFirst, arrive, hFrame]
    exact ⟨endpoint, hPeer, rfl⟩
  · obtain ⟨hPath, hStart, -⟩ := hFrame
    have hFirst := hStart hAction
    unfold injectedAtFirst arrive at *
    rwa [List.head?_append_of_ne_nil _ hPath.ne_nil]

/-- The last router before this one is the one at the other end of the connection. -/
theorem last_arrive {frame : InTransit R T} (hFrame : net.onPaths.flying endpoint frame)
    {before : List R} {last : R}
    (hSplit : (net.arrive endpoint frame).visited = before ++ [last, net.home endpoint]) :
    ∃ other, net.peer endpoint = some other ∧ net.home other = last := by
  have hBefore : frame.trace.visited = before ++ [last] := by
    rw [← List.append_cancel_right_eq _ [net.home endpoint]]
    simpa [arrive] using hSplit
  simp only [onPaths] at hFrame
  split at hFrame
  · simp [hFrame.1] at hBefore
  · rename_i other hPeer
    have hEnds := hFrame.1.ends
    rw [hBefore, List.getLast?_concat] at hEnds
    exact ⟨other, hPeer, (Option.some.inj hEnds).symm⟩

/-- In a forest every step extends a path, or leaves it as it is. -/
theorem IsForest.onPaths_preserved (h : net.IsForest) :
    net.onPaths.Preserved net fun _ => True where
  routed := by
    intro router copy dst hCopy hDst hSource
    obtain ⟨hSourced, -, hTravelled⟩ := id hCopy
    refine ⟨hDst.1.symm ▸ hTravelled.path, fun _ => hTravelled.start, ?_⟩
    intro endpoint other hChannel hPeer hVisited
    have hHome : net.home endpoint = router := by
      rw [← hDst.1, hChannel]
      rfl
    -- the next router was visited only if the copy came from it, and the RIB skips that
    have hHeard := h.heard_of_visited hCopy hPeer hHome hVisited
    exact hSource ((hDst.2 endpoint hChannel).trans (hSourced endpoint hHeard).2.symm)
  announced := by
    intro router endpoint name id hGateway
    exact h.leaves rfl (net.gateway_home hGateway).1 (by rintro ⟨⟩)
  carried := by
    intro here there copy hPeer hCopy
    simp only [onPaths, net.peer_symm hPeer]
    refine ⟨hCopy.1, fun hAction => hCopy.2.1 ?_, hCopy.2.2 here there rfl hPeer⟩
    exact (GDPPacket.getHeader_action _).symm.trans hAction
  forwarded := by
    intro endpoint frame hFrame hAction
    refine ⟨net.sourced_preserved.forwarded trivial hAction, ?_, h.path_arrive hFrame,
      injectedAtFirst_arrive hFrame hAction⟩
    intro before last hSplit
    obtain ⟨other, hPeer, hLast⟩ := last_arrive hFrame hSplit
    exact ⟨endpoint, other, rfl, hPeer, hLast⟩
  advertised := fun _ hAction => net.sourced_preserved.advertised trivial hAction
  self := net.sourced_preserved.self
  node := net.sourced_preserved.node
  wired := by
    intro endpoint header payload id _ hPeer
    simp only [onPaths, hPeer]
    trivial
  spoken := by
    intro task payload id _ hTx
    refine ⟨net.sourced_preserved.spoken id trivial hTx, ?_, .single _ _, rfl⟩
    intro before last hSplit
    have hLength := congrArg List.length hSplit
    simp at hLength
  injected := by
    intro task endpoint payload id _ hTx
    exact h.leaves rfl (net.ribTx_home hTx).1 fun _ => rfl

end Network

end GdpRouter
