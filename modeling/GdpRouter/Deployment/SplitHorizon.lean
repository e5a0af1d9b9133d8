import GdpRouter.Deployment.Everywhere

/-! The source of a packet that was read from a connection is the name of the
thread that read it, and the registrations of a connection carry that same name.
So the RIB skips the connection that a packet came from. -/
namespace GdpRouter

open Multimap Transition

variable {R E T : Type}

/-- Sources are thread names, and registrations stay with their own router. -/
def Network.sourced (net : Network R E T) : Local R E T where
  inRib router copy := ∀ endpoint, copy.heard = some endpoint →
    net.home endpoint = router ∧ copy.packet.source = net.threadName endpoint
  queued handle copy := ∀ endpoint, copy.heard = some endpoint →
    handle ≠ .conn endpoint ∧ net.home endpoint = net.owner handle
  flying _ _ := True
  registered router channel := net.owner channel.channel = router ∧
    ∀ endpoint, channel.channel = .conn endpoint →
      channel.advertisement.source = net.threadName endpoint

/-- The peer chooses the frames, but not what is made of them here. -/
theorem Network.sourced_preserved (net : Network R E T) :
    net.sourced.Preserved net fun _ => True where
  routed := by
    intro router copy dst hCopy hDst hSource endpoint hHeard
    obtain ⟨hHome, hThread⟩ := hCopy endpoint hHeard
    refine ⟨fun hSame => hSource ?_, hHome.trans hDst.1.symm⟩
    rw [hDst.2 endpoint hSame, hThread]
  announced := by
    rintro router endpoint name id - other ⟨⟩
  carried := fun _ _ => trivial
  forwarded := by
    intro endpoint frame _ _ other hHeard
    obtain rfl := Option.some.inj hHeard
    exact ⟨rfl, rfl⟩
  advertised := by
    intro endpoint frame _ _
    refine ⟨rfl, fun other hSame => ?_⟩
    obtain rfl := Handle.conn.inj hSame
    rfl
  self := by
    intro endpoint _
    refine ⟨rfl, fun other hSame => ?_⟩
    obtain rfl := Handle.conn.inj hSame
    rfl
  node := fun task => ⟨rfl, fun other hSame => by cases hSame⟩
  wired := fun _ _ _ => trivial
  spoken := by
    rintro task payload id - - other ⟨⟩
  injected := by
    rintro task endpoint payload id - - other ⟨⟩

variable [DecidableEq R] [DecidableEq E] [DecidableEq T]

/-- In every run of any network, whatever comes in on the connections: packets
from a connection have its thread name for their source, so do the registrations
of its handle, and no packet is put back on the connection it was read from. -/
theorem split_horizon (net : Network R E T) {labels : List (NetLabel R E T)}
    {state : NetState R E T} {observed : List (Observation R E T)}
    (run : Run net.Steps (.initial fun _ => ∅) labels state observed) :
    (∀ router, ∀ copy ∈ state.ribRx router, ∀ endpoint, copy.heard = some endpoint →
      copy.packet.source = net.threadName endpoint) ∧
    (∀ router name, ∀ channel ∈ ((state.table router).lookup name).getD [], ∀ endpoint,
      channel.channel = .conn endpoint →
        channel.advertisement.source = net.threadName endpoint) ∧
    ∀ endpoint copy, .put (.conn endpoint) copy ∈ observed → copy.heard ≠ some endpoint := by
  obtain ⟨hState, hSeen⟩ := Local.everywhere_of_run net.sourced_preserved (by simp)
    (fun _ _ => trivial) run
  refine ⟨fun router copy hCopy endpoint hHeard => ?_, fun router name channel hChannel => ?_,
    fun endpoint copy hObserved hHeard => ?_⟩
  · exact (hState.inRib router copy hCopy endpoint hHeard).2
  · exact (hState.table router name channel hChannel).2
  · exact (hSeen.put _ copy hObserved endpoint hHeard).1 rfl

namespace HorizonExample

def topic : GDPName := .ofBytes 1 0 0 0

/-- One router between two programs outside, reached over connections `false`
and `true`. -/
def net : Network Unit Bool Empty where
  home _ := ()
  peer _ := none
  kind _ := .listener
  threadName endpoint := if endpoint then .ofBytes 9 9 9 9 else .ofBytes 8 8 8 8
  gateway _ := none
  rosHome := Empty.elim
  rosKind := Empty.elim
  nodeName := Empty.elim
  topicName := Empty.elim
  ribTx := Empty.elim
  peer_symm := by simp
  gateway_home := by simp
  ribTx_home := by
    intro task
    exact task.elim

def advertisement : GDPPacketInTransit := .announcing .advertise topic []
def message : GDPPacketInTransit := .announcing .forward topic [5]

/-- Both advertise one topic, one of them twice, and then send to it. -/
def labels : List (NetLabel Unit Bool Empty) :=
  [.connStart false, .connStart true, .wire false advertisement [], .wire false advertisement [],
    .wire true advertisement [], .connRecv true, .connRecv false, .connRecv false,
    .ribChannel (), .ribChannel (), .ribChannel (), .wire false message [5], .connRecv false,
    .ribPacket () [topic], .wire true message [6], .connRecv true, .ribPacket () [topic]]

end HorizonExample

open HorizonExample in
theorem split_horizon_example : ∃ state observed,
    Run net.Steps (.initial fun _ => ∅) labels state observed ∧
      ∀ endpoint copy, .put (.conn endpoint) copy ∈ observed → copy.heard ≠ some endpoint := by
  have hRun : (runOption net.next (.initial fun _ => ∅) labels).isSome = true := by decide +kernel
  obtain ⟨⟨state, observed⟩, hResult⟩ := Option.isSome_iff_exists.mp hRun
  have run := runOption_eq_some_iff.mp hResult
  exact ⟨state, observed, run, (split_horizon net run).2.2⟩

end GdpRouter
